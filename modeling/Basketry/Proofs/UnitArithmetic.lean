import Mathlib.Tactic.Linarith
import Basketry.Proofs.Positions
import Basketry.Proofs.PreciseRounding

namespace Basketry.Chain

open Basketry.Units (preciseUnit)

namespace SetToken

/-- What a balance holds above what the unit promises to the whole supply. -/
def untracked (supply unit balance : Int) : Int := balance - unit * supply / preciseUnit

section Derived
variable {supply unit before now derived : Int} {fault : Fault}

/-- Nothing is held, so that no unit is left. -/
theorem unitAfter_of_nonpos (hnow : now ≤ 0) : unitAfter supply unit before now = .ok 0 := by
  unfold unitAfter
  rw [if_neg (Int.not_lt.mpr hnow)]

theorem unitAfter_of_pos (hsupply : 0 < supply) (hnow : 0 < now) :
    unitAfter supply unit before now =
      if untracked supply unit before < 0 ∨ now < untracked supply unit before then
        .error (.revert "SafeMath: subtraction overflow")
      else .ok ((now - untracked supply unit before) * preciseUnit / supply) := by
  unfold unitAfter untracked
  rw [if_pos hnow, Units.preciseMul_eq]
  simp only [Units.preciseDiv_eq _ hsupply]

theorem unitAfter_eq_ok (hsupply : 0 < supply) (hnow : 0 < now) :
    unitAfter supply unit before now = .ok derived ↔
      0 ≤ untracked supply unit before ∧ untracked supply unit before ≤ now ∧
        derived = (now - untracked supply unit before) * preciseUnit / supply := by
  rw [unitAfter_of_pos hsupply hnow]
  split
  · rename_i h
    refine iff_of_false nofun fun hd => ?_
    omega
  · rename_i h
    rw [not_or, Int.not_lt, Int.not_lt] at h
    rw [Except.ok.injEq]
    exact ⟨fun hd => ⟨h.1, h.2, hd.symm⟩, fun hd => hd.2.2.symm⟩

/-- A unit is refused only where the unit before promised more than was held, or where what must stay
untracked is not held any more. -/
theorem unitAfter_eq_error (hsupply : 0 < supply) (hnow : 0 < now) :
    unitAfter supply unit before now = .error fault ↔
      (untracked supply unit before < 0 ∨ now < untracked supply unit before) ∧
        fault = .revert "SafeMath: subtraction overflow" := by
  rw [unitAfter_of_pos hsupply hnow]
  split
  · rename_i h
    rw [Except.error.injEq]
    exact ⟨fun hf => ⟨h, hf.symm⟩, fun hf => hf.2.symm⟩
  · rename_i h
    exact iff_of_false nofun fun hf => h hf.1

/-- The one fact behind all bounds. A derived unit is the unit before, moved by what came in less the
remainder that was cut off when the unit was counted in full. -/
theorem derived_eq (hsupply : 0 < supply) (hnow : 0 < now)
    (h : unitAfter supply unit before now = .ok derived) :
    derived = unit + ((now - before) * preciseUnit - unit * supply % preciseUnit) / supply := by
  obtain ⟨_,_,rfl⟩ := (unitAfter_eq_ok hsupply hnow).mp h
  have hcut := Int.mul_ediv_add_emod (unit * supply) preciseUnit
  have hsplit : (now - untracked supply unit before) * preciseUnit =
      (now - before) * preciseUnit - unit * supply % preciseUnit + unit * supply := by
    unfold untracked
    linarith
  rw [hsplit, Int.add_mul_ediv_right _ _ (Int.ne_of_gt hsupply), Int.add_comm]

theorem derived_nonneg (hsupply : 0 < supply) (h : unitAfter supply unit before now = .ok derived) :
    0 ≤ derived := by
  by_cases hnow : 0 < now
  · obtain ⟨_,hle,rfl⟩ := (unitAfter_eq_ok hsupply hnow).mp h
    have hpart := Int.mul_nonneg (Int.sub_nonneg.mpr hle) (Int.le_of_lt Units.preciseUnit_pos)
    exact Int.ediv_nonneg hpart (Int.le_of_lt hsupply)
  · rw [unitAfter_of_nonpos (Int.not_lt.mp hnow)] at h
    cases h
    exact Int.le_refl 0

/-- What a derived unit promises, together with what stays untracked, is held. -/
theorem derived_solvent (hsupply : 0 < supply) (hnow : 0 < now)
    (h : unitAfter supply unit before now = .ok derived) :
    derived * supply / preciseUnit + untracked supply unit before ≤ now := by
  obtain ⟨_,_,rfl⟩ := (unitAfter_eq_ok hsupply hnow).mp h
  have hpromised := Int.ediv_mul_le ((now - untracked supply unit before) * preciseUnit)
    (Int.ne_of_gt hsupply)
  have hwhole := Int.ediv_le_ediv Units.preciseUnit_pos hpromised
  rw [Int.mul_ediv_cancel _ (Int.ne_of_gt Units.preciseUnit_pos)] at hwhole
  omega

/-- A derived unit misses what came in by less than one token. -/
theorem derived_tight (hsupply : 0 < supply) (hnow : 0 < now)
    (h : unitAfter supply unit before now = .ok derived) :
    unit + (now - before - 1) * preciseUnit / supply ≤ derived ∧
      derived ≤ unit + (now - before) * preciseUnit / supply := by
  have hnonneg := Int.emod_nonneg (unit * supply) (Int.ne_of_gt Units.preciseUnit_pos)
  have hlt := Int.emod_lt_of_pos (unit * supply) Units.preciseUnit_pos
  have hlow : (now - before - 1) * preciseUnit ≤
      (now - before) * preciseUnit - unit * supply % preciseUnit := by linarith
  have hhigh : (now - before) * preciseUnit - unit * supply % preciseUnit ≤
      (now - before) * preciseUnit := by omega
  rw [derived_eq hsupply hnow h]
  exact ⟨Int.add_le_add_left (Int.ediv_le_ediv hsupply hlow) unit,
    Int.add_le_add_left (Int.ediv_le_ediv hsupply hhigh) unit⟩

/-- With one precise unit in supply nothing is cut off, and units count tokens. -/
theorem derived_whole (hnow : 0 < now) (h : unitAfter preciseUnit unit before now = .ok derived) :
    derived = unit + (now - before) := by
  have hne : preciseUnit ≠ 0 := Int.ne_of_gt Units.preciseUnit_pos
  rw [derived_eq Units.preciseUnit_pos hnow h, Int.mul_emod_left, Int.sub_zero,
    Int.mul_ediv_cancel _ hne]

end Derived

end SetToken

section Recalculation
variable {w : World} {set : Ref} {s : SetToken} {component caller : Value} {c : Address}
  {before now : Int} {fault : Fault}

theorem ofValue_not_revert {v : Value} {reason : String} :
    Address.ofValue v ≠ .error (.revert reason) := by
  intro h
  cases v <;> simp only [Address.ofValue] at h
  case text s => cases ht : Address.ofText? s <;> simp [ht] at h
  case bytes bs => cases hb : Address.ofBytes? bs <;> simp [hb] at h
  case int n => cases hn : Address.ofInt? n <;> simp [hn] at h
  all_goals cases h

/-- Whoever is not let in hears of nothing but the permission. -/
theorem onlyModule_refusal {reason : String} (hs : w.content set = .setToken s)
    (h : (onlyModule set caller w).1 = .error (.revert reason)) :
    reason = "Only the module can call" := by
  rw [onlyModule_run hs] at h
  cases hv : Address.ofValue caller with
  | error fault =>
    rw [hv] at h
    cases h
    exact absurd hv ofValue_not_revert
  | ok a =>
    rw [hv] at h
    change s.onlyModule a = _ at h
    unfold SetToken.onlyModule at h
    split at h
    · cases h
    · cases h
      rfl

/-- Where no unit can be derived, that is what is answered. -/
theorem recalculate_refused (hs : w.content set = .setToken s)
    (hc : Address.ofValue component = .ok c)
    (hbalance : (balanceOf component s.address.toValue w).1 = .ok now)
    (h : SetToken.unitAfter s.profile.totalSupply (s.unit c) before now = .error fault) :
    recalculate set caller component before w = (.error fault, w) := by
  rw [recalculate_run hs hc hbalance, h]
  rfl

/-- Where a unit can be derived, only the permission to keep it may still be missing. -/
theorem recalculate_derived {unit : Int} (hs : w.content set = .setToken s)
    (hc : Address.ofValue component = .ok c)
    (hbalance : (balanceOf component s.address.toValue w).1 = .ok now)
    (h : SetToken.unitAfter s.profile.totalSupply (s.unit c) before now = .ok unit) :
    (recalculate set caller component before w).1 = .ok unit ∨ ∃ fault,
      (onlyModule set caller w).1 = .error fault ∧
        (recalculate set caller component before w).1 = .error fault := by
  have hrun : recalculate set caller component before w =
      (listComponent set caller component unit >>= fun _ => pure unit) w := by
    rw [recalculate_run hs hc hbalance, h]
    rfl
  rw [hrun]
  cases hp : (onlyModule set caller w).1 with
  | ok x =>
    rw [bind_of_ok (listComponent_run hs hc hp)]
    exact .inl rfl
  | error fault =>
    rcases listComponent_barred unit hs hc hp with hl | ⟨hl,_⟩
    · rw [bind_run, hl]
      exact .inr ⟨fault, rfl, rfl⟩
    · rw [bind_of_ok hl]
      exact .inl rfl

/-- For every supply, unit and balances before and after, a unit that is derived from a positive
balance leaves what was not tracked out, promises no more than is held beside it, and misses what came
in by less than one token, by nothing at all with one precise unit in supply. The derivation is refused
where the unit before promised more than was held, where what is not tracked is not held any more, and
nowhere else; a module that is let in is answered everywhere else. -/
theorem units_are_solvent_and_tight (before : Int) (hs : w.content set = .setToken s)
    (hc : Address.ofValue component = .ok c) (hsupply : 0 < s.profile.totalSupply)
    (hbalance : (balanceOf component s.address.toValue w).1 = .ok now) (hnow : 0 < now) :
    let supply := s.profile.totalSupply
    let unit := s.unit c
    let untracked := before - unit * supply / preciseUnit
    let outcome := (recalculate set caller component before w).1
    (∀ derived, outcome = .ok derived →
      0 ≤ untracked ∧ 0 ≤ derived ∧ derived * supply / preciseUnit + untracked ≤ now ∧
      unit + (now - before - 1) * preciseUnit / supply ≤ derived ∧
      derived ≤ unit + (now - before) * preciseUnit / supply ∧
      (supply = preciseUnit → derived = unit + (now - before))) ∧
    (outcome = .error (.revert "SafeMath: subtraction overflow") ↔
      untracked < 0 ∨ now < untracked) ∧
    ((onlyModule set caller w).1 = .ok () →
      ((∃ derived, outcome = .ok derived) ↔ 0 ≤ untracked ∧ untracked ≤ now)) := by
  intro supply unit untracked outcome
  cases hunit : SetToken.unitAfter supply unit before now with
  | error fault =>
    have hrefused : outcome = .error fault :=
      congrArg Prod.fst (recalculate_refused hs hc hbalance hunit)
    obtain ⟨hout,rfl⟩ := (SetToken.unitAfter_eq_error hsupply hnow).mp hunit
    have hnone : ¬ (0 ≤ untracked ∧ untracked ≤ now) := fun h =>
      hout.elim (Int.not_lt.mpr h.1) (Int.not_lt.mpr h.2)
    rw [hrefused]
    exact ⟨nofun, iff_of_true rfl hout, fun _ => iff_of_false nofun hnone⟩
  | ok derived =>
    have hends : outcome = .ok derived ∨ ∃ fault,
        (onlyModule set caller w).1 = .error fault ∧ outcome = .error fault :=
      recalculate_derived hs hc hbalance hunit
    obtain ⟨hlow,hhigh,-⟩ := (SetToken.unitAfter_eq_ok hsupply hnow).mp hunit
    have hin : ¬ (untracked < 0 ∨ now < untracked) := fun h =>
      h.elim (Int.not_lt.mpr hlow) (Int.not_lt.mpr hhigh)
    refine ⟨fun derived hd => ?_, ?_, fun hp => ?_⟩
    · obtain hok | ⟨_,_,hfault⟩ := hends
      · cases hok.symm.trans hd
        obtain ⟨hleast,hmost⟩ := SetToken.derived_tight hsupply hnow hunit
        exact ⟨hlow, SetToken.derived_nonneg hsupply hunit,
          SetToken.derived_solvent hsupply hnow hunit, hleast, hmost,
          fun h => SetToken.derived_whole hnow (h ▸ hunit)⟩
      · cases hfault.symm.trans hd
    · refine iff_of_false (fun hd => ?_) hin
      obtain hok | ⟨_,hp,hfault⟩ := hends
      · cases hok.symm.trans hd
      · cases hfault.symm.trans hd
        exact absurd (onlyModule_refusal hs hp) (by decide)
    · obtain hok | ⟨_,hp',_⟩ := hends
      · exact iff_of_true ⟨_, hok⟩ ⟨hlow, hhigh⟩
      · cases hp.symm.trans hp'

end Recalculation

namespace Sample

def tokenOrder (supply : Int) : SetOrder :=
  { components := [(account 7).toValue], units := [2], modules := [(account 6).toValue], manager,
    totalSupply := supply }

/-- A set with so much in supply holds two reward tokens, at a unit of two, and anyone may claim more of
them for it. -/
def tokenHistory (supply : Int) : List Step :=
  [.operation (.createClaimModule 1), .operation (.enableModule 1 (account 6).toValue),
    .operation .createClaimAdapter,
    .operation (.addIntegration 0 (account 6).toValue "rewards" (account 7).toValue),
    .operation (.createEnabledSet 1 (tokenOrder supply)),
    .operation (.activate 6 manager (account 8).toValue true [pool] ["rewards"]),
    .operation (.mint 7 (account 8).toValue 2)]

/-- The set as it is then. -/
def tokenSet (supply : Int) : SetToken :=
  ⟨account 8, 1, ⟨account 60, "SetToken", "SET", supply⟩, [account 7],
    ⟨[(account 7, 2)]⟩, ⟨[(account 6, .initialized)]⟩⟩

end Sample

/-- Three more tokens come to less than three units where there is one more than a precise unit in
supply. -/
theorem units_are_solvent_and_tight_uneven :
    let w := (World.deployed Sample.account (some Sample.owner)).2.after
      (Sample.tokenHistory (preciseUnit + 1) ++ [.operation (.mint 7 (Sample.account 8).toValue 3)])
    let s := Sample.tokenSet (preciseUnit + 1)
    let token := (Sample.account 7).toValue
    let outcome := (recalculate 8 (Sample.account 6).toValue token 2 w).1
    (w.content 8 = .setToken s ∧ 0 < s.profile.totalSupply ∧
      (balanceOf token s.address.toValue w).1 = .ok 5) ∧
    ∃ derived, outcome = .ok derived ∧ derived * (preciseUnit + 1) / preciseUnit ≤ 5 ∧
      3 ≤ derived ∧ derived ≤ 4 := by
  intro w s token outcome
  have hs : w.content 8 = .setToken s := by decide +kernel
  have hsupply : 0 < s.profile.totalSupply := by decide
  have hbalance : (balanceOf token s.address.toValue w).1 = .ok 5 := by decide +kernel
  have hp : (onlyModule 8 (Sample.account 6).toValue w).1 = .ok () := by decide +kernel
  obtain ⟨hsuccess,-,hanswered⟩ := units_are_solvent_and_tight 2 hs
    (Address.ofValue_toValue (Sample.account 7)) hsupply hbalance (by decide)
  obtain ⟨derived,hd⟩ := (hanswered hp).mpr (by decide)
  obtain ⟨-,-,hheld,hlow,hhigh,-⟩ := hsuccess derived hd
  refine ⟨⟨hs, hsupply, hbalance⟩, derived, hd, ?_, hlow, hhigh⟩
  exact Int.le_trans (Int.le_add_of_nonneg_right (by decide)) hheld

end Basketry.Chain
