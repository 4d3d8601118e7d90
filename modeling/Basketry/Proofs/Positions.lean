import Basketry.Proofs.Payouts

namespace Basketry.Chain

variable {w v : World} {ref set : Ref} {a c : Address} {s s' : SetToken} {caller : Value}

theorem balanceOf_run {x : ClaimAdapter} (hfind : w.find c = some ref)
    (hx : w.content ref = .claimAdapter x) (holder : Address) :
    balanceOf c.toValue holder.toValue w = (.ok (x.token.balanceOf holder), w) := by
  unfold balanceOf
  rw [bind_of_ok (find_run (Address.ofValue_toValue c)), hfind]
  simp only
  rw [content_bind, hx]
  simp only
  rw [Address.ofValue_toValue]
  rfl

/-- A set after the unit of one component has been derived again: a component with a positive unit
is listed, and one that was not listed stays away without it. -/
structure SetToken.Rebalanced (s : SetToken) (c : Address) (unit : Int) (s' : SetToken) : Prop where
  kept : s' = { s with components := s'.components, units := s'.units }
  others : ∀ b, b ≠ c → s'.unit b = s.unit b ∧ (b ∈ s'.components ↔ b ∈ s.components)
  counted : 0 < unit → s'.unit c = unit ∧ c ∈ s'.components
  absent : unit = 0 → c ∉ s.components → s' = s

/-- The position in one component is edited to a unit: a positive unit is kept, and its component
listed behind the others, and a component that is left without a unit is dropped. -/
def SetToken.reposition (s : SetToken) (c : Address) (unit : Int) : SetToken :=
  if 0 < unit then
    { s with
      components := if c ∈ s.components then s.components else s.components ++ [c]
      units := s.units.put c unit }
  else if unit = 0 ∧ c ∈ s.components then
    { s with components := s.components.erase c, units := s.units.erase c }
  else s

/-- Only the edited component is listed or dropped, and only its unit changes. -/
theorem SetToken.rebalanced (s : SetToken) (c : Address) (unit : Int) :
    s.Rebalanced c unit (s.reposition c unit) := by
  unfold SetToken.reposition
  split
  · rename_i hu
    refine ⟨rfl, fun b hb => ⟨?_, ?_⟩, fun _ => ⟨?_, ?_⟩, fun hz => ?_⟩
    · simp [SetToken.unit, hb]
    · dsimp only
      split <;> simp [hb]
    · simp [SetToken.unit]
    · dsimp only
      split <;> simp [*]
    · omega
  · rename_i hu
    split
    · rename_i hz
      refine ⟨rfl, fun b hb => ⟨?_, ?_⟩, fun h => absurd h hu, fun _ h => absurd hz.2 h⟩
      · simp [SetToken.unit, hb]
      · exact List.mem_erase_of_ne hb
    · exact ⟨rfl, fun b _ => ⟨rfl, Iff.rfl⟩, fun h => absurd h hu, fun _ _ => rfl⟩

/-- An edited unit is kept, but for a zero at a component that has no place to be dropped from. -/
theorem SetToken.unit_reposition {unit : Int} (s : SetToken) (c : Address) (hunit : 0 ≤ unit) :
    (s.reposition c unit).unit c = unit ∨ unit = 0 ∧ c ∉ s.components := by
  by_cases hu : 0 < unit
  · exact .inl ((s.rebalanced c unit).counted hu).1
  · obtain rfl : unit = 0 := by omega
    by_cases hc : c ∈ s.components
    · left
      simp [SetToken.reposition, hc, SetToken.unit]
    · exact .inr ⟨rfl, hc⟩

/-- A component that is left without a unit is not listed. -/
theorem SetToken.dropped (s : SetToken) (c : Address) (honce : s.components.Nodup) :
    c ∉ (s.reposition c 0).components := by
  by_cases hc : c ∈ s.components
  · rw [SetToken.reposition, if_neg (Int.lt_irrefl 0), if_pos ⟨rfl, hc⟩]
    exact honce.not_mem_erase
  · rw [(s.rebalanced c 0).absent rfl hc]
    exact hc

section Units
open Basketry.Units (preciseUnit)

/-- With one precise unit in supply, a unit that counts the whole balance goes on to count it. -/
theorem SetToken.unitAfter_whole {before now : Int} (h : 0 ≤ before) (hle : before ≤ now) :
    SetToken.unitAfter preciseUnit before before now = .ok now := by
  have hne : preciseUnit ≠ 0 := by decide
  have hmul : Units.preciseMul before preciseUnit = before := Int.mul_fdiv_cancel before hne
  have hdiv : Units.preciseDiv now preciseUnit = .ok now := by
    unfold Units.preciseDiv
    rw [if_neg hne, Int.mul_fdiv_cancel now hne]
  unfold SetToken.unitAfter
  by_cases hn : 0 < now
  · simp [hn, hmul, hdiv, Int.not_lt.mpr (Int.le_of_lt hn)]
  · have hzero : now = 0 := by omega
    simp [hzero]

/-- A set counts what it holds at `c`, whatever component was derived again. -/
theorem SetToken.Rebalanced.whole {token : Address} {before now unit balance balance' : Int}
    (h : s.Rebalanced token unit s')
    (hunit : SetToken.unitAfter preciseUnit (s.unit token) before now = .ok unit)
    (heq : token = c → before = balance ∧ now = balance') (hne : token ≠ c → balance' = balance)
    (hbalance : 0 ≤ balance) (hle : balance ≤ balance')
    (hwhole : s.unit c = balance ∧ (c ∈ s.components ↔ 0 < balance)) :
    s'.unit c = balance' ∧ (c ∈ s'.components ↔ 0 < balance') := by
  by_cases ht : token = c
  · subst ht
    obtain ⟨rfl,rfl⟩ := heq rfl
    rw [hwhole.1, SetToken.unitAfter_whole hbalance hle] at hunit
    cases hunit
    by_cases hn : 0 < now
    · obtain ⟨hu,hc⟩ := h.counted hn
      exact ⟨hu, iff_of_true hc hn⟩
    · have hzero : before = now := by omega
      have habsent : token ∉ s.components := fun hc => hn (hzero ▸ hwhole.2.mp hc)
      rw [h.absent (by omega) habsent, ← hzero]
      exact hwhole
  · obtain ⟨hu,hc⟩ := h.others c (Ne.symm ht)
    rw [hne ht]
    exact ⟨hu.trans hwhole.1, hc.trans hwhole.2⟩

end Units

section Components
variable {component : Value} {unit : Int}

/-- Whether a module is let in depends on the states that the set keeps, and on nothing else of it. -/
theorem onlyModule_run (hs : w.content set = .setToken s) :
    onlyModule set caller w = (Address.ofValue caller >>= s.onlyModule, w) := by
  unfold onlyModule
  rw [bind_of_ok (setAt_run hs)]
  cases Address.ofValue caller <;> rfl

/-- Behind a refused permission nothing is done. -/
theorem barred_run {fault : Fault} (hp : (onlyModule set caller w).1 = .error fault)
    (f : Unit → Run α) : (onlyModule set caller >>= f) w = (.error fault, w) := by
  rw [bind_run, (onlyModule_reads set caller).run w, hp]

/-- How a module lists a component, drops one and sets its unit. -/
theorem components_run {f : SetToken → Address → Except Fault SetToken}
    (hs : w.content set = .setToken s) (hc : Address.ofValue component = .ok c)
    (hp : (onlyModule set caller w).1 = .ok ()) (hf : f s c = .ok s') : (do
      onlyModule set caller
      let c ← Address.ofValue component
      setContent set (.setToken (← f (← setAt set) c))) w =
      (.ok (), w.setContent set (.setToken s')) := by
  rw [bind_of_ok ((onlyModule_reads set caller).run_ok hp), hc]
  change (setAt set >>= _) w = _
  rw [bind_of_ok (setAt_run hs), hf]
  rfl

theorem addComponent_run (hs : w.content set = .setToken s) (hc : Address.ofValue component = .ok c)
    (hp : (onlyModule set caller w).1 = .ok ()) (hl : c ∉ s.components) :
    addComponent set caller component w =
      (.ok (), w.setContent set (.setToken { s with components := s.components ++ [c] })) :=
  components_run (f := SetToken.addComponent) hs hc hp
    (by simp [SetToken.addComponent, SetToken.isComponent, hl])

theorem removeComponent_run (hs : w.content set = .setToken s)
    (hc : Address.ofValue component = .ok c) (hp : (onlyModule set caller w).1 = .ok ())
    (hl : c ∈ s.components) :
    removeComponent set caller component w = (.ok (), w.setContent set
      (.setToken { s with components := s.components.erase c, units := s.units.erase c })) :=
  components_run (f := SetToken.removeComponent) hs hc hp
    (by simp [SetToken.removeComponent, SetToken.isComponent, hl])

theorem setUnit_run (hs : w.content set = .setToken s) (hc : Address.ofValue component = .ok c)
    (hp : (onlyModule set caller w).1 = .ok ()) (unit : Int) :
    setUnit set caller component unit w =
      (.ok (), w.setContent set (.setToken (s.setUnit c unit))) :=
  components_run (f := fun s c => .ok (s.setUnit c unit)) hs hc hp rfl

theorem isComponent_run (hs : w.content set = .setToken s)
    (hc : Address.ofValue component = .ok c) :
    isComponent set component w = (.ok (s.isComponent c), w) := by
  unfold isComponent
  rw [hc]
  change (setAt set >>= _) w = _
  rw [bind_of_ok (setAt_run hs)]
  rfl

theorem positionUnit_run (hs : w.content set = .setToken s)
    (hc : Address.ofValue component = .ok c) :
    positionUnit set component w = (.ok (s.unit c), w) := by
  unfold positionUnit
  rw [bind_of_ok (setAt_run hs), hc]
  rfl

/-- A module that is let in edits the position. The unit is set after the component is listed, and
not at all where none is left. -/
theorem listComponent_run (hs : w.content set = .setToken s)
    (hc : Address.ofValue component = .ok c) (hp : (onlyModule set caller w).1 = .ok ()) :
    listComponent set caller component unit w =
      (.ok (), w.setContent set (.setToken (s.reposition c unit))) := by
  have hset : (Contract.setToken s) ≠ .chain := nofun
  unfold listComponent
  rw [bind_of_ok (isComponent_run hs hc)]
  unfold SetToken.reposition
  by_cases hu : 0 < unit
  · rw [if_pos hu]
    by_cases hl : c ∈ s.components
    · have hn : ¬ (0 < unit ∧ (!s.isComponent c) = true) := by simp [SetToken.isComponent, hl]
      have hz : ¬ (unit = 0 ∧ s.isComponent c = true) := fun hz => by omega
      rw [if_neg hn, if_neg hz, if_pos hu, if_pos hl]
      exact setUnit_run hs hc hp unit
    · have hn : 0 < unit ∧ (!s.isComponent c) = true := ⟨hu, by simp [SetToken.isComponent, hl]⟩
      have hadded : (w.setContent set (.setToken { s with components := s.components ++ [c] })).content
          set = .setToken { s with components := s.components ++ [c] } :=
        World.content_setContent_self hs hset
      have hstill : (onlyModule set caller (w.setContent set
          (.setToken { s with components := s.components ++ [c] }))).1 = .ok () := by
        rw [onlyModule_run hadded]
        rwa [onlyModule_run hs] at hp
      rw [if_pos hn, bind_of_ok (addComponent_run hs hc hp hl), if_pos hu, if_neg hl]
      refine (setUnit_run hadded hc hstill unit).trans ?_
      rw [World.setContent_twice]
      rfl
  · rw [if_neg fun hn => hu hn.1, if_neg hu]
    by_cases hl : unit = 0 ∧ c ∈ s.components
    · have hz : unit = 0 ∧ s.isComponent c = true := by simpa [SetToken.isComponent] using hl
      rw [if_pos hz, bind_of_ok (removeComponent_run hs hc hp hl.2), if_neg hu, if_pos hl]
      rfl
    · have hz : ¬ (unit = 0 ∧ s.isComponent c = true) := by simpa [SetToken.isComponent] using hl
      rw [if_neg hz, if_neg hu, if_neg hl, World.setContent_same hs]
      rfl

/-- A module that is not let in changes nothing, and fails where there was something to change. -/
theorem listComponent_barred {fault : Fault} (unit : Int) (hs : w.content set = .setToken s)
    (hc : Address.ofValue component = .ok c) (hp : (onlyModule set caller w).1 = .error fault) :
    listComponent set caller component unit w = (.error fault, w) ∨
      listComponent set caller component unit w = (.ok (), w) ∧ s.reposition c unit = s := by
  unfold listComponent
  rw [bind_of_ok (isComponent_run hs hc)]
  unfold SetToken.reposition
  by_cases hu : 0 < unit
  · left
    by_cases hl : s.isComponent c = true
    · have hn : ¬ (0 < unit ∧ (!s.isComponent c) = true) := by simp [hl]
      have hz : ¬ (unit = 0 ∧ s.isComponent c = true) := fun hz => by omega
      rw [if_neg hn, if_neg hz, if_pos hu]
      exact barred_run hp _
    · rw [if_pos ⟨hu, by simp [hl]⟩, bind_run, addComponent, barred_run hp]
  · rw [if_neg fun hn => hu hn.1, if_neg hu]
    by_cases hl : unit = 0 ∧ s.isComponent c = true
    · left
      rw [if_pos hl, bind_run, removeComponent, barred_run hp]
    · right
      have hz : ¬ (unit = 0 ∧ c ∈ s.components) := by simpa [SetToken.isComponent] using hl
      rw [if_neg hl, if_neg hu, if_neg hz]
      exact ⟨rfl, rfl⟩

/-- Where the balance can be asked for, a recalculation derives the unit from it and edits the
position. -/
theorem recalculate_run {before now : Int} (hs : w.content set = .setToken s)
    (hc : Address.ofValue component = .ok c)
    (hnow : (balanceOf component s.address.toValue w).1 = .ok now) :
    recalculate set caller component before w =
      ((liftM (SetToken.unitAfter s.profile.totalSupply (s.unit c) before now) : Run Int) >>=
        fun unit => listComponent set caller component unit >>= fun _ => pure unit) w := by
  unfold recalculate
  rw [bind_of_ok (setAddress_run hs), bind_of_ok ((balanceOf_reads _ _).run_ok hnow),
    bind_of_ok (positionUnit_run hs hc), bind_of_ok (setAt_run hs)]

/-- A recalculation fails and changes nothing, or edits the position to the unit that it derives from
the balance now. -/
theorem recalculate_ends {before : Int} {outcome : Except Fault Int}
    (hs : w.content set = .setToken s) (hc : Address.ofValue component = .ok c)
    (h : recalculate set caller component before w = (outcome, v)) :
    (∃ fault, outcome = .error fault ∧ v = w) ∨ ∃ now unit,
      (balanceOf component s.address.toValue w).1 = .ok now ∧
      SetToken.unitAfter s.profile.totalSupply (s.unit c) before now = .ok unit ∧
      outcome = .ok unit ∧ v = w.setContent set (.setToken (s.reposition c unit)) := by
  cases hnow : (balanceOf component s.address.toValue w).1 with
  | error fault =>
    unfold recalculate at h
    rw [bind_of_ok (setAddress_run hs), bind_run, (balanceOf_reads _ _).run w, hnow] at h
    cases h
    exact .inl ⟨fault, rfl, rfl⟩
  | ok now =>
    rw [recalculate_run hs hc hnow] at h
    obtain ⟨fault,_,rfl,rfl⟩ | ⟨unit,hunit,h⟩ := (Reads.lift _).bind_cases h
    · exact .inl ⟨fault, rfl, rfl⟩
    · cases hp : (onlyModule set caller w).1 with
      | ok x =>
        rw [bind_of_ok (listComponent_run hs hc hp)] at h
        cases h
        exact .inr ⟨now, unit, rfl, hunit, rfl, rfl⟩
      | error fault =>
        rcases listComponent_barred unit hs hc hp with hl | ⟨hl,hsame⟩
        · rw [bind_run, hl] at h
          cases h
          exact .inl ⟨fault, rfl, rfl⟩
        · rw [bind_of_ok hl] at h
          cases h
          exact .inr ⟨now, unit, rfl, hunit, rfl, by rw [hsame, World.setContent_same hs]⟩

theorem recalculate_ok {before unit : Int}
    (h : recalculate set caller c.toValue before w = (.ok unit, v)) :
    ∃ s now, w.content set = .setToken s ∧
      (balanceOf c.toValue s.address.toValue w).1 = .ok now ∧
      SetToken.unitAfter s.profile.totalSupply (s.unit c) before now = .ok unit ∧
      v = w.setContent set (.setToken (s.reposition c unit)) := by
  obtain ⟨s,hs⟩ : ∃ s, w.content set = .setToken s := by
    obtain ⟨_,_,h⟩ := (setAddress_reads set).bind_ok h
    obtain ⟨_,_,h⟩ := (balanceOf_reads _ _).bind_ok h
    obtain ⟨_,_,h⟩ := (positionUnit_reads set _).bind_ok h
    obtain ⟨s,hs,_⟩ := (setAt_reads set).bind_ok h
    exact ⟨s, setAt_ok hs⟩
  obtain ⟨_,hn,_⟩ | ⟨now,unit',hnow,hunit,he,hv⟩ :=
    recalculate_ends hs (Address.ofValue_toValue c) h
  · cases hn
  · cases he
    exact ⟨s, now, hs, hnow, hunit, hv⟩

end Components

end Basketry.Chain
