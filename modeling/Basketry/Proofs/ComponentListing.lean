import Mathlib.Data.List.Nodup
import Basketry.Proofs.UnitArithmetic

namespace Basketry.Chain

namespace SetToken
variable {s : SetToken} {c : Address} {unit : Int}

/-- A set lists no component twice and exactly those with a positive unit, and keeps no negative
one. -/
structure Listed (s : SetToken) : Prop where
  once : s.components.Nodup
  stored : ∀ u ∈ s.units.values, 0 ≤ u
  linked : ∀ a, a ∈ s.components ↔ 0 < s.unit a

theorem Listed.unit_nonneg (h : s.Listed) (a : Address) : 0 ≤ s.unit a := by
  unfold SetToken.unit
  cases hg : s.units.get? a with
  | none => exact Int.le_of_eq (Table.getD_of_get?_none hg 0).symm
  | some u =>
    rw [Table.getD_of_get? hg]
    exact h.stored u (Table.mem_values_of_get? hg)

theorem Listed.unit_eq_zero (h : s.Listed) (hc : c ∉ s.components) : s.unit c = 0 := by
  have hnonneg := h.unit_nonneg c
  have hnone := mt (h.linked c).mpr hc
  omega

/-- The unit that is edited is the unit that is kept, also where nothing was to be dropped. -/
theorem Listed.unit_reposition (h : s.Listed) (hunit : 0 ≤ unit) :
    (s.reposition c unit).unit c = unit := by
  obtain hkept | ⟨rfl,hc⟩ := s.unit_reposition c hunit
  · exact hkept
  · rw [(s.rebalanced c 0).absent rfl hc]
    exact h.unit_eq_zero hc

theorem Listed.reposition_once (h : s.Listed) : (s.reposition c unit).components.Nodup := by
  unfold reposition
  split
  · dsimp only
    split
    · exact h.once
    · rename_i hc
      exact List.nodup_append.mpr ⟨h.once, List.nodup_singleton c,
        fun a ha b hb hab => hc (List.mem_singleton.mp hb ▸ hab ▸ ha)⟩
  · split
    · exact h.once.erase c
    · exact h.once

theorem Listed.reposition_stored (h : s.Listed) :
    ∀ u ∈ (s.reposition c unit).units.values, 0 ≤ u := by
  intro u hu
  unfold reposition at hu
  split at hu
  · rename_i hpos
    rcases Table.mem_values_put hu with rfl | hu
    · exact Int.le_of_lt hpos
    · exact h.stored u hu
  · split at hu
    · obtain ⟨e,he,rfl⟩ := List.mem_map.mp hu
      exact h.stored _ (List.mem_map_of_mem (List.mem_filter.mp he).1)
    · exact h.stored u hu

/-- An edited position restores the link, whether the component was listed or not and whether a unit
is left or not. -/
theorem Listed.reposition (h : s.Listed) (hunit : 0 ≤ unit) : (s.reposition c unit).Listed := by
  refine ⟨h.reposition_once, h.reposition_stored, fun a => ?_⟩
  by_cases ha : a = c
  · subst ha
    rw [h.unit_reposition hunit]
    by_cases hu : 0 < unit
    · exact iff_of_true ((s.rebalanced a unit).counted hu).2 hu
    · obtain rfl : unit = 0 := by omega
      exact iff_of_false (s.dropped a h.once) hu
  · obtain ⟨hu,hm⟩ := (s.rebalanced c unit).others a ha
    rw [hu, hm]
    exact h.linked a

/-- The other components keep their order. -/
theorem Listed.reposition_order (h : s.Listed) :
    (s.reposition c unit).components.filter (· ≠ c) = s.components.filter (· ≠ c) := by
  unfold SetToken.reposition
  split
  · dsimp only
    split
    · rfl
    · simp
  · split
    · dsimp only
      rw [h.once.erase_eq_filter, List.filter_filter]
      exact List.filter_congr fun a _ => by simp [bne]
    · rfl

/-- A component that comes in stands behind all others. -/
theorem reposition_last (hc : c ∉ s.components) (hc' : c ∈ (s.reposition c unit).components) :
    (s.reposition c unit).components = s.components ++ [c] := by
  unfold SetToken.reposition at hc' ⊢
  split
  · rfl
  · rename_i hu
    rw [if_neg hu, if_neg fun h => hc h.2] at hc'
    exact absurd hc' hc

end SetToken

variable {w v : World} {set : Ref} {s : SetToken} {component caller : Value} {before : Int}
  {outcome : Except Fault Int} {fault : Fault}

/-- What is no address has no position. -/
theorem recalculate_unreadable (caller : Value) (before : Int) (hs : w.content set = .setToken s)
    (hc : Address.ofValue component = .error fault) :
    ∃ fault, recalculate set caller component before w = (.error fault, w) := by
  unfold recalculate
  rw [bind_of_ok (setAddress_run hs), bind_run, (balanceOf_reads _ _).run w]
  cases (balanceOf component s.address.toValue w).1 with
  | error fault => exact ⟨fault, rfl⟩
  | ok now =>
    have hposition : positionUnit set component w = (.error fault, w) := by
      unfold positionUnit
      rw [bind_of_ok (setAt_run hs), hc]
      rfl
    simp only
    rw [bind_run, hposition]
    exact ⟨fault, rfl⟩

/-- Whoever recalculates whatever component, nothing changes or its position is edited. -/
theorem recalculate_edits_position (hs : w.content set = .setToken s)
    (hsupply : 0 < s.profile.totalSupply)
    (h : recalculate set caller component before w = (outcome, v)) :
    (∃ fault, outcome = .error fault ∧ v = w) ∨
    ∃ c unit, Address.ofValue component = .ok c ∧ 0 ≤ unit ∧ outcome = .ok unit ∧
      v = w.setContent set (.setToken (s.reposition c unit)) := by
  cases hc : Address.ofValue component with
  | error fault =>
    obtain ⟨fault,hrun⟩ := recalculate_unreadable caller before hs hc
    rw [hrun] at h
    cases h
    exact .inl ⟨fault, rfl, rfl⟩
  | ok c =>
    obtain hrefused | ⟨now,unit,_,hunit,ho,hv⟩ := recalculate_ends hs hc h
    · exact .inl hrefused
    · exact .inr ⟨c, unit, rfl, SetToken.derived_nonneg hsupply hunit, ho, hv⟩

/-- For every set that lists exactly the components with a positive unit, a recalculation that anybody
calls, for any component and balance before, either fails and changes nothing, or changes nothing but
components and units and leaves such a set, whose unit in the component is what is answered. No other
unit changes, the other components keep their order, and a component that comes in stands behind
them. -/
theorem listing_follows_units (hs : w.content set = .setToken s) (hlisted : s.Listed)
    (hsupply : 0 < s.profile.totalSupply)
    (h : recalculate set caller component before w = (outcome, v)) :
    (∃ fault, outcome = .error fault ∧ v = w) ∨
    ∃ c s', Address.ofValue component = .ok c ∧ v = w.setContent set (.setToken s') ∧
      s' = { s with components := s'.components, units := s'.units } ∧ s'.Listed ∧
      outcome = .ok (s'.unit c) ∧ (∀ b, b ≠ c → s'.unit b = s.unit b) ∧
      s'.components.filter (· ≠ c) = s.components.filter (· ≠ c) ∧
      (c ∉ s.components → c ∈ s'.components → s'.components = s.components ++ [c]) := by
  refine (recalculate_edits_position hs hsupply h).imp id ?_
  rintro ⟨c,unit,hc,hunit,rfl,rfl⟩
  have hchange := s.rebalanced c unit
  exact ⟨c, s.reposition c unit, hc, rfl, hchange.kept, hlisted.reposition hunit,
    by rw [hlisted.unit_reposition hunit], fun b hb => (hchange.others b hb).1,
    hlisted.reposition_order, SetToken.reposition_last⟩

/-- A token that is new to the set is listed behind its first component. -/
theorem listing_follows_units_new :
    let w := (World.deployed Sample.account (some Sample.owner)).2.after
      (Sample.tokenHistory Units.preciseUnit ++ [.operation (.mint 2 (Sample.account 8).toValue 7)])
    let s := Sample.tokenSet Units.preciseUnit
    (w.content 8 = .setToken s ∧ s.Listed ∧ 0 < s.profile.totalSupply) ∧
    ∃ s', (recalculate 8 (Sample.account 6).toValue (Sample.account 2).toValue 0 w).2.content 8 =
        .setToken s' ∧ s'.Listed ∧ s'.unit (Sample.account 2) = 7 ∧
      s'.components = s.components ++ [Sample.account 2] := by
  intro w s
  have hs : w.content 8 = .setToken s := by decide +kernel
  have hlisted : s.Listed :=
    { once := by decide
      stored := by decide
      linked := fun a => by
        by_cases ha : a = Sample.account 7
        · subst ha
          exact iff_of_true (by decide) (by decide)
        · simp [s, Sample.tokenSet, SetToken.unit, Table.getD, Table.get?, ha, Ne.symm] }
  have hanswer : (recalculate 8 (Sample.account 6).toValue (Sample.account 2).toValue 0 w).1 =
      .ok 7 := by decide +kernel
  obtain ⟨_,hfault,_⟩ | ⟨c,s',hc,hv,_,hlisted',hunit,_,_,hlast⟩ :=
    listing_follows_units hs hlisted (by decide) (run_of_answer hanswer)
  · cases hfault
  · rw [Address.ofValue_toValue] at hc
    cases hc
    have hseven : s'.unit (Sample.account 2) = 7 := (Except.ok.inj hunit).symm
    have hin : Sample.account 2 ∈ s'.components := (hlisted'.linked _).mpr (by omega)
    refine ⟨⟨hs, hlisted, by decide⟩, s', ?_, hlisted', hseven, hlast (by decide) hin⟩
    rw [hv]
    exact World.content_setContent_self hs (by simp)

end Basketry.Chain
