import Mathlib.Data.List.Nodup
import Basketry.Proofs.SettingsViews

namespace Basketry.Chain.ClaimSettings

variable {set pool adapter : Address} {c c' : ClaimSettings}

/-- A pool is listed as long as it is flagged and as long as it has an adapter, an adapter as long as
it is flagged, and nothing is listed twice. -/
structure Agree (c : ClaimSettings) : Prop where
  listed : ∀ set pool, pool ∈ c.poolList set ↔ c.isPool set pool = true
  served : ∀ set pool, c.isPool set pool = true ↔ c.adapterList set pool ≠ []
  registered : ∀ set pool adapter,
    adapter ∈ c.adapterList set pool ↔ c.isRegistered set pool adapter = true
  pools_nodup : ∀ set, (c.poolList set).Nodup
  adapters_nodup : ∀ set pool, (c.adapterList set pool).Nodup

theorem Agree.empty : Agree {} :=
  ⟨fun _ _ => by simp [poolList, isPool], fun _ _ => by simp [isPool, adapterList],
    fun _ _ _ => by simp [adapterList, isRegistered], fun _ => by simp [poolList],
    fun _ _ => by simp [adapterList]⟩

theorem Agree.add (ha : Agree c) (h : c.add set pool adapter = .ok c') : Agree c' := by
  have hv := add_views h
  have hnew : adapter ∉ c.adapterList set pool := by simp [ha.registered, hv.fresh]
  refine ⟨?_, ?_, ?_, ?_, ?_⟩
  · intro s p
    rw [hv.pools, hv.flags]
    by_cases hs : s = set
    · subst hs
      cases hp : c.isPool s pool with
      | false => by_cases he : p = pool <;> simp [he, ha.listed]
      | true =>
        have hl := (ha.listed s pool).mpr hp
        by_cases he : p = pool <;> simp [he, hl, ha.listed]
    · simp [hs, ha.listed]
  · intro s p
    rw [hv.flags, hv.adapters]
    by_cases hs : s = set ∧ p = pool
    · simp [hs]
    · simp [hs, ha.served]
  · intro s p a
    rw [hv.adapters, hv.registered]
    by_cases hs : s = set ∧ p = pool
    · obtain ⟨rfl, rfl⟩ := hs
      by_cases he : a = adapter <;> simp [he, ha.registered]
    · have hn : ¬ (s = set ∧ p = pool ∧ a = adapter) := fun hq => hs ⟨hq.1, hq.2.1⟩
      rw [if_neg hs, if_neg hn, ha.registered]
  · intro s
    rw [hv.pools]
    split
    · rename_i hs
      have hp : pool ∉ c.poolList set := by simp [ha.listed, hs.2]
      simpa using (ha.pools_nodup set).concat hp
    · exact ha.pools_nodup s
  · intro s p
    rw [hv.adapters]
    split
    · simpa using (ha.adapters_nodup set pool).concat hnew
    · exact ha.adapters_nodup s p

theorem Agree.remove (ha : Agree c) (h : c.remove set pool adapter = .ok c') : Agree c' := by
  have hv := remove_views h
  have hnodup := ha.adapters_nodup set pool
  refine ⟨?_, ?_, ?_, ?_, ?_⟩
  · intro s p
    rw [hv.pools, hv.flags]
    by_cases hs : s = set
    · subst hs
      by_cases he : (c.adapterList s pool).erase adapter = []
      · simp only [he, and_true, true_and]
        rw [if_pos trivial, (ha.pools_nodup s).mem_erase_iff, ha.listed]
        by_cases hp : p = pool <;> simp [hp]
      · simp [he, ha.listed]
    · simp [hs, ha.listed]
  · intro s p
    rw [hv.flags, hv.adapters]
    by_cases hs : s = set ∧ p = pool
    · obtain ⟨rfl, rfl⟩ := hs
      have hmem := (ha.registered s p adapter).mpr hv.known
      by_cases he : (c.adapterList s p).erase adapter = []
      · simp [he]
      · simp only [he, and_false, ↓reduceIte, and_self, ne_eq, not_false_eq_true, iff_true]
        exact (ha.served s p).mpr (List.ne_nil_of_mem hmem)
    · have hn : ¬ (s = set ∧ p = pool ∧ (c.adapterList set pool).erase adapter = []) :=
        fun hq => hs ⟨hq.1, hq.2.1⟩
      rw [if_neg hn, if_neg hs, ha.served]
  · intro s p a
    rw [hv.adapters, hv.registered]
    by_cases hs : s = set ∧ p = pool
    · obtain ⟨rfl, rfl⟩ := hs
      rw [if_pos ⟨rfl, rfl⟩, hnodup.mem_erase_iff, ha.registered]
      by_cases he : a = adapter <;> simp [he]
    · have hn : ¬ (s = set ∧ p = pool ∧ a = adapter) := fun hq => hs ⟨hq.1, hq.2.1⟩
      rw [if_neg hs, if_neg hn, ha.registered]
  · intro s
    rw [hv.pools]
    split
    · exact (ha.pools_nodup set).erase pool
    · exact ha.pools_nodup s
  · intro s p
    rw [hv.adapters]
    split
    · exact hnodup.erase adapter
    · exact ha.adapters_nodup s p

/-- Clearing looks at the listed pools and adapters only, so that agreement is what makes it
complete. -/
theorem Agree.clear (ha : Agree c) (h : c.clear set = .ok c') : Agree c' := by
  have hv := clear_views h
  refine ⟨?_, ?_, ?_, ?_, ?_⟩
  · intro s p
    rw [hv.pools, hv.flags]
    by_cases hs : s = set
    · by_cases hp : p ∈ c.poolList s
      · simp [hs, hs ▸ hp]
      · simpa [hs, hs ▸ hp] using fun hf => hp (hs ▸ (ha.listed set p).mpr hf)
    · simp [hs, ha.listed]
  · intro s p
    rw [hv.flags, hv.adapters]
    split
    · simp
    · exact ha.served s p
  · intro s p a
    rw [hv.adapters, hv.registered]
    by_cases hs : s = set ∧ p ∈ c.poolList s
    · rw [if_pos hs]
      by_cases hm : a ∈ c.adapterList s p
      · rw [if_pos ⟨hs.1, hs.2, hm⟩]
        simp
      · rw [if_neg (fun hq => hm hq.2.2), ← ha.registered]
        simp [hm]
    · rw [if_neg hs, if_neg (fun hq => hs ⟨hq.1, hq.2.1⟩), ha.registered]
  · intro s
    rw [hv.pools]
    split
    · exact List.nodup_nil
    · exact ha.pools_nodup s
  · intro s p
    rw [hv.adapters]
    split
    · exact List.nodup_nil
    · exact ha.adapters_nodup s p

theorem Agree.revision (ha : Agree c) (h : Revision set c c') : Agree c' := by
  cases h with
  | added h => exact ha.add h
  | removed h => exact ha.remove h
  | cleared h => exact ha.clear h
  | opened flag => exact ⟨ha.listed, ha.served, ha.registered, ha.pools_nodup, ha.adapters_nodup⟩

theorem Agree.of_same (ha : c.Agree) (h : ∀ set, SameFor set c c') : c'.Agree := by
  refine ⟨fun s p => ?_, fun s p => ?_, fun s p a => ?_, fun s => ?_, fun s p => ?_⟩
  · rw [(h s).pools, (h s).flags]
    exact ha.listed s p
  · rw [(h s).flags, (h s).adapters]
    exact ha.served s p
  · rw [(h s).adapters, (h s).registered]
    exact ha.registered s p a
  · rw [(h s).pools]
    exact ha.pools_nodup s
  · rw [(h s).adapters]
    exact ha.adapters_nodup s p

end Basketry.Chain.ClaimSettings
