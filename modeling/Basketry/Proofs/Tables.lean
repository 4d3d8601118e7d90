import Mathlib.Algebra.Ring.Int.Defs
import Basketry.Table

namespace Basketry.Table

variable {α β : Type} [DecidableEq α]

theorem find_putEntries (key k : α) (value : β) (entries : List (α × β)) :
    (putEntries key value entries).find? (·.1 = k) =
      if k = key then some (key,value) else entries.find? (·.1 = k) := by
  induction entries with
  | nil => by_cases h : k = key <;> simp [putEntries, h, Ne.symm]
  | cons e rest ih =>
    obtain ⟨k',v⟩ := e
    by_cases hk : k' = key
    · subst hk
      by_cases h : k = k' <;> simp [putEntries, h, Ne.symm]
    · by_cases h : k' = k
      · subst h
        simp [putEntries, hk]
      · simp [putEntries, hk, h, ih]

theorem get?_put (t : Table α β) (key k : α) (value : β) :
    (t.put key value).get? k = if k = key then some value else t.get? k := by
  unfold get? put
  rw [find_putEntries]
  split <;> rfl

theorem get?_erase (t : Table α β) (key k : α) :
    (t.erase key).get? k = if k = key then none else t.get? k := by
  unfold get? erase
  rw [List.find?_filter]
  by_cases h : k = key
  · simp [h]
  · rw [if_neg h]
    congr 2
    funext e
    by_cases he : e.1 = k <;> simp [he, h]

@[simp] theorem getD_put (t : Table α β) (key k : α) (value default : β) :
    (t.put key value).getD k default = if k = key then value else t.getD k default := by
  unfold getD
  rw [get?_put]
  split <;> rfl

@[simp] theorem getD_erase (t : Table α β) (key k : α) (default : β) :
    (t.erase key).getD k default = if k = key then default else t.getD k default := by
  unfold getD
  rw [get?_erase]
  split <;> rfl

@[simp] theorem getD_update (t : Table α β) (key k : α) (start default : β) (f : β → β) :
    (t.update key start f).getD k default =
      if k = key then f (t.getD key start) else t.getD k default :=
  getD_put t key k _ default

theorem getD_of_get? {t : Table α β} {key : α} {value : β} (h : t.get? key = some value)
    (default : β) : t.getD key default = value := by
  simp [getD, h]

theorem getD_of_get?_none {t : Table α β} {key : α} (h : t.get? key = none) (default : β) :
    t.getD key default = default := by
  simp [getD, h]

/-- What answers otherwise than by default is kept. -/
theorem get?_of_getD_ne {t : Table α β} {key : α} {default : β} (h : t.getD key default ≠ default) :
    t.get? key = some (t.getD key default) := by
  cases hg : t.get? key with
  | none => exact absurd (getD_of_get?_none hg default) h
  | some value => rw [getD_of_get? hg]

@[simp] theorem getD_empty (key : α) (default : β) :
    ({} : Table α β).getD key default = default := rfl

/-- What is not among the keys is not in the table. -/
theorem getD_ofList_zip {keys : List α} {values : List β} {key : α} (h : key ∉ keys)
    (default : β) : (ofList (keys.zip values)).getD key default = default := by
  have step : ∀ (entries : List (α × β)) (t : Table α β), (∀ e ∈ entries, e.1 ≠ key) →
      (entries.foldl (fun t e => t.put e.1 e.2) t).getD key default = t.getD key default := by
    intro entries
    induction entries with
    | nil => exact fun _ _ => rfl
    | cons e entries ih =>
      intro t hn
      rw [List.foldl_cons, ih _ fun e' he' => hn e' (List.mem_cons_of_mem e he'), getD_put,
        if_neg (hn e List.mem_cons_self).symm]
  refine step _ {} fun e he hk => h ?_
  exact hk ▸ (List.of_mem_zip he).1

theorem mem_keys_putEntries (key k : α) (value : β) (entries : List (α × β)) :
    k ∈ (putEntries key value entries).map (·.1) ↔ k = key ∨ k ∈ entries.map (·.1) := by
  induction entries with
  | nil => simp [putEntries]
  | cons e rest ih =>
    obtain ⟨k',v⟩ := e
    by_cases hk : k' = key
    · subst hk
      simp [putEntries]
    · simp only [putEntries, hk, ↓reduceIte, List.map_cons, List.mem_cons, ih]
      exact or_left_comm

/-- A key is stored once, however often it is set. -/
theorem nodup_keys_put {t : Table α β} (h : t.keys.Nodup) (key : α) (value : β) :
    (t.put key value).keys.Nodup := by
  obtain ⟨entries⟩ := t
  unfold keys put at *
  induction entries with
  | nil => simp [putEntries]
  | cons e rest ih =>
    obtain ⟨k,v⟩ := e
    obtain ⟨hk,hrest⟩ := List.nodup_cons.mp h
    by_cases he : k = key
    · subst he
      simpa [putEntries] using h
    · simp only [putEntries, he, ↓reduceIte, List.map_cons, List.nodup_cons, mem_keys_putEntries,
        false_or]
      exact ⟨hk, ih hrest⟩

theorem mem_entries_put {t : Table α β} {key : α} {value : β} {e : α × β}
    (h : e ∈ (t.put key value).entries) : e = (key,value) ∨ e ∈ t.entries := by
  obtain ⟨entries⟩ := t
  unfold put at h
  induction entries with
  | nil => exact .inl (by simpa [putEntries] using h)
  | cons first rest ih =>
    obtain ⟨k,v⟩ := first
    by_cases hk : k = key
    · subst hk
      simp only [putEntries, ↓reduceIte, List.mem_cons] at h ⊢
      exact h.imp id .inr
    · simp only [putEntries, hk, ↓reduceIte, List.mem_cons] at h ⊢
      rcases h with h | h
      · exact .inr (.inl h)
      · exact (ih h).imp id .inr

theorem mem_values_put {t : Table α β} {key : α} {value x : β}
    (h : x ∈ (t.put key value).values) : x = value ∨ x ∈ t.values := by
  obtain ⟨e,he,rfl⟩ := List.mem_map.mp h
  rcases mem_entries_put he with rfl | he
  · exact .inl rfl
  · exact .inr (List.mem_map.mpr ⟨e, he, rfl⟩)

theorem mem_entries_of_get? {t : Table α β} {key : α} {value : β} (h : t.get? key = some value) :
    (key,value) ∈ t.entries := by
  obtain ⟨e,he,rfl⟩ := Option.map_eq_some_iff.mp h
  have hk : e.1 = key := by simpa using List.find?_some he
  exact hk ▸ List.mem_of_find?_eq_some he

theorem mem_values_of_get? {t : Table α β} {key : α} {value : β} (h : t.get? key = some value) :
    value ∈ t.values :=
  List.mem_map.mpr ⟨_, mem_entries_of_get? h, rfl⟩

/-- Setting a key adds to the sum what its value gains. -/
theorem sum_put (t : Table α Int) (key : α) (value : Int) :
    (t.put key value).values.sum = t.values.sum + (value - t.getD key 0) := by
  obtain ⟨entries⟩ := t
  unfold values put getD get?
  induction entries with
  | nil => simp [putEntries]
  | cons e rest ih =>
    obtain ⟨k,v⟩ := e
    by_cases he : k = key
    · simp [putEntries, he]
      omega
    · simp only [putEntries, he, ↓reduceIte, List.map_cons, List.sum_cons, List.find?_cons,
        decide_false, ih]
      omega

end Basketry.Table
