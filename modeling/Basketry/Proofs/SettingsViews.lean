import Basketry.Chain.ClaimSettings
import Basketry.Proofs.Outcomes
import Basketry.Proofs.Tables

namespace Basketry

namespace Chain.ClaimSettings
open Table

section Flags
variable (c : ClaimSettings) (set pool adapter s p a : Address) (flag : Bool)

@[simp] theorem isRegistered_setAdapterFlag :
    (c.setAdapterFlag set pool adapter flag).isRegistered s p a =
      if s = set ∧ p = pool ∧ a = adapter then flag else c.isRegistered s p a := by
  unfold isRegistered setAdapterFlag
  rw [getD_update]
  by_cases hs : s = set
  · by_cases hp : p = pool <;> simp [hs, hp]
  · simp [hs]

@[simp] theorem adapterList_setAdapterFlag :
    (c.setAdapterFlag set pool adapter flag).adapterList s p = c.adapterList s p := rfl

@[simp] theorem anyoneMayClaim_setAdapterFlag :
    (c.setAdapterFlag set pool adapter flag).anyoneMayClaim s = c.anyoneMayClaim s := rfl

@[simp] theorem isPool_setPoolFlag :
    (c.setPoolFlag set pool flag).isPool s p =
      if s = set ∧ p = pool then flag else c.isPool s p := by
  unfold isPool setPoolFlag
  rw [getD_update]
  by_cases hs : s = set <;> simp [hs]

@[simp] theorem poolList_setPoolFlag :
    (c.setPoolFlag set pool flag).poolList s = c.poolList s := rfl

@[simp] theorem adapterList_setPoolFlag :
    (c.setPoolFlag set pool flag).adapterList s p = c.adapterList s p := rfl

@[simp] theorem isRegistered_setPoolFlag :
    (c.setPoolFlag set pool flag).isRegistered s p a = c.isRegistered s p a := rfl

@[simp] theorem anyoneMayClaim_setPoolFlag :
    (c.setPoolFlag set pool flag).anyoneMayClaim s = c.anyoneMayClaim s := rfl

end Flags

variable {set pool adapter : Address} {c c' : ClaimSettings}

/-- What can be seen of the settings of one set. -/
structure SameFor (set : Address) (c c' : ClaimSettings) : Prop where
  pools : c'.poolList set = c.poolList set
  flags : ∀ pool, c'.isPool set pool = c.isPool set pool
  adapters : ∀ pool, c'.adapterList set pool = c.adapterList set pool
  registered : ∀ pool adapter, c'.isRegistered set pool adapter = c.isRegistered set pool adapter
  anyone : c'.anyoneMayClaim set = c.anyoneMayClaim set

theorem SameFor.refl (set : Address) (c : ClaimSettings) : SameFor set c c :=
  ⟨rfl, fun _ => rfl, fun _ => rfl, fun _ _ => rfl, rfl⟩

theorem SameFor.trans {a b : ClaimSettings} (h : SameFor set a b) (h' : SameFor set b c) :
    SameFor set a c :=
  ⟨h'.pools.trans h.pools, fun p => (h'.flags p).trans (h.flags p),
    fun p => (h'.adapters p).trans (h.adapters p),
    fun p x => (h'.registered p x).trans (h.registered p x), h'.anyone.trans h.anyone⟩

/-- The views after an adapter was added for a pool: it stands last, and a pool that had none stands
last too. -/
structure Added (set pool adapter : Address) (c c' : ClaimSettings) : Prop where
  fresh : c.isRegistered set pool adapter = false
  pools : ∀ s, c'.poolList s =
    if s = set ∧ c.isPool set pool = false then c.poolList set ++ [pool] else c.poolList s
  flags : ∀ s p, c'.isPool s p = if s = set ∧ p = pool then true else c.isPool s p
  adapters : ∀ s p, c'.adapterList s p =
    if s = set ∧ p = pool then c.adapterList set pool ++ [adapter] else c.adapterList s p
  registered : ∀ s p a, c'.isRegistered s p a =
    if s = set ∧ p = pool ∧ a = adapter then true else c.isRegistered s p a
  anyone : ∀ s, c'.anyoneMayClaim s = c.anyoneMayClaim s

theorem poolList_openPool (c : ClaimSettings) (set pool s : Address) :
    (c.openPool set pool).poolList s =
      if s = set ∧ c.isPool set pool = false then c.poolList set ++ [pool] else c.poolList s := by
  unfold openPool
  by_cases h : c.isPool set pool = true
  · simp [h]
  · rw [if_neg h, poolList_setPoolFlag]
    simp [poolList, h]

theorem isPool_openPool (c : ClaimSettings) (set pool s p : Address) :
    (c.openPool set pool).isPool s p = if s = set ∧ p = pool then true else c.isPool s p := by
  unfold openPool
  by_cases h : c.isPool set pool = true
  · rw [if_pos h]
    by_cases hs : s = set ∧ p = pool
    · simp [hs, h]
    · simp [hs]
  · rw [if_neg h, isPool_setPoolFlag]
    rfl

theorem openPool_others (c : ClaimSettings) (set pool : Address) :
    (c.openPool set pool).adapters = c.adapters ∧
      (c.openPool set pool).adapterFlags = c.adapterFlags ∧
      (c.openPool set pool).anyone = c.anyone := by
  unfold openPool
  split <;> exact ⟨rfl, rfl, rfl⟩

theorem add_views (h : add c set pool adapter = .ok c') : Added set pool adapter c c' := by
  unfold add at h
  split at h
  · cases h
  · rename_i hr
    obtain ⟨ha, hf, hy⟩ := openPool_others c set pool
    cases h
    have hfresh : c.isRegistered set pool adapter = false := by simpa using hr
    refine ⟨hfresh, poolList_openPool c set pool, isPool_openPool c set pool, ?_, ?_, ?_⟩
    · intro s p
      rw [adapterList_setAdapterFlag]
      simp only [adapterList, ha]
      by_cases hs : s = set
      · by_cases hp : p = pool <;> simp [hs, hp]
      · simp [hs]
    · intro s p a
      rw [isRegistered_setAdapterFlag]
      simp only [isRegistered, hf]
    · intro s
      rw [anyoneMayClaim_setAdapterFlag]
      simp only [anyoneMayClaim, hy]

/-- The views after an adapter was taken from a pool. The pool goes with its last adapter. -/
structure Removed (set pool adapter : Address) (c c' : ClaimSettings) : Prop where
  known : c.isRegistered set pool adapter = true
  pools : ∀ s, c'.poolList s =
    if s = set ∧ (c.adapterList set pool).erase adapter = [] then (c.poolList set).erase pool
    else c.poolList s
  flags : ∀ s p, c'.isPool s p =
    if s = set ∧ p = pool ∧ (c.adapterList set pool).erase adapter = [] then false
    else c.isPool s p
  adapters : ∀ s p, c'.adapterList s p =
    if s = set ∧ p = pool then (c.adapterList set pool).erase adapter else c.adapterList s p
  registered : ∀ s p a, c'.isRegistered s p a =
    if s = set ∧ p = pool ∧ a = adapter then false else c.isRegistered s p a
  anyone : ∀ s, c'.anyoneMayClaim s = c.anyoneMayClaim s

theorem demand_ok [DecidableEq α] {t : Table α β} {key : α} {value : β}
    (h : demand t key = .ok value) : t.get? key = some value := by
  unfold demand at h
  cases hg : t.get? key with
  | none => simp [hg] at h
  | some v => simpa [hg] using h

theorem demandErased_ok {xs left : List Address} {x : Address} (h : demandErased xs x = .ok left) :
    left = xs.erase x := by
  unfold demandErased at h
  split at h
  · cases h; rfl
  · cases h

theorem closePool_ok (h : closePool c set pool = .ok c') :
    c' = { c with pools := c.pools.put set ((c.poolList set).erase pool) }.setPoolFlag
      set pool false := by
  unfold closePool at h
  obtain ⟨pools, hp, h⟩ := bind_eq_ok.mp h
  obtain ⟨left, hl, h⟩ := bind_eq_ok.mp h
  cases h
  rw [demandErased_ok hl, poolList, getD_of_get? (demand_ok hp)]

/-- The settings once an adapter is off the list of its pool, before an empty pool is closed. -/
def struck (c : ClaimSettings) (set pool adapter : Address) : ClaimSettings :=
  { c with
    adapters := c.adapters.put set
      ((c.adapters.getD set {}).put pool ((c.adapterList set pool).erase adapter))
  }.setAdapterFlag set pool adapter false

theorem remove_ok (h : remove c set pool adapter = .ok c') :
    c.isRegistered set pool adapter = true ∧
      if (c.adapterList set pool).erase adapter = [] then
        (c.struck set pool adapter).closePool set pool = .ok c'
      else c' = c.struck set pool adapter := by
  unfold remove at h
  cases hr : c.isRegistered set pool adapter with
  | false => simp [hr, bind, Except.bind] at h
  | true =>
    refine ⟨rfl, ?_⟩
    simp only [hr, Bool.not_true, Bool.false_eq_true, ↓reduceIte] at h
    obtain ⟨byPool, hb, h⟩ := bind_eq_ok.mp h
    obtain ⟨adapters, ha, h⟩ := bind_eq_ok.mp h
    obtain ⟨left, hl, h⟩ := bind_eq_ok.mp h
    have hget : c.adapters.getD set {} = byPool := getD_of_get? (demand_ok hb) _
    have hlist : c.adapterList set pool = adapters := by
      rw [adapterList, hget, getD_of_get? (demand_ok ha)]
    rw [struck, hget, hlist, ← demandErased_ok hl]
    split at h
    · rw [if_pos ‹_›]; exact h
    · rw [if_neg ‹_›]; cases h; rfl

theorem adapterList_struck (c : ClaimSettings) (set pool adapter s p : Address) :
    (c.struck set pool adapter).adapterList s p =
      if s = set ∧ p = pool then (c.adapterList set pool).erase adapter else c.adapterList s p := by
  unfold struck
  rw [adapterList_setAdapterFlag]
  by_cases hs : s = set
  · by_cases hp : p = pool <;> simp [adapterList, hs, hp]
  · simp [adapterList, hs]

theorem remove_views (h : remove c set pool adapter = .ok c') : Removed set pool adapter c c' := by
  obtain ⟨hr, h⟩ := remove_ok h
  have hreg : ∀ s p a, (c.struck set pool adapter).isRegistered s p a =
      if s = set ∧ p = pool ∧ a = adapter then false else c.isRegistered s p a :=
    fun s p a => isRegistered_setAdapterFlag _ _ _ _ _ _ _ _
  split at h
  · rename_i he
    have hc := closePool_ok h
    subst c'
    refine ⟨hr, ?_, ?_, adapterList_struck c set pool adapter, hreg, fun _ => rfl⟩
    · intro s
      simp only [poolList_setPoolFlag, he, and_true]
      by_cases hs : s = set <;> simp [poolList, hs, struck, setAdapterFlag]
    · intro s p
      rw [isPool_setPoolFlag]
      simp only [he, and_true]
      rfl
  · rename_i he
    subst c'
    refine ⟨hr, ?_, ?_, adapterList_struck c set pool adapter, hreg, fun _ => rfl⟩
    · intro s
      simp only [he, and_false, ↓reduceIte]
      rfl
    · intro s p
      simp only [he, and_false, ↓reduceIte]
      rfl

theorem foldlM_lower {adapters : List Address}
    (h : adapters.foldlM (lowerAdapterFlag set pool) c = .ok c') :
    c' = { c with adapterFlags := c'.adapterFlags } ∧
      ∀ s p a, c'.isRegistered s p a =
        if s = set ∧ p = pool ∧ a ∈ adapters then false else c.isRegistered s p a := by
  induction adapters generalizing c with
  | nil => cases h; exact ⟨rfl, by simp⟩
  | cons x xs ih =>
    obtain ⟨d, hd, h⟩ := bind_eq_ok.mp h
    obtain ⟨hc, hr⟩ := ih h
    unfold lowerAdapterFlag at hd
    obtain ⟨_, _, hd⟩ := bind_eq_ok.mp hd
    obtain ⟨_, _, hd⟩ := bind_eq_ok.mp hd
    cases hd
    refine ⟨hc, ?_⟩
    intro s p a
    rw [hr, isRegistered_setAdapterFlag]
    by_cases hp : s = set ∧ p = pool
    · by_cases ha : a = x <;> simp [hp, ha]
    · have hn : ∀ q : Prop, ¬ (s = set ∧ p = pool ∧ q) := fun q hq => hp ⟨hq.1, hq.2.1⟩
      rw [if_neg (hn _), if_neg (hn _), if_neg (hn _)]

/-- The views once some pools of a set are emptied. Only the listed adapters of such a pool lose
their flags. -/
structure Emptied (set : Address) (emptied : List Address) (c c' : ClaimSettings) : Prop where
  pools : ∀ s, c'.poolList s = c.poolList s
  flags : ∀ s p, c'.isPool s p = if s = set ∧ p ∈ emptied then false else c.isPool s p
  adapters : ∀ s p, c'.adapterList s p = if s = set ∧ p ∈ emptied then [] else c.adapterList s p
  registered : ∀ s p a, c'.isRegistered s p a =
    if s = set ∧ p ∈ emptied ∧ a ∈ c.adapterList s p then false else c.isRegistered s p a
  anyone : ∀ s, c'.anyoneMayClaim s = c.anyoneMayClaim s

/-- The settings without the list of adapters of a pool. -/
def unlisted (c : ClaimSettings) (set pool : Address) : ClaimSettings :=
  match c.adapters.get? set with
  | some byPool => { c with adapters := c.adapters.put set (byPool.erase pool) }
  | none => c

theorem unlisted_others (c : ClaimSettings) (set pool : Address) :
    ∃ adapters, c.unlisted set pool = { c with adapters := adapters } := by
  unfold unlisted
  split <;> exact ⟨_, rfl⟩

theorem adapterList_unlisted (c : ClaimSettings) (set pool s p : Address) :
    (c.unlisted set pool).adapterList s p =
      if s = set ∧ p = pool then [] else c.adapterList s p := by
  unfold unlisted
  split
  · rename_i byPool hg
    by_cases hs : s = set
    · by_cases hp : p = pool <;> simp [adapterList, hs, hp, getD_of_get? hg]
    · simp [adapterList, hs]
  · rename_i hg
    by_cases hs : s = set
    · have he : c.adapterList s p = [] := by simp [adapterList, hs, getD_of_get?_none hg]
      simp [he]
    · simp [hs]

theorem clearPool_views (h : clearPool set c pool = .ok c') : Emptied set [pool] c c' := by
  obtain ⟨d, hd, h⟩ := bind_eq_ok.mp h
  obtain ⟨_, _, h⟩ := bind_eq_ok.mp h
  have hc' : c' = (d.unlisted set pool).setPoolFlag set pool false := by cases h; rfl
  obtain ⟨hc, hr⟩ := foldlM_lower hd
  obtain ⟨as, hu⟩ := unlisted_others d set pool
  have hlist := adapterList_unlisted d set pool
  subst c'
  refine ⟨?_, ?_, ?_, ?_, ?_⟩
  · intro s
    rw [poolList_setPoolFlag, hu, hc]
    rfl
  · intro s p
    rw [isPool_setPoolFlag, hu, hc]
    simp only [List.mem_singleton]
    rfl
  · intro s p
    rw [adapterList_setPoolFlag, hlist, hc]
    simp only [List.mem_singleton]
    rfl
  · intro s p a
    rw [isRegistered_setPoolFlag, hu]
    refine (hr s p a).trans ?_
    by_cases hp : s = set ∧ p = pool
    · simp [hp]
    · have hn : ∀ q : Prop, ¬ (s = set ∧ p = pool ∧ q) := fun q hq => hp ⟨hq.1, hq.2.1⟩
      simp only [List.mem_singleton]
      rw [if_neg (hn _), if_neg (hn _)]
  · intro s
    rw [anyoneMayClaim_setPoolFlag, hu, hc]
    rfl

theorem Emptied.cons {ps : List Address} {d : ClaimSettings} (h : Emptied set [pool] c d)
    (h' : Emptied set ps d c') : Emptied set (pool :: ps) c c' := by
  refine ⟨?_, ?_, ?_, ?_, ?_⟩
  · intro s
    rw [h'.pools, h.pools]
  · intro s p
    rw [h'.flags, h.flags]
    by_cases hs : s = set <;> by_cases hp : p = pool <;> simp [hs, hp]
  · intro s p
    rw [h'.adapters, h.adapters]
    by_cases hs : s = set <;> by_cases hp : p = pool <;> simp [hs, hp]
  · intro s p a
    rw [h'.registered, h.registered, h.adapters]
    by_cases hs : s = set
    · by_cases hp : p = pool <;> simp [hs, hp]
    · simp [hs]
  · intro s
    rw [h'.anyone, h.anyone]

theorem foldlM_clearPool {ps : List Address} (h : ps.foldlM (clearPool set) c = .ok c') :
    Emptied set ps c c' := by
  induction ps generalizing c with
  | nil => cases h; exact ⟨fun _ => rfl, by simp, by simp, by simp, fun _ => rfl⟩
  | cons p ps ih =>
    obtain ⟨d, hd, h⟩ := bind_eq_ok.mp h
    exact (clearPool_views hd).cons (ih h)

/-- The views after a set was forgotten. -/
structure Forgotten (set : Address) (c c' : ClaimSettings) : Prop where
  pools : ∀ s, c'.poolList s = if s = set then [] else c.poolList s
  flags : ∀ s p, c'.isPool s p = if s = set ∧ p ∈ c.poolList s then false else c.isPool s p
  adapters : ∀ s p, c'.adapterList s p =
    if s = set ∧ p ∈ c.poolList s then [] else c.adapterList s p
  registered : ∀ s p a, c'.isRegistered s p a =
    if s = set ∧ p ∈ c.poolList s ∧ a ∈ c.adapterList s p then false else c.isRegistered s p a
  anyone : ∀ s, c'.anyoneMayClaim s = if s = set then false else c.anyoneMayClaim s

theorem clear_views (h : clear c set = .ok c') : Forgotten set c c' := by
  obtain ⟨d, hd, h⟩ := bind_eq_ok.mp h
  cases h
  have he := foldlM_clearPool hd
  refine ⟨?_, ?_, ?_, ?_, ?_⟩
  · intro s
    refine (getD_erase d.pools set s []).trans ?_
    rw [← he.pools s]
    rfl
  · intro s p
    refine (he.flags s p).trans ?_
    by_cases hs : s = set <;> simp [hs]
  · intro s p
    refine (he.adapters s p).trans ?_
    by_cases hs : s = set <;> simp [hs]
  · intro s p a
    refine (he.registered s p a).trans ?_
    by_cases hs : s = set <;> simp [hs]
  · intro s
    refine (getD_erase d.anyone set s false).trans ?_
    rw [← he.anyone s]
    rfl

theorem anyoneMayClaim_setAnyone (c : ClaimSettings) (set s : Address) (flag : Bool) :
    (c.setAnyone set flag).anyoneMayClaim s = if s = set then flag else c.anyoneMayClaim s :=
  getD_put _ _ _ _ _

/-- A change that a call makes to the settings of one set. -/
inductive Revision (set : Address) : ClaimSettings → ClaimSettings → Prop
  | added {a b : ClaimSettings} {p x : Address} (h : a.add set p x = .ok b) : Revision set a b
  | removed {a b : ClaimSettings} {p x : Address} (h : a.remove set p x = .ok b) : Revision set a b
  | cleared {a b : ClaimSettings} (h : a.clear set = .ok b) : Revision set a b
  | opened (a : ClaimSettings) (flag : Bool) : Revision set a (a.setAnyone set flag)

/-- A revision is seen in the views of its own set only. -/
theorem Revision.others (h : Revision set c c') {other : Address} (hne : other ≠ set) :
    SameFor other c c' := by
  cases h with
  | added h =>
    have hv := add_views h
    refine ⟨?_, fun p => ?_, fun p => ?_, fun p a => ?_, hv.anyone other⟩
    · simp [hv.pools, hne]
    · simp [hv.flags, hne]
    · simp [hv.adapters, hne]
    · simp [hv.registered, hne]
  | removed h =>
    have hv := remove_views h
    refine ⟨?_, fun p => ?_, fun p => ?_, fun p a => ?_, hv.anyone other⟩
    · simp [hv.pools, hne]
    · simp [hv.flags, hne]
    · simp [hv.adapters, hne]
    · simp [hv.registered, hne]
  | cleared h =>
    have hv := clear_views h
    refine ⟨?_, fun p => ?_, fun p => ?_, fun p a => ?_, ?_⟩
    · simp [hv.pools, hne]
    · simp [hv.flags, hne]
    · simp [hv.adapters, hne]
    · simp [hv.registered, hne]
    · simp [hv.anyone, hne]
  | opened flag =>
    exact ⟨rfl, fun _ => rfl, fun _ => rfl, fun _ _ => rfl, by simp [anyoneMayClaim_setAnyone, hne]⟩

end Chain.ClaimSettings

end Basketry
