import Basketry.Proofs.Parallel
import Basketry.Proofs.SettingsAgree

namespace Basketry.Chain.ClaimSettings
open Table

variable {set pool adapter : Address} {c c' d d' : ClaimSettings}

section Total

theorem demand_some [DecidableEq α] {t : Table α β} {key : α} {value : β}
    (h : t.get? key = some value) : demand t key = .ok value := by
  simp [demand, h]

theorem demandErased_mem {xs : List Address} {x : Address} (h : x ∈ xs) :
    demandErased xs x = .ok (xs.erase x) := by
  simp [demandErased, h]

theorem add_cases (c : ClaimSettings) (set pool adapter : Address) :
    (c.isRegistered set pool adapter = true ∧
        c.add set pool adapter = .error (.revert "Integration names must be unique")) ∨
      (c.isRegistered set pool adapter = false ∧ ∃ d, c.add set pool adapter = .ok d) := by
  unfold add
  cases c.isRegistered set pool adapter with
  | true => exact .inl ⟨rfl, rfl⟩
  | false => exact .inr ⟨rfl, _, rfl⟩

theorem kept_adapters (h : c.adapterList set pool ≠ []) :
    c.adapters.get? set = some (c.adapters.getD set {}) ∧
      (c.adapters.getD set {}).get? pool = some (c.adapterList set pool) := by
  refine ⟨get?_of_getD_ne fun he => h ?_, get?_of_getD_ne h⟩
  rw [adapterList, he]
  rfl

theorem remove_run (hr : c.isRegistered set pool adapter = true)
    (hm : adapter ∈ c.adapterList set pool) :
    c.remove set pool adapter =
      if (c.adapterList set pool).erase adapter = [] then
        (c.struck set pool adapter).closePool set pool
      else .ok (c.struck set pool adapter) := by
  obtain ⟨hset,hpool⟩ := kept_adapters (List.ne_nil_of_mem hm)
  unfold remove struck
  rw [hr, demand_some hset]
  change (demand (c.adapters.getD set {}) pool >>= fun list => _) = _
  rw [demand_some hpool]
  change (demandErased (c.adapterList set pool) adapter >>= fun left => _) = _
  rw [demandErased_mem hm]
  rfl

theorem closePool_total (h : pool ∈ c.poolList set) : ∃ d, c.closePool set pool = .ok d := by
  have hpools : c.pools.get? set = some (c.poolList set) := get?_of_getD_ne (List.ne_nil_of_mem h)
  unfold closePool
  rw [demand_some hpools]
  change ∃ d, (demandErased (c.poolList set) pool >>= fun pools => _) = .ok d
  rw [demandErased_mem h]
  exact ⟨_, rfl⟩

theorem Agree.remove_total (ha : c.Agree) (hr : c.isRegistered set pool adapter = true) :
    ∃ d, c.remove set pool adapter = .ok d := by
  have hm : adapter ∈ c.adapterList set pool := (ha.registered set pool adapter).mpr hr
  have hlisted : pool ∈ (c.struck set pool adapter).poolList set :=
    (ha.listed set pool).mpr ((ha.served set pool).mpr (List.ne_nil_of_mem hm))
  rw [remove_run hr hm]
  split
  · exact closePool_total hlisted
  · exact ⟨_, rfl⟩

theorem remove_unknown (h : c.isRegistered set pool adapter = false) :
    c.remove set pool adapter = .error (.revert "Integration must be added") := by
  unfold remove
  rw [h]
  rfl

/-- A set has flags for the adapters of a pool, whatever they say. -/
def FlagsKept (c : ClaimSettings) (set pool : Address) : Prop :=
  ∃ pools flags, c.adapterFlags.get? set = some pools ∧ pools.get? pool = some flags

theorem FlagsKept.of_registered (h : c.isRegistered set pool adapter = true) :
    c.FlagsKept set pool := by
  have hflags : (c.adapterFlags.getD set {}).getD pool {} ≠ {} := by
    intro he
    rw [isRegistered, he] at h
    cases h
  have hpools : c.adapterFlags.getD set {} ≠ {} := by
    intro he
    rw [he] at hflags
    exact hflags rfl
  exact ⟨_, _, get?_of_getD_ne hpools, get?_of_getD_ne hflags⟩

theorem FlagsKept.setAdapterFlag {other : Address} (h : c.FlagsKept set other) (flag : Bool) :
    (c.setAdapterFlag set pool adapter flag).FlagsKept set other := by
  obtain ⟨pools,flags,hp,hf⟩ := h
  unfold FlagsKept ClaimSettings.setAdapterFlag update
  simp only [get?_put, ↓reduceIte, getD_of_get? hp]
  by_cases he : other = pool
  · exact ⟨_, _, rfl, by rw [get?_put, if_pos he]⟩
  · exact ⟨_, flags, rfl, by rw [get?_put, if_neg he, hf]⟩

theorem lowerAdapterFlag_run (h : c.FlagsKept set pool) (adapter : Address) :
    lowerAdapterFlag set pool c adapter = .ok (c.setAdapterFlag set pool adapter false) := by
  obtain ⟨pools,flags,hp,hf⟩ := h
  unfold lowerAdapterFlag
  rw [demand_some hp]
  change (demand pools pool >>= fun _ => _) = _
  rw [demand_some hf]
  rfl

theorem foldlM_lower_total {adapters : List Address} (h : adapters ≠ [] → c.FlagsKept set pool) :
    ∃ d, adapters.foldlM (lowerAdapterFlag set pool) c = .ok d ∧
      ∀ other, c.FlagsKept set other → d.FlagsKept set other := by
  induction adapters generalizing c with
  | nil => exact ⟨c, rfl, fun _ h => h⟩
  | cons x xs ih =>
    have hkept := h (List.cons_ne_nil x xs)
    have hnext : (c.setAdapterFlag set pool x false).FlagsKept set pool := hkept.setAdapterFlag false
    obtain ⟨d,hd,hflags⟩ := ih fun _ => hnext
    refine ⟨d, ?_, fun other ho => hflags other (ho.setAdapterFlag false)⟩
    rw [List.foldlM_cons, lowerAdapterFlag_run hkept]
    exact hd

/-- A pool can be cleared where its adapters and its set have flags, which they go on to have. -/
theorem clearPool_total (h : c.adapterList set pool ≠ [] → c.FlagsKept set pool)
    (hp : ∃ flags, c.poolFlags.get? set = some flags) :
    ∃ d, clearPool set c pool = .ok d ∧ (∃ flags, d.poolFlags.get? set = some flags) ∧
      ∀ other, c.FlagsKept set other → d.FlagsKept set other := by
  obtain ⟨d,hd,hflags⟩ := foldlM_lower_total h
  obtain ⟨hothers,_⟩ := foldlM_lower hd
  obtain ⟨adapters,hu⟩ := unlisted_others d set pool
  obtain ⟨flags,hp⟩ := hp
  have hkept : (d.unlisted set pool).poolFlags.get? set = some flags := by
    rw [hu, hothers]
    exact hp
  refine ⟨(d.unlisted set pool).setPoolFlag set pool false, ?_, ?_, ?_⟩
  · unfold clearPool
    rw [hd]
    change (demand (d.unlisted set pool).poolFlags set >>= fun _ => _) = _
    rw [demand_some hkept]
    rfl
  · exact ⟨_, by rw [setPoolFlag, update, get?_put, if_pos rfl]⟩
  · intro other ho
    rw [hu]
    exact hflags other ho

theorem foldlM_clearPool_total {ps : List Address}
    (h : ∀ pool ∈ ps, c.adapterList set pool ≠ [] → c.FlagsKept set pool)
    (hp : ps ≠ [] → ∃ flags, c.poolFlags.get? set = some flags) :
    ∃ d, ps.foldlM (clearPool set) c = .ok d := by
  induction ps generalizing c with
  | nil => exact ⟨c, rfl⟩
  | cons p ps ih =>
    obtain ⟨d,hd,hpools,hflags⟩ :=
      clearPool_total (h p List.mem_cons_self) (hp (List.cons_ne_nil p ps))
    have hrest : ∀ q ∈ ps, d.adapterList set q ≠ [] → d.FlagsKept set q := by
      intro q hq hne
      rw [(clearPool_views hd).adapters] at hne
      split at hne
      · exact absurd rfl hne
      · exact hflags q (h q (List.mem_cons_of_mem p hq) hne)
    obtain ⟨e,he⟩ := ih hrest fun _ => hpools
    exact ⟨e, bind_eq_ok.mpr ⟨d, hd, he⟩⟩

theorem Agree.clear_total (ha : c.Agree) (set : Address) : ∃ d, c.clear set = .ok d := by
  have hadapters : ∀ pool ∈ c.poolList set, c.adapterList set pool ≠ [] →
      c.FlagsKept set pool := by
    intro pool _ hne
    obtain ⟨adapter,hm⟩ := List.exists_mem_of_ne_nil _ hne
    exact .of_registered ((ha.registered set pool adapter).mp hm)
  have hpools : c.poolList set ≠ [] → ∃ flags, c.poolFlags.get? set = some flags := by
    intro hne
    obtain ⟨pool,hm⟩ := List.exists_mem_of_ne_nil _ hne
    have hflag := (ha.listed set pool).mp hm
    have hne : c.poolFlags.getD set {} ≠ {} := by
      intro he
      rw [isPool, he] at hflag
      cases hflag
    exact ⟨_, get?_of_getD_ne hne⟩
  obtain ⟨d,hd⟩ := foldlM_clearPool_total hadapters hpools
  exact ⟨_, bind_eq_ok.mpr ⟨d, hd, rfl⟩⟩

end Total

section Alike

/-- Settings that are one and the same, or agree each with itself and answer alike. -/
def Alike (c c' : ClaimSettings) : Prop :=
  c' = c ∨ (c.Agree ∧ c'.Agree ∧ ∀ set, SameFor set c c')

theorem Added.same (h : ∀ s, SameFor s c c') (hd : Added set pool adapter c d)
    (hd' : Added set pool adapter c' d') (s : Address) : SameFor s d d' := by
  refine ⟨?_, fun p => ?_, fun p => ?_, fun p a => ?_, ?_⟩
  · rw [hd.pools, hd'.pools, (h set).flags, (h set).pools, (h s).pools]
  · rw [hd.flags, hd'.flags, (h s).flags]
  · rw [hd.adapters, hd'.adapters, (h set).adapters, (h s).adapters]
  · rw [hd.registered, hd'.registered, (h s).registered]
  · rw [hd.anyone, hd'.anyone, (h s).anyone]

theorem Removed.same (h : ∀ s, SameFor s c c') (hd : Removed set pool adapter c d)
    (hd' : Removed set pool adapter c' d') (s : Address) : SameFor s d d' := by
  refine ⟨?_, fun p => ?_, fun p => ?_, fun p a => ?_, ?_⟩
  · rw [hd.pools, hd'.pools, (h set).adapters, (h set).pools, (h s).pools]
  · rw [hd.flags, hd'.flags, (h set).adapters, (h s).flags]
  · rw [hd.adapters, hd'.adapters, (h set).adapters, (h s).adapters]
  · rw [hd.registered, hd'.registered, (h s).registered]
  · rw [hd.anyone, hd'.anyone, (h s).anyone]

theorem Forgotten.same (h : ∀ s, SameFor s c c') (hd : Forgotten set c d)
    (hd' : Forgotten set c' d') (s : Address) : SameFor s d d' := by
  refine ⟨?_, fun p => ?_, fun p => ?_, fun p a => ?_, ?_⟩
  · rw [hd.pools, hd'.pools, (h s).pools]
  · rw [hd.flags, hd'.flags, (h s).pools, (h s).flags]
  · rw [hd.adapters, hd'.adapters, (h s).pools, (h s).adapters]
  · rw [hd.registered, hd'.registered, (h s).pools, (h s).adapters, (h s).registered]
  · rw [hd.anyone, hd'.anyone, (h s).anyone]

theorem alike_outcomes (o : Except Fault ClaimSettings) : Outcomes Alike o o := by
  cases o with
  | ok c => exact .ok (.inl rfl)
  | error fault => exact .error fault

/-- Two changes that both succeed, on settings that answer alike. -/
theorem outcomes_alike {o o' : Except Fault ClaimSettings} (hd : o = .ok d) (hd' : o' = .ok d')
    (ha : d.Agree) (h : ∀ s, SameFor s d d') : Outcomes Alike o o' := by
  rw [hd, hd']
  exact .ok (.inr ⟨ha, ha.of_same h, h⟩)

theorem Alike.add (h : Alike c c') (set pool adapter : Address) :
    Outcomes Alike (c.add set pool adapter) (c'.add set pool adapter) := by
  rcases h with rfl | ⟨ha,ha',hsame⟩
  · exact alike_outcomes _
  · have hr := (hsame set).registered pool adapter
    rcases add_cases c set pool adapter with ⟨hc,he⟩ | ⟨hc,d,hd⟩
    · rcases add_cases c' set pool adapter with ⟨_,he'⟩ | ⟨hc',_⟩
      · rw [he, he']
        exact .error _
      · simp [hc, hc'] at hr
    · rcases add_cases c' set pool adapter with ⟨hc',_⟩ | ⟨_,d',hd'⟩
      · simp [hc, hc'] at hr
      · exact outcomes_alike hd hd' (ha.add hd) ((add_views hd).same hsame (add_views hd'))

theorem Alike.remove (h : Alike c c') (set pool adapter : Address) :
    Outcomes Alike (c.remove set pool adapter) (c'.remove set pool adapter) := by
  rcases h with rfl | ⟨ha,ha',hsame⟩
  · exact alike_outcomes _
  · have hr := (hsame set).registered pool adapter
    cases hc : c.isRegistered set pool adapter with
    | false =>
      rw [remove_unknown hc, remove_unknown (hr.trans hc)]
      exact .error _
    | true =>
      obtain ⟨d,hd⟩ := ha.remove_total hc
      obtain ⟨d',hd'⟩ := ha'.remove_total (hr.trans hc)
      exact outcomes_alike hd hd' (ha.remove hd) ((remove_views hd).same hsame (remove_views hd'))

theorem Alike.clear (h : Alike c c') (set : Address) :
    Outcomes Alike (c.clear set) (c'.clear set) := by
  rcases h with rfl | ⟨ha,ha',hsame⟩
  · exact alike_outcomes _
  · obtain ⟨d,hd⟩ := ha.clear_total set
    obtain ⟨d',hd'⟩ := ha'.clear_total set
    exact outcomes_alike hd hd' (ha.clear hd) ((clear_views hd).same hsame (clear_views hd'))

theorem SameFor.setAnyone {s : Address} (h : SameFor s c c') (flag : Bool) :
    SameFor s (c.setAnyone set flag) (c'.setAnyone set flag) := by
  refine ⟨h.pools, h.flags, h.adapters, h.registered, ?_⟩
  rw [anyoneMayClaim_setAnyone, anyoneMayClaim_setAnyone, h.anyone]

theorem Alike.setAnyone (h : Alike c c') (set : Address) (flag : Bool) :
    Alike (c.setAnyone set flag) (c'.setAnyone set flag) := by
  rcases h with rfl | ⟨ha,ha',hsame⟩
  · exact .inl rfl
  · exact .inr ⟨ha.revision (.opened c flag), ha'.revision (.opened c' flag),
      fun s => (hsame s).setAnyone flag⟩

theorem Alike.views (h : Alike c c') (set : Address) : SameFor set c c' := by
  rcases h with rfl | ⟨_,_,hsame⟩
  · exact .refl set _
  · exact hsame set

theorem likeness_alike : Likeness Alike :=
  ⟨Alike.views, Alike.add, Alike.remove, Alike.clear, Alike.setAnyone⟩

end Alike

end Basketry.Chain.ClaimSettings
