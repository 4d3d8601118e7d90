import Basketry.Proofs.Placement
import Basketry.Proofs.Results

namespace Basketry.Chain

variable {p : Ref → Aspect → Prop} {u v w : World} {module set : Ref} {m m' : ClaimModule}
  {s s' : SetToken} {a b : Address}

/-- An object that is found at some address. -/
def World.Stands (w : World) (ref : Ref) : Prop := ∃ a, w.find a = some ref

/-- A module and a set that both stand on the chain. -/
structure World.Pair (w : World) (module : Ref) (m : ClaimModule) (set : Ref) (s : SetToken) :
    Prop where
  moduleStands : w.Stands module
  isModule : w.content module = .claimModule m
  setStands : w.Stands set
  isSet : w.content set = .setToken s

/-- The module keeps nothing for the set, or the set has it initialized. -/
def Held (m : ClaimModule) (s : SetToken) : Prop :=
  m.settings.Idle s.address ∨ s.moduleState m.address = .initialized

/-- Every module holds to every set, some pairs left out. -/
def World.BoundBut (but : Ref → Ref → Prop) (w : World) : Prop :=
  ∀ module m set s, w.Pair module m set s → but module set ∨ Held m s

def World.Bound (w : World) : Prop := ∀ module m set s, w.Pair module m set s → Held m s

theorem Held.same (h : Held m s) (hm : m'.address = m.address) (hs : s'.address = s.address)
    (hsame : ClaimSettings.SameFor s.address m.settings m'.settings)
    (hstates : s'.moduleStates = s.moduleStates) : Held m' s' := by
  rcases h with h | h
  · left
    rw [hs]
    exact h.same hsame
  · right
    rw [SetToken.moduleState, hstates, hm]
    exact h

namespace World

theorem Bound.but (h : w.Bound) (but : Ref → Ref → Prop) : w.BoundBut but :=
  fun module m set s hp => .inr (h module m set s hp)

theorem Bound.snapshots (h : w.Bound) (snapshots : List Snapshot) :
    ({ w with snapshots := snapshots } : World).Bound :=
  fun module m set s hp => h module m set s ⟨hp.moduleStands, hp.isModule, hp.setStands, hp.isSet⟩

theorem BoundBut.bound {but : Ref → Ref → Prop} (h : w.BoundBut but)
    (hbut : ∀ module m set s, w.Pair module m set s → but module set → Held m s) : w.Bound := by
  intro module m set s hp
  rcases h module m set s hp with hb | hh
  · exact hbut module m set s hp hb
  · exact hh

/-- Of a standing contract its own address is the one at which it stands. -/
theorem Placed.find (hw : w.Placed) (hs : w.Stands set) (ha : (w.content set).address? = some a) :
    w.find a = some set := by
  obtain ⟨b,hb⟩ := hs
  cases hw.own b set a hb ha
  exact hb

theorem Pair.found (hp : w.Pair module m set s) (hw : w.Placed) :
    w.find m.address = some module ∧ w.find s.address = some set :=
  ⟨hw.find hp.moduleStands (by rw [hp.isModule]; rfl), hw.find hp.setStands (by rw [hp.isSet]; rfl)⟩

/-- A standing pair stood as one before edits that found no sets. -/
theorem Pair.before (he : Edits p w v) (hf : ¬ p set .founding) (hp : v.Pair module m' set s') :
    ∃ m s, w.Pair module m set s ∧ m'.address = m.address ∧ s'.address = s.address ∧
      (∀ a, ¬ p module (.settings a) → ClaimSettings.SameFor a m.settings m'.settings) ∧
      (¬ p set .states → s'.moduleStates = s.moduleStates) := by
  have hstands : ∀ ref, v.Stands ref → w.Stands ref := by
    rintro ref ⟨b,hb⟩
    refine ⟨b, ?_⟩
    rwa [World.find, he.registered] at hb
  have hcm := he.content module
  have hcs := he.content set
  rw [hp.isModule] at hcm
  rw [hp.isSet] at hcs
  obtain ⟨m,hm,hma,hsame⟩ := hcm.module_back
  obtain ⟨s,hs,hsa,hstates⟩ := hcs.set_back.resolve_right hf
  have hpair : w.Pair module m set s :=
    ⟨hstands _ hp.moduleStands, hm, hstands _ hp.setStands, hs⟩
  exact ⟨m, s, hpair, hma, hsa, hsame, hstates⟩

/-- Edits of the settings of one set leave every other pair as it is. -/
theorem Bound.edits (hb : w.Bound) (hw : w.Placed) (ha : (w.content set).address? = some a)
    (he : Edits (fun ref k => ref = module ∧ k = .settings a) w v) :
    v.BoundBut fun module' set' => module' = module ∧ set' = set := by
  intro module' m' set' s' hp
  have hn : ∀ k, k = Aspect.founding ∨ k = .states → ¬ (set' = module ∧ k = .settings a) := by
    rintro k (rfl | rfl) ⟨_,h⟩ <;> cases h
  obtain ⟨m,s,hpw,hma,hsa,hsame,hstates⟩ := hp.before he (hn _ (.inl rfl))
  have hstates := hstates (hn _ (.inr rfl))
  by_cases hmodule : module' = module
  · by_cases haddress : s.address = a
    · left
      refine ⟨hmodule, hw.unique a set' set ?_ ?_ ha |>.symm⟩
      · rw [← haddress]
        exact (hpw.found hw).2
      · rw [hpw.isSet, ← haddress]
        rfl
    · right
      have hn : ¬ (module' = module ∧ Aspect.settings s.address = .settings a) := by
        rintro ⟨_,h⟩
        exact haddress (Aspect.settings.inj h)
      exact (hb _ _ _ _ hpw).same hma hsa (hsame _ hn) hstates
  · right
    exact (hb _ _ _ _ hpw).same hma hsa (hsame _ fun h => hmodule h.1) hstates

/-- A set that changes its state of one module leaves every other pair as it is. -/
theorem BoundBut.setState {but : Ref → Ref → Prop} (hb : w.BoundBut but) (hw : w.Placed)
    (hs : w.content set = .setToken s) (b : Address) (state : ModuleState) :
    (w.setContent set (.setToken (s.setModuleState b state))).BoundBut
      fun module' set' => but module' set' ∨ w.find b = some module' ∧ set' = set := by
  intro module' m set' s' hp
  have hl : set < w.objects.length := lt_of_content (by simp [hs])
  have hs' := hp.isSet
  rw [content_setContent] at hs'
  have hm : w.content module' = .claimModule m := by
    have hm := hp.isModule
    rw [content_setContent] at hm
    split at hm
    · cases hm
    · exact hm
  split at hs'
  · rename_i hset
    obtain ⟨rfl,_⟩ := hset
    cases hs'
    have hpw : w.Pair module' m set' s := ⟨hp.moduleStands, hm, hp.setStands, hs⟩
    rcases hb _ _ _ _ hpw with hbut | hheld
    · exact .inl (.inl hbut)
    · by_cases hmb : m.address = b
      · subst hmb
        exact .inl (.inr ⟨(hpw.found hw).1, rfl⟩)
      · right
        refine hheld.imp_right fun h => ?_
        simpa [SetToken.moduleState, SetToken.setModuleState, hmb] using h
  · exact (hb _ _ _ _ ⟨hp.moduleStands, hm, hp.setStands, hs'⟩).imp_left .inl

/-- What is brought back of a past world stands as it did then. -/
theorem Bound.restored (hb : w.Bound) (hw : w.Placed) (hl : w.Later v) :
    (v.restore w.shot).Bound := by
  intro module m set s hp
  have hback : ∀ ref, (v.restore w.shot).Stands ref → w.Stands ref ∧
      (v.restore w.shot).content ref = (w.content ref).redirect (v.moved w.shot) := by
    rintro ref ⟨b,hb⟩
    rw [find_restore] at hb
    refine ⟨⟨b, hb⟩, content_restore_shot (mem_values hb) ?_⟩
    exact Nat.lt_of_lt_of_le (hw.made b ref hb) hl.objects
  obtain ⟨hms,hm⟩ := hback module hp.moduleStands
  obtain ⟨hss,hs⟩ := hback set hp.setStands
  rw [hp.isModule] at hm
  rw [hp.isSet] at hs
  cases hcm : w.content module with
  | claimModule m₀ =>
    cases hcs : w.content set with
    | setToken s₀ =>
      rw [hcm] at hm
      rw [hcs] at hs
      cases hm
      cases hs
      exact hb module m₀ set s₀ ⟨hms, hcm, hss, hcs⟩
    | _ =>
      rw [hcs] at hs
      cases hs
  | _ =>
    rw [hcm] at hm
    cases hm

end World

section Untouched

/-- What stands after a change of structure stood before it, or it has just been made at a free
account. -/
theorem StructureChange.standing {ref : Ref} (h : StructureChange w v) (hw : w.Placed) (hf : v.Fresh)
    (hs : v.Stands ref) (ha : (v.content ref).address? = some a) :
    (w.Stands ref ∧ v.content ref = w.content ref) ∨
      ((v.content ref).Newborn ∧ ¬ w.Drawn a) := by
  obtain ⟨b,hb⟩ := hs
  cases h with
  | @created make hn hmake =>
    rw [World.find_create] at hb
    rw [World.content_create_eq] at ha ⊢
    split at hb
    · cases hb
      rw [if_pos rfl, hmake] at ha
      cases ha
      rw [if_pos rfl]
      exact .inr ⟨hn _, hf.not_drawn⟩
    · rw [if_neg (Nat.ne_of_lt (hw.made b ref hb))]
      exact .inl ⟨⟨b, hb⟩, rfl⟩
  | laid m =>
    rw [World.content_allocate, if_neg (Nat.ne_of_lt (hw.made b ref hb))]
    exact .inl ⟨⟨b, hb⟩, rfl⟩
  | @placed placed m c hm hc =>
    rw [World.find_register] at hb
    split at hb
    · cases hb
      have hnone : (w.content ref).address? = none := by
        rw [hm]
        rfl
      exact absurd (hnone.symm.trans ha) (by simp)
    · exact .inl ⟨⟨b, hb⟩, rfl⟩
  | _ => exact .inl ⟨⟨b, hb⟩, rfl⟩

/-- Settings stay as they are, and states too but for those of a set that is new: nothing was kept
for its address. -/
theorem Effect.bound (h : Effect p w v) (hw : w.Placed) (hf : v.Fresh) (hb : w.Bound)
    (hsettings : ∀ ref a, ¬ p ref (.settings a))
    (hnew : ∀ ref, p ref .states ∨ p ref .founding → w.objects.length ≤ ref) : v.Bound := by
  obtain ⟨u,hd,he⟩ := h
  have hl := World.Later.edits he
  have hfu : u.Fresh := hf.before hl.accounts hl.drawn
  intro module m' set s' hp
  have hcm := he.content module
  have hcs := he.content set
  rw [hp.isModule] at hcm
  rw [hp.isSet] at hcs
  obtain ⟨m,hm,hma,hsame⟩ := hcm.module_back
  have hsame := hsame s'.address (hsettings _ _)
  have hstands : ∀ ref, v.Stands ref → u.Stands ref := by
    rintro ref ⟨b,hb⟩
    refine ⟨b, ?_⟩
    rwa [World.find, he.registered] at hb
  have hsa : (u.content set).address? = some s'.address := by
    rw [← he.address, hp.isSet]
    rfl
  rcases hd.standing hw hfu (hstands _ hp.moduleStands) (by rw [hm]; rfl) with ⟨hwm,hcm⟩ | ⟨hn,_⟩
  · rw [hm] at hcm
    rcases hd.standing hw hfu (hstands _ hp.setStands) hsa with ⟨hws,hcs'⟩ | ⟨_,hfree⟩
    · obtain ⟨b,hb'⟩ := hws
      have hold : ¬ (p set .states ∨ p set .founding) :=
        fun h => absurd (hw.made b set hb') (Nat.not_lt.mpr (hnew set h))
      obtain ⟨s,hs,hsa,hstates⟩ := hcs.set_back.resolve_right fun h => hold (.inr h)
      have hheld := hb module m set s ⟨hwm, hcm.symm, ⟨b, hb'⟩, hcs'.symm.trans hs⟩
      exact hheld.same hma hsa (hsa ▸ hsame) (hstates fun h => hold (.inl h))
    · exact .inl (((hw.known module m _ hcm.symm).resolve_left hfree).same hsame)
  · rw [hm] at hn
    cases hn
    exact .inl (ClaimSettings.Idle.same ⟨rfl, rfl⟩ hsame)

/-- What is brought back is what stood before. -/
theorem Undone.bound (h : Undone p w v) (hw : w.Placed) (hb : w.Bound) : v.Bound := by
  obtain ⟨u,hu,rfl⟩ := h
  have hback := hu.elsewhere w.snapshots
  have hl : w.Later { u with snapshots := w.snapshots } := .edits hback
  exact hb.restored hw hl

end Untouched

section Touched
variable {caller given : Value}

theorem stateOf_ok {state : ModuleState} (h : (stateOf module set w).1 = .ok state) :
    ∃ m s, w.content module = .claimModule m ∧ w.content set = .setToken s ∧
      state = s.moduleState m.address := by
  obtain ⟨m,hm,h⟩ := (moduleAt_reads module).bind_ok ((stateOf_reads module set).run_ok h)
  obtain ⟨s,a,hs,ha,hstate⟩ := moduleState_ok (congrArg Prod.fst h)
  cases (Address.ofValue_toValue m.address).symm.trans ha
  exact ⟨m, s, moduleAt_ok hm, hs, hstate⟩

/-- A manager changes settings of sets only that have the module initialized. -/
theorem managed_bound {f : Ref → Run Unit} (hignores : ∀ set, IgnoresSnapshots (f set))
    (hedits : ∀ {p : Ref → Aspect → Prop} {w : World} (set : Ref),
      (∀ a, (w.content set).address? = some a → p module (.settings a)) → EditsAt p (f set) w)
    (hw : w.Placed) (hb : w.Bound)
    (h : atomically (managedSet module caller given >>= f) w = (.ok x, v)) : v.Bound := by
  obtain ⟨set,hset,hf⟩ := managed_ok hignores h
  obtain ⟨m₀,s₀,hm₀,hs₀,hstate⟩ := stateOf_ok (onlyInitializedSet_ok (managedSet_ok hset).2).2
  have ha : (w.content set).address? = some s₀.address := by
    rw [hs₀]
    rfl
  have he : Edits (fun ref k => ref = module ∧ k = .settings s₀.address) w v := by
    refine (hedits set fun a h => ⟨rfl, ?_⟩).reached hf
    rw [Option.some.inj (h.symm.trans ha)]
  apply (hb.edits hw ha he).bound
  rintro module' m' set' s' hp ⟨rfl,rfl⟩
  have hn : ∀ k, k = Aspect.founding ∨ k = .states →
      ¬ (set' = module' ∧ k = .settings s₀.address) := by
    rintro k (rfl | rfl) ⟨_,h⟩ <;> cases h
  obtain ⟨m,s,hpw,hma,hsa,_,hstates⟩ := hp.before he (hn _ (.inl rfl))
  cases hm₀.symm.trans hpw.isModule
  cases hs₀.symm.trans hpw.isSet
  right
  rw [SetToken.moduleState, hstates (hn _ (.inr rfl)), hma]
  exact hstate.symm

/-- A set that is forgotten is one for which nothing is kept. -/
theorem clear_bound {c : ClaimSettings} (hw : w.Placed) (hb : w.Bound)
    (ha : (w.content set).address? = some a) (hm : w.content module = .claimModule m)
    (hc : m.settings.clear a = .ok c) :
    (w.setContent module (.claimModule { m with settings := c })).Bound := by
  have he : Edits (fun ref k => ref = module ∧ k = .settings a) w
      (w.setContent module (.claimModule { m with settings := c })) := by
    refine .single (.mk ⟨rfl, rfl⟩ ?_)
    rw [hm]
    exact .settings (.cleared hc)
  apply (hb.edits hw ha he).bound
  rintro module' m' set' s' hp ⟨rfl,rfl⟩
  have hl : module' < w.objects.length := World.lt_of_content (by simp [hm])
  have hm' := hp.isModule
  rw [World.content_setContent, if_pos ⟨rfl, hl⟩] at hm'
  cases hm'
  have hs' : (w.content set').address? = some s'.address := by
    rw [← he.address, hp.isSet]
    rfl
  cases ha.symm.trans hs'
  have hforgotten := ClaimSettings.clear_views hc
  exact .inl ⟨by simp [hforgotten.pools], by simp [hforgotten.anyone]⟩

/-- The state that a set comes to have of a module is good as long as the module, if it stands
there, holds to it. -/
theorem state_bound {but : Ref → Ref → Prop} {state : ModuleState} (hw : w.Placed)
    (hb : w.BoundBut but) (hs : w.content set = .setToken s)
    (hbut : ∀ module m set', w.content module = .claimModule m → but module set' →
      m.address = b ∧ set' = set)
    (hheld : ∀ module m, w.Pair module m set s → m.address = b →
      m.settings.Idle s.address ∨ state = .initialized) :
    (w.setContent set (.setToken (s.setModuleState b state))).Bound := by
  have hl : set < w.objects.length := World.lt_of_content (by simp [hs])
  apply (hb.setState hw hs b state).bound
  intro module m set' s' hp h
  have hm : w.content module = .claimModule m := by
    have hm := hp.isModule
    rw [World.content_setContent] at hm
    split at hm
    · cases hm
    · exact hm
  obtain ⟨rfl,rfl⟩ : m.address = b ∧ set' = set := by
    rcases h with h | ⟨hfind,hset⟩
    · exact hbut _ _ _ hm h
    · exact ⟨hw.own b module m.address hfind (by rw [hm]; rfl), hset⟩
  have hs' := hp.isSet
  rw [World.content_setContent, if_pos ⟨rfl, hl⟩] at hs'
  cases hs'
  refine (hheld module m ⟨hp.moduleStands, hm, hp.setStands, hs⟩ rfl).imp_right fun h => ?_
  rw [h]
  simp [SetToken.moduleState, SetToken.setModuleState]

theorem World.Bound.state {state : ModuleState} (hb : w.Bound) (hw : w.Placed)
    (hs : w.content set = .setToken s)
    (hheld : ∀ module m, w.Pair module m set s → m.address = b →
      m.settings.Idle s.address ∨ state = .initialized) :
    (w.setContent set (.setToken (s.setModuleState b state))).Bound :=
  state_bound hw (hb.but fun _ _ => False) hs (fun _ _ _ _ h => h.elim) hheld

/-- Of a module that is not initialized nothing is kept that could be left behind. -/
theorem addModule_bound {outcome : Except Fault Unit} (hw : w.Placed) (hb : w.Bound)
    (h : addModule set caller given w = (outcome, v)) : v.Bound := by
  rcases addModule_ends h with rfl | ⟨s,b,_,hd,hnone,_,_,rfl⟩
  · exact hb
  · refine hb.state hw hd.set fun module m hp hmb => ?_
    have hheld := hb _ _ _ _ hp
    rw [Held, hmb, hnone] at hheld
    exact .inl (hheld.resolve_right nofun)

theorem initializeModule_bound {outcome : Except Fault Unit} (hw : w.Placed) (hb : w.Bound)
    (h : initializeModule set caller w = (outcome, v)) : v.Bound := by
  rcases initializeModule_ends h with ⟨rfl,_⟩ | ⟨s,b,hs,_,_,_,rfl⟩
  · exact hb
  · exact hb.state hw hs fun _ _ _ _ => .inr rfl

/-- The set takes the module as initialized after everything else is done. -/
theorem activate_bound {anyone : Bool} {pools : List Value} {names : List String} (hw : w.Placed)
    (hb : w.Bound) (h : activate module caller given anyone pools names w = (.ok x, v)) :
    v.Bound := by
  obtain ⟨set,u,a,m,_,ha,hadd,hm,hinit⟩ := activate_ok h
  let q : Ref → Aspect → Prop := fun ref k => ref = module ∧ k = .settings a
  have hadded : Edits q w u := by
    refine (addAll_edits pools names fun c hc => ⟨rfl, ?_⟩).reached hadd
    rw [Option.some.inj (hc.symm.trans ha)]
  have hopened : Edits q w (u.setContent module
      (.claimModule { m with settings := m.settings.setAnyone a anyone })) := by
    refine hadded.tail (.mk ⟨rfl, rfl⟩ ?_)
    rw [hm]
    exact .settings (.opened m.settings anyone)
  have hplaced : (u.setContent module
      (.claimModule { m with settings := m.settings.setAnyone a anyone })).Placed := by
    refine hw.edits hopened fun ref b h => ?_
    cases h.2
    exact hw.drawn set a ha
  have hl : module < u.objects.length := World.lt_of_content (by simp [hm])
  rcases initializeModule_ends hinit with ⟨_,hn⟩ | ⟨s,b,hs,hbm,_,_,rfl⟩
  · exact absurd rfl hn
  · cases (Address.ofValue_toValue m.address).symm.trans hbm
    refine state_bound hplaced (hb.edits hw ha hopened) hs ?_ fun _ _ _ _ => .inr rfl
    rintro module' m' set' hm' ⟨rfl,rfl⟩
    rw [World.content_setContent, if_pos ⟨rfl, hl⟩] at hm'
    cases hm'
    exact ⟨rfl, rfl⟩

/-- The module has forgotten the set when the set lets it go. -/
theorem removeModule_bound (hw : w.Placed) (hb : w.Bound)
    (hs : Settled (removeModule set caller given w).1) :
    (removeModule set caller given w).2.Bound := by
  cases hrun : removeModule set caller given w with
  | mk outcome v =>
    rw [hrun] at hs
    rcases removeModule_ends hrun with ⟨rfl,_⟩ |
      ⟨s,b,module,⟨hset,_,_⟩,_,hfind,⟨fault,rfl,hforget⟩ | ⟨m,c,hm,hc,_,rfl⟩⟩
    · exact hb
    · obtain ⟨reason,rfl⟩ := hs fault rfl
      exact Undone.bound (forgetSet_block.refused hforget) hw hb
    · have ha : (w.content set).address? = some s.address := by
        rw [hset]
        rfl
      have hne : set ≠ module := by
        rintro rfl
        rw [hset] at hm
        cases hm
      have hl : module < w.objects.length := World.lt_of_content (by simp [hm])
      have hcleared := clear_bound hw hb ha hm hc
      have he : Edits (fun ref k => ref = module ∧ k = .settings s.address) w
          (w.setContent module (.claimModule { m with settings := c })) := by
        refine .single (.mk ⟨rfl, rfl⟩ ?_)
        rw [hm]
        exact .settings (.cleared hc)
      have hplaced : (w.setContent module (.claimModule { m with settings := c })).Placed := by
        refine hw.edits he fun ref d h => ?_
        cases h.2
        exact hw.drawn set _ ha
      have hset' : (w.setContent module (.claimModule { m with settings := c })).content set =
          .setToken s := by
        rw [World.content_setContent, if_neg fun h => hne h.1, hset]
      refine hcleared.state hplaced hset' fun module' m' hp hmb => .inl ?_
      have hfound := (hp.found hplaced).1
      rw [hmb] at hfound
      cases hfind.symm.trans hfound
      have hm' := hp.isModule
      rw [World.content_setContent, if_pos ⟨rfl, hl⟩] at hm'
      cases hm'
      have hforgotten := ClaimSettings.clear_views hc
      exact ⟨by simp [hforgotten.pools], by simp [hforgotten.anyone]⟩

/-- A call of a module that succeeds or is refused as a whole. -/
theorem Block.bound {f : Footprint} {call : Run Unit} (h : Block f call) (hw : w.Placed)
    (hb : w.Bound) (hs : Settled (call w).1) (hdone : ∀ v, call w = (.ok (), v) → v.Bound) :
    (call w).2.Bound := by
  rcases h.settled hs with ⟨_,v,hrun⟩ | ⟨_,v,hrun,hundone⟩
  · rw [hrun]
    exact hdone v hrun
  · rw [hrun]
    exact hundone.bound hw hb

theorem forgetSet_bound (hw : w.Placed) (hb : w.Bound)
    (h : forgetSet module given w = (.ok x, v)) : v.Bound := by
  obtain ⟨set,a,m,c,_,ha,hm,hc,rfl⟩ := forgetSet_ok h
  exact clear_bound hw hb ha hm hc

end Touched

theorem settled_answer {a : Run α} {f : α → β}
    (h : Settled ((a >>= fun x => pure (f x)) w).1) : Settled (a w).1 := by
  rw [answer_run] at h
  intro fault hf
  exact h fault (by rw [hf]; rfl)

/-- Only calls about modules and their settings need a look at what they do. -/
theorem Operation.bound {o : Operation} (hp : o.Proper w) (hn : ∀ id, o ≠ .revert id)
    (hs : Settled (o.run w).1) (hw : w.Placed) (hf : (o.run w).2.Fresh) (hb : w.Bound) :
    (o.run w).2.Bound := by
  have elsewhere (hsettings : ∀ ref a, ¬ o.touches w ref (.settings a))
      (hnew : ∀ ref, o.touches w ref .states ∨ o.touches w ref .founding →
        w.objects.length ≤ ref) : (o.run w).2.Bound := by
    rcases (o.effect hp hn).settled hs with h | h
    · exact h.bound hw hf hb hsettings hnew
    · exact h.bound hw hb
  have answered {call : Run Unit} (hrun : o.run = done call) (h : (call w).2.Bound) :
      (o.run w).2.Bound := by
    rw [hrun, done, answer_run]
    exact h
  have managing {module : Ref} {caller given : Value} {change : Ref → Run Unit}
      (hignores : ∀ set, IgnoresSnapshots (change set))
      (hedits : ∀ {p : Ref → Aspect → Prop} {w : World} (set : Ref),
        (∀ a, (w.content set).address? = some a → p module (.settings a)) →
        EditsAt p (change set) w)
      (hrun : o.run = done (atomically (managedSet module caller given >>= change))) :
      (o.run w).2.Bound := by
    rw [hrun] at hs
    refine answered hrun ((managed_block hedits).bound hw hb (settled_answer hs) fun v h => ?_)
    exact managed_bound hignores hedits hw hb h
  cases o with
  | addModule set caller module => exact answered rfl (addModule_bound hw hb rfl)
  | initializeModule set caller => exact answered rfl (initializeModule_bound hw hb rfl)
  | removeModule set caller module =>
    exact answered rfl (removeModule_bound hw hb (settled_answer hs))
  | activate module caller set anyone pools names =>
    exact answered rfl ((activate_block anyone pools names).bound hw hb (settled_answer hs)
      fun _ h => activate_bound hw hb h)
  | updateAnyoneClaim module caller set anyone =>
    exact managing (setAnyone_ignoresSnapshots module · anyone)
      (fun _ hp => setAnyone_edits hp anyone) rfl
  | addClaim module caller set pool name =>
    exact managing (addOne_ignoresSnapshots module · pool name)
      (fun _ hp => addOne_edits pool name hp) rfl
  | batchAddClaim module caller set pools names =>
    exact managing (addAll_ignoresSnapshots module · pools names)
      (fun _ hp => addAll_edits pools names hp) rfl
  | removeClaim module caller set pool name =>
    exact managing (removeOne_ignoresSnapshots module · pool name)
      (fun _ hp => removeOne_edits pool name hp) rfl
  | batchRemoveClaim module caller set pools names =>
    exact managing (removeAll_ignoresSnapshots module · pools names)
      (fun _ hp => removeAll_edits pools names hp) rfl
  | forgetSet module set =>
    exact answered rfl (forgetSet_block.bound hw hb (settled_answer hs)
      fun _ h => forgetSet_bound hw hb h)
  | _ => exact elsewhere (by simp [touches, fresh, claimed]) (by simp [touches, fresh, claimed])

end Basketry.Chain
