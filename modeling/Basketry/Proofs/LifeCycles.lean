import Basketry.Proofs.ModuleSettings
import Basketry.Proofs.Positions

namespace Basketry.Chain
open Relation

variable {w v : World} {set : Ref} {s s' : SetToken} {caller given : Value} {a : Address}
  {o : Operation}

/-- The calls that move the module at `a` on, from one state to the next. -/
inductive StateChange (w : World) (set : Ref) (s : SetToken) (a : Address) :
    Operation → ModuleState → ModuleState → Prop
  | added {caller given : Value} {k : Controller} (hd : Directs w set caller given s a)
      (hk : w.content s.controller = .controller k) (hm : k.isModule a = true) :
      StateChange w set s a (.addModule set caller given) .none .pending
  | initialized {caller : Value} (hc : Address.ofValue caller = .ok a) :
      StateChange w set s a (.initializeModule set caller) .pending .initialized
  /-- A claim module makes the call in its own name. -/
  | activated {module : Ref} {m : ClaimModule} {caller given : Value} {anyone : Bool}
      {pools : List Value} {names : List String} (hm : w.content module = .claimModule m)
      (ha : m.address = a) (hs : Manages caller given w set) :
      StateChange w set s a (.activate module caller given anyone pools names) .pending .initialized
  | removed {caller given : Value} (hd : Directs w set caller given s a) :
      StateChange w set s a (.removeModule set caller given) .initialized .none

/-- What a call may make of a set. -/
structure LivesOn (w : World) (o : Operation) (set : Ref) (s s' : SetToken) : Prop where
  states : ∀ a, s'.moduleState a = s.moduleState a ∨
    StateChange w set s a o (s.moduleState a) (s'.moduleState a)
  manager : s'.profile.manager = s.profile.manager ∨ ∃ caller given,
    o = .setManager set caller given ∧ Address.ofValue caller = .ok s.profile.manager ∧
      Address.ofValue given = .ok s'.profile.manager

/-- The calls that a set takes from its initialized modules only: the set and the caller. -/
def Operation.moduleOnly? : Operation → Option (Ref × Value)
  | .invoke set caller _ _ | .addComponent set caller _ | .removeComponent set caller _
  | .setUnit set caller _ _ | .recalculate set caller _ _ => some (set, caller)
  | _ => none

/-- A call that keeps to the rules of every set. -/
structure Operation.Lawful (w : World) (o : Operation) : Prop where
  sets : ∀ set s, w.content set = .setToken s →
    ∃ s', (o.run w).2.content set = .setToken s' ∧ LivesOn w o set s s'
  outsiders : ∀ set caller, o.moduleOnly? = some (set, caller) →
    (Chain.moduleState set caller w).1 ≠ .ok .initialized → (o.run w).2 = w

section Outsiders

/-- No aspect of any object. -/
abbrev nothing : Ref → Aspect → Prop := fun _ _ => False

theorem Edits.nothing (h : Edits nothing w v) : v = w := by
  induction h with
  | refl => rfl
  | tail _ he _ =>
    cases he with
    | mk hp => exact hp.elim

theorem onlyModule_barred (h : (moduleState set caller w).1 ≠ .ok .initialized) :
    ∃ fault, (onlyModule set caller w).1 = .error fault := by
  cases hm : (onlyModule set caller w).1 with
  | error fault => exact ⟨fault, rfl⟩
  | ok x =>
    have hrun := (onlyModule_reads set caller).run_ok hm
    obtain ⟨s,hs,hrun⟩ := (setAt_reads set).bind_ok hrun
    obtain ⟨a,ha,hrun⟩ := (Reads.lift (Address.ofValue caller)).bind_ok hrun
    by_cases hi : s.moduleState a = .initialized
    · rw [moduleState_run (setAt_ok hs) ha, hi] at h
      exact absurd rfl h
    · rw [SetToken.onlyModule, if_neg hi] at hrun
      cases hrun

/-- The check comes first everywhere but in a recalculation, which reads and computes and then makes
the others' calls. -/
theorem Operation.outsider_idle (ho : o.moduleOnly? = some (set, caller))
    (h : (Chain.moduleState set caller w).1 ≠ .ok .initialized) : (o.run w).2 = w := by
  obtain ⟨fault,hp⟩ := onlyModule_barred h
  have hfirst : ∀ {α : Type} (f : Unit → Run α),
      EditsAt nothing (onlyModule set caller >>= f) w := by
    intro α f
    unfold EditsAt
    rw [barred_run hp f]
  have hlist : ∀ component unit, EditsAt nothing (listComponent set caller component unit) w := by
    intro component unit
    refine .read (isComponent_reads set component) fun listed _ => .ite (fun _ => ?_) fun _ => ?_
    · refine (hfirst _).bind fun _ v hv => ?_
      rw [barred_run hp] at hv
      cases hv
    · refine .ite (fun _ => (hfirst _).bind fun _ v hv => ?_) fun _ => ?_
      · rw [barred_run hp] at hv
        cases hv
      · exact .ite (fun _ => hfirst _) fun _ => (Reads.pure _).edits
  refine Edits.nothing (w := w) ?_
  cases o with
  | invoke =>
    cases ho
    exact (hfirst _).answer _
  | addComponent =>
    cases ho
    exact (hfirst _).done
  | removeComponent =>
    cases ho
    exact (hfirst _).done
  | setUnit =>
    cases ho
    exact (hfirst _).done
  | recalculate _ _ component before =>
    cases ho
    refine EditsAt.answer ?_ _
    refine .read (setAddress_reads set) fun _ _ => ?_
    refine .read (balanceOf_reads component _) fun _ _ => ?_
    refine .read (positionUnit_reads set component) fun _ _ => ?_
    refine .read (setAt_reads set) fun _ _ => ?_
    refine .read (.lift _) fun unit _ => ?_
    exact (hlist component unit).answer _
  | _ => cases ho

end Outsiders

section Kept

/-- A set stays a set, and what no aspect touches stays as it is. -/
theorem Grown.setToken {q : Aspect → Prop} {c : Contract} (h : Grown q (.setToken s) c) :
    ∃ s', c = .setToken s' ∧ (¬ q .states → s'.moduleStates = s.moduleStates) ∧
      (¬ q .manager → s'.profile.manager = s.profile.manager) := by
  induction h with
  | refl => exact ⟨s, rfl, fun _ => rfl, fun _ => rfl⟩
  | tail _ hs ih =>
    obtain ⟨s',rfl,hstates,hmanager⟩ := ih
    rcases hs with ⟨k,hq,hc⟩ | ⟨f,rfl⟩
    · cases hc with
      | basket => exact ⟨_, rfl, hstates, hmanager⟩
      | state => exact ⟨_, rfl, fun hn => absurd hq hn, hmanager⟩
      | manager => exact ⟨_, rfl, hstates, fun hn => absurd hq hn⟩
    · exact ⟨_, rfl, hstates, hmanager⟩

theorem Moves.setToken {p : Ref → Aspect → Prop} (h : Moves p w.snapshots.length w v)
    (hs : w.content set = .setToken s) :
    ∃ s', v.content set = .setToken s' ∧ (¬ p set .states → s'.moduleStates = s.moduleStates) ∧
      (¬ p set .manager → s'.profile.manager = s.profile.manager) := by
  have hlt : set < w.objects.length := World.lt_of_content (by simp [hs])
  have hgrown := (h.since (Nat.le_refl _)).contents set hlt
  rw [hs] at hgrown
  exact hgrown.setToken

theorem Moves.state_kept {p : Ref → Aspect → Prop} (h : Moves p w.snapshots.length w v)
    (hn : ¬ p set .states) (hs : w.content set = .setToken s) (hs' : v.content set = .setToken s')
    (a : Address) : s'.moduleState a = s.moduleState a := by
  obtain ⟨t,ht,hstates,_⟩ := Moves.setToken h hs
  cases ht.symm.trans hs'
  rw [SetToken.moduleState, hstates hn]
  rfl

theorem Operation.set_kept (hn : ∀ id, o ≠ .revert id) (hs : w.content set = .setToken s) :
    ∃ s', (o.run w).2.content set = .setToken s' ∧
      (¬ o.touches w set .states → s'.moduleStates = s.moduleStates) ∧
      (¬ o.touches w set .manager → s'.profile.manager = s.profile.manager) := by
  have hlt : set < w.objects.length := World.lt_of_content (by simp [hs])
  have hgrown := o.grown hn hlt
  rw [hs] at hgrown
  exact hgrown.setToken

end Kept

section States
variable {before after : ModuleState}

/-- One module is moved on, and the others stay in the states that they are in. -/
theorem StateChange.states (h : StateChange w set s a o before after)
    (hbefore : s.moduleState a = before)
    (hafter : ∀ b, s'.moduleState b = (s.setModuleState a after).moduleState b) (b : Address) :
    s'.moduleState b = s.moduleState b ∨
      StateChange w set s b o (s.moduleState b) (s'.moduleState b) := by
  rw [hafter]
  by_cases hb : b = a
  · subst hb
    have hset : (s.setModuleState b after).moduleState b = after := by
      simp [SetToken.setModuleState, SetToken.moduleState]
    rw [hset, hbefore]
    exact .inr h
  · left
    simp [SetToken.setModuleState, SetToken.moduleState, hb]

theorem addModule_states (hs : w.content set = .setToken s)
    (hs' : (addModule set caller given w).2.content set = .setToken s') (a : Address) :
    s'.moduleState a = s.moduleState a ∨
      StateChange w set s a (.addModule set caller given) (s.moduleState a) (s'.moduleState a) := by
  cases hrun : addModule set caller given w with
  | mk outcome v =>
    rw [hrun] at hs'
    obtain rfl | ⟨t,b,k,hd,hnone,hk,hm,rfl⟩ := addModule_ends hrun
    · cases hs.symm.trans hs'
      exact .inl rfl
    · cases hs.symm.trans hd.set
      cases (World.content_setContent_self hs nofun).symm.trans hs'
      exact (StateChange.added hd hk hm).states hnone (fun _ => rfl) a

theorem initializeModule_states (hs : w.content set = .setToken s)
    (hs' : (initializeModule set caller w).2.content set = .setToken s') (a : Address) :
    s'.moduleState a = s.moduleState a ∨
      StateChange w set s a (.initializeModule set caller) (s.moduleState a) (s'.moduleState a) := by
  cases hrun : initializeModule set caller w with
  | mk outcome v =>
    rw [hrun] at hs'
    obtain ⟨rfl,_⟩ | ⟨t,b,ht,hb,hpending,_,rfl⟩ := initializeModule_ends hrun
    · cases hs.symm.trans hs'
      exact .inl rfl
    · cases hs.symm.trans ht
      cases (World.content_setContent_self hs nofun).symm.trans hs'
      exact (StateChange.initialized hb).states hpending (fun _ => rfl) a

/-- A module that fails to forget the set has not come to the set. -/
theorem removeModule_states (hs : w.content set = .setToken s)
    (hs' : (removeModule set caller given w).2.content set = .setToken s') (a : Address) :
    s'.moduleState a = s.moduleState a ∨
      StateChange w set s a (.removeModule set caller given) (s.moduleState a) (s'.moduleState a) := by
  cases hrun : removeModule set caller given w with
  | mk outcome v =>
    rw [hrun] at hs'
    obtain ⟨rfl,_⟩ | ⟨t,b,module,hd,hinitialized,_,⟨fault,_,hforget⟩ | ⟨m,c,hm,_,_,rfl⟩⟩ :=
      removeModule_ends hrun
    · cases hs.symm.trans hs'
      exact .inl rfl
    · have hmoves : Moves (named module (.object set) w) w.snapshots.length w
          (forgetSet module (.object set) w).2 := forgetSet_block.moves w (Nat.le_refl _)
      rw [hforget] at hmoves
      exact .inl (Moves.state_kept hmoves (fun ⟨_,_,_,_,_,hk⟩ => by cases hk) hs hs' a)
    · cases hs.symm.trans hd.set
      have hne : set ≠ module := by
        rintro rfl
        rw [hs] at hm
        cases hm
      have hkept : (w.setContent module (.claimModule { m with settings := c })).content set =
          .setToken s := (World.content_setContent_of_ne hne _).trans hs
      cases (World.content_setContent_self hkept nofun).symm.trans hs'
      exact (StateChange.removed hd).states hinitialized (fun _ => rfl) a

section Activation
variable {module : Ref} {anyone : Bool} {pools : List Value} {names : List String}

/-- A module that fails to be activated has not come to the set either: the set's own step is the last
one. -/
theorem activate_failed {fault : Fault}
    (h : activate module caller given anyone pools names w = (.error fault, v)) :
    Moves (managed module caller given w) w.snapshots.length w v := by
  have hedits : EditsAt (managed module caller given w)
      (arrange module caller given anyone pools names) w.snapshot.2 :=
    arrange_edits anyone pools names fun set a hm ha => ⟨rfl, set, a, hm.before, ha, rfl⟩
  rw [activate_eq, atomically_run] at h
  have hbody : ∀ {fault u}, (arrange module caller given anyone pools names >>= fun x =>
      initializeModule x.1 x.2.toValue) w.snapshot.2 = (.error fault, u) →
      Edits (managed module caller given w) w.snapshot.2 u := by
    intro fault u hu
    rw [bind_run] at hu
    cases harranged : arrange module caller given anyone pools names w.snapshot.2 with
    | mk outcome t =>
      have ht := hedits.reached harranged
      rw [harranged] at hu
      cases outcome with
      | error fault' =>
        cases hu
        exact ht
      | ok x =>
        obtain ⟨rfl,_⟩ | ⟨_,_,_,_,_,he,_⟩ := initializeModule_ends hu
        · exact ht
        · cases he
  cases hu : (arrange module caller given anyone pools names >>= fun x =>
      initializeModule x.1 x.2.toValue) w.snapshot.2 with
  | mk outcome u =>
    rw [hu] at h
    cases outcome with
    | ok x =>
      rw [World.settle_ok] at h
      cases h
    | error fault' =>
      have hmoves : Moves (managed module caller given w) w.snapshots.length w u :=
        ReflTransGen.head (.taken w) (hbody hu).moves
      have hsettled := hmoves.trans
        (World.settle_moves (α := Unit) (.error fault') (Nat.le_refl w.snapshots.length))
      rw [h] at hsettled
      exact hsettled

theorem activate_states (hs : w.content set = .setToken s)
    (hs' : (activate module caller given anyone pools names w).2.content set = .setToken s')
    (ht : Manages caller given w set) (a : Address) :
    s'.moduleState a = s.moduleState a ∨ StateChange w set s a
      (.activate module caller given anyone pools names) (s.moduleState a) (s'.moduleState a) := by
  cases hrun : activate module caller given anyone pools names w with
  | mk outcome v =>
    rw [hrun] at hs'
    cases outcome with
    | error fault =>
      have hmoves := activate_failed hrun
      exact .inl (Moves.state_kept hmoves (fun ⟨_,_,_,_,_,hk⟩ => by cases hk) hs hs' a)
    | ok x =>
      obtain ⟨set',u,b,m,hmanages,_,hadd,hm,hinit⟩ := activate_ok hrun
      cases hmanages.1.symm.trans ht.1
      have hedits : Edits (fun ref k => ref = module ∧ ∃ a, k = .settings a) w u :=
        (addAll_edits pools names fun a _ => ⟨rfl, a, rfl⟩).reached hadd
      have hmodule := hedits.content module
      rw [hm] at hmodule
      obtain ⟨m₀,hm₀,haddress,_⟩ := hmodule.module_back
      have hset := Altered.grown (hedits.content set)
      rw [hs] at hset
      obtain ⟨t,ht',hstates,_⟩ := Grown.setToken hset
      have hstates : t.moduleStates = s.moduleStates := hstates fun ⟨_,_,hk⟩ => by cases hk
      have hne : set ≠ module := by
        rintro rfl
        rw [ht'] at hm
        cases hm
      have hkept : (u.setContent module
          (.claimModule { m with settings := m.settings.setAnyone b anyone })).content set =
            .setToken t := (World.content_setContent_of_ne hne _).trans ht'
      obtain ⟨_,hfailed⟩ | ⟨t',c,ht',hc,hpending,_,rfl⟩ := initializeModule_ends hinit
      · exact absurd rfl hfailed
      · cases hkept.symm.trans ht'
        cases (Address.ofValue_toValue m.address).symm.trans hc
        cases (World.content_setContent_self hkept nofun).symm.trans hs'
        refine (StateChange.activated hm₀ haddress.symm ht).states ?_ (fun b => ?_) a
        · rw [← hpending, SetToken.moduleState, SetToken.moduleState, hstates]
        · simp only [SetToken.moduleState, SetToken.setModuleState, hstates]

end Activation

theorem setManager_manager (hs : w.content set = .setToken s)
    (hs' : (setManager set caller given w).2.content set = .setToken s') :
    s'.profile.manager = s.profile.manager ∨ Address.ofValue caller = .ok s.profile.manager ∧
      Address.ofValue given = .ok s'.profile.manager := by
  cases hrun : setManager set caller given w with
  | mk outcome v =>
    rw [hrun] at hs'
    obtain ⟨_,_,_,rfl⟩ | ⟨_,hmanager,h⟩ := (onlyManager_reads set caller).bind_cases hrun
    · cases hs.symm.trans hs'
      exact .inl rfl
    obtain ⟨_,_,_,rfl⟩ | ⟨b,hb,h⟩ := (Reads.lift (Address.ofValue given)).bind_cases h
    · cases hs.symm.trans hs'
      exact .inl rfl
    rw [content_bind, hs] at h
    cases h
    cases (World.content_setContent_self hs nofun).symm.trans hs'
    exact .inr ⟨onlyManager_ok hs hmanager, hb⟩

end States

/-- Only four calls come to the states of a set that there is. -/
theorem Operation.states_touched (hs : w.content set = .setToken s) (h : o.touches w set .states) :
    (∃ caller given, o = .addModule set caller given) ∨
      (∃ caller, o = .initializeModule set caller) ∨
      (∃ caller given, o = .removeModule set caller given) ∨
      ∃ module caller given anyone pools names,
        o = .activate module caller given anyone pools names ∧ Manages caller given w set := by
  have hlt : set < w.objects.length := World.lt_of_content (by simp [hs])
  have hnew : ¬ fresh w set .states := fun hf => absurd hf.1 (Nat.not_le.mpr hlt)
  cases o with
  | addModule set' caller given =>
    obtain ⟨rfl,_⟩ := h
    exact .inl ⟨caller, given, rfl⟩
  | initializeModule set' caller =>
    obtain ⟨rfl,_⟩ := h
    exact .inr (.inl ⟨caller, rfl⟩)
  | removeModule set' caller given =>
    obtain ⟨_,_,_,_,_,_,_,hk⟩ | ⟨rfl,_⟩ := h
    · cases hk
    · exact .inr (.inr (.inl ⟨caller, given, rfl⟩))
  | activate module caller given anyone pools names =>
    obtain ⟨_,_,_,_,_,hk⟩ | ⟨hm,_⟩ := h
    · cases hk
    · exact .inr (.inr (.inr ⟨module, caller, given, anyone, pools, names, rfl, hm⟩))
  | createSet => exact absurd h hnew
  | createEnabledSet => exact absurd h (by simp [touches, hnew])
  | _ => simp [touches, managed, named, claimed] at h

theorem Operation.manager_touched (h : o.touches w set .manager) :
    ∃ caller given, o = .setManager set caller given := by
  cases o with
  | setManager set' caller given =>
    obtain ⟨rfl,_⟩ := h
    exact ⟨caller, given, rfl⟩
  | _ => simp [touches, fresh, managed, named, claimed] at h

theorem done_world (a : Run Unit) (w : World) : (done a w).2 = (a w).2 := by
  rw [done, answer_run]

/-- A call that brings no snapshot back by hand keeps to the rules, in whatever world it is made. -/
theorem Operation.lawful (hn : ∀ id, o ≠ .revert id) : o.Lawful w := by
  refine ⟨fun set s hs => ?_, fun set caller ho h => outsider_idle ho h⟩
  obtain ⟨s',hs',hstates,hmanager⟩ := set_kept hn hs
  refine ⟨s', hs', fun a => ?_, ?_⟩
  · by_cases ht : o.touches w set .states
    · obtain ⟨caller,given,rfl⟩ | ⟨caller,rfl⟩ | ⟨caller,given,rfl⟩ |
        ⟨module,caller,given,anyone,pools,names,rfl,hm⟩ := states_touched hs ht
      · exact addModule_states hs (by rwa [run, done_world] at hs') a
      · exact initializeModule_states hs (by rwa [run, done_world] at hs') a
      · exact removeModule_states hs (by rwa [run, done_world] at hs') a
      · exact activate_states hs (by rwa [run, done_world] at hs') hm a
    · left
      rw [SetToken.moduleState, hstates ht]
      rfl
  · by_cases ht : o.touches w set .manager
    · obtain ⟨caller,given,rfl⟩ := manager_touched ht
      rw [run, done_world] at hs'
      exact (setManager_manager hs hs').imp_right fun h => ⟨caller, given, rfl, h⟩
    · exact .inl (hmanager ht)

/-- In a run of calls among which no snapshot is brought back by hand, every set that there is goes on as
the rules have it: the current manager adds a module that the controller knows, the module initializes
itself, and the manager removes it, and no state changes otherwise; the manager alone hands over; and a
caller who is not an initialized module changes nothing at all by the calls that are for modules. -/
theorem modules_live_by_the_rules (w : World) (calls : List Operation)
    (hcalls : ∀ o ∈ calls, ∀ id, o ≠ .revert id) :
    w.Throughout Operation.Lawful (calls.map .operation) := by
  induction calls generalizing w with
  | nil => trivial
  | cons o calls ih =>
    obtain ⟨ho,hcalls⟩ := List.forall_mem_cons.mp hcalls
    exact ⟨Operation.lawful ho, ih _ hcalls⟩

/-- The manager hands over, and the module is taken off, added and initialized again by the new one. The
old manager and the module that was taken off try in vain. -/
def Sample.handedOver : List Operation :=
  [.setManager 8 manager (account 61).toValue,
    .removeModule 8 manager (account 6).toValue,
    .removeModule 8 (account 61).toValue (account 6).toValue,
    .addComponent 8 (account 6).toValue (account 3).toValue,
    .addModule 8 (account 61).toValue (account 6).toValue,
    .initializeModule 8 (account 6).toValue]

theorem modules_live_by_the_rules_handed_over :
    Sample.world.Throughout Operation.Lawful (Sample.handedOver.map .operation) ∧
      Sample.handedOver.inits.map (fun calls =>
        (moduleState 8 (Sample.account 6).toValue
          (Sample.world.after (calls.map .operation))).1.toOption) =
        [some .initialized, some .initialized, some .initialized, some .none, some .none,
          some .pending, some .initialized] := by
  refine ⟨modules_live_by_the_rules Sample.world Sample.handedOver fun o ho => ?_, by decide +kernel⟩
  simp only [Sample.handedOver, List.mem_cons, List.not_mem_nil, or_false] at ho
  rcases ho with rfl | rfl | rfl | rfl | rfl | rfl <;> nofun

end Basketry.Chain
