import Basketry.Proofs.IgnoredSnapshots
import Basketry.Proofs.Authority
import Basketry.Proofs.Spelling

namespace Basketry.Chain

variable {w v : World} {module set : Ref} {caller given : Value}

theorem find_ok {a : Value} {found : Option Ref} (h : (find a w).1 = .ok found) :
    ∃ b, Address.ofValue a = .ok b ∧ w.find b = found := by
  obtain ⟨b,hb,h⟩ := (Reads.lift (Address.ofValue a)).bind_ok ((find_reads a).run_ok h)
  cases h
  exact ⟨b, hb, rfl⟩

theorem find_run {b : Address} (h : Address.ofValue given = .ok b) :
    find given w = (.ok (w.find b), w) := by
  unfold find
  rw [h]
  rfl

section Registries
variable {ref : Ref} {r : Registry} {m : Address}

theorem registryAt_run (hr : w.content ref = .registry r) : registryAt ref w = (.ok r, w) := by
  unfold registryAt
  rw [content_bind, hr]
  rfl

theorem integrationAdapter_run (hr : w.content ref = .registry r)
    (hm : Address.ofValue given = .ok m) (name : String) :
    integrationAdapter ref given name w = (.ok (r.adapter m name), w) := by
  unfold integrationAdapter
  rw [bind_of_ok (registryAt_run hr), hm]
  rfl

theorem isValidIntegration_run (hr : w.content ref = .registry r)
    (hm : Address.ofValue given = .ok m) (name : String) :
    isValidIntegration ref given name w = (.ok (r.isValid m name), w) := by
  unfold isValidIntegration
  rw [bind_of_ok (integrationAdapter_run hr hm name)]
  rfl

end Registries

section Sets
variable {s : SetToken}

theorem setAt_run (hs : w.content set = .setToken s) : setAt set w = (.ok s, w) := by
  unfold setAt
  rw [content_bind, hs]
  rfl

theorem setProfile_run (hs : w.content set = .setToken s) :
    setProfile set w = (.ok s.profile, w) := by
  unfold setProfile
  rw [content_bind, hs]
  rfl

theorem setAddress_run (hs : w.content set = .setToken s) :
    setAddress set w = (.ok s.address, w) := by
  unfold setAddress
  rw [content_bind, hs]
  rfl

theorem resolveSet_run (hs : w.content set = .setToken s) :
    resolveSet (.object set) w = (.ok set, w) := by
  have hset : (w.content set).isSet = true := by
    rw [hs]
    rfl
  simp only [resolveSet]
  rw [content_bind, if_pos hset, pure_bind]
  simp only
  rw [content_bind, if_pos hset]
  rfl

theorem addressOf_run (hs : w.content set = .setToken s) {name : Value}
    (hname : name = .object set ∨ Address.ofValue name = .ok s.address) :
    addressOf name w = (.ok s.address, w) := by
  rcases hname with rfl | hname
  · have hset : (w.content set).isSet = true := by
      rw [hs]
      rfl
    simp only [addressOf]
    rw [content_bind, if_pos hset]
    exact setAddress_run hs
  · cases name with
    | object ref => cases hname
    | _ => exact congrArg (Prod.mk · w) hname

theorem moduleState_run (hs : w.content set = .setToken s) {a : Address}
    (ha : Address.ofValue given = .ok a) :
    moduleState set given w = (.ok (s.moduleState a), w) := by
  unfold moduleState
  rw [bind_of_ok (setAt_run hs), ha]
  rfl

end Sets

section Settings

theorem updateSettings_ok {change : ClaimSettings → Except Fault ClaimSettings}
    (h : updateSettings module change w = (.ok x, v)) :
    ∃ m c, w.content module = .claimModule m ∧ change m.settings = .ok c ∧
      v = w.setContent module (.claimModule { m with settings := c }) := by
  obtain ⟨m,hm,h⟩ := (moduleAt_reads module).bind_ok h
  obtain ⟨c,hc,h⟩ := (Reads.lift (change m.settings)).bind_ok h
  cases h
  exact ⟨m, c, moduleAt_ok hm, hc, rfl⟩

/-- A change that a block makes to the settings of the set it has found. -/
theorem managed_ok {f : Ref → Run α} (hf : ∀ set, IgnoresSnapshots (f set))
    (h : atomically (managedSet module caller given >>= f) w = (.ok x, v)) :
    ∃ set, (managedSet module caller given w).1 = .ok set ∧ f set w = (.ok x, v) := by
  have hignores : IgnoresSnapshots (managedSet module caller given >>= f) :=
    (managedSet_reads module caller given).ignoresSnapshots.bind hf
  exact (managedSet_reads module caller given).bind_ok (hignores.atomically_ok h)

theorem forgetSet_ok (h : forgetSet module given w = (.ok x, v)) :
    ∃ set a m c, (resolveSet given w).1 = .ok set ∧ (w.content set).address? = some a ∧
      w.content module = .claimModule m ∧ m.settings.clear a = .ok c ∧
      v = w.setContent module (.claimModule { m with settings := c }) := by
  have hignores : IgnoresSnapshots (do
      let set ← resolveSet given
      let address ← setAddress set
      updateSettings module (·.clear address)) :=
    fun snapshots => forgetting_tracked (SameButSnapshots.tracks snapshots) ClaimSettings.likeness_eq _ _
  have h := hignores.atomically_ok h
  obtain ⟨set,hs,h⟩ := (resolveSet_reads given).bind_ok h
  obtain ⟨a,ha,h⟩ := (setAddress_reads set).bind_ok h
  obtain ⟨m,c,hm,hc,hv⟩ := updateSettings_ok h
  exact ⟨set, a, m, c, hs, (setAddress_ok ha).2, hm, hc, hv⟩

theorem activate_ok {anyone : Bool} {pools : List Value} {names : List String}
    (h : activate module caller given anyone pools names w = (.ok x, v)) :
    ∃ set u a m, Manages caller given w set ∧ (w.content set).address? = some a ∧
      addAll module set pools names w = (.ok (), u) ∧ u.content module = .claimModule m ∧
      initializeModule set m.address.toValue (u.setContent module
        (.claimModule { m with settings := m.settings.setAnyone a anyone })) = (.ok x, v) := by
  have hignores : IgnoresSnapshots (do
      let set ← resolveSet given
      onlySetManager set caller
      onlyPendingSet module set
      addAll module set pools names
      let address ← setAddress set
      updateSettings module fun c => .ok (c.setAnyone address anyone)
      initializeModule set (← moduleAt module).address.toValue) :=
    fun snapshots => activation_tracked (SameButSnapshots.tracks snapshots) ClaimSettings.likeness_eq _ _ _
      _ _ _
  have h := hignores.atomically_ok h
  obtain ⟨set,hs,h⟩ := (resolveSet_reads given).bind_ok h
  obtain ⟨_,hc,h⟩ := (onlySetManager_reads set caller).bind_ok h
  obtain ⟨_,_,h⟩ := (onlyPendingSet_reads module set).bind_ok h
  obtain ⟨_,u,hadd,h⟩ := bind_ok h
  obtain ⟨a,ha,h⟩ := (setAddress_reads set).bind_ok h
  obtain ⟨_,u',hset,h⟩ := bind_ok h
  obtain ⟨m,c,hm,hc',rfl⟩ := updateSettings_ok hset
  cases hc'
  obtain ⟨m',hm',h⟩ := (moduleAt_reads module).bind_ok h
  have hl : module < u.objects.length := World.lt_of_content (by simp [hm])
  have hm' := moduleAt_ok hm'
  rw [World.content_setContent, if_pos ⟨rfl, hl⟩] at hm'
  cases hm'
  have hedits : Edits (fun _ _ => True) w u :=
    (addAll_edits pools names fun _ _ => trivial).reached hadd
  have ha := (setAddress_ok ha).2
  rw [hedits.address] at ha
  exact ⟨set, u, a, m, ⟨hs,hc⟩, ha, hadd, hm, h⟩

end Settings

section States
variable {s : SetToken}

theorem moduleState_ok {state : ModuleState} (h : (moduleState set given w).1 = .ok state) :
    ∃ s a, w.content set = .setToken s ∧ Address.ofValue given = .ok a ∧
      state = s.moduleState a := by
  obtain ⟨s,hs,h⟩ := (setAt_reads set).bind_ok ((moduleState_reads set given).run_ok h)
  obtain ⟨a,ha,h⟩ := (Reads.lift (Address.ofValue given)).bind_ok h
  cases h
  exact ⟨s, a, setAt_ok hs, ha, rfl⟩

/-- What a set's manager says about one of its modules. -/
structure Directs (w : World) (set : Ref) (caller given : Value) (s : SetToken) (a : Address) :
    Prop where
  set : w.content set = .setToken s
  caller : Address.ofValue caller = .ok s.profile.manager
  module : Address.ofValue given = .ok a

theorem onlyManager_ok (hs : w.content set = .setToken s)
    (h : (onlyManager set caller w).1 = .ok ()) : Address.ofValue caller = .ok s.profile.manager := by
  obtain ⟨a,ha,h⟩ := (Reads.lift (Address.ofValue caller)).bind_ok ((onlyManager_reads set caller).run_ok h)
  rw [bind_of_ok (setProfile_run hs)] at h
  by_cases he : a = s.profile.manager
  · rw [← he]
    exact ha
  · rw [SetToken.onlyManager, if_neg he] at h
    cases h

/-- A set takes a module in as pending where it has none and its controller knows the module, or nothing
is done. -/
theorem addModule_ends {outcome : Except Fault Unit}
    (h : addModule set caller given w = (outcome, v)) :
    v = w ∨ ∃ s a k, Directs w set caller given s a ∧ s.moduleState a = .none ∧
      w.content s.controller = .controller k ∧ k.isModule a = true ∧
      v = w.setContent set (.setToken (s.setModuleState a .pending)) := by
  obtain ⟨_,_,_,hv⟩ | ⟨_,hmanager,h⟩ := (onlyManager_reads set caller).bind_cases h
  · exact .inl hv
  obtain ⟨_,_,_,hv⟩ | ⟨state,hstate,h⟩ := (moduleState_reads set given).bind_cases h
  · exact .inl hv
  obtain hv | ⟨hnone,h⟩ := guard_cases h
  · exact .inl hv
  obtain ⟨_,_,_,hv⟩ | ⟨b,hb,h⟩ := (Reads.lift (Address.ofValue given)).bind_cases h
  · exact .inl hv
  obtain ⟨_,_,_,hv⟩ | ⟨k,hk,h⟩ := (setController_reads set).bind_cases h
  · exact .inl hv
  obtain hv | ⟨hknown,h⟩ := guard_cases h
  · exact .inl hv
  obtain ⟨s,a,hs,ha,rfl⟩ := moduleState_ok hstate
  have hab : a = b := Except.ok.inj (ha.symm.trans hb)
  subst hab
  rw [setController, content_bind, hs] at hk
  change (setAt set >>= _) w = _ at h
  rw [bind_of_ok (setAt_run hs)] at h
  cases h
  exact .inr ⟨s, a, k, ⟨hs,onlyManager_ok hs hmanager,ha⟩, of_not_not hnone, controllerAt_ok hk,
    by simpa using hknown, rfl⟩

/-- A set takes a pending module as initialized, or the call fails and nothing is done. -/
theorem initializeModule_ends {outcome : Except Fault Unit}
    (h : initializeModule set caller w = (outcome, v)) :
    v = w ∧ outcome ≠ .ok () ∨ ∃ s a, w.content set = .setToken s ∧
      Address.ofValue caller = .ok a ∧ s.moduleState a = .pending ∧ outcome = .ok () ∧
      v = w.setContent set (.setToken (s.setModuleState a .initialized)) := by
  obtain ⟨_,_,rfl,hv⟩ | ⟨state,hstate,h⟩ := (moduleState_reads set caller).bind_cases h
  · exact .inl ⟨hv, nofun⟩
  obtain ⟨s,a,hs,ha,rfl⟩ := moduleState_ok hstate
  split at h
  · cases h
    exact .inl ⟨rfl, nofun⟩
  · rename_i hpending
    change (setAt set >>= _) w = _ at h
    rw [bind_of_ok (setAt_run hs), ha] at h
    cases h
    exact .inr ⟨s, a, hs, ha, of_not_not hpending, rfl, rfl⟩

/-- A set lets an initialized module go once the module has forgotten it. Before that nothing is done,
or what the module does when it fails to forget the set. -/
theorem removeModule_ends {outcome : Except Fault Unit}
    (h : removeModule set caller given w = (outcome, v)) :
    (v = w ∧ outcome ≠ .ok ()) ∨ ∃ s a module, Directs w set caller given s a ∧
      s.moduleState a = .initialized ∧ w.find a = some module ∧
      ((∃ fault, outcome = .error fault ∧ forgetSet module (.object set) w = (.error fault, v)) ∨
        ∃ m c, w.content module = .claimModule m ∧ m.settings.clear s.address = .ok c ∧
          outcome = .ok () ∧
          v = (w.setContent module (.claimModule { m with settings := c })).setContent set
            (.setToken (s.setModuleState a .none))) := by
  obtain ⟨_,_,rfl,hv⟩ | ⟨_,hmanager,h⟩ := (onlyManager_reads set caller).bind_cases h
  · exact .inl ⟨hv, nofun⟩
  obtain ⟨_,_,rfl,hv⟩ | ⟨state,hstate,h⟩ := (moduleState_reads set given).bind_cases h
  · exact .inl ⟨hv, nofun⟩
  obtain ⟨s,a,hs,ha,rfl⟩ := moduleState_ok hstate
  split at h
  · cases h
    exact .inl ⟨rfl, nofun⟩
  rename_i hinitialized
  obtain ⟨_,_,rfl,hv⟩ | ⟨found,hfound,h⟩ := (find_reads given).bind_cases h
  · exact .inl ⟨hv, nofun⟩
  obtain ⟨b,hb,hfind⟩ := find_ok hfound
  cases ha.symm.trans hb
  cases found with
  | none =>
    cases h
    exact .inl ⟨rfl, nofun⟩
  | some module =>
    simp only at h
    rw [content_bind] at h
    cases hm : w.content module with
    | claimModule m =>
      rw [hm] at h
      refine .inr ⟨s, a, module, ⟨hs,onlyManager_ok hs hmanager,ha⟩, of_not_not hinitialized, hfind, ?_⟩
      change (forgetSet module (.object set) >>= _) w = _ at h
      rw [bind_run] at h
      cases hforget : forgetSet module (.object set) w with
      | mk result u =>
        rw [hforget] at h
        cases result with
        | error fault =>
          cases h
          exact .inl ⟨fault, rfl, rfl⟩
        | ok x =>
          obtain ⟨set',a',m',c,hset,haddress,hm',hc,rfl⟩ := forgetSet_ok hforget
          cases resolveSet_object hset
          rw [hm] at hm'
          cases hm'
          rw [hs] at haddress
          cases haddress
          have hne : set ≠ module := by
            rintro rfl
            rw [hs] at hm
            cases hm
          have hs' : (w.setContent module (.claimModule { m with settings := c })).content set =
              .setToken s := by
            rw [World.content_setContent, if_neg fun h => hne h.1, hs]
          simp only at h
          rw [bind_of_ok (setAt_run hs'), ha] at h
          cases h
          exact .inr ⟨m, c, hm, hc, rfl, rfl⟩
    | _ =>
      rw [hm] at h
      cases h
      exact .inl ⟨rfl, nofun⟩

end States

end Basketry.Chain
