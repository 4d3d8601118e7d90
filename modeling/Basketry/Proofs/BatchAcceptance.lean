import Mathlib.Data.List.Perm.Basic
import Mathlib.Data.List.Forall2
import Basketry.Proofs.Batches
import Basketry.Proofs.ModuleSettings
import Basketry.Proofs.Positions
import Basketry.Proofs.Residue

namespace Basketry.Chain

namespace ClaimSettings
variable {added : Bool} {set pool adapter : Address} {c : ClaimSettings}
  {pairs pairs' : List (Address × Address)}

/-- One pair is added or removed. -/
def change (added : Bool) (c : ClaimSettings) (set pool adapter : Address) :
    Except Fault ClaimSettings :=
  if added then c.add set pool adapter else c.remove set pool adapter

/-- A pair is refused where it is registered already, or not registered, as the change would have it. -/
theorem change_cases (hc : c.Agree) (added : Bool) (set pool adapter : Address) :
    (c.isRegistered set pool adapter = !added ∧ ∃ d, c.change added set pool adapter = .ok d ∧
        d.Agree ∧ ∀ p a, d.isRegistered set p a =
          if (p, a) = (pool, adapter) then added else c.isRegistered set p a) ∨
      c.isRegistered set pool adapter ≠ !added ∧
        ∃ reason, c.change added set pool adapter = .error (.revert reason) := by
  unfold change
  cases added with
  | true =>
    rcases c.add_cases set pool adapter with ⟨hr,hd⟩ | ⟨hr,d,hd⟩
    · exact .inr ⟨by simp [hr], _, hd⟩
    · refine .inl ⟨hr, d, hd, hc.add hd, fun p a => ?_⟩
      rw [(add_views hd).registered]
      simp
  | false =>
    cases hr : c.isRegistered set pool adapter with
    | true =>
      obtain ⟨d,hd⟩ := hc.remove_total hr
      refine .inl ⟨rfl, d, hd, hc.remove hd, fun p a => ?_⟩
      rw [(remove_views hd).registered]
      simp
    | false => exact .inr ⟨nofun, _, remove_unknown hr⟩

/-- One pair, whose adapter may be unknown. -/
def changeKnown (added : Bool) (set : Address) (c : ClaimSettings) (pair : Address × Address) :
    Except Fault ClaimSettings :=
  if pair.2 = Address.zero then .error (.revert "Must be valid adapter")
  else c.change added set pair.1 pair.2

/-- The pairs have adapters and are distinct, and all of them are registered or none is. -/
structure Accepts (c : ClaimSettings) (added : Bool) (set : Address)
    (pairs : List (Address × Address)) : Prop where
  known : ∀ x ∈ pairs, x.2 ≠ Address.zero
  distinct : pairs.Nodup
  fitting : ∀ x ∈ pairs, c.isRegistered set x.1 x.2 = !added

/-- The order of the pairs does not matter. -/
theorem Accepts.perm (h : pairs.Perm pairs') :
    c.Accepts added set pairs ↔ c.Accepts added set pairs' := by
  have hone : ∀ {xs ys : List (Address × Address)}, xs.Perm ys → c.Accepts added set xs →
      c.Accepts added set ys := fun hp ha =>
    ⟨fun x hx => ha.known x (hp.mem_iff.mpr hx), hp.nodup_iff.mp ha.distinct,
      fun x hx => ha.fitting x (hp.mem_iff.mpr hx)⟩
  exact ⟨hone h, hone h.symm⟩

/-- Behind an accepted pair, the rest is judged as if it had stood first, but for the pair itself. -/
theorem Accepts.cons {d : ClaimSettings} {x : Address × Address} (hx : x.2 ≠ Address.zero)
    (hfit : c.isRegistered set x.1 x.2 = !added)
    (hd : ∀ p a, d.isRegistered set p a = if (p, a) = x then added else c.isRegistered set p a) :
    d.Accepts added set pairs ↔ c.Accepts added set (x :: pairs) := by
  have hnew : (!added) ≠ added := by cases added <;> decide
  constructor
  · intro h
    have hnot : x ∉ pairs := by
      intro hm
      have hr := h.fitting x hm
      rw [hd, if_pos rfl] at hr
      exact hnew hr.symm
    refine ⟨List.forall_mem_cons.mpr ⟨hx, h.known⟩, List.nodup_cons.mpr ⟨hnot, h.distinct⟩,
      List.forall_mem_cons.mpr ⟨hfit, fun y hy => ?_⟩⟩
    have hr := h.fitting y hy
    rwa [hd, if_neg fun he => hnot (by rw [← he]; exact hy)] at hr
  · rintro ⟨hknown,hdistinct,hfitting⟩
    obtain ⟨hnot,hdistinct⟩ := List.nodup_cons.mp hdistinct
    refine ⟨fun y hy => hknown y (List.mem_cons_of_mem x hy), hdistinct, fun y hy => ?_⟩
    rw [hd, if_neg fun he => hnot (by rw [← he]; exact hy)]
    exact hfitting y (List.mem_cons_of_mem x hy)

/-- The pairs of a batch one after another. -/
theorem changeAll_cases (hc : c.Agree) (added : Bool) (set : Address)
    (pairs : List (Address × Address)) :
    (c.Accepts added set pairs ∧ ∃ d, pairs.foldlM (changeKnown added set) c = .ok d ∧
        ∀ p a, d.isRegistered set p a =
          if (p, a) ∈ pairs then added else c.isRegistered set p a) ∨
      ¬ c.Accepts added set pairs ∧
        ∃ reason, pairs.foldlM (changeKnown added set) c = .error (.revert reason) := by
  induction pairs generalizing c with
  | nil => exact .inl ⟨⟨nofun, .nil, nofun⟩, c, rfl, fun p a => by simp⟩
  | cons x pairs ih =>
    rw [List.foldlM_cons]
    by_cases hx : x.2 = Address.zero
    · have hunknown : changeKnown added set c x = .error (.revert "Must be valid adapter") := if_pos hx
      rw [hunknown]
      exact .inr ⟨fun h => h.known x List.mem_cons_self hx, _, rfl⟩
    rw [changeKnown, if_neg hx]
    obtain ⟨hfit,d,hd,hagree,hviews⟩ | ⟨hfit,reason,hd⟩ := change_cases hc added set x.1 x.2
    · rw [hd]
      have hrest : d.Accepts added set pairs ↔ c.Accepts added set (x :: pairs) :=
        Accepts.cons hx hfit hviews
      obtain ⟨haccepts,e,he,hlast⟩ | ⟨hrefuses,reason,he⟩ := ih hagree
      · refine .inl ⟨hrest.mp haccepts, e, he, fun p a => ?_⟩
        rw [hlast, hviews]
        by_cases hm : (p, a) ∈ pairs <;> by_cases hxa : (p, a) = x <;> simp [hm, hxa]
      · exact .inr ⟨fun h => hrefuses (hrest.mpr h), reason, he⟩
    · rw [hd]
      exact .inr ⟨fun h => hfit (h.fitting x List.mem_cons_self), reason, rfl⟩

end ClaimSettings

section Served
variable {w v : World} {module set registry : Ref} {m : ClaimModule} {k : Controller} {r : Registry}
  {s : SetToken} {caller given : Value}

/-- A claim module with the registry to which its controller leads, and a set that the controller knows
and on which the module is initialized. -/
structure World.Served (w : World) (module set registry : Ref) (m : ClaimModule) (k : Controller)
    (r : Registry) (s : SetToken) : Prop where
  module : w.content module = .claimModule m
  controller : w.content m.controller = .controller k
  found : w.find k.registry = some registry
  registry : w.content registry = .registry r
  set : w.content set = .setToken s
  known : k.isSet s.address = true
  initialized : s.moduleState m.address = .initialized

/-- Settings may change under it. -/
theorem World.Served.resettled (h : w.Served module set registry m k r s) (d : ClaimSettings) :
    (w.setContent module (.claimModule { m with settings := d })).Served module set registry
      { m with settings := d } k r s := by
  have hother : ∀ {ref c}, w.content ref = c → (∀ m, c ≠ .claimModule m) →
      (w.setContent module (.claimModule { m with settings := d })).content ref = c := by
    intro ref c hc hn
    rw [World.content_setContent_of_ne, hc]
    rintro rfl
    exact hn m (hc.symm.trans h.module)
  exact
    { module := World.content_setContent_self h.module nofun
      controller := hother h.controller nofun
      found := h.found
      registry := hother h.registry nofun
      set := hother h.set nofun
      known := h.known
      initialized := h.initialized }

theorem controllerOf_run (h : w.Served module set registry m k r s) :
    controllerOf module w = (.ok m.controller, w) := by
  unfold controllerOf
  rw [bind_of_ok (moduleAt_run h.module)]
  rfl

theorem controllerAt_run {ref : Ref} (hk : w.content ref = .controller k) :
    controllerAt ref w = (.ok k, w) := by
  unfold controllerAt
  rw [content_bind, hk]
  rfl

/-- A name is looked up in the registry. -/
theorem namedAdapter_run (h : w.Served module set registry m k r s) (name : String) :
    namedAdapter module name w =
      if r.adapter m.address name = Address.zero then
        (.error (.revert "Must be valid adapter"), w)
      else (.ok (r.adapter m.address name), w) := by
  have hregistry : integrationRegistry m.controller w = (.ok (some registry), w) := by
    unfold integrationRegistry
    rw [bind_of_ok (show (get : Run World) w = (.ok w, w) from rfl),
      bind_of_ok (controllerAt_run h.controller), h.found]
    rfl
  have hadapter := integrationAdapter_run h.registry (Address.ofValue_toValue m.address) name
  unfold namedAdapter
  rw [bind_of_ok (controllerOf_run h), bind_of_ok hregistry]
  simp only
  rw [bind_of_ok (moduleAt_run h.module), bind_of_ok hadapter]
  split <;> rfl

/-- The manager of the set passes the check of the module. -/
theorem managedSet_run (h : w.Served module set registry m k r s)
    (hgiven : (resolveSet given w).1 = .ok set)
    (hcaller : Address.ofValue caller = .ok s.profile.manager) :
    managedSet module caller given w = (.ok set, w) := by
  have hprofile : setProfile set w = (.ok s.profile, w) := by
    unfold setProfile
    rw [content_bind, h.set]
    rfl
  have hmanager : onlySetManager set caller w = (.ok (), w) := by
    unfold onlySetManager
    rw [hcaller]
    change (setProfile set >>= _) w = _
    rw [bind_of_ok hprofile, if_neg fun hn => hn rfl]
    rfl
  have henabled : isEnabledSet module set w = (.ok true, w) := by
    unfold isEnabledSet isSet
    rw [bind_of_ok (controllerOf_run h), bind_of_ok (setAddress_run h.set),
      bind_of_ok (controllerAt_run h.controller), Address.ofValue_toValue, ← h.known]
    rfl
  have hstate : stateOf module set w = (.ok .initialized, w) := by
    unfold stateOf moduleState
    rw [bind_of_ok (moduleAt_run h.module), bind_of_ok (setAt_run h.set), Address.ofValue_toValue,
      ← h.initialized]
    rfl
  have hinitialized : onlyInitializedSet module set w = (.ok (), w) := by
    unfold onlyInitializedSet
    rw [bind_of_ok henabled]
    change (stateOf module set >>= _) w = _
    rw [bind_of_ok hstate]
    rfl
  unfold managedSet
  rw [bind_of_ok ((resolveSet_reads given).run_ok hgiven), bind_of_ok hmanager,
    bind_of_ok hinitialized]
  rfl

end Served

section Runs
variable {w v : World} {module set registry : Ref} {m : ClaimModule} {k : Controller} {r : Registry}
  {s : SetToken} {caller given : Value}

/-- A change of one pair, named as a caller does. -/
def changeOne (added : Bool) (module set : Ref) (x : Value × String) : Run Unit :=
  if added then addOne module set x.1 x.2 else removeOne module set x.1 x.2

/-- A batch of changes. -/
def changeBatch (added : Bool) (module : Ref) (caller given : Value) (pools : List Value)
    (names : List String) : Run Unit :=
  if added then batchAddClaim module caller given pools names
  else batchRemoveClaim module caller given pools names

theorem changeOne_eq (added : Bool) (module set : Ref) (x : Value × String) :
    changeOne added module set x = (do
      let adapter ← namedAdapter module x.2
      let address ← setAddress set
      let pool ← Address.ofValue x.1
      updateSettings module (·.change added address pool adapter)) := by
  cases added <;> rfl

theorem updateSettings_refused {change : ClaimSettings → Except Fault ClaimSettings} {fault : Fault}
    (hm : w.content module = .claimModule m) (hd : change m.settings = .error fault) :
    updateSettings module change w = (.error fault, w) := by
  unfold updateSettings
  rw [bind_of_ok (moduleAt_run hm), hd]
  rfl

/-- One pair is changed as the settings say that it is. -/
theorem changeOne_run (added : Bool) (h : w.Served module set registry m k r s)
    {x : Value × String} {p : Address} (hp : Address.ofValue x.1 = .ok p) :
    changeOne added module set x w =
      match m.settings.changeKnown added s.address (p, r.adapter m.address x.2) with
      | .ok d => (.ok (), w.setContent module (.claimModule { m with settings := d }))
      | .error fault => (.error fault, w) := by
  have hnamed := namedAdapter_run h x.2
  rw [changeOne_eq]
  unfold ClaimSettings.changeKnown
  by_cases hz : r.adapter m.address x.2 = Address.zero
  · rw [if_pos hz] at hnamed
    rw [bind_run, hnamed, if_pos hz]
  · rw [if_neg hz] at hnamed
    have hpool : (liftM (Address.ofValue x.1) : Run Address) w = (.ok p, w) := by
      rw [hp]
      rfl
    rw [bind_of_ok hnamed, bind_of_ok (setAddress_run h.set), bind_of_ok hpool, if_neg hz]
    cases hd : m.settings.change added s.address p (r.adapter m.address x.2) with
    | ok d => exact updateSettings_run h.module hd
    | error fault => exact updateSettings_refused h.module hd

/-- A pool and a name mean this address and this adapter. -/
def Means (r : Registry) (a : Address) (x : Value × String) (pair : Address × Address) : Prop :=
  Address.ofValue x.1 = .ok pair.1 ∧ pair.2 = r.adapter a x.2

/-- The pairs of a batch are changed as the settings say that they are. -/
theorem changeAll_run (added : Bool) {items : List (Value × String)}
    {pairs : List (Address × Address)} {a : Address} (h : w.Served module set registry m k r s)
    (ha : m.address = a) (hpairs : List.Forall₂ (Means r a) items pairs) :
    (∀ d, pairs.foldlM (ClaimSettings.changeKnown added s.address) m.settings = .ok d →
      items.forM (changeOne added module set) w =
        (.ok (), w.setContent module (.claimModule { m with settings := d }))) ∧
    ∀ fault, pairs.foldlM (ClaimSettings.changeKnown added s.address) m.settings = .error fault →
      (items.forM (changeOne added module set) w).1 = .error fault := by
  induction hpairs generalizing w m with
  | nil =>
    refine ⟨fun d hd => ?_, nofun⟩
    cases hd
    rw [World.setContent_same h.module]
    rfl
  | @cons x pair items pairs hx _ ih =>
    obtain ⟨hpool,hadapter⟩ := hx
    have hone : changeOne added module set x w =
        match m.settings.changeKnown added s.address pair with
        | .ok d => (.ok (), w.setContent module (.claimModule { m with settings := d }))
        | .error fault => (.error fault, w) := by
      rw [changeOne_run added h hpool, ha, ← hadapter]
    rw [List.foldlM_cons]
    change (∀ d, _ → (changeOne added module set x >>= fun _ =>
      items.forM (changeOne added module set)) w = _) ∧ ∀ fault, _ →
        ((changeOne added module set x >>= fun _ => items.forM (changeOne added module set)) w).1 = _
    cases hd : m.settings.changeKnown added s.address pair with
    | error fault =>
      rw [hd] at hone
      rw [bind_run, hone]
      exact ⟨nofun, fun _ he => congrArg _ (Except.error.inj he)⟩
    | ok d =>
      rw [hd] at hone
      rw [bind_of_ok hone]
      obtain ⟨hok,herror⟩ := ih (h.resettled d) ha
      refine ⟨fun e he => ?_, herror⟩
      rw [hok e he, World.setContent_twice]

/-- A batch of the manager is decided by its pairs one after another. -/
theorem changeBatch_run (added : Bool) {pools : List Value} {names : List String}
    {pairs : List (Address × Address)} (h : w.Served module set registry m k r s)
    (hgiven : (resolveSet given w).1 = .ok set)
    (hcaller : Address.ofValue caller = .ok s.profile.manager) (hp : pools ≠ [])
    (hl : names.length = pools.length)
    (hpairs : List.Forall₂ (Means r m.address) (pools.zip names) pairs) :
    (∀ d, pairs.foldlM (ClaimSettings.changeKnown added s.address) m.settings = .ok d →
      changeBatch added module caller given pools names w =
        (.ok (), w.setContent module (.claimModule { m with settings := d }))) ∧
    ∀ fault, pairs.foldlM (ClaimSettings.changeKnown added s.address) m.settings = .error fault →
      (changeBatch added module caller given pools names w).1 = .error fault := by
  have hbatch : changeBatch added module caller given pools names =
      atomically (managedSet module caller given >>= fun set => checkArrays pools names >>= fun _ =>
        (pools.zip names).forM (changeOne added module set)) := by
    cases added <;> rfl
  have hignores : IgnoresSnapshots (managedSet module caller given >>= fun set =>
      checkArrays pools names >>=
      fun _ => (pools.zip names).forM (changeOne added module set)) := by
    refine (managedSet_reads module caller given).ignoresSnapshots.bind fun set => ?_
    cases added with
    | true => exact addAll_ignoresSnapshots module set pools names
    | false => exact removeAll_ignoresSnapshots module set pools names
  obtain ⟨hanswer,hworld⟩ := hignores.atomically w
  rw [← hbatch] at hanswer hworld
  simp only [bind_of_ok (managedSet_run h hgiven hcaller), checkArrays_bind hp hl] at hanswer hworld
  obtain ⟨hok,herror⟩ := changeAll_run added h rfl hpairs
  exact ⟨fun d hd => hworld _ _ (hok d hd), fun fault hd => hanswer.trans (herror fault hd)⟩

/-- What is undone at a module that stands at an address leaves its settings as they were. -/
theorem World.SameState.settings (h : w.SameState v) {b : Address} (hfind : w.find b = some module)
    (hm : w.content module = .claimModule m) : v.settingsOf module = m.settings := by
  obtain ⟨_,place,_,_,hcontents⟩ := h
  have hplaced := hcontents module (Table.mem_values_of_get? hfind)
    (World.lt_of_content (by rw [hm]; exact nofun))
  rw [hm] at hplaced
  rw [World.settingsOf, hplaced]
  rfl

theorem changeBatch_undone {pools : List Value} {names : List String} {added : Bool}
    {reason : String} {b : Address}
    (h : changeBatch added module caller given pools names w = (.error (.revert reason), v))
    (hfind : w.find b = some module) (hm : w.content module = .claimModule m) :
    v.settingsOf module = m.settings := by
  cases added with
  | true => exact ((batchAddClaim_block pools names).undone h).2.settings hfind hm
  | false => exact ((batchRemoveClaim_block pools names).undone h).2.settings hfind hm

/-- A batch of the manager succeeds where its pairs are accepted, and is refused everywhere else. -/
theorem changeBatch_settles (added : Bool) {pools : List Value} {names : List String}
    {pairs : List (Address × Address)} (h : w.Served module set registry m k r s)
    (hagree : m.settings.Agree) (hgiven : (resolveSet given w).1 = .ok set)
    (hcaller : Address.ofValue caller = .ok s.profile.manager) (hp : pools ≠ [])
    (hl : names.length = pools.length)
    (hpairs : List.Forall₂ (Means r m.address) (pools.zip names) pairs) :
    let outcome := changeBatch added module caller given pools names w
    (outcome.1 = .ok () ↔ m.settings.Accepts added s.address pairs) ∧
    (∀ fault, outcome.1 = .error fault → ∃ reason, fault = .revert reason) ∧
    (outcome.1 = .ok () → ∀ p a, (outcome.2.settingsOf module).isRegistered s.address p a =
      if (p, a) ∈ pairs then added else m.settings.isRegistered s.address p a) ∧
    (outcome.1 ≠ .ok () → (∃ b, w.find b = some module) →
      outcome.2.settingsOf module = m.settings) := by
  intro outcome
  obtain ⟨hok,herror⟩ := changeBatch_run added h hgiven hcaller hp hl hpairs
  obtain ⟨haccepts,d,hd,hviews⟩ | ⟨hrefuses,reason,hd⟩ :=
    ClaimSettings.changeAll_cases hagree added s.address pairs
  · have hsettings : (w.setContent module (.claimModule { m with settings := d })).settingsOf module =
        d := World.settingsOf_module (World.content_setContent_self h.module nofun)
    rw [show outcome = _ from hok d hd]
    refine ⟨iff_of_true rfl haccepts, nofun, fun _ => ?_, fun hn => absurd rfl hn⟩
    rw [hsettings]
    exact hviews
  · have hrefused : outcome.1 = .error (.revert reason) := herror _ hd
    have hundone : ∀ b, w.find b = some module → outcome.2.settingsOf module = m.settings :=
      fun b hfind => changeBatch_undone (Prod.ext hrefused rfl) hfind h.module
    rw [hrefused]
    refine ⟨iff_of_false nofun hrefuses, fun fault hf => ?_, nofun, fun _ ⟨b,hb⟩ => hundone b hb⟩
    exact ⟨reason, (Except.error.inj hf).symm⟩

theorem means_zip {pools : List Value} {ps : List Address} (a : Address)
    (hvalid : List.Forall₂ (fun v p => Address.ofValue v = .ok p) pools ps) (names : List String) :
    List.Forall₂ (Means r a) (pools.zip names) (ps.zip (names.map (r.adapter a))) := by
  induction hvalid generalizing names with
  | nil => exact .nil
  | cons hv _ ih =>
    cases names with
    | nil => exact .nil
    | cons name names => exact .cons ⟨hv, rfl⟩ (ih names)

theorem accepts_zip (added : Bool) {names : List String} {ps : List Address} {f : String → Address}
    {c : ClaimSettings} {a : Address} (hl : names.length = ps.length) :
    c.Accepts added a (ps.zip (names.map f)) ↔
      (∀ name ∈ names, f name ≠ Address.zero) ∧ (ps.zip (names.map f)).Nodup ∧
        ∀ x ∈ ps.zip (names.map f), c.isRegistered a x.1 x.2 = !added := by
  have hadapters : (ps.zip (names.map f)).map Prod.snd = names.map f :=
    List.map_snd_zip (by rw [List.length_map, hl])
  have hknown : (∀ d ∈ (ps.zip (names.map f)).map Prod.snd, d ≠ Address.zero) ↔
      ∀ d ∈ names.map f, d ≠ Address.zero := by rw [hadapters]
  rw [List.forall_mem_map, List.forall_mem_map] at hknown
  rw [← hknown]
  exact ⟨fun h => ⟨h.known, h.distinct, h.fitting⟩, fun h => ⟨h.1, h.2.1, h.2.2⟩⟩

end Runs

/-- In every state that a history can reach, wherever a registry stands at the address to which the
controller of the module leads: a batch of the manager over valid pools succeeds exactly if every name
has an adapter, the pairs of pool and adapter are distinct, and none of them is registered, or all of
them for a batch that removes; every other batch is refused. The pairs of a successful batch are then
registered, or not any more, and all others are as they were; a refused batch leaves the settings as
they were if the module stands at some address. So neither the answer nor what is left depends on the
order of the pairs. -/
theorem batches_are_accepted_exactly (accounts : Nat → Address) (owner : Option String)
    (history : List Step) {module set registry : Ref} {m : ClaimModule} {k : Controller}
    {r : Registry} {s : SetToken} {caller given : Value} {pools : List Value} {ps : List Address}
    {names : List String} (added : Bool) :
    let w := (World.deployed accounts owner).2.after history
    w.Served module set registry m k r s → (resolveSet given w).1 = .ok set →
    Address.ofValue caller = .ok s.profile.manager →
    List.Forall₂ (fun v p => Address.ofValue v = .ok p) pools ps → pools ≠ [] →
    names.length = pools.length →
    let pairs := ps.zip (names.map (r.adapter m.address))
    let outcome := changeBatch added module caller given pools names w
    let placed := ∃ b, w.find b = some module
    (outcome.1 = .ok () ↔ (∀ name ∈ names, r.adapter m.address name ≠ Address.zero) ∧ pairs.Nodup ∧
      ∀ x ∈ pairs, m.settings.isRegistered s.address x.1 x.2 = !added) ∧
    (∀ fault, outcome.1 = .error fault → ∃ reason, fault = .revert reason) ∧
    (outcome.1 = .ok () → ∀ p a, (outcome.2.settingsOf module).isRegistered s.address p a =
      if (p, a) ∈ pairs then added else m.settings.isRegistered s.address p a) ∧
    (outcome.1 ≠ .ok () → placed → outcome.2.settingsOf module = m.settings) ∧
    ∀ pools' names', names'.length = pools'.length →
      (pools'.zip names').Perm (pools.zip names) →
      let outcome' := changeBatch added module caller given pools' names' w
      (outcome'.1 = .ok () ↔ outcome.1 = .ok ()) ∧
      (outcome.1 = .ok () ∨ placed → ∀ p a,
        (outcome'.2.settingsOf module).isRegistered s.address p a =
          (outcome.2.settingsOf module).isRegistered s.address p a) := by
  intro w hserved hgiven hcaller hvalid hne hl pairs outcome placed
  have hagree : m.settings.Agree := by
    have h := (World.after_agrees accounts owner history).objects module
    rwa [show w.content module = _ from hserved.module] at h
  have hpairs : List.Forall₂ (Means r m.address) (pools.zip names) pairs :=
    means_zip m.address hvalid names
  obtain ⟨haccepts,hrefusal,hviews,hundone⟩ :=
    changeBatch_settles added hserved hagree hgiven hcaller hne hl hpairs
  refine ⟨haccepts.trans (accepts_zip added (hl.trans hvalid.length_eq)), hrefusal, hviews, hundone, ?_⟩
  intro pools' names' hl' hperm outcome'
  obtain ⟨pairs',hpairs',hperm'⟩ := List.perm_comp_forall₂ hperm hpairs
  have hne' : pools' ≠ [] := by
    rintro rfl
    exact zip_ne_nil hne hl (List.Perm.eq_nil hperm.symm)
  obtain ⟨haccepts',_,hviews',hundone'⟩ :=
    changeBatch_settles added hserved hagree hgiven hcaller hne' hl' hpairs'
  have hsame : outcome'.1 = .ok () ↔ outcome.1 = .ok () :=
    haccepts'.trans ((ClaimSettings.Accepts.perm hperm').trans haccepts.symm)
  refine ⟨hsame, fun hkept p a => ?_⟩
  by_cases hok : outcome.1 = .ok ()
  · rw [hviews hok, hviews' (hsame.mpr hok)]
    simp only [hperm'.mem_iff]
  · have hplaced := hkept.resolve_left hok
    rw [hundone hok hplaced, hundone' (mt hsame.mp hok) hplaced]

namespace Sample

def controller : Controller := ⟨account 1, account 0, [account 7], [account 6]⟩

def registry : Registry := ⟨account 0, ⟨[((account 6, "morpho"), account 50)]⟩⟩

/-- A token takes the place of the registry. -/
def registryTaken : List Step := history ++ [.operation (.register 2 (account 0).toValue)]

end Sample

/-- Both pools of a set are removed at once, in either order. -/
theorem batches_are_accepted_exactly_removed :
    let w := (World.deployed Sample.account (some Sample.owner)).2.after Sample.broken
    let pools := [(Sample.account 3).toValue, Sample.pool]
    let names := ["morpho", "morpho"]
    let outcome := changeBatch false 7 Sample.manager Sample.set pools names w
    (w.Served 7 8 0 Sample.brokenModule Sample.controller Sample.registry Sample.activeSet ∧
      (resolveSet Sample.set w).1 = .ok 8) ∧
    outcome.1 = .ok () ∧
      (outcome.2.settingsOf 7).isRegistered (Sample.account 7) (Sample.account 2) (Sample.account 50) =
        false ∧
      (changeBatch false 7 Sample.manager Sample.set pools.reverse names w).1 = .ok () := by
  intro w pools names outcome
  have hserved : w.Served 7 8 0 Sample.brokenModule Sample.controller Sample.registry
      Sample.activeSet :=
    { module := by decide +kernel
      controller := by decide +kernel
      found := by decide +kernel
      registry := by decide +kernel
      set := by decide +kernel
      known := by decide
      initialized := by decide }
  have hgiven : (resolveSet Sample.set w).1 = .ok 8 := by decide +kernel
  have hvalid : List.Forall₂ (fun v p => Address.ofValue v = .ok p) pools
      [Sample.account 3, Sample.account 2] :=
    .cons (Address.ofValue_toValue _) (.cons (Address.ofValue_toValue _) .nil)
  obtain ⟨haccepted,_,hviews,_,hperm⟩ := batches_are_accepted_exactly Sample.account
    (some Sample.owner) Sample.broken false hserved hgiven (Address.ofValue_toValue _) hvalid
    (List.cons_ne_nil _ _)
    (show names.length = pools.length from rfl)
  have hok : outcome.1 = .ok () := haccepted.mpr ⟨by decide, by decide, by decide⟩
  refine ⟨⟨hserved, hgiven⟩, hok, ?_, ((hperm pools.reverse names rfl ?_).1).mpr hok⟩
  · exact (hviews hok _ _).trans (if_pos (by decide))
  · exact .swap _ _ []

/-- Where something else stands in the place of the registry, no refusal is heard but a failure, though
the registry has the adapter. And where the module stands at no address, what a refused batch has done
stays, so that the order of its pairs shows. -/
theorem batches_need_registry_and_place :
    let start := (World.deployed Sample.account (some Sample.owner)).2
    let w := start.after Sample.registryTaken
    let v := start.after Sample.moduleGone
    let registered (u : World) :=
      (u.settingsOf 7).isRegistered (Sample.account 7) (Sample.account 3) (Sample.account 50)
    let batch (pools : List Value) :=
      batchAddClaim 7 Sample.manager (.object 8) pools ["morpho", "morpho"] v
    let first := batch [Sample.pool, (Sample.account 3).toValue]
    let second := batch [(Sample.account 3).toValue, Sample.pool]
    ((managedSet 7 Sample.manager Sample.set w).1 = .ok 8 ∧
      (integrationAdapter 0 (Sample.account 6).toValue "morpho" w).1 = .ok (Sample.account 50) ∧
      registered w = false ∧
      (batchAddClaim 7 Sample.manager Sample.set [(Sample.account 3).toValue] ["morpho"] w).1 =
        .error .missingAttribute) ∧
    (managedSet 7 Sample.manager (.object 8) v).1 = .ok 8 ∧
      first.1 = .error (.revert "Integration names must be unique") ∧
      second.1 = .error (.revert "Integration names must be unique") ∧
      registered first.2 = false ∧ registered second.2 = true := by
  decide +kernel

end Basketry.Chain
