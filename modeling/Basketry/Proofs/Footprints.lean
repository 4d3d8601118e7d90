import Basketry.Proofs.Edits

namespace Basketry.Chain

variable {p : Ref → Aspect → Prop} {w w' : World} {ref : Ref}

section Found

theorem content_bind (f : Contract → Run β) : (content ref >>= f) w = f (w.content ref) w := rfl

theorem registryAt_ok {r : Registry} (h : (registryAt ref w).1 = .ok r) :
    w.content ref = .registry r := by
  rw [registryAt, content_bind] at h
  cases hc : w.content ref with
  | registry r' => rw [hc] at h; cases h; rfl
  | _ => rw [hc] at h; cases h

theorem controllerAt_ok {c : Controller} (h : (controllerAt ref w).1 = .ok c) :
    w.content ref = .controller c := by
  rw [controllerAt, content_bind] at h
  cases hc : w.content ref with
  | controller c' => rw [hc] at h; cases h; rfl
  | _ => rw [hc] at h; cases h

theorem moduleAt_ok {m : ClaimModule} (h : (moduleAt ref w).1 = .ok m) :
    w.content ref = .claimModule m := by
  rw [moduleAt, content_bind] at h
  cases hc : w.content ref with
  | claimModule m' => rw [hc] at h; cases h; rfl
  | _ => rw [hc] at h; cases h

theorem adapterAt_ok {a : ClaimAdapter} (h : (adapterAt ref w).1 = .ok a) :
    w.content ref = .claimAdapter a := by
  rw [adapterAt, content_bind] at h
  cases hc : w.content ref with
  | claimAdapter a' => rw [hc] at h; cases h; rfl
  | _ => rw [hc] at h; cases h

theorem setAt_ok {s : SetToken} (h : (setAt ref w).1 = .ok s) : w.content ref = .setToken s := by
  rw [setAt, content_bind] at h
  cases hc : w.content ref with
  | setToken s' => rw [hc] at h; cases h; rfl
  | _ => rw [hc] at h; cases h

theorem tokenAt_ok {t : Token} (h : (tokenAt ref w).1 = .ok t) :
    w.content ref = .token t ∨ ∃ a, w.content ref = .claimAdapter a ∧ a.token = t := by
  rw [tokenAt, content_bind] at h
  cases hc : w.content ref with
  | token t' => rw [hc] at h; cases h; exact .inl rfl
  | claimAdapter a => rw [hc] at h; cases h; exact .inr ⟨a, rfl, rfl⟩
  | _ => rw [hc] at h; cases h

theorem setAddress_ok {a : Address} (h : (setAddress ref w).1 = .ok a) :
    (w.content ref).isSet = true ∧ (w.content ref).address? = some a := by
  rw [setAddress, content_bind] at h
  cases hc : w.content ref with
  | setToken s => rw [hc] at h; cases h; exact ⟨rfl, rfl⟩
  | setDraft d => rw [hc] at h; cases h; exact ⟨rfl, rfl⟩
  | _ => rw [hc] at h; cases h

end Found

section Tokens

theorem setToken_edits (hp : p ref .ledger) {t t' : Token} (ht : (tokenAt ref w).1 = .ok t)
    (h : t.Entry t') : EditsAt p (setToken ref t') w := by
  unfold EditsAt
  rw [setToken, content_bind]
  rcases tokenAt_ok ht with hc | ⟨a,hc,rfl⟩
  · rw [hc]
    exact setContent_edits hp (by rw [hc]; exact .token h)
  · rw [hc]
    exact setContent_edits hp (by rw [hc]; exact .adapterToken h)

theorem mint_edits (hp : p ref .ledger) (receiver : Value) (amount : Int) :
    EditsAt p (mint ref receiver amount) w := by
  refine .read (.lift _) fun receiver _ => ?_
  refine .read (tokenAt_reads ref) fun t ht => ?_
  exact setToken_edits hp ht (.minted t receiver amount)

/-- The token is read once more before the amount is moved, and is still the one that was
checked. -/
theorem transfer_edits (hp : p ref .ledger) (sender receiver : Value) (amount : Int) :
    EditsAt p (transfer ref sender receiver amount) w := by
  refine .read (.lift _) fun sender _ => ?_
  refine .read (tokenAt_reads ref) fun t ht => ?_
  refine .read (.lift _) fun _ hc => ?_
  refine .read (.lift _) fun receiver _ => ?_
  refine .read (tokenAt_reads ref) fun t' ht' => ?_
  refine .read (.lift _) fun u hu => ?_
  have he : t' = t := by
    rw [ht] at ht'
    cases ht'
    rfl
  subst he
  exact setToken_edits hp ht (.moved hc hu)

theorem perform_edits (hp : p ref .ledger) (sender : Address) (c : TokenCall) :
    EditsAt p (perform ref sender c) w := by
  cases c with
  | transfer receiver amount =>
    exact (transfer_edits hp _ _ _).answer _
  | mint receiver amount =>
    exact (mint_edits hp _ _).answer _
  | claimRewards holder =>
    refine .read (adapterAt_reads ref) fun a _ => ?_
    exact (mint_edits hp _ _).answer _

theorem call_edits (hp : ∀ ref, p ref .ledger) (sender target data : Value) :
    EditsAt p (call sender target data) w := by
  have answer : ∀ ref adapter, EditsAt p (call.answer sender data ref adapter) w := by
    intro ref adapter
    refine .read (.lift _) fun _ _ => ?_
    refine .read (.lift _) fun _ _ => ?_
    refine .read (.lift _) fun c _ => ?_
    exact perform_edits (hp ref) _ c
  refine .read (find_reads target) fun found _ => ?_
  cases found with
  | none => exact (Reads.pure _).edits
  | some ref =>
    refine .read (content_reads ref) fun c _ => ?_
    cases c with
    | token t => exact answer ref false
    | claimAdapter a => exact answer ref true
    | _ => exact (Reads.pure _).edits

theorem setRewards_edits (hp : p ref .rewards) (rewards : Int) :
    EditsAt p (setRewards ref rewards) w := by
  refine .read (adapterAt_reads ref) fun a ha => ?_
  apply setContent_edits hp
  rw [adapterAt_ok ha]
  exact .rewards a rewards

end Tokens

section Registries
variable (module adapter : Value) (name : String)

theorem registry_edits (hp : p ref .integrations) {change : Registry → Registry}
    (hc : ∀ r, Change .integrations (.registry r) (.registry (change r))) :
    EditsAt p (do setContent ref (.registry (change (← registryAt ref)))) w := by
  refine .read (registryAt_reads ref) fun r hr => ?_
  apply setContent_edits hp
  rw [registryAt_ok hr]
  exact hc r

/-- Adding and editing differ in what they expect of the name, which changes nothing. -/
theorem integration_edits (hp : p ref .integrations)
    (expect : Registry → Address → String → Except Fault Unit) :
    EditsAt p (do
      let module ← Address.ofValue module
      expect (← registryAt ref) module name
      let adapter ← Address.ofValue adapter
      Registry.expectAdapter adapter
      setContent ref (.registry ((← registryAt ref).set module name adapter))) w := by
  refine .read (.lift _) fun m _ => ?_
  refine .read (registryAt_reads ref) fun _ _ => ?_
  refine .read (.lift _) fun _ _ => ?_
  refine .read (.lift _) fun a _ => ?_
  refine .read (.lift _) fun _ _ => ?_
  exact registry_edits hp fun r => .named r m name a

theorem addIntegration_edits (hp : p ref .integrations) :
    EditsAt p (addIntegration ref module name adapter) w :=
  integration_edits module adapter name hp Registry.expectAbsent

theorem editIntegration_edits (hp : p ref .integrations) :
    EditsAt p (editIntegration ref module name adapter) w :=
  integration_edits module adapter name hp Registry.expectPresent

theorem removeIntegration_edits (hp : p ref .integrations) :
    EditsAt p (removeIntegration ref module name) w := by
  refine .read (.lift _) fun m _ => ?_
  refine .read (registryAt_reads ref) fun _ _ => ?_
  refine .read (.lift _) fun _ _ => ?_
  exact registry_edits hp fun r => .unnamed r m name

theorem listing_edits (hp : p ref .listing) {change : Controller → Except Fault Controller}
    (hc : ∀ c c', change c = .ok c' → c.Entry c') :
    EditsAt p (do setContent ref (.controller (← change (← controllerAt ref)))) w := by
  refine .read (controllerAt_reads ref) fun c hr => ?_
  refine .read (.lift _) fun c' h => ?_
  apply setContent_edits hp
  rw [controllerAt_ok hr]
  exact .listing (hc c c' h)

theorem addSet_edits (hp : p ref .listing) (set : Value) : EditsAt p (addSet ref set) w :=
  .read (.lift _) fun _ _ => listing_edits hp fun _ _ h => .setAdded h

theorem removeSet_edits (hp : p ref .listing) (set : Value) : EditsAt p (removeSet ref set) w :=
  .read (.lift _) fun _ _ => listing_edits hp fun _ _ h => .setRemoved h

theorem enableModule_edits (hp : p ref .listing) : EditsAt p (enableModule ref module) w :=
  .read (.lift _) fun _ _ => listing_edits hp fun _ _ h => .moduleAdded h

end Registries

section Sets
variable {set : Ref} (caller module component : Value)

theorem state_edits (hp : p set .states) (a : Address) (state : ModuleState) :
    EditsAt p (do setContent set (.setToken ((← setAt set).setModuleState a state))) w := by
  refine .read (setAt_reads set) fun s hs => ?_
  apply setContent_edits hp
  rw [setAt_ok hs]
  exact .state s a state

theorem setState_edits (hp : p set .states) (state : ModuleState) :
    EditsAt p (do
      setContent set
        (.setToken ((← setAt set).setModuleState (← Address.ofValue module) state))) w := by
  refine .read (setAt_reads set) fun s hs => ?_
  refine .read (.lift _) fun a _ => ?_
  apply setContent_edits hp
  rw [setAt_ok hs]
  exact .state s a state

theorem addModule_edits (hp : p set .states) : EditsAt p (addModule set caller module) w := by
  refine .read (onlyManager_reads set caller) fun _ _ => ?_
  refine .read (moduleState_reads set module) fun _ _ => ?_
  refine .guard fun _ => ?_
  refine .read (.lift _) fun a _ => ?_
  refine .read (setController_reads set) fun _ _ => ?_
  refine .guard fun _ => ?_
  exact state_edits hp a _

theorem initializeModule_edits (hp : p set .states) :
    EditsAt p (initializeModule set caller) w := by
  refine .read (moduleState_reads set caller) fun _ _ => ?_
  exact .guard fun _ => setState_edits caller hp _

theorem setManager_edits (hp : p set .manager) (manager : Value) :
    EditsAt p (setManager set caller manager) w := by
  refine .read (onlyManager_reads set caller) fun _ _ => ?_
  refine .read (.lift _) fun a _ => ?_
  refine .read (content_reads set) fun c hc => ?_
  have hw : w.content set = c := by
    cases hc
    rfl
  cases c with
  | setToken s => exact setContent_edits hp (by rw [hw]; exact .manager s a)
  | setDraft d => exact setContent_edits hp (by rw [hw]; exact .draftManager d a)
  | _ => exact (Reads.throw _).edits

theorem invoke_edits (hp : ∀ ref, p ref .ledger) (target data : Value) :
    EditsAt p (invoke set caller target data) w := by
  refine .read (onlyModule_reads set caller) fun _ _ => ?_
  refine .read (setAddress_reads set) fun a _ => ?_
  exact call_edits hp a.toValue target data

theorem basket_change {s s' : SetToken}
    (h : s' = { s with components := s'.components, units := s'.units }) :
    Change .basket (.setToken s) (.setToken s') := by
  rw [h]
  exact .basket s _ _

/-- How a module lists a component and how it drops one. -/
theorem components_edits (hp : p set .basket) {f : SetToken → Address → Except Fault SetToken}
    (hf : ∀ s c s', f s c = .ok s' →
      s' = { s with components := s'.components, units := s'.units }) :
    EditsAt p (do
      onlyModule set caller
      let c ← Address.ofValue component
      setContent set (.setToken (← f (← setAt set) c))) w := by
  refine .read (onlyModule_reads set caller) fun _ _ => ?_
  refine .read (.lift _) fun c _ => ?_
  refine .read (setAt_reads set) fun s hs => ?_
  refine .read (.lift _) fun s' hs' => ?_
  apply setContent_edits hp
  rw [setAt_ok hs]
  exact basket_change (hf s c s' hs')

theorem addComponent_edits (hp : p set .basket) :
    EditsAt p (addComponent set caller component) w := by
  apply components_edits caller component hp
  intro s c s' h
  unfold SetToken.addComponent at h
  split at h <;> cases h
  rfl

theorem removeComponent_edits (hp : p set .basket) :
    EditsAt p (removeComponent set caller component) w := by
  apply components_edits caller component hp
  intro s c s' h
  unfold SetToken.removeComponent at h
  split at h <;> cases h
  rfl

theorem setUnit_edits (hp : p set .basket) (unit : Int) :
    EditsAt p (setUnit set caller component unit) w := by
  refine .read (onlyModule_reads set caller) fun _ _ => ?_
  refine .read (.lift _) fun c _ => ?_
  refine .read (setAt_reads set) fun s hs => ?_
  apply setContent_edits hp
  rw [setAt_ok hs]
  exact basket_change rfl

theorem listComponent_edits (hp : p set .basket) (unit : Int) :
    EditsAt p (listComponent set caller component unit) w := by
  have counted : ∀ v, EditsAt p (if 0 < unit then setUnit set caller component unit
      else pure ()) v := by
    intro v
    exact .ite (fun _ => setUnit_edits caller component hp unit) fun _ => (Reads.pure _).edits
  refine .read (isComponent_reads set component) fun listed _ => .ite (fun _ => ?_) fun _ => ?_
  · exact (addComponent_edits caller component hp).bind fun _ v _ => counted v
  · refine .ite (fun _ => ?_) fun _ => counted w
    exact (removeComponent_edits caller component hp).bind fun _ v _ => counted v

theorem recalculate_edits (hp : p set .basket) (before : Int) :
    EditsAt p (recalculate set caller component before) w := by
  refine .read (setAddress_reads set) fun _ _ => ?_
  refine .read (balanceOf_reads component _) fun _ _ => ?_
  refine .read (positionUnit_reads set component) fun _ _ => ?_
  refine .read (setAt_reads set) fun _ _ => ?_
  refine .read (.lift _) fun unit _ => ?_
  exact (listComponent_edits caller component hp unit).answer _

end Sets

section Claims
variable {module set : Ref} (caller given pool claimData : Value) (name : String)
  (pools : List Value) (names : List String) (data : List Value)

theorem updateSettings_edits {a : Address} {change : ClaimSettings → Except Fault ClaimSettings}
    (hp : p module (.settings a))
    (hc : ∀ c c', change c = .ok c' → ClaimSettings.Revision a c c') :
    EditsAt p (updateSettings module change) w := by
  refine .read (moduleAt_reads module) fun m hm => ?_
  refine .read (.lift _) fun c h => ?_
  apply setContent_edits hp
  rw [moduleAt_ok hm]
  exact .settings (hc _ _ h)

/-- The adapter of a name is looked up, and the settings of the set change for it at the pool. -/
theorem changeOne_edits
    {f : Address → Address → Address → ClaimSettings → Except Fault ClaimSettings}
    (hf : ∀ a pool adapter c c', f a pool adapter c = .ok c' → ClaimSettings.Revision a c c')
    (hp : ∀ a, (w.content set).address? = some a → p module (.settings a)) :
    EditsAt p (do
      let adapter ← namedAdapter module name
      let address ← setAddress set
      let pool ← Address.ofValue pool
      updateSettings module (f address pool adapter)) w := by
  refine .read (namedAdapter_reads module name) fun adapter _ => ?_
  refine .read (setAddress_reads set) fun a ha => ?_
  refine .read (.lift _) fun pool _ => ?_
  exact updateSettings_edits (hp a (setAddress_ok ha).2) (hf a pool adapter)

theorem addOne_edits (hp : ∀ a, (w.content set).address? = some a → p module (.settings a)) :
    EditsAt p (addOne module set pool name) w := by
  apply changeOne_edits pool name ?_ hp
  intro a pool adapter c c' h
  exact .added h

theorem removeOne_edits (hp : ∀ a, (w.content set).address? = some a → p module (.settings a)) :
    EditsAt p (removeOne module set pool name) w := by
  apply changeOne_edits pool name ?_ hp
  intro a pool adapter c c' h
  exact .removed h

/-- The set keeps its address while a batch goes on, so that every item of it is about the same
settings. -/
theorem batch_edits {one : Value → String → Run Unit}
    (hone : ∀ {v : World} (pool : Value) (name : String),
      (∀ a, (v.content set).address? = some a → p module (.settings a)) →
      EditsAt p (one pool name) v)
    (hp : ∀ a, (w.content set).address? = some a → p module (.settings a)) :
    EditsAt p (do
      checkArrays pools names
      (pools.zip names).forM fun e => one e.1 e.2) w := by
  refine .read (checkArrays_reads pools names) fun _ _ => ?_
  refine .forM fun e _ v hv => ?_
  apply hone e.1 e.2
  intro a ha
  rw [hv.address set] at ha
  exact hp a ha

theorem addAll_edits (hp : ∀ a, (w.content set).address? = some a → p module (.settings a)) :
    EditsAt p (addAll module set pools names) w :=
  batch_edits pools names addOne_edits hp

theorem removeAll_edits (hp : ∀ a, (w.content set).address? = some a → p module (.settings a)) :
    EditsAt p (removeAll module set pools names) w :=
  batch_edits pools names removeOne_edits hp

theorem setAnyone_edits (hp : ∀ a, (w.content set).address? = some a → p module (.settings a))
    (anyone : Bool) :
    EditsAt p (do
      let address ← setAddress set
      updateSettings module fun c => .ok (c.setAnyone address anyone)) w := by
  refine .read (setAddress_reads set) fun a ha => ?_
  refine updateSettings_edits (hp a (setAddress_ok ha).2) fun c c' h => ?_
  cases h
  exact .opened c anyone

/-- Tokens move while the adapter is called, the basket follows them, and the event comes last. -/
theorem claimOne_edits (hl : ∀ ref, p ref .ledger) (hb : p set .basket) (he : p module .events) :
    EditsAt p (claimOne module set pool name claimData) w := by
  refine .read (isRewardPool_reads module _ pool) fun _ _ => ?_
  refine .guard fun _ => ?_
  refine .read (registeredAdapter_reads module _ pool name) fun adapter _ => ?_
  refine .read (moduleAt_reads module) fun m _ => ?_
  refine .read (setAddress_reads set) fun address _ => ?_
  refine .read (rewardToken_reads adapter pool) fun token _ => ?_
  refine .read (balanceOf_reads _ _) fun before _ => ?_
  refine .read (claimCall_reads adapter address pool claimData) fun c _ => ?_
  refine (invoke_edits _ hl _ _).bind fun _ v _ => ?_
  refine .read (balanceOf_reads _ _) fun now _ => ?_
  refine (recalculate_edits _ _ hb before).bind fun _ u _ => ?_
  refine .read (.lift _) fun _ _ => ?_
  refine .read (.lift _) fun _ _ => ?_
  refine .read (moduleAt_reads module) fun m hm => ?_
  refine .bind (setContent_edits he ?_) fun _ _ _ => ((Reads.lift _).bind fun _ => .pure _).edits
  rw [moduleAt_ok hm]
  exact .event m _

end Claims

end Basketry.Chain
