import Basketry.Proofs.Reads
import Basketry.Proofs.SettingsViews

namespace Basketry.Chain

/-- Both fail with one fault, or both succeed with results in relation. -/
inductive Outcomes (ρ : α → α → Prop) : Except Fault α → Except Fault α → Prop
  | ok {x y : α} (h : ρ x y) : Outcomes ρ (.ok x) (.ok y)
  | error (fault : Fault) : Outcomes ρ (.error fault) (.error fault)

/-- Settings in relation answer the same and stay in relation through every change. -/
structure ClaimSettings.Likeness (ρ : ClaimSettings → ClaimSettings → Prop) : Prop where
  views : ∀ {c c'}, ρ c c' → ∀ set, SameFor set c c'
  add : ∀ {c c'}, ρ c c' → ∀ set pool adapter,
    Outcomes ρ (c.add set pool adapter) (c'.add set pool adapter)
  remove : ∀ {c c'}, ρ c c' → ∀ set pool adapter,
    Outcomes ρ (c.remove set pool adapter) (c'.remove set pool adapter)
  clear : ∀ {c c'}, ρ c c' → ∀ set, Outcomes ρ (c.clear set) (c'.clear set)
  anyone : ∀ {c c'}, ρ c c' → ∀ set flag, ρ (c.setAnyone set flag) (c'.setAnyone set flag)

/-- Contracts that are the same but for the settings of a claim module. -/
inductive Contract.Near (ρ : ClaimSettings → ClaimSettings → Prop) : Contract → Contract → Prop
  | same (c : Contract) : Near ρ c c
  | settings (m : ClaimModule) {c : ClaimSettings} (h : ρ m.settings c) :
      Near ρ (.claimModule m) (.claimModule { m with settings := c })

/-- Worlds side by side have one object like the other at every place, and a change that is made to
both of them does not part them. -/
structure Tracks (ρ : ClaimSettings → ClaimSettings → Prop) (R : World → World → Prop) :
    Prop where
  refl : ∀ c, ρ c c
  registered : ∀ {w v}, R w v → v.registered = w.registered
  contents : ∀ {w v}, R w v → ∀ ref, Contract.Near ρ (w.content ref) (v.content ref)
  setContent : ∀ {w v}, R w v → ∀ {c c'}, Contract.Near ρ c c' → ∀ ref,
    R (w.setContent ref c) (v.setContent ref c')

/-- One action in one world and another in the other answer the same and keep the worlds in
relation. -/
def Parallel (R : World → World → Prop) (a b : Run α) : Prop :=
  ∀ w v, R w v → (b v).1 = (a w).1 ∧ R (a w).2 (b v).2

/-- An action that cannot tell worlds in relation apart. -/
abbrev Tracked (R : World → World → Prop) (a : Run α) : Prop := Parallel R a a

variable {ρ : ClaimSettings → ClaimSettings → Prop} {R : World → World → Prop}

theorem Parallel.pure (x : α) : Tracked R (pure x) := fun _ _ h => ⟨rfl, h⟩

theorem Parallel.throw (fault : Fault) : Tracked R (throw fault : Run α) := fun _ _ h => ⟨rfl, h⟩

theorem Parallel.lift (e : Except Fault α) : Tracked R (liftM e : Run α) := fun _ _ h => ⟨rfl, h⟩

theorem Parallel.bind {a b : Run α} {f g : α → Run β} (ha : Parallel R a b)
    (hf : ∀ x, Parallel R (f x) (g x)) : Parallel R (a >>= f) (b >>= g) := by
  intro w v h
  have hfirst := ha w v h
  rw [bind_run, bind_run]
  generalize a w = left, b v = right at hfirst ⊢
  obtain ⟨outcome,w'⟩ := left
  obtain ⟨outcome',v'⟩ := right
  obtain ⟨rfl,hworld⟩ := hfirst
  cases outcome' with
  | ok x => exact hf x w' v' hworld
  | error fault => exact ⟨rfl, hworld⟩

theorem Parallel.ite {c : Prop} [Decidable c] {a b a' b' : Run α} (ha : Parallel R a a')
    (hb : Parallel R b b') : Parallel R (if c then a else b) (if c then a' else b') := by
  split
  · exact ha
  · exact hb

/-- A refusal in front of what goes on. -/
theorem Parallel.guard {c : Prop} [Decidable c] {fault : Fault} {f : β → Run α} {a b : Run α}
    (h : Parallel R a b) :
    Parallel R (if c then MonadExcept.throw fault >>= f else a)
      (if c then MonadExcept.throw fault >>= f else b) :=
  .ite (.throw fault) h

theorem Parallel.state {f g : World → Run α} (hf : ∀ w v, R w v → Parallel R (f w) (g v)) :
    Parallel R (get >>= f) (get >>= g) :=
  fun w v h => hf w v h w v h

/-- Something may be found or not, and what is done then differs. -/
theorem Parallel.byFound {a : Run (Option α)} {f : Option α → Run β} (ha : Tracked R a)
    (hf : ∀ x, Tracked R (f (some x))) (hn : Tracked R (f none)) : Tracked R (a >>= f) := by
  apply Parallel.bind ha
  intro found
  cases found with
  | none => exact hn
  | some x => exact hf x

theorem Parallel.forM {xs : List α} {f : α → Run Unit} (hf : ∀ x, Tracked R (f x)) :
    Tracked R (xs.forM f) := by
  induction xs with
  | nil => exact .pure _
  | cons x xs ih => exact (hf x).bind fun _ => ih

theorem Parallel.mapM {xs : List α} {f : α → Run β} (hf : ∀ x, Tracked R (f x)) :
    Tracked R (xs.mapM f) := by
  induction xs with
  | nil => exact .pure _
  | cons x xs ih =>
    rw [List.mapM_cons]
    exact .bind (hf x) fun _ => .bind ih fun _ => .pure _

section Objects
variable (hR : Tracks ρ R) (ref : Ref)
include hR

/-- What is done with a content has to be parallel for the contents of both worlds. -/
theorem Parallel.byContent {f g : Contract → Run α} (hsame : ∀ c, Parallel R (f c) (g c))
    (hm : ∀ m c, ρ m.settings c →
      Parallel R (f (.claimModule m)) (g (.claimModule { m with settings := c }))) :
    Parallel R (content ref >>= f) (content ref >>= g) := by
  intro w v h
  have hnear := hR.contents h ref
  change (g (v.content ref) v).1 = (f (w.content ref) w).1 ∧
    R (f (w.content ref) w).2 (g (v.content ref) v).2
  generalize w.content ref = c, v.content ref = c' at hnear
  cases hnear with
  | same => exact hsame c w v h
  | settings m hc => exact hm m _ hc w v h

theorem setContent_parallel {c c' : Contract} (h : c.Near ρ c') :
    Parallel R (setContent ref c) (setContent ref c') :=
  fun _ _ hw => ⟨rfl, hR.setContent hw h ref⟩

theorem setContent_tracked (c : Contract) : Tracked R (setContent ref c) :=
  setContent_parallel hR ref (.same c)

/-- Most actions look into one kind of contract only, which is no claim module. -/
theorem Parallel.byKind {f : Contract → Run α} (hsame : ∀ c, Tracked R (f c))
    (hm : ∀ m c, f (.claimModule { m with settings := c }) = f (.claimModule m)) :
    Tracked R (content ref >>= f) := by
  refine .byContent hR ref hsame fun m c _ => ?_
  rw [hm m c]
  exact hsame (.claimModule m)

theorem registryAt_tracked : Tracked R (registryAt ref) :=
  .byKind hR ref (fun c => by cases c <;> first | exact .pure _ | exact .throw _) fun _ _ => rfl

theorem controllerAt_tracked : Tracked R (controllerAt ref) :=
  .byKind hR ref (fun c => by cases c <;> first | exact .pure _ | exact .throw _) fun _ _ => rfl

theorem adapterAt_tracked : Tracked R (adapterAt ref) :=
  .byKind hR ref (fun c => by cases c <;> first | exact .pure _ | exact .throw _) fun _ _ => rfl

theorem setAt_tracked : Tracked R (setAt ref) :=
  .byKind hR ref (fun c => by cases c <;> first | exact .pure _ | exact .throw _) fun _ _ => rfl

theorem setAddress_tracked : Tracked R (setAddress ref) :=
  .byKind hR ref (fun c => by cases c <;> first | exact .pure _ | exact .throw _) fun _ _ => rfl

theorem tokenAt_tracked : Tracked R (tokenAt ref) :=
  .byKind hR ref (fun c => by cases c <;> first | exact .pure _ | exact .throw _) fun _ _ => rfl

theorem setProfile_tracked : Tracked R (setProfile ref) := by
  refine .byKind hR ref (fun c => ?_) fun _ _ => rfl
  cases c with
  | setToken s => exact .pure _
  | setDraft d =>
    obtain ⟨a,c,profile⟩ := d
    cases profile with
    | none => exact .throw _
    | some p => exact .pure p
  | _ => exact .throw _

theorem setController_tracked : Tracked R (setController ref) := by
  refine .byKind hR ref (fun c => ?_) fun _ _ => rfl
  cases c.controller? with
  | none => exact .throw _
  | some r => exact controllerAt_tracked hR r

/-- A module may differ from its twin in the settings. -/
theorem Parallel.byModule {f g : ClaimModule → Run α}
    (hf : ∀ m c, ρ m.settings c → Parallel R (f m) (g { m with settings := c })) :
    Parallel R (moduleAt ref >>= f) (moduleAt ref >>= g) := by
  rw [moduleAt, bind_assoc, bind_assoc]
  refine .byContent hR ref (fun c => ?_) fun m c hc => hf m c hc
  cases c with
  | claimModule m => exact hf m m.settings (hR.refl _)
  | _ => exact .throw _

theorem setToken_tracked (t : Token) : Tracked R (setToken ref t) := by
  refine .byKind hR ref (fun c => ?_) fun _ _ => rfl
  cases c <;> exact setContent_tracked hR ref _

end Objects

section Tokens
variable (hR : Tracks ρ R) (ref : Ref)
include hR

theorem find_tracked (a : Value) : Tracked R (find a) := by
  refine .bind (.lift _) fun a => .state fun w v h => ?_
  rw [World.find, World.find, hR.registered h]
  exact .pure _

theorem balanceOf_tracked (token holder : Value) : Tracked R (balanceOf token holder) := by
  refine .byFound (find_tracked hR token) (fun ref => ?_) (.throw _)
  refine .byKind hR ref (fun c => ?_) fun _ _ => rfl
  cases c <;> first
    | exact .bind (.lift _) fun _ => .pure _
    | exact .throw _

theorem mint_tracked (receiver : Value) (amount : Int) : Tracked R (mint ref receiver amount) := by
  refine .bind (.lift _) fun receiver => ?_
  refine .bind (tokenAt_tracked hR ref) fun t => ?_
  exact setToken_tracked hR ref _

theorem transfer_tracked (sender receiver : Value) (amount : Int) :
    Tracked R (transfer ref sender receiver amount) := by
  refine .bind (.lift _) fun sender => ?_
  refine .bind (tokenAt_tracked hR ref) fun t => ?_
  refine .bind (.lift _) fun _ => ?_
  refine .bind (.lift _) fun receiver => ?_
  refine .bind (tokenAt_tracked hR ref) fun t => ?_
  refine .bind (.lift _) fun t' => ?_
  exact setToken_tracked hR ref t'

theorem perform_tracked (sender : Address) (c : TokenCall) : Tracked R (perform ref sender c) := by
  cases c with
  | transfer receiver amount =>
    exact .bind (transfer_tracked hR ref _ _ _) fun _ => .pure _
  | mint receiver amount => exact .bind (mint_tracked hR ref _ _) fun _ => .pure _
  | claimRewards holder =>
    refine .bind (adapterAt_tracked hR ref) fun a => ?_
    exact .bind (mint_tracked hR ref _ _) fun _ => .pure _

theorem call_tracked (sender target data : Value) : Tracked R (call sender target data) := by
  have answer : ∀ ref adapter, Tracked R (call.answer sender data ref adapter) := by
    intro ref adapter
    refine .bind (.lift _) fun _ => ?_
    refine .bind (.lift _) fun _ => ?_
    refine .bind (.lift _) fun c => ?_
    exact perform_tracked hR ref _ c
  refine .byFound (find_tracked hR target) (fun ref => ?_) (.pure _)
  refine .byKind hR ref (fun c => ?_) fun _ _ => rfl
  cases c with
  | token t => exact answer ref false
  | claimAdapter a => exact answer ref true
  | _ => exact .pure _

theorem setRewards_tracked (rewards : Int) : Tracked R (setRewards ref rewards) :=
  .bind (adapterAt_tracked hR ref) fun _ => setContent_tracked hR ref _

theorem adapterRewards_tracked : Tracked R (adapterRewards ref) :=
  .byKind hR ref (fun c => by cases c <;> first | exact .pure _ | exact .throw _) fun _ _ => rfl

theorem adapterToken_tracked (pool : Value) : Tracked R (adapterToken ref pool) := by
  refine .byKind hR ref (fun c => ?_) fun _ _ => rfl
  cases c <;> first | exact .pure _ | exact .throw _ | exact .lift _

theorem adapterCall_tracked (set pool claimData : Value) :
    Tracked R (adapterCall ref set pool claimData) := by
  refine .byKind hR ref (fun c => ?_) fun _ _ => rfl
  cases c <;> first | exact .bind (.lift _) fun _ => .lift _ | exact .throw _ | exact .lift _

end Tokens

section Registries
variable (hR : Tracks ρ R) (ref : Ref) (module adapter set : Value) (name : String)
include hR

/-- Adding and editing differ in what they expect of the name. -/
theorem integration_tracked (expect : Registry → Address → String → Except Fault Unit) :
    Tracked R (do
      let module ← Address.ofValue module
      expect (← registryAt ref) module name
      let adapter ← Address.ofValue adapter
      Registry.expectAdapter adapter
      setContent ref (.registry ((← registryAt ref).set module name adapter))) := by
  refine .bind (.lift _) fun m => ?_
  refine .bind (registryAt_tracked hR ref) fun r => ?_
  refine .bind (.lift _) fun _ => ?_
  refine .bind (.lift _) fun a => ?_
  refine .bind (.lift _) fun _ => ?_
  refine .bind (registryAt_tracked hR ref) fun r => ?_
  exact setContent_tracked hR ref _

theorem removeIntegration_tracked : Tracked R (removeIntegration ref module name) := by
  refine .bind (.lift _) fun m => ?_
  refine .bind (registryAt_tracked hR ref) fun r => ?_
  refine .bind (.lift _) fun _ => ?_
  refine .bind (registryAt_tracked hR ref) fun r => ?_
  exact setContent_tracked hR ref _

theorem integrationAdapter_tracked : Tracked R (integrationAdapter ref module name) :=
  .bind (registryAt_tracked hR ref) fun _ => .bind (.lift _) fun _ => .pure _

/-- The three ways in which a controller lists an address. -/
theorem listing_tracked (change : Controller → Address → Except Fault Controller) :
    Tracked R (do
      let a ← Address.ofValue set
      setContent ref (.controller (← change (← controllerAt ref) a))) := by
  refine .bind (.lift _) fun a => ?_
  refine .bind (controllerAt_tracked hR ref) fun c => ?_
  refine .bind (.lift _) fun c' => ?_
  exact setContent_tracked hR ref _

theorem isSet_tracked : Tracked R (isSet ref set) :=
  .bind (controllerAt_tracked hR ref) fun _ => .bind (.lift _) fun _ => .pure _

theorem isModule_tracked : Tracked R (isModule ref module) :=
  .bind (controllerAt_tracked hR ref) fun _ => .bind (.lift _) fun _ => .pure _

theorem integrationRegistry_tracked : Tracked R (integrationRegistry ref) := by
  refine .state fun w v h => ?_
  refine .bind (controllerAt_tracked hR ref) fun c => ?_
  rw [World.find, World.find, hR.registered h]
  exact .pure _

end Registries

section Sets
variable (hR : Tracks ρ R) (set : Ref) (caller component : Value)
include hR

theorem moduleState_tracked (module : Value) : Tracked R (moduleState set module) :=
  .bind (setAt_tracked hR set) fun _ => .bind (.lift _) fun _ => .pure _

theorem hasModuleState_tracked (module : Value) (state : ModuleState) :
    Tracked R (hasModuleState set module state) :=
  .bind (moduleState_tracked hR set module) fun _ => .pure _

theorem onlyManager_tracked : Tracked R (onlyManager set caller) :=
  .bind (.lift _) fun _ => .bind (setProfile_tracked hR set) fun _ => .lift _

theorem onlyModule_tracked : Tracked R (onlyModule set caller) :=
  .bind (setAt_tracked hR set) fun _ => .bind (.lift _) fun _ => .lift _

theorem setState_tracked (a : Address) (state : ModuleState) :
    Tracked R (do setContent set (.setToken ((← setAt set).setModuleState a state))) :=
  .bind (setAt_tracked hR set) fun _ => setContent_tracked hR set _

theorem addModule_tracked (module : Value) : Tracked R (addModule set caller module) := by
  refine .bind (onlyManager_tracked hR set caller) fun _ => ?_
  refine .bind (moduleState_tracked hR set module) fun _ => ?_
  refine .guard (.bind (.lift _) fun a => ?_)
  refine .bind (setController_tracked hR set) fun c => ?_
  exact .guard (setState_tracked hR set a _)

theorem initializeModule_tracked : Tracked R (initializeModule set caller) := by
  refine .bind (moduleState_tracked hR set caller) fun _ => ?_
  refine .guard (.bind (setAt_tracked hR set) fun s => ?_)
  exact .bind (.lift _) fun a => setContent_tracked hR set _

theorem setManager_tracked (manager : Value) : Tracked R (setManager set caller manager) := by
  refine .bind (onlyManager_tracked hR set caller) fun _ => ?_
  refine .bind (.lift _) fun a => ?_
  refine .byKind hR set (fun c => ?_) fun _ _ => rfl
  cases c <;> first | exact setContent_tracked hR set _ | exact .throw _

theorem invoke_tracked (target data : Value) : Tracked R (invoke set caller target data) := by
  refine .bind (onlyModule_tracked hR set caller) fun _ => ?_
  refine .bind (setAddress_tracked hR set) fun a => ?_
  exact call_tracked hR a.toValue target data

theorem isComponent_tracked : Tracked R (isComponent set component) :=
  .bind (.lift _) fun _ => .bind (setAt_tracked hR set) fun _ => .pure _

theorem positionUnit_tracked : Tracked R (positionUnit set component) :=
  .bind (setAt_tracked hR set) fun _ => .bind (.lift _) fun _ => .pure _

/-- How a module lists a component and how it drops one. -/
theorem components_tracked (change : SetToken → Address → Except Fault SetToken) :
    Tracked R (do
      onlyModule set caller
      let c ← Address.ofValue component
      setContent set (.setToken (← change (← setAt set) c))) := by
  refine .bind (onlyModule_tracked hR set caller) fun _ => ?_
  refine .bind (.lift _) fun c => ?_
  refine .bind (setAt_tracked hR set) fun s => ?_
  exact .bind (.lift _) fun s' => setContent_tracked hR set _

theorem addComponent_tracked : Tracked R (addComponent set caller component) :=
  components_tracked hR set caller component SetToken.addComponent

theorem removeComponent_tracked : Tracked R (removeComponent set caller component) :=
  components_tracked hR set caller component SetToken.removeComponent

theorem setUnit_tracked (unit : Int) : Tracked R (setUnit set caller component unit) := by
  refine .bind (onlyModule_tracked hR set caller) fun _ => ?_
  refine .bind (.lift _) fun c => ?_
  exact .bind (setAt_tracked hR set) fun _ => setContent_tracked hR set _

theorem listComponent_tracked (unit : Int) :
    Tracked R (listComponent set caller component unit) := by
  have counted : Tracked R (if 0 < unit then setUnit set caller component unit else pure ()) :=
    .ite (setUnit_tracked hR set caller component unit) (.pure _)
  refine .bind (isComponent_tracked hR set component) fun listed => .ite ?_ (.ite ?_ counted)
  · exact .bind (addComponent_tracked hR set caller component) fun _ => counted
  · exact .bind (removeComponent_tracked hR set caller component) fun _ => counted

theorem recalculate_tracked (before : Int) :
    Tracked R (recalculate set caller component before) := by
  refine .bind (setAddress_tracked hR set) fun _ => ?_
  refine .bind (balanceOf_tracked hR component _) fun _ => ?_
  refine .bind (positionUnit_tracked hR set component) fun _ => ?_
  refine .bind (setAt_tracked hR set) fun _ => ?_
  refine .bind (.lift _) fun unit => ?_
  exact .bind (listComponent_tracked hR set caller component unit) fun _ => .pure _

end Sets

section Finding
variable (hR : Tracks ρ R) (module set : Ref) (given pool claimData caller : Value) (name : String)
include hR

theorem resolveSet_tracked : Tracked R (resolveSet given) := by
  have known : ∀ ref, Tracked R (do
      if (← content ref).isSet then return ref else resolveSet.refuse : Run Ref) :=
    fun ref => .byKind hR ref (fun _ => .ite (.pure _) (.throw _)) fun _ _ => rfl
  cases given with
  | object ref =>
    refine .byKind hR ref (fun c => .ite ?_ ?_) fun _ _ => rfl
    · exact .byFound (.pure _) known (.throw _)
    · exact .byFound (find_tracked hR _) known (.throw _)
  | _ => exact .byFound (find_tracked hR _) known (.throw _)

theorem addressOf_tracked : Tracked R (addressOf given) := by
  cases given with
  | object ref =>
    exact .byKind hR ref (fun _ => .ite (setAddress_tracked hR ref) (.lift _)) fun _ _ => rfl
  | _ => exact .lift _

theorem controllerOf_tracked : Tracked R (controllerOf module) :=
  .byModule hR module fun _ _ _ => .pure _

theorem namedAdapter_tracked : Tracked R (namedAdapter module name) := by
  refine .bind (controllerOf_tracked hR module) fun c => ?_
  refine .byFound (integrationRegistry_tracked hR c) (fun registry => ?_) (.throw _)
  refine .byModule hR module fun m _ _ => ?_
  exact .bind (integrationAdapter_tracked hR registry _ name) fun a => .guard (.pure _)

theorem onlySetManager_tracked : Tracked R (onlySetManager set caller) := by
  refine .bind (.lift _) fun a => ?_
  exact .bind (setProfile_tracked hR set) fun _ => .ite (.throw _) (.pure _)

theorem stateOf_tracked : Tracked R (stateOf module set) :=
  .byModule hR module fun _ _ _ => moduleState_tracked hR set _

theorem isEnabledSet_tracked : Tracked R (isEnabledSet module set) := by
  refine .bind (controllerOf_tracked hR module) fun _ => ?_
  exact .bind (setAddress_tracked hR set) fun _ => isSet_tracked hR _ _

theorem onlyInitializedSet_tracked : Tracked R (onlyInitializedSet module set) := by
  refine .bind (isEnabledSet_tracked hR module set) fun _ => .guard ?_
  exact .bind (stateOf_tracked hR module set) fun _ => .ite (.throw _) (.pure _)

theorem onlyPendingSet_tracked : Tracked R (onlyPendingSet module set) := by
  refine .bind (isEnabledSet_tracked hR module set) fun _ => .guard ?_
  exact .bind (stateOf_tracked hR module set) fun _ => .ite (.throw _) (.pure _)

theorem managedSet_tracked : Tracked R (managedSet module caller given) := by
  refine .bind (resolveSet_tracked hR given) fun set => ?_
  refine .bind (onlySetManager_tracked hR set caller) fun _ => ?_
  exact .bind (onlyInitializedSet_tracked hR module set) fun _ => .pure set

theorem rewardToken_tracked (adapter : Address) : Tracked R (rewardToken adapter pool) := by
  refine .state fun w v h => ?_
  rw [World.find, World.find, hR.registered h]
  cases w.registered.get? adapter with
  | none => exact .throw _
  | some ref =>
    refine .byKind hR ref (fun c => ?_) fun _ _ => rfl
    cases c <;> first | exact .pure _ | exact .throw _ | exact .lift _

theorem claimCall_tracked (adapter a : Address) :
    Tracked R (claimCall adapter a pool claimData) := by
  refine .state fun w v h => ?_
  rw [World.find, World.find, hR.registered h]
  cases w.registered.get? adapter with
  | none => exact .throw _
  | some ref =>
    refine .byKind hR ref (fun c => ?_) fun _ _ => rfl
    cases c <;> first | exact .throw _ | exact .lift _

theorem pendingRewards_tracked (adapter : Address) : Tracked R (pendingRewards adapter) := by
  refine .state fun w v h => ?_
  rw [World.find, World.find, hR.registered h]
  cases w.registered.get? adapter with
  | none => exact .throw _
  | some ref =>
    refine .byKind hR ref (fun c => ?_) fun _ _ => rfl
    cases c <;> first | exact .pure _ | exact .throw _

end Finding

theorem checkArrays_tracked (pools : List Value) (others : List α) :
    Tracked R (checkArrays pools others) :=
  .guard (.ite (.throw _) (.pure _))

section Settings
variable (hR : Tracks ρ R) (hρ : ClaimSettings.Likeness ρ) (module set : Ref)
  (given pool adapter claimData caller : Value) (name : String)
include hR hρ

theorem anyoneMayClaim_tracked : Tracked R (anyoneMayClaim module given) := by
  refine .byModule hR module fun m c hc => .bind (addressOf_tracked hR given) fun a => ?_
  rw [(hρ.views hc a).anyone]
  exact .pure _

theorem rewardPools_tracked : Tracked R (rewardPools module given) := by
  refine .byModule hR module fun m c hc => .bind (addressOf_tracked hR given) fun a => ?_
  rw [(hρ.views hc a).pools]
  exact .pure _

theorem rewardPoolAt_tracked (index : Int) : Tracked R (rewardPoolAt module given index) := by
  refine .bind (rewardPools_tracked hR hρ module given) fun pools => .guard ?_
  cases pools[index.toNat]? with
  | none => exact .throw _
  | some pool => exact .pure pool

theorem isRewardPool_tracked : Tracked R (isRewardPool module given pool) := by
  refine .bind (addressOf_tracked hR given) fun a => ?_
  refine .byModule hR module fun m c hc => .bind (.lift _) fun p => ?_
  rw [(hρ.views hc a).flags]
  exact .pure _

theorem rewardPoolClaims_tracked : Tracked R (rewardPoolClaims module given pool) := by
  refine .bind (addressOf_tracked hR given) fun a => ?_
  refine .byModule hR module fun m c hc => .bind (.lift _) fun p => ?_
  rw [(hρ.views hc a).adapters]
  exact .pure _

theorem isClaimRegistered_tracked : Tracked R (isClaimRegistered module given pool adapter) := by
  refine .bind (addressOf_tracked hR given) fun a => .bind (.lift _) fun p => ?_
  refine .byModule hR module fun m c hc => .bind (.lift _) fun d => ?_
  rw [(hρ.views hc a).registered]
  exact .pure _

theorem isRewardPoolClaim_tracked : Tracked R (isRewardPoolClaim module given pool name) :=
  .bind (namedAdapter_tracked hR module name) fun _ =>
    isClaimRegistered_tracked hR hρ module given pool _

theorem registeredAdapter_tracked : Tracked R (registeredAdapter module given pool name) := by
  refine .bind (namedAdapter_tracked hR module name) fun a => ?_
  exact .bind (isClaimRegistered_tracked hR hρ module given pool _) fun _ => .guard (.pure _)

theorem onlyValidCaller_tracked : Tracked R (onlyValidCaller module set caller) := by
  refine .bind (anyoneMayClaim_tracked hR hρ module _) fun _ => .ite ?_ (.pure _)
  refine .bind (.lift _) fun a => ?_
  exact .bind (setProfile_tracked hR set) fun _ => .ite (.throw _) (.pure _)

theorem claimableSet_tracked : Tracked R (claimableSet module caller given) := by
  refine .bind (resolveSet_tracked hR given) fun set => ?_
  refine .bind (onlyValidCaller_tracked hR hρ module set caller) fun _ => ?_
  exact .bind (onlyInitializedSet_tracked hR module set) fun _ => .pure set

theorem rewardsOf_tracked : Tracked R (rewardsOf module given pool name) := by
  refine .bind (resolveSet_tracked hR given) fun set => ?_
  refine .bind (registeredAdapter_tracked hR hρ module _ pool name) fun a => ?_
  exact pendingRewards_tracked hR a

omit hρ in
/-- A change that keeps settings in relation may be made to both of them. -/
theorem updateSettings_tracked {change : ClaimSettings → Except Fault ClaimSettings}
    (h : ∀ c c', ρ c c' → Outcomes ρ (change c) (change c')) :
    Tracked R (updateSettings module change) := by
  refine .byModule hR module fun m c hc => ?_
  have hchange := h m.settings c hc
  simp only
  generalize change m.settings = left, change c = right at hchange
  cases hchange with
  | ok h => exact setContent_parallel hR module (.settings { m with settings := _ } h)
  | error fault => exact .throw fault

omit hρ in
/-- The adapter of a name is looked up, and the settings of the set change for it at the pool. -/
theorem changeOne_tracked
    {f : Address → Address → Address → ClaimSettings → Except Fault ClaimSettings}
    (h : ∀ a p d c c', ρ c c' → Outcomes ρ (f a p d c) (f a p d c')) :
    Tracked R (do
      let adapter ← namedAdapter module name
      let address ← setAddress set
      let pool ← Address.ofValue pool
      updateSettings module (f address pool adapter)) := by
  refine .bind (namedAdapter_tracked hR module name) fun d => ?_
  refine .bind (setAddress_tracked hR set) fun a => .bind (.lift _) fun p => ?_
  exact updateSettings_tracked hR module (h a p d)

theorem addOne_tracked : Tracked R (addOne module set pool name) :=
  changeOne_tracked hR module set pool name fun a p d _ _ hc => hρ.add hc a p d

theorem removeOne_tracked : Tracked R (removeOne module set pool name) :=
  changeOne_tracked hR module set pool name fun a p d _ _ hc => hρ.remove hc a p d

theorem addAll_tracked (pools : List Value) (names : List String) :
    Tracked R (addAll module set pools names) :=
  .bind (checkArrays_tracked pools names) fun _ =>
    .forM fun e => addOne_tracked hR hρ module set e.1 e.2

theorem removeAll_tracked (pools : List Value) (names : List String) :
    Tracked R (removeAll module set pools names) :=
  .bind (checkArrays_tracked pools names) fun _ =>
    .forM fun e => removeOne_tracked hR hρ module set e.1 e.2

/-- What a module does to be initialized on a set, as a block. -/
theorem activation_tracked (pools : List Value) (names : List String) (anyone : Bool) :
    Tracked R (do
      let set ← resolveSet given
      onlySetManager set caller
      onlyPendingSet module set
      addAll module set pools names
      let address ← setAddress set
      updateSettings module fun c => .ok (c.setAnyone address anyone)
      initializeModule set (← moduleAt module).address.toValue) := by
  refine .bind (resolveSet_tracked hR given) fun set => ?_
  refine .bind (onlySetManager_tracked hR set caller) fun _ => ?_
  refine .bind (onlyPendingSet_tracked hR module set) fun _ => ?_
  refine .bind (addAll_tracked hR hρ module set pools names) fun _ => ?_
  refine .bind (setAddress_tracked hR set) fun a => ?_
  refine .bind (updateSettings_tracked hR module fun _ _ h => .ok (hρ.anyone h a anyone)) fun _ => ?_
  exact .byModule hR module fun m _ _ => initializeModule_tracked hR set _

/-- What a module does to forget a set, as a block. -/
theorem forgetting_tracked : Tracked R (do
    let set ← resolveSet given
    let address ← setAddress set
    updateSettings module (·.clear address)) := by
  refine .bind (resolveSet_tracked hR given) fun set => ?_
  refine .bind (setAddress_tracked hR set) fun a => ?_
  exact updateSettings_tracked hR module fun _ _ h => hρ.clear h a

theorem claimOne_tracked : Tracked R (claimOne module set pool name claimData) := by
  refine .bind (isRewardPool_tracked hR hρ module _ pool) fun _ => .guard ?_
  refine .bind (registeredAdapter_tracked hR hρ module _ pool name) fun adapter => ?_
  refine .byModule hR module fun m _ _ => ?_
  refine .bind (setAddress_tracked hR set) fun a => ?_
  refine .bind (rewardToken_tracked hR pool adapter) fun token => ?_
  refine .bind (balanceOf_tracked hR _ _) fun before => ?_
  refine .bind (claimCall_tracked hR pool claimData adapter a) fun c => ?_
  refine .bind (invoke_tracked hR set _ _ _) fun _ => ?_
  refine .bind (balanceOf_tracked hR _ _) fun now => ?_
  refine .bind (recalculate_tracked hR set _ _ before) fun _ => ?_
  refine .bind (.lift _) fun p => .bind (.lift _) fun data => ?_
  refine .byModule hR module fun m c hc => ?_
  refine .bind (setContent_parallel hR module (.settings { m with events := _ } hc)) fun _ => ?_
  exact .bind (.lift _) fun _ => .pure _

end Settings

end Basketry.Chain
