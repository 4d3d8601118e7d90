import Basketry.Proofs.AdapterSpelling
import Basketry.Proofs.Runs

namespace Basketry

theorem Value.canonical_cases (v : Value) :
    v.canonical = v ∨ ∃ a, v.canonical = a.toValue ∧ Address.ofValue v = .ok a := by
  unfold canonical
  cases h : Address.ofValue v with
  | ok a => exact .inr ⟨a, rfl, rfl⟩
  | error fault => exact .inl rfl

namespace Chain

section Readers
variable (ref : Ref) (v u : Value)

/-- Nothing that can be read as an address counts as false. -/
theorem truth_of_address {a : Address} (ha : Address.ofValue v = .ok a) : v.truth = true := by
  cases v with
  | null | list | dict | float | decimal | object => cases ha
  | bool b => cases ha
  | int n =>
    have hn : n ≠ 0 := by rintro rfl; cases ha
    simp [Value.truth, hn]
  | text s =>
    have hs : s ≠ "" := by rintro rfl; cases ha
    simp [Value.truth, hs]
  | bytes bs =>
    cases bs with
    | nil => cases ha
    | cons => rfl

@[simp] theorem truth_canonical : v.canonical.truth = v.truth := by
  rcases v.canonical_cases with h | ⟨a,h,ha⟩
  · rw [h]
  · rw [h, truth_of_address _ a.ofValue_toValue, truth_of_address v ha]

@[simp] theorem find_canonical : find v.canonical = find v := by simp [find]

@[simp] theorem register_canonical : register ref v.canonical = register ref v := by
  simp [register]

@[simp] theorem balanceOf_canonical : balanceOf v.canonical u.canonical = balanceOf v u := by
  simp [balanceOf]

@[simp] theorem call_canonical (data : Value) :
    call v.canonical u.canonical data = call v u data := by
  simp [call, call.answer]

@[simp] theorem mint_canonical (amount : Int) : mint ref v.canonical amount = mint ref v amount := by
  simp [mint]

@[simp] theorem transfer_canonical (amount : Int) :
    transfer ref v.canonical u.canonical amount = transfer ref v u amount := by
  simp [transfer]

@[simp] theorem integrationAdapter_canonical (name : String) :
    integrationAdapter ref v.canonical name = integrationAdapter ref v name := by
  simp [integrationAdapter]

@[simp] theorem moduleState_canonical : moduleState ref v.canonical = moduleState ref v := by
  simp [moduleState]

@[simp] theorem onlyManager_canonical : onlyManager ref v.canonical = onlyManager ref v := by
  simp [onlyManager]

@[simp] theorem onlyModule_canonical : onlyModule ref v.canonical = onlyModule ref v := by
  simp [onlyModule]

@[simp] theorem resolveSet_canonical : resolveSet v.canonical = resolveSet v := by
  rcases v.canonical_cases with h | ⟨a,h,ha⟩
  · rw [h]
  · have hfind := find_canonical v
    rw [h] at hfind ⊢
    cases v with
    | object => cases ha
    | _ =>
      unfold resolveSet
      rw [show a.toValue = .bytes a.bytes from rfl] at hfind ⊢
      simp only [hfind]

@[simp] theorem addressOf_canonical : addressOf v.canonical = addressOf v := by
  rcases v.canonical_cases with h | ⟨a,h,ha⟩
  · rw [h]
  · have hread := Value.ofValue_canonical v
    rw [h] at hread ⊢
    cases v with
    | object => cases ha
    | _ =>
      unfold addressOf
      rw [show a.toValue = .bytes a.bytes from rfl] at hread ⊢
      simp only [hread]

end Readers

section Baskets
variable (set : Ref) (caller component : Value)

@[simp] theorem invoke_canonical (target data : Value) :
    invoke set caller.canonical target.canonical data = invoke set caller target data := by
  simp [invoke, call, call.answer]

@[simp] theorem isComponent_canonical :
    isComponent set component.canonical = isComponent set component := by simp [isComponent]

@[simp] theorem positionUnit_canonical :
    positionUnit set component.canonical = positionUnit set component := by simp [positionUnit]

@[simp] theorem addComponent_canonical :
    addComponent set caller.canonical component.canonical = addComponent set caller component := by
  simp [addComponent]

@[simp] theorem removeComponent_canonical :
    removeComponent set caller.canonical component.canonical =
      removeComponent set caller component := by
  simp [removeComponent]

@[simp] theorem setUnit_canonical (unit : Int) :
    setUnit set caller.canonical component.canonical unit = setUnit set caller component unit := by
  simp [setUnit]

@[simp] theorem listComponent_canonical (unit : Int) :
    listComponent set caller.canonical component.canonical unit =
      listComponent set caller component unit := by
  simp [listComponent]

@[simp] theorem recalculate_canonical (before : Int) :
    recalculate set caller.canonical component.canonical before =
      recalculate set caller component before := by
  simp [recalculate, balanceOf]

end Baskets

section Claims
variable (module set : Ref) (caller given pool adapter : Value) (name : String)

@[simp] theorem isRewardPool_canonical :
    isRewardPool module given.canonical pool.canonical = isRewardPool module given pool := by
  simp [isRewardPool]

@[simp] theorem isClaimRegistered_canonical :
    isClaimRegistered module given.canonical pool.canonical adapter.canonical =
      isClaimRegistered module given pool adapter := by
  simp [isClaimRegistered]

@[simp] theorem isRewardPoolClaim_canonical :
    isRewardPoolClaim module given.canonical pool.canonical name =
      isRewardPoolClaim module given pool name := by
  simp [isRewardPoolClaim, isClaimRegistered]

@[simp] theorem registeredAdapter_canonical :
    registeredAdapter module given pool.canonical name =
      registeredAdapter module given pool name := by
  simp [registeredAdapter, isClaimRegistered]

@[simp] theorem onlySetManager_canonical :
    onlySetManager set caller.canonical = onlySetManager set caller := by simp [onlySetManager]

@[simp] theorem managedSet_canonical :
    managedSet module caller.canonical given.canonical = managedSet module caller given := by
  simp [managedSet]

@[simp] theorem claimableSet_canonical :
    claimableSet module caller.canonical given.canonical = claimableSet module caller given := by
  simp [claimableSet, onlyValidCaller]

@[simp] theorem addOne_canonical :
    addOne module set pool.canonical name = addOne module set pool name := by simp [addOne]

@[simp] theorem removeOne_canonical :
    removeOne module set pool.canonical name = removeOne module set pool name := by simp [removeOne]

/-- What runs over pools beside other things reads each of them by itself. -/
theorem zip_canonical {β : Type} (pools : List Value) (others : List β) :
    (pools.map Value.canonical).zip others =
      (pools.zip others).map fun e => (e.1.canonical, e.2) := by
  simp [List.zip_map_left, Prod.map]

@[simp] theorem addAll_canonical (pools : List Value) (names : List String) :
    addAll module set (pools.map Value.canonical) names = addAll module set pools names := by
  simp [addAll, checkArrays, zip_canonical, List.forM_map]

@[simp] theorem removeAll_canonical (pools : List Value) (names : List String) :
    removeAll module set (pools.map Value.canonical) names = removeAll module set pools names := by
  simp [removeAll, checkArrays, zip_canonical, List.forM_map]

@[simp] theorem forgetSet_canonical : forgetSet module given.canonical = forgetSet module given := by
  simp [forgetSet]

@[simp] theorem claimOne_canonical (claimData : Value) :
    claimOne module set pool.canonical name claimData =
      claimOne module set pool name claimData := by
  simp [claimOne, isRewardPool, rewardToken, claimCall, Morpho.ClaimAdapter.rewardToken,
    Morpho.ClaimAdapter.claimCall]

@[simp] theorem mapM_claimOne_canonical (pools : List Value) (names : List String)
    (data : List Value) :
    ((((pools.map Value.canonical).zip names).zip data).mapM fun e =>
        claimOne module set e.1.1 e.1.2 e.2) =
      ((pools.zip names).zip data).mapM fun e => claimOne module set e.1.1 e.1.2 e.2 := by
  simp [List.zip_map_left, List.mapM_map, Function.comp_def]

end Claims

namespace SetOrder

/-- The order with every address in one form. -/
def mapAddresses (f : Value → Value) (order : SetOrder) : SetOrder :=
  { order with
    components := order.components.map f
    modules := order.modules.map f
    manager := f order.manager }

end SetOrder

@[simp] theorem addPending_canonical (ref : Ref) (module : Value) :
    addPending ref module.canonical = addPending ref module := by simp [addPending]

@[simp] theorem createSet_canonical (controller : Ref) (order : SetOrder) :
    createSet controller (order.mapAddresses Value.canonical) = createSet controller order := by
  simp [createSet, SetOrder.mapAddresses, List.mapM_map, List.forM_map, Function.comp_def]

namespace Operation

/-- The operation with each of its addresses passed through `f`. -/
def mapAddresses (f : Value → Value) : Operation → Operation
  | .register ref at? => .register ref (f at?)
  | .find a => .find (f a)
  | .call sender target data => .call (f sender) (f target) data
  | .balanceOf token holder => .balanceOf (f token) (f holder)
  | .createMorphoAdapter distributor => .createMorphoAdapter (f distributor)
  | .createSet c order => .createSet c (order.mapAddresses f)
  | .createEnabledSet c order => .createEnabledSet c (order.mapAddresses f)
  | .addIntegration r module name adapter => .addIntegration r (f module) name (f adapter)
  | .editIntegration r module name adapter => .editIntegration r (f module) name (f adapter)
  | .removeIntegration r module name => .removeIntegration r (f module) name
  | .integrationAdapter r module name => .integrationAdapter r (f module) name
  | .isValidIntegration r module name => .isValidIntegration r (f module) name
  | .addSet c set => .addSet c (f set)
  | .removeSet c set => .removeSet c (f set)
  | .enableModule c module => .enableModule c (f module)
  | .isSet c set => .isSet c (f set)
  | .isModule c module => .isModule c (f module)
  | .tokenBalance t holder => .tokenBalance t (f holder)
  | .mint t receiver amount => .mint t (f receiver) amount
  | .transfer t sender receiver amount => .transfer t (f sender) (f receiver) amount
  | .adapterToken a pool => .adapterToken a (f pool)
  | .adapterCall a set pool data => .adapterCall a (f set) (f pool) data
  | .moduleState s module => .moduleState s (f module)
  | .hasModuleState s module state => .hasModuleState s (f module) state
  | .addModule s caller module => .addModule s (f caller) (f module)
  | .initializeModule s caller => .initializeModule s (f caller)
  | .removeModule s caller module => .removeModule s (f caller) (f module)
  | .setManager s caller manager => .setManager s (f caller) (f manager)
  | .invoke s caller target data => .invoke s (f caller) (f target) data
  | .isComponent s component => .isComponent s (f component)
  | .positionUnit s component => .positionUnit s (f component)
  | .addComponent s caller component => .addComponent s (f caller) (f component)
  | .removeComponent s caller component => .removeComponent s (f caller) (f component)
  | .setUnit s caller component unit => .setUnit s (f caller) (f component) unit
  | .recalculate s caller component before => .recalculate s (f caller) (f component) before
  | .activate m caller set anyone pools names =>
    .activate m (f caller) (f set) anyone (pools.map f) names
  | .updateAnyoneClaim m caller set anyone => .updateAnyoneClaim m (f caller) (f set) anyone
  | .addClaim m caller set pool name => .addClaim m (f caller) (f set) (f pool) name
  | .batchAddClaim m caller set pools names =>
    .batchAddClaim m (f caller) (f set) (pools.map f) names
  | .removeClaim m caller set pool name => .removeClaim m (f caller) (f set) (f pool) name
  | .batchRemoveClaim m caller set pools names =>
    .batchRemoveClaim m (f caller) (f set) (pools.map f) names
  | .forgetSet m set => .forgetSet m (f set)
  | .claim m caller set pool name data => .claim m (f caller) (f set) (f pool) name data
  | .batchClaim m caller set pools names data =>
    .batchClaim m (f caller) (f set) (pools.map f) names data
  | .anyoneMayClaim m set => .anyoneMayClaim m (f set)
  | .rewardPools m set => .rewardPools m (f set)
  | .rewardPoolAt m set index => .rewardPoolAt m (f set) index
  | .isRewardPool m set pool => .isRewardPool m (f set) (f pool)
  | .rewardPoolClaims m set pool => .rewardPoolClaims m (f set) (f pool)
  | .isClaimRegistered m set pool adapter => .isClaimRegistered m (f set) (f pool) (f adapter)
  | .isRewardPoolClaim m set pool name => .isRewardPoolClaim m (f set) (f pool) name
  | .rewardsOf m set pool name => .rewardsOf m (f set) (f pool) name
  | o => o

theorem run_canonical (o : Operation) : (o.mapAddresses Value.canonical).run = o.run := by
  cases o with
  | addIntegration => simp [mapAddresses, run, Chain.addIntegration]
  | editIntegration => simp [mapAddresses, run, Chain.editIntegration]
  | removeIntegration => simp [mapAddresses, run, Chain.removeIntegration]
  | isValidIntegration => simp [mapAddresses, run, Chain.isValidIntegration]
  | addSet => simp [mapAddresses, run, Chain.addSet]
  | removeSet => simp [mapAddresses, run, Chain.removeSet]
  | enableModule => simp [mapAddresses, run, Chain.enableModule]
  | isSet => simp [mapAddresses, run, Chain.isSet]
  | isModule => simp [mapAddresses, run, Chain.isModule]
  | createMorphoAdapter =>
    simp [mapAddresses, run, Chain.createMorphoAdapter, Morpho.ClaimAdapter.ofValue]
  | createEnabledSet => simp [mapAddresses, run, Chain.createEnabledSet]
  | adapterToken =>
    simp [mapAddresses, run, Chain.adapterToken, Morpho.ClaimAdapter.rewardToken]
  | adapterCall => simp [mapAddresses, run, Chain.adapterCall, Morpho.ClaimAdapter.claimCall]
  | hasModuleState => simp [mapAddresses, run, Chain.hasModuleState]
  | addModule => simp [mapAddresses, run, Chain.addModule]
  | initializeModule => simp [mapAddresses, run, Chain.initializeModule]
  | removeModule => simp [mapAddresses, run, Chain.removeModule]
  | setManager => simp [mapAddresses, run, Chain.setManager]
  | activate => simp [mapAddresses, run, Chain.activate]
  | updateAnyoneClaim => simp [mapAddresses, run, Chain.updateAnyoneClaim]
  | addClaim => simp [mapAddresses, run, Chain.addClaim]
  | batchAddClaim => simp [mapAddresses, run, Chain.batchAddClaim]
  | removeClaim => simp [mapAddresses, run, Chain.removeClaim]
  | batchRemoveClaim => simp [mapAddresses, run, Chain.batchRemoveClaim]
  | claim => simp [mapAddresses, run, Chain.claim]
  | batchClaim => simp [mapAddresses, run, Chain.batchClaim, checkArrays]
  | anyoneMayClaim => simp [mapAddresses, run, Chain.anyoneMayClaim]
  | rewardPools => simp [mapAddresses, run, Chain.rewardPools]
  | rewardPoolAt => simp [mapAddresses, run, Chain.rewardPoolAt, Chain.rewardPools]
  | rewardPoolClaims => simp [mapAddresses, run, Chain.rewardPoolClaims]
  | rewardsOf => simp [mapAddresses, run, Chain.rewardsOf]
  | _ => simp [mapAddresses, run]

end Operation

section Histories

mutual

/-- The step with each of its addresses passed through `f`. -/
def Step.mapAddresses (f : Value → Value) : Step → Step
  | .operation o => .operation (o.mapAddresses f)
  | .fail fault => .fail fault
  | .attempt steps => .attempt (mapAllAddresses f steps)
  | .transaction steps => .transaction (mapAllAddresses f steps)

def mapAllAddresses (f : Value → Value) : List Step → List Step
  | [] => []
  | s :: ss => s.mapAddresses f :: mapAllAddresses f ss

end

/-- What came of each step, and the world that it left. -/
def World.transcript (w : World) : List Step → List (Except Fault Answer × World)
  | [] => []
  | s :: rest => s.run w :: transcript (s.run w).2 rest

/-- Only what the addresses are read as makes a difference to an operation. -/
theorem Operation.mapAddresses_canonical (f : Value → Value) (o : Operation) :
    (o.mapAddresses f).mapAddresses Value.canonical = o.mapAddresses fun v => (f v).canonical := by
  cases o <;> simp [mapAddresses, SetOrder.mapAddresses, Function.comp_def]

variable {f g : Value → Value}

theorem Operation.run_respelled (h : ∀ v, (f v).Respelled (g v)) (o : Operation) :
    (o.mapAddresses f).run = (o.mapAddresses g).run := by
  have hcanonical : (fun v => (f v).canonical) = fun v => (g v).canonical :=
    funext fun v => (h v).canonical_eq
  rw [← run_canonical (o.mapAddresses f), ← run_canonical (o.mapAddresses g),
    mapAddresses_canonical, mapAddresses_canonical, hcanonical]

mutual

theorem Step.run_respelled (h : ∀ v, (f v).Respelled (g v)) : (s : Step) →
    (s.mapAddresses f).run = (s.mapAddresses g).run
  | .operation o => by simp only [Step.mapAddresses, Step.run, o.run_respelled h]
  | .fail fault => rfl
  | .attempt steps => by
    simp only [Step.mapAddresses, Step.run, runSteps_respelled h steps]
  | .transaction steps => by
    simp only [Step.mapAddresses, Step.run, runSteps_respelled h steps]

theorem runSteps_respelled (h : ∀ v, (f v).Respelled (g v)) : (ss : List Step) →
    runSteps (mapAllAddresses f ss) = runSteps (mapAllAddresses g ss)
  | [] => rfl
  | s :: ss => by
    simp only [mapAllAddresses, runSteps, s.run_respelled h, runSteps_respelled h ss]

end

theorem World.transcript_respelled (h : ∀ v, (f v).Respelled (g v)) (w : World)
    (history : List Step) :
    w.transcript (history.map (Step.mapAddresses f)) =
      w.transcript (history.map (Step.mapAddresses g)) := by
  induction history generalizing w with
  | nil => rfl
  | cons s history ih =>
    simp only [List.map_cons, transcript, s.run_respelled h]
    rw [ih]

theorem world_bind {a : Run α} {b c : α → Run β} {w : World}
    (h : ∀ x v, (b x v).2 = (c x v).2) : ((a >>= b) w).2 = ((a >>= c) w).2 := by
  rw [bind_run, bind_run]
  cases a w with
  | mk outcome v =>
    cases outcome with
    | error fault => rfl
    | ok x => exact h x v

/-- The owner is shown as it was written, and the chain knows nothing of that. -/
theorem deployed_respelled (accounts : Nat → Address) {owner owner' : String}
    (h : (Value.text owner).Respelled (.text owner')) :
    (World.deployed accounts (some owner)).2 = (World.deployed accounts (some owner')).2 := by
  have deployed : ∀ {a : Address} {s : String}, a.Written (.text s) →
      deploy (some s) = deploy.deployFor s := by
    intro a s hs
    have hne : s ≠ "" := by
      rintro rfl
      cases hs.ofValue
    simp [deploy, Option.filter, hne]
  cases h with
  | same => rfl
  | written ha hb =>
    have hmint : ∀ token amount,
        mint token (.text owner) amount = mint token (.text owner') amount := by
      intro token amount
      simp only [mint, ha.ofValue, hb.ofValue]
    unfold World.deployed
    rw [deployed ha, deployed hb]
    unfold deploy.deployFor
    simp only [hmint]
    refine world_bind fun registry _ => ?_
    refine world_bind fun controller _ => ?_
    refine world_bind fun weth _ => ?_
    refine world_bind fun usdc _ => ?_
    refine world_bind fun wbtc _ => ?_
    refine world_bind fun dai _ => ?_
    refine world_bind fun amount _ => ?_
    exact world_bind fun _ _ => rfl

/-- A history is written down twice, each of its addresses by `f` and by `g`: as twenty bytes or as
forty digits in any letter case, with or without `0x`. An address that occurs in several places may
stand under several names, and so be written differently in each. Every step answers the same or
fails the same way, and leaves the same world, and so do deployments and adapters. -/
theorem address_spelling_never_matters {f g : Value → Value} (h : ∀ v, (f v).Respelled (g v)) :
    (∀ accounts v owner owner', f v = .text owner → g v = .text owner' →
      (World.deployed accounts (some owner)).2 = (World.deployed accounts (some owner')).2) ∧
    (∀ (w : World) (history : List Step),
      w.transcript (history.map (Step.mapAddresses f)) =
        w.transcript (history.map (Step.mapAddresses g))) ∧
    AdaptersAgree f g := by
  refine ⟨fun accounts v owner owner' hf hg => deployed_respelled accounts ?_,
    World.transcript_respelled h, adapters_agree h⟩
  rw [← hf, ← hg]
  exact h v

namespace Sample

/-- A payment and a question about it, with names where addresses stand. -/
def named : List Step :=
  [.operation (.mint 2 (.int 0) 5), .operation (.transfer 2 (.int 1) (.int 2) 3),
    .operation (.tokenBalance 2 (.int 0))]

/-- Digits in lower case, bytes and digits with a mark in front. -/
def spelling : Value → Value
  | .int 0 => .text "00000000000000000000000000000000000000aa"
  | .int 1 => .bytes (List.replicate 19 0 ++ [0xaa])
  | .int 2 => .text "0x00000000000000000000000000000000000000Bb"
  | v => v

/-- The same addresses in other words. -/
def respelling : Value → Value
  | .int 0 => .text "0X00000000000000000000000000000000000000aA"
  | .int 1 => .text "00000000000000000000000000000000000000AA"
  | .int 2 => .text "00000000000000000000000000000000000000bB"
  | v => v

theorem respelled (v : Value) : (spelling v).Respelled (respelling v) := by
  unfold spelling respelling
  split
  · have ha : (account 169).Written (.text "00000000000000000000000000000000000000aa") :=
      .bare (by decide +kernel)
    exact .written ha (.marked (by decide +kernel))
  · have ha : (account 169).Written (.bytes (account 169).bytes) := .bytes
    exact .written ha (.bare (by decide +kernel))
  · have ha : (account 186).Written (.text "0x00000000000000000000000000000000000000Bb") :=
      .marked (by decide +kernel)
    exact .written ha (.bare (by decide +kernel))
  · exact .same _

end Sample

/-- Whoever pays from an account and however the account is written, it is one account. -/
theorem address_spelling_never_matters_paid :
    Sample.world.transcript (Sample.named.map (Step.mapAddresses Sample.spelling)) =
        Sample.world.transcript (Sample.named.map (Step.mapAddresses Sample.respelling)) ∧
      AdaptersAgree Sample.spelling Sample.respelling :=
  have h := address_spelling_never_matters Sample.respelled
  ⟨h.2.1 Sample.world Sample.named, h.2.2⟩

end Histories

end Chain

end Basketry
