import Basketry.Chain.Claims
import Basketry.Chain.Creation

namespace Basketry.Chain

inductive Answer where
  | nothing
  | flag (b : Bool)
  | number (n : Int)
  | address (a : Address)
  | addresses (as : List Address)
  | state (s : ModuleState)
  | reply (r : Reply)
  | event (e : RewardClaimed)
  | events (es : List RewardClaimed)
  | callData (c : CallData)
  | object (ref : Option Ref)
  | block (answers : List Answer)

/-- Everything that can be asked of the chain and of the objects on it. What fails leaves behind what it has
done. -/
inductive Operation where
  | snapshot
  | revert (id : Int)
  | release (id : Int)
  | register (ref : Ref) (at? : Value := .null)
  | find (a : Value)
  | call (sender target data : Value)
  | balanceOf (token holder : Value)
  | createRegistry
  | createController (registry : Ref)
  | createToken (name : String := "Token") (symbol : String := "TKN") (decimals : Int := 18)
  | createClaimAdapter
  | createClaimModule (controller : Ref)
  | createMorphoAdapter (distributor : Value)
  | createSet (controller : Ref) (order : SetOrder)
  | createEnabledSet (controller : Ref) (order : SetOrder)
  | addIntegration (registry : Ref) (module : Value) (name : String) (adapter : Value)
  | editIntegration (registry : Ref) (module : Value) (name : String) (adapter : Value)
  | removeIntegration (registry : Ref) (module : Value) (name : String)
  | integrationAdapter (registry : Ref) (module : Value) (name : String)
  | isValidIntegration (registry : Ref) (module : Value) (name : String)
  | addSet (controller : Ref) (set : Value)
  | removeSet (controller : Ref) (set : Value)
  | enableModule (controller : Ref) (module : Value)
  | isSet (controller : Ref) (set : Value)
  | isModule (controller : Ref) (module : Value)
  | integrationRegistry (controller : Ref)
  | tokenBalance (token : Ref) (holder : Value)
  | mint (token : Ref) (receiver : Value) (amount : Int)
  | transfer (token : Ref) (sender receiver : Value) (amount : Int)
  | setRewards (adapter : Ref) (rewards : Int)
  | adapterRewards (adapter : Ref)
  | adapterToken (adapter : Ref) (pool : Value)
  | adapterCall (adapter : Ref) (set pool claimData : Value)
  | moduleState (set : Ref) (module : Value)
  | hasModuleState (set : Ref) (module : Value) (state : ModuleState)
  | modules (set : Ref)
  | addModule (set : Ref) (caller module : Value)
  | initializeModule (set : Ref) (caller : Value)
  | removeModule (set : Ref) (caller module : Value)
  | setManager (set : Ref) (caller manager : Value)
  | invoke (set : Ref) (caller target data : Value)
  | components (set : Ref)
  | isComponent (set : Ref) (component : Value)
  | positionUnit (set : Ref) (component : Value)
  | addComponent (set : Ref) (caller component : Value)
  | removeComponent (set : Ref) (caller component : Value)
  | setUnit (set : Ref) (caller component : Value) (unit : Int)
  | recalculate (set : Ref) (caller component : Value) (before : Int)
  | activate (module : Ref) (caller set : Value) (anyone : Bool) (pools : List Value) (names : List String)
  | updateAnyoneClaim (module : Ref) (caller set : Value) (anyone : Bool)
  | addClaim (module : Ref) (caller set pool : Value) (name : String)
  | batchAddClaim (module : Ref) (caller set : Value) (pools : List Value) (names : List String)
  | removeClaim (module : Ref) (caller set pool : Value) (name : String)
  | batchRemoveClaim (module : Ref) (caller set : Value) (pools : List Value) (names : List String)
  | forgetSet (module : Ref) (set : Value)
  | claim (module : Ref) (caller set pool : Value) (name : String) (claimData : Value := .bytes [])
  | batchClaim (module : Ref) (caller set : Value) (pools : List Value) (names : List String)
      (claimData : List Value)
  | anyoneMayClaim (module : Ref) (set : Value)
  | rewardPools (module : Ref) (set : Value)
  | rewardPoolAt (module : Ref) (set : Value) (index : Int)
  | isRewardPool (module : Ref) (set pool : Value)
  | rewardPoolClaims (module : Ref) (set pool : Value)
  | isClaimRegistered (module : Ref) (set pool adapter : Value)
  | isRewardPoolClaim (module : Ref) (set pool : Value) (name : String)
  | rewardsOf (module : Ref) (set pool : Value) (name : String)

def setRewards (ref : Ref) (rewards : Int) : Run Unit := do
  setContent ref (.claimAdapter { ← adapterAt ref with rewards := rewards })

def adapterRewards (ref : Ref) : Run Int := do
  match ← content ref with
  | .claimAdapter a => return a.rewards
  | .morphoAdapter _ => return Morpho.ClaimAdapter.rewards
  | _ => throw .missingAttribute

def adapterToken (ref : Ref) (pool : Value) : Run Address := do
  match ← content ref with
  | .claimAdapter a => return a.token.address
  | .morphoAdapter _ => Morpho.ClaimAdapter.rewardToken pool
  | _ => throw .missingAttribute

def adapterCall (ref : Ref) (set pool claimData : Value) : Run CallData := do
  match ← content ref with
  | .claimAdapter a => a.claimCall (← Address.ofValue set)
  | .morphoAdapter m => m.claimCall set pool claimData
  | _ => throw .missingAttribute

def takeSnapshot : Run Nat := modifyGet (·.snapshot)

def revertTo (id : Int) : Run Unit := do set (← (← get).revert id)

def done (action : Run Unit) : Run Answer := do action; return .nothing

namespace Operation

def run : Operation → Run Answer
  | .snapshot => return .number (← takeSnapshot)
  | .revert id => done (revertTo id)
  | .release id => done (modify (·.release id))
  | .register ref at? => return .address (← Chain.register ref at?)
  | .find a => return .object (← Chain.find a)
  | .call sender target data => return .reply (← Chain.call sender target data)
  | .balanceOf token holder => return .number (← Chain.balanceOf token holder)
  | .createRegistry => return .object (← Chain.createRegistry)
  | .createController registry => return .object (← Chain.createController registry)
  | .createToken name symbol decimals => return .object (← Chain.createToken name symbol decimals)
  | .createClaimAdapter => return .object (← Chain.createClaimAdapter)
  | .createClaimModule controller => return .object (← Chain.createClaimModule controller)
  | .createMorphoAdapter distributor => return .object (← Chain.createMorphoAdapter distributor)
  | .createSet controller order => return .object (← Chain.createSet controller order)
  | .createEnabledSet controller order => return .object (← Chain.createEnabledSet controller order)
  | .addIntegration r module name adapter => done (Chain.addIntegration r module name adapter)
  | .editIntegration r module name adapter => done (Chain.editIntegration r module name adapter)
  | .removeIntegration r module name => done (Chain.removeIntegration r module name)
  | .integrationAdapter r module name => return .address (← Chain.integrationAdapter r module name)
  | .isValidIntegration r module name => return .flag (← Chain.isValidIntegration r module name)
  | .addSet c set => done (Chain.addSet c set)
  | .removeSet c set => done (Chain.removeSet c set)
  | .enableModule c module => done (Chain.enableModule c module)
  | .isSet c set => return .flag (← Chain.isSet c set)
  | .isModule c module => return .flag (← Chain.isModule c module)
  | .integrationRegistry c => return .object (← Chain.integrationRegistry c)
  | .tokenBalance t holder => return .number ((← tokenAt t).balanceOf (← Address.ofValue holder))
  | .mint t receiver amount => done (Chain.mint t receiver amount)
  | .transfer t sender receiver amount => done (Chain.transfer t sender receiver amount)
  | .setRewards a rewards => done (Chain.setRewards a rewards)
  | .adapterRewards a => return .number (← Chain.adapterRewards a)
  | .adapterToken a pool => return .address (← Chain.adapterToken a pool)
  | .adapterCall a set pool data => return .callData (← Chain.adapterCall a set pool data)
  | .moduleState s module => return .state (← Chain.moduleState s module)
  | .hasModuleState s module state => return .flag (← Chain.hasModuleState s module state)
  | .modules s => return .addresses (← setAt s).modules
  | .addModule s caller module => done (Chain.addModule s caller module)
  | .initializeModule s caller => done (Chain.initializeModule s caller)
  | .removeModule s caller module => done (Chain.removeModule s caller module)
  | .setManager s caller manager => done (Chain.setManager s caller manager)
  | .invoke s caller target data => return .reply (← Chain.invoke s caller target data)
  | .components s => return .addresses (← setAt s).components
  | .isComponent s component => return .flag (← Chain.isComponent s component)
  | .positionUnit s component => return .number (← Chain.positionUnit s component)
  | .addComponent s caller component => done (Chain.addComponent s caller component)
  | .removeComponent s caller component => done (Chain.removeComponent s caller component)
  | .setUnit s caller component unit => done (Chain.setUnit s caller component unit)
  | .recalculate s caller component before => return .number (← Chain.recalculate s caller component before)
  | .activate m caller set anyone pools names => done (Chain.activate m caller set anyone pools names)
  | .updateAnyoneClaim m caller set anyone => done (Chain.updateAnyoneClaim m caller set anyone)
  | .addClaim m caller set pool name => done (Chain.addClaim m caller set pool name)
  | .batchAddClaim m caller set pools names => done (Chain.batchAddClaim m caller set pools names)
  | .removeClaim m caller set pool name => done (Chain.removeClaim m caller set pool name)
  | .batchRemoveClaim m caller set pools names => done (Chain.batchRemoveClaim m caller set pools names)
  | .forgetSet m set => done (Chain.forgetSet m set)
  | .claim m caller set pool name data => return .event (← Chain.claim m caller set pool name data)
  | .batchClaim m caller set pools names data =>
    return .events (← Chain.batchClaim m caller set pools names data)
  | .anyoneMayClaim m set => return .flag (← Chain.anyoneMayClaim m set)
  | .rewardPools m set => return .addresses (← Chain.rewardPools m set)
  | .rewardPoolAt m set index => return .address (← Chain.rewardPoolAt m set index)
  | .isRewardPool m set pool => return .flag (← Chain.isRewardPool m set pool)
  | .rewardPoolClaims m set pool => return .addresses (← Chain.rewardPoolClaims m set pool)
  | .isClaimRegistered m set pool adapter => return .flag (← Chain.isClaimRegistered m set pool adapter)
  | .isRewardPoolClaim m set pool name => return .flag (← Chain.isRewardPoolClaim m set pool name)
  | .rewardsOf m set pool name => return .number (← Chain.rewardsOf m set pool name)

end Operation

/-- An operation, a fault that the caller raises, steps whose fault is caught, or a block of steps that a
refusal undoes as a whole. -/
inductive Step where
  | operation (o : Operation)
  | fail (fault : Fault)
  | attempt (steps : List Step)
  | transaction (steps : List Step)

mutual

def Step.run : Step → Run Answer
  | .operation o => o.run
  | .fail fault => throw fault
  | .attempt steps => tryCatch (return .block (← runSteps steps)) fun _ => return .nothing
  | .transaction steps => atomically (return .block (← runSteps steps))

/-- Steps one after another, up to the first fault. -/
def runSteps : List Step → Run (List Answer)
  | [] => return []
  | s :: ss => return (← s.run) :: (← runSteps ss)

end

/-- The world after a history of steps, failed ones included. -/
def World.after (w : World) (history : List Step) : World := history.foldl (fun w s => (s.run w).2) w

/-- A new deployment, with the accounts that creation will draw from. -/
def World.deployed (accounts : Nat → Address) (owner : Option String) : Except Fault Deployment × World :=
  deploy owner { accounts }

end Basketry.Chain
