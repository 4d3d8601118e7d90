import Basketry.Chain.Sets

namespace Basketry.Chain

/-- A set is given as itself or by its address. -/
def resolveSet (set : Value) : Run Ref := do
  let ref ← match set with
    | .object ref => if (← content ref).isSet then pure (some ref) else find set
    | a => find a
  match ref with
  | some ref => if (← content ref).isSet then return ref else refuse
  | none => refuse
where
  refuse : Run Ref := throw (.revert "Must be a valid and initialized SetToken")

/-- The address under which settings of a set are kept. -/
def addressOf (set : Value) : Run Address := do
  match set with
  | .object ref => if (← content ref).isSet then setAddress ref else Address.ofValue set
  | a => Address.ofValue a

def anyoneMayClaim (module : Ref) (set : Value) : Run Bool := do
  return (← moduleAt module).settings.anyoneMayClaim (← addressOf set)

def rewardPools (module : Ref) (set : Value) : Run (List Address) := do
  return (← moduleAt module).settings.poolList (← addressOf set)

def rewardPoolAt (module : Ref) (set : Value) (index : Int) : Run Address := do
  let pools ← rewardPools module set
  if index < 0 then throw (.revert "Index out of bounds")
  match pools[index.toNat]? with
  | some pool => return pool
  | none => throw (.revert "Index out of bounds")

def isRewardPool (module : Ref) (set pool : Value) : Run Bool := do
  let set ← addressOf set
  return (← moduleAt module).settings.isPool set (← Address.ofValue pool)

def rewardPoolClaims (module : Ref) (set pool : Value) : Run (List Address) := do
  let set ← addressOf set
  return (← moduleAt module).settings.adapterList set (← Address.ofValue pool)

def isClaimRegistered (module : Ref) (set pool adapter : Value) : Run Bool := do
  let set ← addressOf set
  let pool ← Address.ofValue pool
  return (← moduleAt module).settings.isRegistered set pool (← Address.ofValue adapter)

def controllerOf (module : Ref) : Run Ref := return (← moduleAt module).controller

/-- The adapter that the registry knows under a name for this module. -/
def namedAdapter (module : Ref) (name : String) : Run Address := do
  match ← integrationRegistry (← controllerOf module) with
  | none => throw .missingAttribute
  | some registry =>
    let adapter ← integrationAdapter registry (← moduleAt module).address.toValue name
    if adapter = Address.zero then throw (.revert "Must be valid adapter")
    return adapter

def isRewardPoolClaim (module : Ref) (set pool : Value) (name : String) : Run Bool := do
  let adapter ← namedAdapter module name
  isClaimRegistered module set pool adapter.toValue

/-- The adapter of a name, which has to be registered for the pool. -/
def registeredAdapter (module : Ref) (set pool : Value) (name : String) : Run Address := do
  let adapter ← namedAdapter module name
  if !(← isClaimRegistered module set pool adapter.toValue) then
    throw (.revert "Adapter integration not present")
  return adapter

def onlySetManager (set : Ref) (caller : Value) : Run Unit := do
  let caller ← Address.ofValue caller
  if caller ≠ (← setProfile set).manager then throw (.revert "Must be the SetToken manager")

/-- The state that a set keeps of a module. -/
def stateOf (module set : Ref) : Run ModuleState := do
  moduleState set (← moduleAt module).address.toValue

def isEnabledSet (module set : Ref) : Run Bool := do
  isSet (← controllerOf module) (← setAddress set).toValue

def onlyInitializedSet (module set : Ref) : Run Unit := do
  if !(← isEnabledSet module set) then throw (.revert "Must be a valid and initialized SetToken")
  if (← stateOf module set) ≠ .initialized then throw (.revert "Must be a valid and initialized SetToken")

def onlyPendingSet (module set : Ref) : Run Unit := do
  if !(← isEnabledSet module set) then throw (.revert "Must be controller-enabled SetToken")
  if (← stateOf module set) ≠ .pending then throw (.revert "Must be pending initialization")

def onlyValidCaller (module set : Ref) (caller : Value) : Run Unit := do
  if !(← anyoneMayClaim module (.object set)) then
    let caller ← Address.ofValue caller
    if caller ≠ (← setProfile set).manager then throw (.revert "Must be valid caller")

def updateSettings (module : Ref) (f : ClaimSettings → Except Fault ClaimSettings) : Run Unit := do
  let m ← moduleAt module
  setContent module (.claimModule { m with settings := ← f m.settings })

/-- Registers one adapter for one pool. -/
def addOne (module set : Ref) (pool : Value) (name : String) : Run Unit := do
  let adapter ← namedAdapter module name
  let address ← setAddress set
  let pool ← Address.ofValue pool
  updateSettings module (·.add address pool adapter)

def removeOne (module set : Ref) (pool : Value) (name : String) : Run Unit := do
  let adapter ← namedAdapter module name
  let address ← setAddress set
  let pool ← Address.ofValue pool
  updateSettings module (·.remove address pool adapter)

/-- Two arrays of one length, which is not zero. -/
def checkArrays (pools : List Value) (others : List α) : Run Unit := do
  if pools.length ≠ others.length then throw (.revert "Array length mismatch")
  if pools.length = 0 then throw (.revert "Arrays must not be empty")

def addAll (module set : Ref) (pools : List Value) (names : List String) : Run Unit := do
  checkArrays pools names
  (pools.zip names).forM fun (pool, name) => addOne module set pool name

def removeAll (module set : Ref) (pools : List Value) (names : List String) : Run Unit := do
  checkArrays pools names
  (pools.zip names).forM fun (pool, name) => removeOne module set pool name

def activate (module : Ref) (caller set : Value) (anyone : Bool) (pools : List Value) (names : List String) :
    Run Unit := atomically do
  let set ← resolveSet set
  onlySetManager set caller
  onlyPendingSet module set
  addAll module set pools names
  let address ← setAddress set
  updateSettings module fun c => .ok (c.setAnyone address anyone)
  initializeModule set (← moduleAt module).address.toValue

/-- The set that a manager's call is about. -/
def managedSet (module : Ref) (caller set : Value) : Run Ref := do
  let set ← resolveSet set
  onlySetManager set caller
  onlyInitializedSet module set
  return set

def updateAnyoneClaim (module : Ref) (caller set : Value) (anyone : Bool) : Run Unit := atomically do
  let set ← managedSet module caller set
  let address ← setAddress set
  updateSettings module fun c => .ok (c.setAnyone address anyone)

def addClaim (module : Ref) (caller set pool : Value) (name : String) : Run Unit := atomically do
  let set ← managedSet module caller set
  addOne module set pool name

def batchAddClaim (module : Ref) (caller set : Value) (pools : List Value) (names : List String) : Run Unit :=
  atomically do
    let set ← managedSet module caller set
    addAll module set pools names

def removeClaim (module : Ref) (caller set pool : Value) (name : String) : Run Unit := atomically do
  let set ← managedSet module caller set
  removeOne module set pool name

def batchRemoveClaim (module : Ref) (caller set : Value) (pools : List Value) (names : List String) : Run Unit :=
  atomically do
    let set ← managedSet module caller set
    removeAll module set pools names

/-- Forgets all settings of a set. -/
def forgetSet (module : Ref) (set : Value) : Run Unit := atomically do
  let set ← resolveSet set
  let address ← setAddress set
  updateSettings module (·.clear address)

/-- The reward token of a pool, as the adapter at an address names it. -/
def rewardToken (adapter : Address) (pool : Value) : Run Address := do
  match (← get).find adapter with
  | none => throw .missingAttribute
  | some ref =>
    match ← content ref with
    | .claimAdapter a => return a.token.address
    | .morphoAdapter _ => Morpho.ClaimAdapter.rewardToken pool
    | _ => throw .missingAttribute

/-- The call by which an adapter claims for a set. -/
def claimCall (adapter set : Address) (pool claimData : Value) : Run CallData := do
  match (← get).find adapter with
  | none => throw .missingAttribute
  | some ref =>
    match ← content ref with
    | .claimAdapter a => a.claimCall set
    | .morphoAdapter m => m.claimCall set.toValue pool claimData
    | _ => throw .missingAttribute

def pendingRewards (adapter : Address) : Run Int := do
  match (← get).find adapter with
  | none => throw .missingAttribute
  | some ref =>
    match ← content ref with
    | .claimAdapter a => return a.rewards
    | .morphoAdapter _ => return Morpho.ClaimAdapter.rewards
    | _ => throw .missingAttribute

def rewardsOf (module : Ref) (set pool : Value) (name : String) : Run Int := do
  let set ← resolveSet set
  let adapter ← registeredAdapter module (.object set) pool name
  pendingRewards adapter

/-- Claims from one pool and counts what came in. -/
def claimOne (module set : Ref) (pool : Value) (name : String) (claimData : Value) : Run RewardClaimed := do
  if !(← isRewardPool module (.object set) pool) then throw (.revert "RewardPool not present")
  let adapter ← registeredAdapter module (.object set) pool name
  let self := (← moduleAt module).address.toValue
  let address ← setAddress set
  let token ← rewardToken adapter pool
  let before ← balanceOf token.toValue address.toValue
  let claim ← claimCall adapter address pool claimData
  let _ ← invoke set self claim.target.toValue (.bytes claim.data)
  let now ← balanceOf token.toValue address.toValue
  let _ ← recalculate set self token.toValue before
  let event : RewardClaimed :=
    ⟨address, ← Address.ofValue pool, adapter, now - before, ← CallData.bytesOfValue claimData⟩
  let m ← moduleAt module
  setContent module (.claimModule { m with events := m.events ++ [event] })
  -- A line of the log tells the amount, after the event has been kept.
  let _ ← (Value.int event.amount).shown
  return event

/-- The set that a claim is about. -/
def claimableSet (module : Ref) (caller set : Value) : Run Ref := do
  let set ← resolveSet set
  onlyValidCaller module set caller
  onlyInitializedSet module set
  return set

def claim (module : Ref) (caller set pool : Value) (name : String) (claimData : Value) : Run RewardClaimed :=
  atomically do
    let set ← claimableSet module caller set
    claimOne module set pool name claimData

def batchClaim (module : Ref) (caller set : Value) (pools : List Value) (names : List String)
    (claimData : List Value) : Run (List RewardClaimed) := atomically do
  let set ← claimableSet module caller set
  checkArrays pools names
  if claimData.length ≠ pools.length then throw (.revert "Array length mismatch")
  ((pools.zip names).zip claimData).mapM fun ((pool, name), data) => claimOne module set pool name data

/-- The manager takes a module off the set; the module forgets the set first. -/
def removeModule (set : Ref) (caller module : Value) : Run Unit := do
  onlyManager set caller
  if (← moduleState set module) ≠ .initialized then throw (.revert "Module must be added")
  match ← find module with
  | none => throw .missingAttribute
  | some ref =>
    match ← content ref with
    | .claimModule _ => forgetSet ref (.object set)
    | .setToken _ | .setDraft _ => throw .wrongType
    | _ => throw .missingAttribute
  setContent set (.setToken ((← setAt set).setModuleState (← Address.ofValue module) .none))

end Basketry.Chain
