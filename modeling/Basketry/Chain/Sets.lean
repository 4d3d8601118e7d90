import Basketry.Chain.Access

namespace Basketry.Chain

def addIntegration (ref : Ref) (module : Value) (name : String) (adapter : Value) : Run Unit := do
  let module ← Address.ofValue module
  (← registryAt ref).expectAbsent module name
  let adapter ← Address.ofValue adapter
  Registry.expectAdapter adapter
  setContent ref (.registry ((← registryAt ref).set module name adapter))

def editIntegration (ref : Ref) (module : Value) (name : String) (adapter : Value) : Run Unit := do
  let module ← Address.ofValue module
  (← registryAt ref).expectPresent module name
  let adapter ← Address.ofValue adapter
  Registry.expectAdapter adapter
  setContent ref (.registry ((← registryAt ref).set module name adapter))

def removeIntegration (ref : Ref) (module : Value) (name : String) : Run Unit := do
  let module ← Address.ofValue module
  (← registryAt ref).expectPresent module name
  setContent ref (.registry ((← registryAt ref).erase module name))

def integrationAdapter (ref : Ref) (module : Value) (name : String) : Run Address := do
  return (← registryAt ref).adapter (← Address.ofValue module) name

def isValidIntegration (ref : Ref) (module : Value) (name : String) : Run Bool := do
  return (← integrationAdapter ref module name) ≠ Address.zero

def addSet (ref : Ref) (set : Value) : Run Unit := do
  let set ← Address.ofValue set
  setContent ref (.controller (← (← controllerAt ref).addSet set))

def removeSet (ref : Ref) (set : Value) : Run Unit := do
  let set ← Address.ofValue set
  setContent ref (.controller (← (← controllerAt ref).removeSet set))

def enableModule (ref : Ref) (module : Value) : Run Unit := do
  let module ← Address.ofValue module
  setContent ref (.controller (← (← controllerAt ref).addModule module))

def isSet (ref : Ref) (set : Value) : Run Bool := do
  return (← controllerAt ref).isSet (← Address.ofValue set)

def isModule (ref : Ref) (module : Value) : Run Bool := do
  return (← controllerAt ref).isModule (← Address.ofValue module)

/-- Whatever stands where the controller expects the registry. -/
def integrationRegistry (ref : Ref) : Run (Option Ref) := do
  return (← get).find (← controllerAt ref).registry

def moduleState (set : Ref) (module : Value) : Run ModuleState := do
  return (← setAt set).moduleState (← Address.ofValue module)

def hasModuleState (set : Ref) (module : Value) (state : ModuleState) : Run Bool := do
  return (← moduleState set module) = state

def onlyManager (set : Ref) (caller : Value) : Run Unit := do
  let caller ← Address.ofValue caller
  SetToken.onlyManager (← setProfile set).manager caller

def onlyModule (set : Ref) (caller : Value) : Run Unit := do
  (← setAt set).onlyModule (← Address.ofValue caller)

def addModule (set : Ref) (caller module : Value) : Run Unit := do
  onlyManager set caller
  if (← moduleState set module) ≠ .none then throw (.revert "Module must not be added")
  let module ← Address.ofValue module
  if !(← setController set).isModule module then throw (.revert "Must be enabled on Controller")
  setContent set (.setToken ((← setAt set).setModuleState module .pending))

def initializeModule (set : Ref) (caller : Value) : Run Unit := do
  if (← moduleState set caller) ≠ .pending then throw (.revert "Module must be pending")
  setContent set (.setToken ((← setAt set).setModuleState (← Address.ofValue caller) .initialized))

def setManager (set : Ref) (caller manager : Value) : Run Unit := do
  onlyManager set caller
  let manager ← Address.ofValue manager
  match ← content set with
  | .setToken s => setContent set (.setToken { s with profile.manager := manager })
  | .setDraft d => setContent set (.setDraft { d with profile := d.profile.map ({ · with manager := manager }) })
  | _ => throw .missingAttribute

/-- Calls any address on behalf of the set. -/
def invoke (set : Ref) (caller target data : Value) : Run Reply := do
  onlyModule set caller
  call (← setAddress set).toValue target data

def isComponent (set : Ref) (component : Value) : Run Bool := do
  let component ← Address.ofValue component
  return (← setAt set).isComponent component

def positionUnit (set : Ref) (component : Value) : Run Int := do
  return (← setAt set).unit (← Address.ofValue component)

def addComponent (set : Ref) (caller component : Value) : Run Unit := do
  onlyModule set caller
  let component ← Address.ofValue component
  setContent set (.setToken (← (← setAt set).addComponent component))

def removeComponent (set : Ref) (caller component : Value) : Run Unit := do
  onlyModule set caller
  let component ← Address.ofValue component
  setContent set (.setToken (← (← setAt set).removeComponent component))

def setUnit (set : Ref) (caller component : Value) (unit : Int) : Run Unit := do
  onlyModule set caller
  let component ← Address.ofValue component
  setContent set (.setToken ((← setAt set).setUnit component unit))

/-- Lists a component that has come to a positive unit, and drops one that has lost it. -/
def listComponent (set : Ref) (caller component : Value) (unit : Int) : Run Unit := do
  let listed ← isComponent set component
  if 0 < unit ∧ !listed then addComponent set caller component
  else if unit = 0 ∧ listed then removeComponent set caller component
  if 0 < unit then setUnit set caller component unit

/-- Derives the unit of a component again after its balance has changed. -/
def recalculate (set : Ref) (caller component : Value) (before : Int) : Run Int := do
  let now ← balanceOf component (← setAddress set).toValue
  let unit ← positionUnit set component
  let unit ← SetToken.unitAfter (← setAt set).profile.totalSupply unit before now
  listComponent set caller component unit
  return unit

end Basketry.Chain
