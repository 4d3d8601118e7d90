import Basketry.Chain.Access

namespace Basketry.Chain

/-- A contract takes a fresh account and stands on the chain before the rest of its content is known. -/
def create (make : Address → Contract) : Run Ref := modifyGet (·.create make)

def createRegistry : Run Ref := create fun a => .registry ⟨a, {}⟩

def createController (registry : Ref) : Run Ref := do
  let registry := (← registryAt registry).address
  create fun a => .controller ⟨a, registry, [], []⟩

def createToken (name symbol : String) (decimals : Int) : Run Ref :=
  create fun a => .token ⟨a, name, symbol, decimals, 0, {}⟩

def createClaimAdapter : Run Ref :=
  create fun a => .claimAdapter ⟨⟨a, "ClaimAdapter", "CLAIM", 18, 0, {}⟩, 0⟩

def createClaimModule (controller : Ref) : Run Ref := create fun a => .claimModule ⟨a, controller, {}, []⟩

/-- An adapter that stands at no address until it is registered. -/
def createMorphoAdapter (distributor : Value) : Run Ref := do
  let adapter ← Morpho.ClaimAdapter.ofValue distributor
  modifyGet (·.allocate (.morphoAdapter adapter))

/-- What a set is made of. -/
structure SetOrder where
  components : List Value
  units : List Int
  modules : List Value
  manager : Value
  totalSupply : Int := Units.preciseUnit
  name : String := "SetToken"
  symbol : String := "SET"

def addPending (set : Ref) (module : Value) : Run Unit := do
  match ← content set with
  | .setToken s => setContent set (.setToken (s.setModuleState (← Address.ofValue module) .pending))
  | _ => throw .missingAttribute

/-- A set is a draft until its manager and its components are read. -/
def createSet (controller : Ref) (order : SetOrder) : Run Ref := do
  if order.components.length ≠ order.units.length then
    throw (.revert "Component and unit lengths must be the same")
  let ref ← create fun a => .setDraft ⟨a, controller, none⟩
  let address ← setAddress ref
  let profile : Profile := ⟨← Address.ofValue order.manager, order.name, order.symbol, order.totalSupply⟩
  setContent ref (.setDraft ⟨address, controller, some profile⟩)
  let components ← order.components.mapM fun c => (Address.ofValue c : Run Address)
  let units := Table.ofList (components.zip order.units)
  setContent ref (.setToken ⟨address, controller, profile, components, units, {}⟩)
  order.modules.forM (addPending ref)
  return ref

/-- A set that the controller knows. -/
def createEnabledSet (controller : Ref) (order : SetOrder) : Run Ref := do
  let ref ← createSet controller order
  let address ← setAddress ref
  setContent controller (.controller (← (← controllerAt controller).addSet address))
  return ref

/-- The contracts that every deployment has, and its owner. -/
structure Deployment where
  owner : String
  registry : Ref
  controller : Ref
  weth : Ref
  usdc : Ref
  wbtc : Ref
  dai : Ref

/-- A set that a deployment is asked for. Its owner manages it where nobody else is named. -/
def Deployment.ordered (d : Deployment) (order : SetOrder) : SetOrder :=
  { order with manager := order.manager.orElse (.text d.owner) }

def drawAccount : Run Address := modifyGet fun w => (w.accounts w.drawn, { w with drawn := w.drawn + 1 })

/-- Deploys the core contracts and four tokens, of which the owner gets a million units of ether each.
Without an owner a fresh account is taken. -/
def deploy (owner : Option String) : Run Deployment := do
  let owner ← match owner.filter (· ≠ "") with
    | some owner => pure owner
    | none => return (← deployFor (← drawAccount).text)
  deployFor owner
where
  deployFor (owner : String) : Run Deployment := do
    let registry ← createRegistry
    let controller ← createController registry
    let weth ← createToken "Wrapped Ether" "WETH" 18
    let usdc ← createToken "USD Coin" "USDC" 6
    let wbtc ← createToken "Wrapped Bitcoin" "WBTC" 8
    let dai ← createToken "Dai Stablecoin" "DAI" 18
    let amount ← Units.ether (.int 1000000)
    [weth, usdc, wbtc, dai].forM fun token => mint token (.text owner) amount
    return ⟨owner, registry, controller, weth, usdc, wbtc, dai⟩

end Basketry.Chain
