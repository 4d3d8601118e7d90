import Basketry.Address
import Basketry.Table
import Basketry.Units

namespace Basketry.Chain

/-- A module is added as pending and becomes initialized by its own call. Only then may it change the basket. -/
inductive ModuleState where
  | none
  | pending
  | initialized
deriving DecidableEq, Repr

def ModuleState.number : ModuleState → Nat
  | .none => 0
  | .pending => 1
  | .initialized => 2

/-- The number of an object, by which other objects refer to it. -/
abbrev Ref := Nat

/-- What a set is given by name at its creation. -/
structure Profile where
  manager : Address
  name : String
  symbol : String
  totalSupply : Int
deriving DecidableEq

structure SetToken where
  address : Address
  controller : Ref
  profile : Profile
  components : List Address
  units : Table Address Int
  moduleStates : Table Address ModuleState := {}
deriving DecidableEq

/-- A set whose creation broke off. It stands on the chain without a basket. -/
structure SetDraft where
  address : Address
  controller : Ref
  profile : Option Profile := none
deriving DecidableEq

namespace SetToken

def moduleState (s : SetToken) (module : Address) : ModuleState := s.moduleStates.getD module .none

def setModuleState (s : SetToken) (module : Address) (state : ModuleState) : SetToken :=
  { s with moduleStates := s.moduleStates.put module state }

/-- The initialized modules, in the order in which they were first added. -/
def modules (s : SetToken) : List Address :=
  (s.moduleStates.entries.filter (·.2 = .initialized)).map (·.1)

def isComponent (s : SetToken) (c : Address) : Bool := c ∈ s.components

def unit (s : SetToken) (c : Address) : Int := s.units.getD c 0

def onlyManager (manager caller : Address) : Except Fault Unit :=
  if caller = manager then .ok () else .error (.revert "Only manager can call")

def onlyModule (s : SetToken) (caller : Address) : Except Fault Unit :=
  if s.moduleState caller = .initialized then .ok () else .error (.revert "Only the module can call")

def addComponent (s : SetToken) (c : Address) : Except Fault SetToken :=
  if s.isComponent c then .error (.revert "Must not be component")
  else .ok { s with components := s.components ++ [c] }

def removeComponent (s : SetToken) (c : Address) : Except Fault SetToken :=
  if s.isComponent c then .ok { s with components := s.components.erase c, units := s.units.erase c }
  else .error .absentItem

def setUnit (s : SetToken) (c : Address) (unit : Int) : SetToken := { s with units := s.units.put c unit }

/-- The unit that a position has after a change of balance. What lay above the tracked position before
the change stays untracked. -/
def unitAfter (totalSupply unit before now : Int) : Except Fault Int :=
  if 0 < now then
    let untracked := before - Units.preciseMul unit totalSupply
    if untracked < 0 ∨ now < untracked then .error (.revert "SafeMath: subtraction overflow")
    else Units.preciseDiv (now - untracked) totalSupply
  else .ok 0

end SetToken

end Basketry.Chain
