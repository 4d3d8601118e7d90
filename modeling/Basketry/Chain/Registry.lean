import Basketry.Address
import Basketry.Table

namespace Basketry.Chain

/-- The adapters of each module, by name. -/
structure Registry where
  address : Address
  integrations : Table (Address × String) Address := {}
deriving DecidableEq

namespace Registry

/-- The adapter under a name, or the zero address. -/
def adapter (r : Registry) (module : Address) (name : String) : Address :=
  r.integrations.getD (module, name) Address.zero

def isValid (r : Registry) (module : Address) (name : String) : Bool := r.adapter module name ≠ Address.zero

def expectAbsent (r : Registry) (module : Address) (name : String) : Except Fault Unit :=
  if r.integrations.contains (module, name) then .error (.revert "Integration exists already.") else .ok ()

def expectPresent (r : Registry) (module : Address) (name : String) : Except Fault Unit :=
  if r.integrations.contains (module, name) then .ok () else .error (.revert "Integration does not exist.")

def expectAdapter (adapter : Address) : Except Fault Unit :=
  if adapter = Address.zero then .error (.revert "Adapter address must exist.") else .ok ()

def set (r : Registry) (module : Address) (name : String) (adapter : Address) : Registry :=
  { r with integrations := r.integrations.put (module, name) adapter }

def erase (r : Registry) (module : Address) (name : String) : Registry :=
  { r with integrations := r.integrations.erase (module, name) }

end Registry

structure Controller where
  address : Address
  /-- Where the registry is found. -/
  registry : Address
  sets : List Address := []
  modules : List Address := []
deriving DecidableEq

namespace Controller

def isSet (c : Controller) (a : Address) : Bool := a ∈ c.sets

def isModule (c : Controller) (a : Address) : Bool := a ∈ c.modules

def addSet (c : Controller) (a : Address) : Except Fault Controller :=
  if c.isSet a then .error (.revert "Set already exists") else .ok { c with sets := c.sets ++ [a] }

def removeSet (c : Controller) (a : Address) : Except Fault Controller :=
  if c.isSet a then .ok { c with sets := c.sets.erase a } else .error (.revert "Set does not exist")

def addModule (c : Controller) (a : Address) : Except Fault Controller :=
  if c.isModule a then .error (.revert "Module already exists") else .ok { c with modules := c.modules ++ [a] }

end Controller

end Basketry.Chain
