import Basketry.Address
import Basketry.Table

namespace Basketry.Chain

/-- For each set the reward pools and the adapters of each pool, in order. The flags beside the lists are for
quick look-up. -/
structure ClaimSettings where
  pools : Table Address (List Address) := {}
  poolFlags : Table Address (Table Address Bool) := {}
  adapters : Table Address (Table Address (List Address)) := {}
  adapterFlags : Table Address (Table Address (Table Address Bool)) := {}
  anyone : Table Address Bool := {}
deriving DecidableEq

namespace ClaimSettings

def poolList (c : ClaimSettings) (set : Address) : List Address := c.pools.getD set []

def isPool (c : ClaimSettings) (set pool : Address) : Bool := (c.poolFlags.getD set {}).getD pool false

def adapterList (c : ClaimSettings) (set pool : Address) : List Address :=
  (c.adapters.getD set {}).getD pool []

def isRegistered (c : ClaimSettings) (set pool adapter : Address) : Bool :=
  ((c.adapterFlags.getD set {}).getD pool {}).getD adapter false

/-- Whether anyone may claim for the set, not its manager alone. -/
def anyoneMayClaim (c : ClaimSettings) (set : Address) : Bool := c.anyone.getD set false

def setAnyone (c : ClaimSettings) (set : Address) (flag : Bool) : ClaimSettings :=
  { c with anyone := c.anyone.put set flag }

def setAdapterFlag (c : ClaimSettings) (set pool adapter : Address) (flag : Bool) : ClaimSettings :=
  { c with
    adapterFlags := c.adapterFlags.update set {} fun pools => pools.update pool {} (·.put adapter flag) }

def setPoolFlag (c : ClaimSettings) (set pool : Address) (flag : Bool) : ClaimSettings :=
  { c with poolFlags := c.poolFlags.update set {} (·.put pool flag) }

/-- A pool joins the list with its first adapter. -/
def openPool (c : ClaimSettings) (set pool : Address) : ClaimSettings :=
  if c.isPool set pool then c
  else { c with pools := c.pools.update set [] (· ++ [pool]) }.setPoolFlag set pool true

def add (c : ClaimSettings) (set pool adapter : Address) : Except Fault ClaimSettings :=
  if c.isRegistered set pool adapter then .error (.revert "Integration names must be unique")
  else
    let c := c.openPool set pool
    .ok ({ c with
      adapters := c.adapters.update set {} fun pools => pools.update pool [] (· ++ [adapter])
    }.setAdapterFlag set pool adapter true)

/-- The value of a key that has to be there. -/
def demand [DecidableEq α] (t : Table α β) (key : α) : Except Fault β :=
  (t.get? key).elim (.error .missingKey) .ok

/-- A list without an item that has to be in it. -/
def demandErased (xs : List Address) (x : Address) : Except Fault (List Address) :=
  if x ∈ xs then .ok (xs.erase x) else .error .absentItem

/-- A pool leaves the list with its last adapter. -/
def closePool (c : ClaimSettings) (set pool : Address) : Except Fault ClaimSettings := do
  let pools ← demandErased (← demand c.pools set) pool
  return { c with pools := c.pools.put set pools }.setPoolFlag set pool false

def remove (c : ClaimSettings) (set pool adapter : Address) : Except Fault ClaimSettings := do
  if !c.isRegistered set pool adapter then .error (.revert "Integration must be added")
  let byPool ← demand c.adapters set
  let left ← demandErased (← demand byPool pool) adapter
  let c := { c with adapters := c.adapters.put set (byPool.put pool left) }.setAdapterFlag set pool adapter false
  if left = [] then c.closePool set pool else return c

/-- Lowers a flag that has to be kept already. -/
def lowerAdapterFlag (set pool : Address) (c : ClaimSettings) (adapter : Address) : Except Fault ClaimSettings := do
  let _ ← demand (← demand c.adapterFlags set) pool
  return c.setAdapterFlag set pool adapter false

/-- Forgets one pool of a set with all its adapters. -/
def clearPool (set : Address) (c : ClaimSettings) (pool : Address) : Except Fault ClaimSettings := do
  let c ← (c.adapterList set pool).foldlM (lowerAdapterFlag set pool) c
  let c := match c.adapters.get? set with
    | some byPool => { c with adapters := c.adapters.put set (byPool.erase pool) }
    | none => c
  let _ ← demand c.poolFlags set
  return c.setPoolFlag set pool false

/-- Forgets a set. -/
def clear (c : ClaimSettings) (set : Address) : Except Fault ClaimSettings := do
  let c ← (c.poolList set).foldlM (clearPool set) c
  return { c with pools := c.pools.erase set, anyone := c.anyone.erase set }

end ClaimSettings

/-- The record of one claim. -/
structure RewardClaimed where
  setToken : Address
  pool : Address
  adapter : Address
  amount : Int
  claimData : List UInt8
deriving DecidableEq

end Basketry.Chain
