import Basketry.Chain.World
import Basketry.Value.Contents

namespace Basketry.Chain

def content (ref : Ref) : Run Contract := return (← get).content ref

def setContent (ref : Ref) (c : Contract) : Run Unit := modify (·.setContent ref c)

def registryAt (ref : Ref) : Run Registry := do
  match ← content ref with
  | .registry r => return r
  | _ => throw .missingAttribute

def controllerAt (ref : Ref) : Run Controller := do
  match ← content ref with
  | .controller c => return c
  | _ => throw .missingAttribute

def moduleAt (ref : Ref) : Run ClaimModule := do
  match ← content ref with
  | .claimModule m => return m
  | _ => throw .missingAttribute

def adapterAt (ref : Ref) : Run ClaimAdapter := do
  match ← content ref with
  | .claimAdapter a => return a
  | _ => throw .missingAttribute

/-- A set with its basket. -/
def setAt (ref : Ref) : Run SetToken := do
  match ← content ref with
  | .setToken s => return s
  | _ => throw .missingAttribute

/-- The address of a set, with or without basket. -/
def setAddress (ref : Ref) : Run Address := do
  match ← content ref with
  | .setToken s => return s.address
  | .setDraft d => return d.address
  | _ => throw .missingAttribute

def setProfile (ref : Ref) : Run Profile := do
  match ← content ref with
  | .setToken s => return s.profile
  | .setDraft d => d.profile.elim (throw .missingAttribute) pure
  | _ => throw .missingAttribute

def setController (ref : Ref) : Run Controller := do
  match (← content ref).controller? with
  | some c => controllerAt c
  | none => throw .missingAttribute

/-- A token, which a claim adapter is too. -/
def tokenAt (ref : Ref) : Run Token := do
  match ← content ref with
  | .token t => return t
  | .claimAdapter a => return a.token
  | _ => throw .missingAttribute

def setToken (ref : Ref) (t : Token) : Run Unit := do
  match ← content ref with
  | .claimAdapter a => setContent ref (.claimAdapter { a with token := t })
  | _ => setContent ref (.token t)

def find (a : Value) : Run (Option Ref) := do
  let a ← Address.ofValue a
  return (← get).find a

/-- Places an object at an address, or at its own when none is given. -/
def register (ref : Ref) (a : Value) : Run Address := do
  let a ← if !a.truth then
      match (← content ref).address? with
      | some own => pure own
      | none => throw .missingAttribute
    else Address.ofValue a
  modify (·.register a ref)
  return a

/-- The balance of a holder in the token at an address. -/
def balanceOf (token holder : Value) : Run Int := do
  match ← find token with
  | none => throw (.revert "Call to non-contract")
  | some ref =>
    match ← content ref with
    | .token t => return t.balanceOf (← Address.ofValue holder)
    | .claimAdapter a => return a.token.balanceOf (← Address.ofValue holder)
    | .chain => throw .wrongType
    | _ => throw .missingAttribute

def mint (ref : Ref) (receiver : Value) (amount : Int) : Run Unit := do
  let receiver ← Address.ofValue receiver
  setToken ref ((← tokenAt ref).mint receiver amount)

def transfer (ref : Ref) (sender receiver : Value) (amount : Int) : Run Unit := do
  let sender ← Address.ofValue sender
  (← tokenAt ref).covers sender amount
  let receiver ← Address.ofValue receiver
  setToken ref (← (← tokenAt ref).move sender receiver amount)

/-- What a call gives back. -/
inductive Reply where
  | bytes
  | nothing
  | success
deriving DecidableEq

def perform (ref : Ref) (sender : Address) : TokenCall → Run Reply
  | .transfer receiver amount => do
    transfer ref sender.toValue receiver.toValue amount
    return .success
  | .mint receiver amount => do
    mint ref receiver.toValue amount
    return .nothing
  | .claimRewards holder => do
    mint ref holder.toValue (← adapterAt ref).rewards
    return .nothing

/-- Calls whatever stands at an address. Where nothing answers calls, nothing happens. -/
def call (sender target data : Value) : Run Reply := do
  match ← find target with
  | none => return .bytes
  | some ref =>
    match ← content ref with
    | .token _ => answer ref false
    | .claimAdapter _ => answer ref true
    | _ => return .bytes
where
  answer (ref : Ref) (adapter : Bool) : Run Reply := do
    let sender ← Address.ofValue sender
    let data ← CallData.bytesOfValue data
    perform ref sender (← TokenCall.decode adapter data)

end Basketry.Chain
