import Basketry.Chain.Token
import Basketry.Chain.Registry
import Basketry.Chain.SetToken
import Basketry.Chain.ClaimSettings
import Basketry.Morpho.Claim

namespace Basketry.Chain

structure ClaimModule where
  address : Address
  controller : Ref
  settings : ClaimSettings := {}
  events : List RewardClaimed := []
deriving DecidableEq

/-- The content of an object. -/
inductive Contract where
  | chain
  | registry (r : Registry)
  | controller (c : Controller)
  | token (t : Token)
  | claimAdapter (a : ClaimAdapter)
  | setToken (s : SetToken)
  | setDraft (d : SetDraft)
  | claimModule (m : ClaimModule)
  | morphoAdapter (m : Morpho.ClaimAdapter)
deriving DecidableEq

namespace Contract

/-- Its own address; the chain and an adapter that was never placed have none. -/
def address? : Contract → Option Address
  | .chain => none
  | .registry r => some r.address
  | .controller c => some c.address
  | .token t => some t.address
  | .claimAdapter a => some a.token.address
  | .setToken s => some s.address
  | .setDraft d => some d.address
  | .claimModule m => some m.address
  | .morphoAdapter _ => none

def isSet : Contract → Bool
  | .setToken _ | .setDraft _ => true
  | _ => false

/-- The controller that a contract refers to. -/
def controller? : Contract → Option Ref
  | .setToken s => some s.controller
  | .setDraft d => some d.controller
  | .claimModule m => some m.controller
  | _ => none

def redirect (f : Ref → Ref) : Contract → Contract
  | .setToken s => .setToken { s with controller := f s.controller }
  | .setDraft d => .setDraft { d with controller := f d.controller }
  | .claimModule m => .claimModule { m with controller := f m.controller }
  | c => c

end Contract

/-- What stood at each address. -/
structure Snapshot where
  registered : Table Address Ref
  contents : List (Ref × Contract)
  /-- The controllers in use that stood at no address. -/
  strays : List (Ref × Contract)

/-- An object keeps its number through every rollback. What a rollback restores is the contents of objects and
the registered addresses. -/
structure World where
  objects : List Contract := []
  registered : Table Address Ref := {}
  snapshots : List Snapshot := []
  /-- The accounts that creation draws from, and how many are drawn. -/
  accounts : Nat → Address
  drawn : Nat := 0

namespace World

def content (w : World) (ref : Ref) : Contract := w.objects.getD ref .chain

def setContent (w : World) (ref : Ref) (c : Contract) : World := { w with objects := w.objects.set ref c }

def isRegistered (w : World) (ref : Ref) : Bool := ref ∈ w.registered.values

def setContents (w : World) (contents : List (Ref × Contract)) : World :=
  contents.foldl (fun w e => w.setContent e.1 e.2) w

/-- Controllers in use that stand at no address. -/
def strays (w : World) : List Ref :=
  (w.registered.values.filterMap fun ref => (w.content ref).controller?).eraseDups.filter (!w.isRegistered ·)

/-- Each object with its content. -/
def contentsOf (w : World) (refs : List Ref) : List (Ref × Contract) := refs.map fun ref => (ref, w.content ref)

/-- The state of every registered contract. -/
def shot (w : World) : Snapshot := ⟨w.registered, w.contentsOf w.registered.values, w.contentsOf w.strays⟩

def snapshot (w : World) : Nat × World := (w.snapshots.length, { w with snapshots := w.snapshots ++ [w.shot] })

/-- Where a reference leads once the strays of a snapshot are back. -/
def moved (w : World) (s : Snapshot) (ref : Ref) : Ref :=
  ((s.strays.map (·.1)).idxOf? ref).elim ref (w.objects.length + ·)

/-- Brings the state of a snapshot back. A controller that stood at no address was not kept itself, so that a
copy comes in its place. -/
def restore (w : World) (s : Snapshot) : World :=
  let back := w.setContents (s.contents.map fun e => (e.1, e.2.redirect (w.moved s)))
  { back with registered := s.registered, objects := back.objects ++ s.strays.map (·.2) }

/-- Brings a snapshot back. It is gone then, and so are all later ones. -/
def revert (w : World) (id : Int) : Except Fault World :=
  if id < 0 then .error (.unknownSnapshot id)
  else match w.snapshots[id.toNat]? with
    | none => .error (.unknownSnapshot id)
    | some s => .ok ({ w with snapshots := w.snapshots.take id.toNat }.restore s)

/-- Drops the snapshots from `id` on; a negative number counts from the end. -/
def release (w : World) (id : Int) : World :=
  let kept := if id < 0 then (w.snapshots.length + id).toNat else id.toNat
  { w with snapshots := w.snapshots.take kept }

def find (w : World) (a : Address) : Option Ref := w.registered.get? a

def register (w : World) (a : Address) (ref : Ref) : World := { w with registered := w.registered.put a ref }

/-- A new object that stands at no address. -/
def allocate (w : World) (c : Contract) : Ref × World :=
  (w.objects.length, { w with objects := w.objects ++ [c] })

/-- A new contract at a fresh account. -/
def create (w : World) (make : Address → Contract) : Ref × World :=
  let a := w.accounts w.drawn
  let (ref, w) := w.allocate (make a)
  (ref, { w with drawn := w.drawn + 1 }.register a ref)

/-- How a block ends: a refusal brings back the snapshot from before it, and success drops the snapshot.
Any other fault leaves everything as it stands. -/
def settle (id : Nat) (outcome : Except Fault α) (w : World) : Except Fault α × World :=
  match outcome with
  | .ok a => (.ok a, w.release id)
  | .error (.revert reason) =>
    match w.revert id with
    | .ok w => (.error (.revert reason), w)
    | .error fault => (.error fault, w)
  | .error fault => (.error fault, w)

end World

/-- An action on the chain. What it has done before a fault stays done. -/
abbrev Run := ExceptT Fault (StateM World)

/-- Runs a block so that a refusal leaves no trace of it. -/
def atomically (block : Run α) : Run α := fun w =>
  let (id, w) := w.snapshot
  let (outcome, w) := block w
  w.settle id outcome

end Basketry.Chain
