import Basketry.Value
import Basketry.Fault

namespace Basketry

/-- An answer of the node, or the failure that came instead. -/
abbrev Reply := Except Fault Value

/-- What a node can be asked for and leaves a trace of. -/
inductive Question where
  | request (method : String) (params : Value)
  /-- A contract is bound to an interface, and to an address or to creation code. -/
  | contract (address interface code : Value)
  | construct (args : List Value)
  | transact (transaction : Value)
  | build (transaction : Value)
  | sign (transaction : Value)
  | send (signed : List UInt8)
  | receipt (hash : List UInt8)
  | transactionCount (account : Value)
  | balance (account : Value)
  | block (which : String)

/-- The receipt of a creation that went well. -/
def usualReceipt : Value :=
  .dict [("status", .int 1), ("contractAddress", .text "0x1212121212121212121212121212121212121212"),
    ("gasUsed", .int 21000)]

/-- The answer to a request that went well. -/
def usualResponse : Value := .dict [("result", .bool true)]

/-- Responses and receipts are handed out in order, and the usual ones when none are left. -/
structure Node where
  connected : Reply := .ok (.bool true)
  accounts : Reply := .ok (.list [])
  blockNumber : Reply := .ok (.int 0)
  balance : Reply := .ok (.int 0)
  block : Reply := .ok (.dict [("timestamp", .int 0)])
  nonce : Reply := .ok (.int 7)
  responses : List Reply := []
  receipts : List Reply := []
  asked : List Question := []

namespace Node

def ask (n : Node) (q : Question) : Node := { n with asked := n.asked ++ [q] }

/-- The next response and what remains. -/
def respond (n : Node) : Reply × Node :=
  match n.responses with
  | [] => (.ok usualResponse, n)
  | r :: rest => (r, { n with responses := rest })

def issueReceipt (n : Node) : Reply × Node :=
  match n.receipts with
  | [] => (.ok usualReceipt, n)
  | r :: rest => (r, { n with receipts := rest })

end Node

end Basketry
