import Basketry.Session
import Basketry.Value.Whole
import Basketry.Value.Contents

namespace Basketry.Work

def ask (q : Question) : Work Unit := modify fun s => { s with node := s.node.ask q }

/-- A setting names the variable that overrides it. -/
def variableOf : Value → Work (Option String)
  | .text name => fromEnvironment name
  | _ => throw .wrongType

/-- A variable that is set and not empty. -/
def filled? (name : Value) : Work (Option String) := return (← variableOf name).filter (· ≠ "")

/-- Answers that the node gives without being noted as asked. -/
def connected : Work Value := do ofReply (← get).node.connected

def accounts : Work Value := do ofReply (← get).node.accounts

def blockNumber : Work Value := do ofReply (← get).node.blockNumber

def balanceOf (account : Value) : Work Value := do
  ask (.balance account)
  ofReply (← get).node.balance

def latestBlock : Work Value := do
  ask (.block "latest")
  ofReply (← get).node.block

/-- The time of the latest block. -/
def clock : Work Int := do
  let block ← latestBlock
  ofReply (block.field "timestamp" >>= Value.whole)

def transactionCount (account : Value) : Work Value := do
  ask (.transactionCount account)
  ofReply (← get).node.nonce

/-- One attempt at a raw request. -/
def request (method : String) (params : Value) : Work Reply := do
  ask (.request method params)
  modifyGet fun s =>
    let (reply, node) := s.node.respond
    (reply, { s with node })

def receiptOf (hash : List UInt8) : Work Value := do
  ask (.receipt hash)
  let reply ← modifyGet fun s =>
    let (reply, node) := s.node.issueReceipt
    (reply, { s with node })
  ofReply reply

/-- The hash of a transaction that the node itself signs. -/
def transact (transaction : Value) : Work (List UInt8) := do
  ask (.transact transaction)
  return [0x7a]

/-- A transaction completed by the node, to be signed by its sender. -/
def build (entries : List (String × Value)) : Work Value := do
  ask (.build (.dict entries))
  return .dict (entries ++ [("built", .bool true)])

/-- The bytes of a signed transaction. -/
def sign (transaction : Value) : Work (List UInt8) := do
  ask (.sign transaction)
  return [0x51, 0x60, 0xed]

def send (signed : List UInt8) : Work (List UInt8) := do
  ask (.send signed)
  return [0x7b]

end Basketry.Work
