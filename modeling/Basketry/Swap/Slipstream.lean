import Basketry.Swap.Path
import Basketry.Node.Asking

namespace Basketry.Swap

/-- Where a node is at hand, its clock stands in for a deadline that is not given. -/
structure SlipstreamAdapter where
  router : Address
  hasClock : Bool
deriving DecidableEq

namespace SlipstreamAdapter

def exactInput : String := "exactInput((bytes,address,uint256,uint256,uint256))"

def argumentTypes : List Abi.Ty := [.tuple [.bytes, .address, .uint 32, .uint 32, .uint 32]]

def reason (problem : String) : Fault := .revert ("AerodromeSlipstreamExchangeAdapter: " ++ problem)

def ofValue (router : Value) (hasClock : Bool) : Except Fault SlipstreamAdapter :=
  return ⟨← Address.ofValue router, hasClock⟩

/-- The path of a trade from `source` to `destination`. -/
def checkedPath (source destination data : Value) : Except Fault (List UInt8) := do
  let path ← CallData.bytesOfValue data
  if !isPathLength path.length then .error (reason "invalid path data")
  if (← Address.ofValue source) ≠ (← readAddress path 0) then
    .error (reason "source token path mismatch")
  if (← Address.ofValue destination) ≠ (← readAddress path (path.length - addressWidth : Nat)) then
    .error (reason "destination token path mismatch")
  return path

def tradeCall (s : SlipstreamAdapter) (path : List UInt8) (recipient deadline sold bought : Value) :
    Except Fault CallData := do
  let recipient ← Address.ofValue recipient
  let call ← CallData.call exactInput argumentTypes
    [.list [.bytes path, recipient.toValue, deadline, sold, bought]]
  return ⟨s.router, 0, call⟩

def deadlineOr (s : SlipstreamAdapter) : Value → Work Value
  | .null => if s.hasClock then Value.int <$> Work.clock else throw .noDeadline
  | given => return given

/-- The call for a trade. The clock is read only for a trade without deadline whose path is right. -/
def trade (s : SlipstreamAdapter) (source destination recipient sold bought data deadline : Value) :
    Work CallData := do
  let path ← Work.ofReply (checkedPath source destination data)
  let deadline ← s.deadlineOr deadline
  Work.ofReply (s.tradeCall path recipient deadline sold bought)

def pathTypes (hops : Nat) : List Abi.Ty :=
  (List.replicate hops [Abi.Ty.address, .int 3]).flatten ++ [.address]

/-- The path through `tokens` with one spacing a hop. -/
def pathData (tokens spacings : List Value) : Except Fault (List UInt8) := do
  match tokens.getLast? with
  | some last =>
    if tokens.length < 2 ∨ spacings.length ≠ tokens.length - 1 then
      .error (reason "invalid input lengths")
    let hops ← hopValues tokens.dropLast spacings
    let last ← Address.ofValue last
    CallData.pack (pathTypes spacings.length) (hops ++ [last.toValue])
  | none => .error (reason "invalid input lengths")

end SlipstreamAdapter

end Basketry.Swap
