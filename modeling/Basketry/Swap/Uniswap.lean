import Basketry.Swap.Path

namespace Basketry.Swap

/-- Trades through a router that takes a packed path of pool fees. -/
structure UniswapAdapter where
  router : Address
deriving DecidableEq

namespace UniswapAdapter

def exactInput : String := "exactInput((bytes,address,uint256,uint256))"

def exactOutput : String := "exactOutput((bytes,address,uint256,uint256))"

def argumentTypes : List Abi.Ty := [.tuple [.bytes, .address, .uint 32, .uint 32]]

def ofValue (router : Value) : Except Fault UniswapAdapter := return ⟨← Address.ofValue router⟩

/-- A path with the flag behind it. -/
def isDataLength (length : Nat) : Bool :=
  addressWidth + hopWidth + 1 ≤ length && (length - 1 - addressWidth) % hopWidth == 0

/-- The call for a trade: at most `sold`, at least `bought`, one of the two exact. -/
def trade (u : UniswapAdapter) (source destination recipient sold bought data : Value) :
    Except Fault CallData := do
  let data ← CallData.bytesOfValue data
  if !isDataLength data.length then .error (.revert "Invalid data")
  let fixInput ← readFlag data (data.length - 1 : Nat)
  let first ← readAddress data 0
  let last ← readAddress data (data.length - 1 - addressWidth : Nat)
  let (sourceEnd, destinationEnd) := if fixInput then (first, last) else (last, first)
  if (← Address.ofValue source) ≠ sourceEnd then .error (.revert "Source token path mismatch")
  if (← Address.ofValue destination) ≠ destinationEnd then
    .error (.revert "Destination token path mismatch")
  let path := data.dropLast
  let recipient ← Address.ofValue recipient
  let call ←
    if fixInput then
      CallData.call exactInput argumentTypes [.list [.bytes path, recipient.toValue, sold, bought]]
    else
      CallData.call exactOutput argumentTypes [.list [.bytes path, recipient.toValue, bought, sold]]
  return ⟨u.router, 0, call⟩

/-- A hop packs a token and a fee; the last token and the flag stand at the end. -/
def dataTypes (hops : Nat) : List Abi.Ty :=
  (List.replicate hops [Abi.Ty.address, .uint 3]).flatten ++ [.address, .bool]

/-- Trade data for a path with one fee a hop. -/
def tradeData (tokens fees : List Value) (fixInput : Value) : Except Fault (List UInt8) := do
  match tokens.getLast? with
  | some last =>
    if tokens.length < 2 ∨ fees.length ≠ tokens.length - 1 then
      .error (.revert "Invalid path length")
    let hops ← hopValues tokens.dropLast fees
    let last ← Address.ofValue last
    CallData.pack (dataTypes fees.length) (hops ++ [last.toValue, fixInput])
  | none => .error (.revert "Invalid path length")

end UniswapAdapter

end Basketry.Swap
