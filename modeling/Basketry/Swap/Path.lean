import Basketry.Swap.Window
import Basketry.CallData

namespace Basketry.Swap

def hopWidth : Nat := addressWidth + feeWidth

/-- One token, and at least one hop behind it. -/
def isPathLength (length : Int) : Bool :=
  addressWidth + hopWidth ≤ length && (length - addressWidth) % hopWidth == 0

structure Path where
  tokens : List Address
  fees : List Int
deriving DecidableEq

/-- The hops from `start` on. -/
def readHops (signed : Bool) (data : List UInt8) : Nat → Nat → Except Fault (List Int × List Address)
  | 0, _ => .ok ([], [])
  | hops + 1, start => do
    let fee ← if signed then readSpacing data start else readFee data start
    let token ← readAddress data (start + feeWidth : Nat)
    let (fees, tokens) ← readHops signed data hops (start + hopWidth)
    return (fee :: fees, token :: tokens)

def decodePathBytes (data : List UInt8) (signed : Bool) (reason : String) : Except Fault Path := do
  if !isPathLength data.length then .error (.revert reason)
  let first ← readAddress data 0
  let (fees, tokens) ← readHops signed data ((data.length - addressWidth) / hopWidth) addressWidth
  return ⟨first :: tokens, fees⟩

/-- Splits a path into its tokens and its fees. -/
def decodePath (data : Value) (signed : Bool := false) (reason : String := "Invalid data") :
    Except Fault Path := do
  decodePathBytes (← CallData.bytesOfValue data) signed reason

/-- Each token in front of its fee. -/
def hopValues : List Value → List Value → Except Fault (List Value)
  | token :: tokens, fee :: fees =>
    return (← Address.ofValue token).toValue :: fee :: (← hopValues tokens fees)
  | _, _ => .ok []

end Basketry.Swap
