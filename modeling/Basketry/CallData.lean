import Basketry.Abi.TypeText
import Basketry.Abi.Encoding
import Basketry.Abi.Packed

namespace Basketry

/-- What is called, with how much of the native currency, and the call data. -/
structure CallData where
  target : Address
  value : Int
  data : List UInt8
deriving DecidableEq

namespace CallData

/-- The bytes that hexadecimal text stands for. An odd number of digits gains a zero in front. -/
def bytesOfText (s : String) : Except Fault (List UInt8) :=
  let digits := Hex.dropPrefix s.toList
  let digits := if s.length % 2 = 1 then '0' :: digits else digits
  if digits.any fun c => 128 ≤ c.toNat then .error .nonAsciiText
  else (Hex.decode? digits).elim (.error .nonHexDigit) .ok

/-- Call data is given as bytes, as hexadecimal text or as a number. -/
def bytesOfValue : Value → Except Fault (List UInt8)
  | .bytes bs => .ok bs
  | .text s => bytesOfText s
  | .bool b => .ok [if b then 1 else 0]
  | .int n => if n < 0 then .error .negativeBytes else .ok (BigEndian.minimal n.toNat)
  | _ => .error .wrongType

/-- The first four bytes of the hash of a signature. -/
def selector (signature : String) : List UInt8 := (Keccak.hashText signature).take 4

def typesOfTexts : List Value → Except Fault (List Abi.Ty)
  | [] => .ok []
  | .text s :: vs => return (← Abi.Ty.ofText s) :: (← typesOfTexts vs)
  | _ :: _ => .error .wrongType

/-- Types and arguments that fit each other. -/
def arguments (types args : Value) : Except Fault (List Abi.Ty × List Abi.Datum) :=
  match types, args with
  | .list ts, .list vs => do
    let ts ← typesOfTexts ts
    return (ts, ← Abi.Datum.ofArguments ts vs)
  | _, _ => .error .wrongType

/-- The call of `signature` with arguments whose types are given apart from it. -/
def encodeCall (signature : String) (types args : Value) : Except Fault (List UInt8) := do
  let (ts, xs) ← arguments types args
  return selector signature ++ Abi.encodeArguments ts xs

def encodePacked (types values : Value) : Except Fault (List UInt8) := do
  let (ts, xs) ← arguments types values
  return Abi.packedAll ts xs

/-- The call of `signature` with values that still have to fit their types. -/
def call (signature : String) (ts : List Abi.Ty) (vs : List Value) : Except Fault (List UInt8) :=
  return selector signature ++ Abi.encodeArguments ts (← Abi.Datum.ofArguments ts vs)

def pack (ts : List Abi.Ty) (vs : List Value) : Except Fault (List UInt8) :=
  return Abi.packedAll ts (← Abi.Datum.ofArguments ts vs)

end CallData

/-- An address as an argument. -/
def Address.toValue (a : Address) : Value := .bytes a.bytes

end Basketry
