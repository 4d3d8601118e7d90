import Basketry.Value
import Basketry.Fault
import Basketry.Bytes.Hex
import Basketry.Bytes.BigEndian
import Basketry.Hash.Keccak

namespace Basketry

/-- An account. It may be written in either letter case, with or without `0x`, or as raw bytes, and is
shown with its checksum in the case of its letters. -/
structure Address where
  bytes : List UInt8
  length_bytes : bytes.length = 20
deriving DecidableEq

namespace Address

def ofBytes? (bs : List UInt8) : Option Address :=
  if h : bs.length = 20 then some ⟨bs, h⟩ else none

def zero : Address := ⟨List.replicate 20 0, by simp⟩

instance : Inhabited Address := ⟨zero⟩

/-- Forty digits behind an optional `0x`, in any case. -/
def ofText? (s : String) : Option Address := Hex.decode? (Hex.dropPrefix s.toList) >>= ofBytes?

/-- A number counts as an address when it has exactly forty hexadecimal digits. -/
def ofInt? (n : Int) : Option Address :=
  if BigEndian.count 20 ≤ 16 * n ∧ n < BigEndian.count 20 then ofBytes? (BigEndian.ofNat 20 n.toNat) else none

def ofValue : Value → Except Fault Address
  | .text s => (ofText? s).elim (.error .malformedAddress) .ok
  | .bytes bs => (ofBytes? bs).elim (.error .malformedAddress) .ok
  | .int n => (ofInt? n).elim (.error .malformedAddress) .ok
  | .bool _ => .error .malformedAddress
  | _ => .error .wrongType

/-- The forty lower-case digits. -/
def digits (a : Address) : List Char := Hex.encodeChars a.bytes

def lowerText (a : Address) : String := String.ofList ('0' :: 'x' :: a.digits)

/-- A letter is raised where the digit of the hash at its place is eight or more. -/
def raise : List Char → List UInt8 → List Char
  | c :: d :: rest, h :: hs =>
    (if 128 ≤ h then c.toUpper else c) :: (if 8 ≤ h % 16 then d.toUpper else d) :: raise rest hs
  | cs, _ => cs

/-- The text with the checksum in its letters, taken from the hash of the lower-case digits. -/
def text (a : Address) : String :=
  let hash := Keccak.hash (a.digits.map fun c => UInt8.ofNat c.toNat)
  String.ofList ('0' :: 'x' :: raise a.digits hash)

instance : ToString Address := ⟨text⟩

/-- The last twenty bytes of a hash. -/
def ofHash (bs : List UInt8) : Address :=
  (ofBytes? (bs.drop (bs.length - 20))).getD zero

end Address

end Basketry
