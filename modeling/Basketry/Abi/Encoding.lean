import Basketry.Abi.Datum

namespace Basketry.Abi

def zeros (n : Nat) : List UInt8 := List.replicate n 0

/-- Filled up with zeros to a multiple of 32 bytes. -/
def padRight (bs : List UInt8) : List UInt8 := bs ++ zeros ((32 - bs.length % 32) % 32)

def wordOfNat (n : Nat) : List UInt8 := BigEndian.ofNat 32 n

/-- An encoded value, and whether it goes into the tail. -/
structure Part where
  dynamic : Bool
  bytes : List UInt8

def Part.headSize (p : Part) : Nat := if p.dynamic then 32 else p.bytes.length

/-- Heads from left to right; the offset grows by each tail that was set down. -/
def heads : Nat → List Part → List UInt8
  | _, [] => []
  | offset, p :: ps =>
    if p.dynamic then wordOfNat offset ++ heads (offset + p.bytes.length) ps
    else p.bytes ++ heads offset ps

def tails (ps : List Part) : List UInt8 := (ps.filter Part.dynamic).flatMap Part.bytes

def headLength (ps : List Part) : Nat := ps.foldr (fun p n => p.headSize + n) 0

def layout (ps : List Part) : List UInt8 := heads (headLength ps) ps ++ tails ps

mutual

def encode : Ty → Datum → List UInt8
  | .uint _, .number n => BigEndian.ofInt 32 n
  | .int _, .number n => BigEndian.ofInt 32 n
  | .address, .account a => zeros 12 ++ a.bytes
  | .bool, .flag b => wordOfNat b.toNat
  | .word _, .raw bs => bs ++ zeros (32 - bs.length)
  | .bytes, .raw bs => wordOfNat bs.length ++ padRight bs
  | .string, .raw bs => wordOfNat bs.length ++ padRight bs
  | .array item, .items xs =>
    wordOfNat xs.length ++ layout (xs.map fun x => ⟨item.isDynamic, encode item x⟩)
  | .fixed item _, .items xs => layout (xs.map fun x => ⟨item.isDynamic, encode item x⟩)
  | .tuple members, .items xs => layout (encodeParts members xs)
  | _, _ => []

def encodeParts : List Ty → List Datum → List Part
  | t :: ts, x :: xs => ⟨t.isDynamic, encode t x⟩ :: encodeParts ts xs
  | _, _ => []

end

/-- Arguments are encoded like the members of one tuple. -/
def encodeArguments (ts : List Ty) (xs : List Datum) : List UInt8 := layout (encodeParts ts xs)

end Basketry.Abi
