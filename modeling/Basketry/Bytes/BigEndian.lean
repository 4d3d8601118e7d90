namespace Basketry.BigEndian

/-- How many numbers there are on `width` bytes. -/
def count (width : Nat) : Nat := Nat.pow 256 width

/-- The lowest `width` bytes of a number. -/
def ofNat : Nat → Nat → List UInt8
  | 0, _ => []
  | width + 1, n => ofNat width (n / 256) ++ [UInt8.ofNat (n % 256)]

def toNat (bs : List UInt8) : Nat := bs.foldl (fun n b => 256 * n + b.toNat) 0

/-- Two's complement on `width` bytes. -/
def ofInt (width : Nat) (n : Int) : List UInt8 := ofNat width (n % count width).toNat

/-- A leading bit of one makes the number negative. -/
def toInt (bs : List UInt8) : Int :=
  let n := toNat bs
  if 2 * n < count bs.length then n else n - count bs.length

/-- The fewest bytes that hold a number; zero takes one. -/
def minimal (n : Nat) : List UInt8 := ofNat (max 1 ((Nat.toDigits 256 n).length)) n

end Basketry.BigEndian
