namespace Basketry.Keccak

/-- Lane `(x, y)` stands at place `x + 5 * y`. -/
abbrev Lanes := Vector UInt64 25

def lane (a : Lanes) (x y : Nat) : UInt64 :=
  a.get ⟨x % 5 + 5 * (y % 5), by omega⟩

def ofLanes (f : Nat → Nat → UInt64) : Lanes := Vector.ofFn fun i => f (i.val % 5) (i.val / 5)

def rotate (w : UInt64) (n : Nat) : UInt64 :=
  if n = 0 then w else (w <<< UInt64.ofNat n) ||| (w >>> UInt64.ofNat (64 - n))

/-- How far each lane turns, in the order of their places. -/
def turns : Vector Nat 25 :=
  #v[0, 1, 62, 28, 27, 36, 44, 6, 55, 20, 3, 10, 43, 25, 39, 41, 45, 15, 21, 8, 18, 2, 61, 56, 14]

def turn (x y : Nat) : Nat := turns.get ⟨x % 5 + 5 * (y % 5), by omega⟩

def roundConstants : List UInt64 :=
  [0x0000000000000001, 0x0000000000008082, 0x800000000000808A, 0x8000000080008000,
   0x000000000000808B, 0x0000000080000001, 0x8000000080008081, 0x8000000000008009,
   0x000000000000008A, 0x0000000000000088, 0x0000000080008009, 0x000000008000000A,
   0x000000008000808B, 0x800000000000008B, 0x8000000000008089, 0x8000000000008003,
   0x8000000000008002, 0x8000000000000080, 0x000000000000800A, 0x800000008000000A,
   0x8000000080008081, 0x8000000000008080, 0x0000000080000001, 0x8000000080008008]

def theta (a : Lanes) : Lanes :=
  let column : Vector UInt64 5 := Vector.ofFn fun x =>
    lane a x 0 ^^^ lane a x 1 ^^^ lane a x 2 ^^^ lane a x 3 ^^^ lane a x 4
  let c (x : Nat) : UInt64 := column.get ⟨x % 5, by omega⟩
  ofLanes fun x y => lane a x y ^^^ c (x + 4) ^^^ rotate (c (x + 1)) 1

/-- Each lane turns and moves: the one from `(x, y)` lands on `(y, 2x + 3y)`. -/
def rhoPi (a : Lanes) : Lanes :=
  ofLanes fun x y => rotate (lane a (x + 3 * y) x) (turn (x + 3 * y) x)

def chi (a : Lanes) : Lanes :=
  ofLanes fun x y => lane a x y ^^^ (~~~ lane a (x + 1) y &&& lane a (x + 2) y)

def iota (rc : UInt64) (a : Lanes) : Lanes := a.set 0 (a.get 0 ^^^ rc)

def permute (a : Lanes) : Lanes :=
  roundConstants.foldl (fun a rc => iota rc (chi (rhoPi (theta a)))) a

/-- A word of eight bytes, the lowest first. -/
def word (bs : List UInt8) : UInt64 := bs.foldr (fun b w => (w <<< 8) ||| b.toUInt64) 0

def wordBytes (w : UInt64) : List UInt8 :=
  (List.range 8).map fun i => (w >>> UInt64.ofNat (8 * i)).toUInt8

def rate : Nat := 136

def pad (bs : List UInt8) : List UInt8 :=
  let free := rate - bs.length % rate
  if free = 1 then bs ++ [0x81] else bs ++ 0x01 :: List.replicate (free - 2) 0 ++ [0x80]

def absorb (a : Lanes) (block : List UInt8) : Lanes :=
  permute (ofLanes fun x y =>
    let i := x + 5 * y
    lane a x y ^^^ word ((block.drop (8 * i)).take 8))

/-- The message in blocks of the rate. -/
def blocks (bs : List UInt8) : List (List UInt8) :=
  (List.range (bs.length / rate)).map fun i => (bs.drop (rate * i)).take rate

/-- The 32 byte hash of a message. -/
def hash (bs : List UInt8) : List UInt8 :=
  let a := (blocks (pad bs)).foldl absorb (Vector.replicate 25 0)
  (a.toList.take 4).flatMap wordBytes

def hashText (s : String) : List UInt8 := hash s.toUTF8.toList

end Basketry.Keccak
