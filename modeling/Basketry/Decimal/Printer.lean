import Basketry.Decimal.Basic

namespace Basketry.Decimal

def digits (n : Nat) : List Char := Nat.toDigits 10 n

def signed (negative : Bool) (cs : List Char) : List Char := if negative then '-' :: cs else cs

/-- Digits with a point in front of the last `places`. -/
def withPoint (ds : List Char) (places : Nat) : List Char :=
  if places = 0 then ds
  else
    let ds := List.replicate (places + 1 - ds.length) '0' ++ ds
    ds.take (ds.length - places) ++ '.' :: ds.drop (ds.length - places)

/-- One digit, the others behind a point, and the exponent with its sign. -/
def scientific (coeff : Nat) (exp : Int) : List Char :=
  let power := adjusted coeff exp
  let sign := if power < 0 then '-' else '+'
  withPoint (digits coeff) (digitCount coeff - 1) ++ 'E' :: sign :: digits power.natAbs

/-- Positions are written out down to the sixth place behind the point; a positive exponent never. -/
def finiteChars (coeff : Nat) (exp : Int) : List Char :=
  if exp ≤ 0 ∧ -6 ≤ adjusted coeff exp then withPoint (digits coeff) (-exp).toNat
  else scientific coeff exp

def chars : Decimal → List Char
  | .finite s m e => signed s (finiteChars m e)
  | .infinite s => signed s "Infinity".toList
  | .nan s signalling payload =>
    signed s ((if signalling then "sNaN" else "NaN").toList ++ if payload = 0 then [] else digits payload)

def text (d : Decimal) : String := String.ofList d.chars

/-- A number rounded to `places` behind the point, a half going to the even neighbour. -/
def fixed (places : Nat) : Decimal → String
  | .finite s m e => String.ofList (signed s (withPoint (digits (rescale m e (-(places : Int)))) places))
  | d => d.text

end Basketry.Decimal
