namespace Basketry

/-- A decimal number keeps the digits it was written with: `1.50` and `1.5` differ. -/
inductive Decimal where
  | finite (negative : Bool) (coeff : Nat) (exp : Int)
  | infinite (negative : Bool)
  | nan (negative signalling : Bool) (payload : Nat)
deriving DecidableEq, Repr

namespace Decimal

inductive Signal where
  | invalid
  | overflow
deriving DecidableEq, Repr

/-- The limits of a result: its digits and the range of its exponent. -/
structure Context where
  precision : Nat
  emax : Int
  emin : Int

/-- Twenty-eight digits, and exponents of up to six digits. -/
def Context.standard : Context := ⟨28, 999999, -999999⟩

/-- The exponent of the smallest positive result. -/
def Context.etiny (c : Context) : Int := c.emin - (c.precision - 1 : Nat)

def tens (n : Nat) : Nat := Nat.pow 10 n

def digitCount (n : Nat) : Nat := (Nat.toDigits 10 n).length

/-- `n / d` to the nearest integer, a half to the even one. -/
def divHalfEven (n d : Nat) : Nat :=
  let q := n / d
  let r := n % d
  if d < 2 * r ∨ (2 * r = d ∧ q % 2 = 1) then q + 1 else q

/-- The coefficient of `coeff * 10^exp` on the grid of multiples of `10^target`. -/
def rescale (coeff : Nat) (exp target : Int) : Nat :=
  if target ≤ exp then coeff * tens (exp - target).toNat
  else
    let drop := (target - exp).toNat
    if digitCount coeff < drop then 0 else divHalfEven coeff (tens drop)

/-- The exponent of the leading digit. -/
def adjusted (coeff : Nat) (exp : Int) : Int := exp + digitCount coeff - 1

/-- The exponent on which a result comes to rest: no more digits than the precision, and none below
the smallest positive result. -/
def Context.grid (c : Context) (coeff : Nat) (exp : Int) : Int :=
  max (max exp (adjusted coeff exp - (c.precision - 1 : Nat))) c.etiny

/-- A number brought within the limits. Too large is a signal, too small is zero. -/
def Context.round (c : Context) (negative : Bool) (coeff : Nat) (exp : Int) : Except Signal Decimal :=
  if coeff = 0 then .ok (.finite negative 0 (min (max exp c.etiny) c.emax))
  else
    let target := c.grid coeff exp
    let kept := if target = exp then coeff else rescale coeff exp target
    if c.emax < adjusted kept target then .error .overflow
    else if digitCount kept ≤ c.precision then .ok (.finite negative kept target)
    else .ok (.finite negative (kept / 10) (target + 1))

def Context.mul (c : Context) : Decimal → Decimal → Except Signal Decimal
  | .nan _ true _, _ => .error .invalid
  | _, .nan _ true _ => .error .invalid
  | .nan s g p, _ => .ok (.nan s g p)
  | _, .nan s g p => .ok (.nan s g p)
  | .infinite s, .infinite t => .ok (.infinite (s ^^ t))
  | .infinite s, .finite t m _ => if m = 0 then .error .invalid else .ok (.infinite (s ^^ t))
  | .finite s m _, .infinite t => if m = 0 then .error .invalid else .ok (.infinite (s ^^ t))
  | .finite s m e, .finite t n f => c.round (s ^^ t) (m * n) (e + f)

/-- The power `10^n`. -/
def Context.powTen (c : Context) (n : Int) : Except Signal Decimal := c.round false 1 n

inductive NotIntegral where
  | nan
  | infinite
deriving DecidableEq, Repr

/-- The integer part: digits after the point are dropped. -/
def truncate (negative : Bool) (coeff : Nat) (exp : Int) : Int :=
  let magnitude : Nat :=
    if coeff = 0 then 0
    else if 0 ≤ exp then coeff * tens exp.toNat
    else if digitCount coeff ≤ (-exp).toNat then 0
    else coeff / tens (-exp).toNat
  if negative then -(magnitude : Int) else magnitude

def toInt : Decimal → Except NotIntegral Int
  | .finite s m e => .ok (truncate s m e)
  | .infinite _ => .error .infinite
  | .nan .. => .error .nan

/-- One may be written with any number of zeros behind the point. -/
def isOne : Decimal → Bool
  | .finite negative coeff exp =>
    !negative && exp ≤ 0 && digitCount coeff == (-exp).toNat + 1 && coeff == tens (-exp).toNat
  | _ => false

end Decimal

end Basketry
