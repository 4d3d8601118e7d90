import Basketry.Decimal.Basic
import Basketry.Text.Blank
import Basketry.Text.Digits

namespace Basketry.Decimal

/-- Digits become their ASCII form and inner blanks one kind of blank. Other characters beyond ASCII
have no place in a number. -/
def toAscii? (c : Char) : Option Char :=
  if 0 < c.toNat ∧ c.toNat < 128 then some c
  else if Text.isBlank c then some ' '
  else (Text.decimalDigit? c).map fun d => Char.ofNat ('0'.toNat + d)

def isAsciiDigit (c : Char) : Bool := '0' ≤ c && c ≤ '9'

def natOf (ds : List Char) : Nat := ds.foldl (fun n c => 10 * n + (c.toNat - '0'.toNat)) 0

def sign : List Char → Bool × List Char
  | '-' :: cs => (true, cs)
  | '+' :: cs => (false, cs)
  | cs => (false, cs)

/-- The exponent behind a coefficient, zero when none is written. -/
def exponent? : List Char → Option Int
  | [] => some 0
  | e :: cs =>
    if e = 'e' ∨ e = 'E' then
      let (negative, ds) := sign cs
      if ds ≠ [] ∧ ds.all isAsciiDigit then some (if negative then -(natOf ds : Int) else natOf ds) else none
    else none

/-- The largest leading exponent and the smallest last one that a number may have. -/
def largestExponent : Int := 999999999999999999

def smallestExponent : Int := -1999999999999999997

/-- The digits before and behind the point, and the exponent. -/
def finite? (negative : Bool) (cs : List Char) : Option Decimal := do
  let (whole, rest) := cs.span isAsciiDigit
  let (fraction, rest) := match rest with
    | '.' :: rest => rest.span isAsciiDigit
    | rest => ([], rest)
  if whole ++ fraction = [] then none
  let written ← exponent? rest
  let coeff := natOf (whole ++ fraction)
  let exp := written - fraction.length
  if smallestExponent ≤ exp ∧ adjusted coeff exp ≤ largestExponent then
    some (.finite negative coeff exp)
  else none

def payload? (ds : List Char) : Option Nat := if ds.all isAsciiDigit then some (natOf ds) else none

/-- The special values are told by their names, in any letter case. -/
def special? (negative : Bool) (cs : List Char) : Option Decimal :=
  match cs.map Char.toLower with
  | 's' :: 'n' :: 'a' :: 'n' :: ds => (payload? ds).map (.nan negative true)
  | 'n' :: 'a' :: 'n' :: ds => (payload? ds).map (.nan negative false)
  | name =>
    if name = "inf".toList ∨ name = "infinity".toList then some (.infinite negative) else none

def ofText? (s : String) : Option Decimal := do
  let cs ← ((Text.strip s.toList).filter (· ≠ '_')).mapM toAscii?
  let (negative, cs) := sign cs
  (special? negative cs).orElse fun _ => finite? negative cs

end Basketry.Decimal
