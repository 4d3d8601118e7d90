import Basketry.Value
import Basketry.Fault
import Basketry.Units
import Basketry.Text.Blank
import Basketry.Text.Digits

namespace Basketry.Value

/-- Digits with single underscores between them, without the underscores. -/
def ungrouped? : List Char → Option (List Char)
  | [] => some []
  | ['_'] => none
  | '_' :: '_' :: _ => none
  | '_' :: cs => ungrouped? cs
  | c :: cs => (ungrouped? cs).map (c :: ·)

def natural? (cs : List Char) : Option Nat := do
  if cs.head? = some '_' then none
  let ds ← ungrouped? cs
  if ds = [] ∨ longestNumber < ds.length then none
  Text.spelled? ds

/-- Blanks around and one sign are allowed. -/
def spelledWhole? (s : String) : Option Int :=
  match Text.strip s.toList with
  | '-' :: cs => (natural? cs).map fun n => -(n : Int)
  | '+' :: cs => (natural? cs).map Int.ofNat
  | cs => (natural? cs).map Int.ofNat

/-- The nearest number of 53 binary digits. -/
def roundBinary (n : Nat) : Nat :=
  let excess := (Nat.toDigits 2 n).length - 53
  let step := Nat.pow 2 excess
  Decimal.divHalfEven n step * step

/-- A float is shown by its shortest text, which has to be rounded again where it stands for more digits. -/
def wholeOfFloat (s : String) : Except Fault Int :=
  match Decimal.ofText? s with
  | some (.finite negative m e) =>
    let n := roundBinary (Decimal.truncate false m e).toNat
    .ok (if negative then -(n : Int) else n)
  | some (.infinite _) => .error .infiniteWhole
  | _ => .error .notWhole

def whole : Value → Except Fault Int
  | .int n => .ok n
  | .bool b => .ok (if b then 1 else 0)
  | .text s => (spelledWhole? s).elim (.error .notWhole) .ok
  | .bytes bs =>
    if bs.all (· < 128) then
      (spelledWhole? (String.ofList (bs.map fun b => Char.ofNat b.toNat))).elim (.error .notWhole) .ok
    else .error .notWhole
  | .float s => wholeOfFloat s
  | .decimal d => d.toInt.mapError Decimal.NotIntegral.fault
  | _ => .error .wrongType

end Basketry.Value
