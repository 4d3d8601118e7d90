import Basketry.Value
import Basketry.Fault
import Basketry.Decimal.Printer
import Basketry.Text.Quoted

namespace Basketry.Value

def escapeByte (quote : Char) (b : UInt8) : List Char :=
  let c := Char.ofNat b.toNat
  if c = quote ∨ c = '\\' then ['\\', c]
  else if c = '\n' then ['\\', 'n']
  else if c = '\r' then ['\\', 'r']
  else if c = '\t' then ['\\', 't']
  else if 32 ≤ b ∧ b < 127 then [c]
  else '\\' :: 'x' :: Text.hexDigits 2 b.toNat

def quotedBytes (bs : List UInt8) : String :=
  let mark := Text.quoteMark (bs.map fun b => Char.ofNat b.toNat)
  String.ofList ('b' :: mark :: bs.flatMap (escapeByte mark) ++ [mark])

/-- The most digits of a whole number that is written as text, or read from it. -/
def longestNumber : Nat := 4300

mutual

/-- The form inside a collection. -/
def literal : Value → Except Fault String
  | .null => .ok "None"
  | .bool b => .ok (if b then "True" else "False")
  | .int n => if longestNumber < Decimal.digitCount n.natAbs then .error .longNumber else .ok (toString n)
  | .text s => .ok (Text.quoted s)
  | .bytes bs => .ok (quotedBytes bs)
  | .float s => .ok s
  | .decimal d => .ok ("Decimal('" ++ d.text ++ "')")
  | .list xs => return "[" ++ String.intercalate ", " (← literals xs) ++ "]"
  | .dict es => return "\x7b" ++ String.intercalate ", " (← entryLiterals es) ++ "\x7d"
  | .object n => .ok ("<object " ++ toString n ++ ">")

def literals : List Value → Except Fault (List String)
  | [] => .ok []
  | x :: xs => return (← x.literal) :: (← literals xs)

def entryLiterals : List (String × Value) → Except Fault (List String)
  | [] => .ok []
  | (key, v) :: es => return (Text.quoted key ++ ": " ++ (← v.literal)) :: (← entryLiterals es)

end

def shown : Value → Except Fault String
  | .text s => .ok s
  | .decimal d => .ok d.text
  | v => v.literal

end Basketry.Value
