import Basketry.Value
import Basketry.Fault
import Basketry.Decimal.Reader
import Basketry.Text.Search

namespace Basketry.Value

/-- Nothing, zero and whatever is empty count as false. -/
def truth : Value → Bool
  | .null => false
  | .bool b => b
  | .int n => n ≠ 0
  | .text s => s ≠ ""
  | .bytes bs => !bs.isEmpty
  | .float s => match Decimal.ofText? s with
    | some (.finite _ m _) => m ≠ 0
    | _ => true
  | .decimal (.finite _ m _) => m ≠ 0
  | .decimal _ => true
  | .list xs => !xs.isEmpty
  | .dict es => !es.isEmpty
  | .object _ => true

/-- The value itself, or another one where it counts as false. -/
def orElse (v other : Value) : Value := if v.truth then v else other

/-- The entry that a dictionary must have. -/
def field (v : Value) (key : String) : Except Fault Value :=
  match v with
  | .dict _ => (v.lookup? key).elim (.error .missingKey) .ok
  | _ => .error .wrongType

/-- The entry that a dictionary may have. -/
def fieldOr (v : Value) (key : String) (default : Value) : Except Fault Value :=
  match v with
  | .dict _ => .ok ((v.lookup? key).getD default)
  | _ => .error .missingAttribute

/-- The entries of a dictionary. -/
def entries : Value → Except Fault (List (String × Value))
  | .dict es => .ok es
  | _ => .error .missingAttribute

def isText (word : String) : Value → Bool
  | .text s => s == word
  | _ => false

/-- A word is a key of a dictionary, an item of a list or a part of a text. -/
def mentions (word : String) : Value → Except Fault Bool
  | .dict es => .ok (es.any (·.1 == word))
  | .list xs => .ok (xs.any (isText word))
  | .text s => .ok (Text.occursIn word.toList s.toList)
  | _ => .error .wrongType

/-- The members of a collection, one after another. -/
def members : Value → Except Fault (List Value)
  | .list xs => .ok xs
  | .text s => .ok (s.toList.map fun c => .text (String.singleton c))
  | .dict es => .ok (es.map fun e => .text e.1)
  | .bytes bs => .ok (bs.map fun b => .int b.toNat)
  | _ => .error .wrongType

/-- The first member. Only sequences have one. -/
def first : Value → Except Fault Value
  | .dict _ => .error .missingKey
  | v => do
    match ← v.members with
    | x :: _ => .ok x
    | [] => .error .absentItem

/-- Whether a number is one. -/
def isOne : Value → Bool
  | .bool b => b
  | .int n => n == 1
  | .float s => ((Decimal.ofText? s).map Decimal.isOne).getD false
  | .decimal d => d.isOne
  | _ => false

end Basketry.Value
