import Basketry.Decimal.Basic

namespace Basketry

/-- A value of unknown shape. A float is kept as its shortest text, and an object by its number. -/
inductive Value where
  | null
  | bool (b : Bool)
  | int (n : Int)
  | text (s : String)
  | bytes (bs : List UInt8)
  | float (shown : String)
  | decimal (d : Decimal)
  | list (xs : List Value)
  | dict (entries : List (String × Value))
  | object (ref : Nat)

namespace Value

/-- Whole numbers; a truth value counts as one or zero. -/
def int? : Value → Option Int
  | .int n => some n
  | .bool b => some (if b then 1 else 0)
  | _ => none

def text? : Value → Option String
  | .text s => some s
  | _ => none

def list? : Value → Option (List Value)
  | .list xs => some xs
  | _ => none

/-- The entry of a dictionary under a key. -/
def lookup? (key : String) : Value → Option Value
  | .dict entries => (entries.find? (·.1 == key)).map (·.2)
  | _ => none

end Value

end Basketry
