import Basketry.Fault
import Basketry.Abi.Ty

namespace Basketry.Abi

/-- A written type: a name with an optional size, or a tuple, and the dimensions behind it. -/
inductive Shape where
  | basic (name : String) (size : Option Nat) (dims : List (Option Nat))
  | tuple (members : List Shape) (dims : List (Option Nat))

namespace Shape

def isLetter (c : Char) : Bool := ('a' ≤ c && c ≤ 'z') || ('A' ≤ c && c ≤ 'Z')

def isDigit (c : Char) : Bool := '0' ≤ c && c ≤ '9'

def number (ds : List Char) : Nat := ds.foldl (fun n c => 10 * n + (c.toNat - '0'.toNat)) 0

/-- A number begins with a digit other than zero. -/
def number? (cs : List Char) : Option (Nat × List Char) :=
  match cs.span isDigit with
  | ([], _) => none
  | ('0' :: _, _) => none
  | (ds, rest) => some (number ds, rest)

def dim? : List Char → Option (Option Nat × List Char)
  | '[' :: ']' :: rest => some (none, rest)
  | '[' :: rest =>
    match number? rest with
    | some (n, ']' :: rest) => some (some n, rest)
    | _ => none
  | _ => none

/-- As many dimensions as there are, and the text behind them. The fuel bounds their number. -/
def dims : Nat → List Char → List (Option Nat) × List Char
  | 0, cs => ([], cs)
  | fuel + 1, cs =>
    match dim? cs with
    | none => ([], cs)
    | some (d, rest) => let (ds, rest) := dims fuel rest; (d :: ds, rest)

def basic? (cs : List Char) : Option (Shape × List Char) :=
  match cs.span isLetter with
  | ([], _) => none
  | (name, rest) =>
    let (size, rest) := match number? rest with
      | some (n, rest) => (some n, rest)
      | none => (none, rest)
    let (ds, rest) := dims rest.length rest
    some (.basic (String.ofList name) size ds, rest)

mutual

def shape? : Nat → List Char → Option (Shape × List Char)
  | 0, _ => none
  | fuel + 1, '(' :: rest => do
    let (m, rest) ← shape? fuel rest
    let (ms, rest) ← members? fuel rest
    let (ds, rest) := dims rest.length rest
    some (.tuple (m :: ms) ds, rest)
  | _ + 1, cs => basic? cs

def members? : Nat → List Char → Option (List Shape × List Char)
  | 0, _ => none
  | fuel + 1, ',' :: rest => do
    let (m, rest) ← shape? fuel rest
    let (ms, rest) ← members? fuel rest
    some (m :: ms, rest)
  | _ + 1, ')' :: rest => some ([], rest)
  | _ + 1, _ => none

end

/-- The shape of a whole text. -/
def ofText? (s : String) : Option Shape :=
  match shape? (s.length + 1) s.toList with
  | some (shape, []) => some shape
  | _ => none

/-- Inside a composite type a name may be short for another. -/
def expand (name : String) (size : Option Nat) : String × Option Nat :=
  match name, size with
  | "uint", none => ("uint", some 256)
  | "int", none => ("int", some 256)
  | "byte", none => ("bytes", some 1)
  | "function", none => ("bytes", some 24)
  | _, _ => (name, size)

/-- Whether a name admits its size. Sizes of unknown names are not judged. -/
def sizeFits (name : String) (size : Option Nat) : Bool :=
  match name with
  | "string" | "address" => size.isNone
  | "bytes" => size.all (· ≤ 32)
  | "uint" | "int" => size.any fun n => 8 ≤ n && n ≤ 256 && n % 8 = 0
  | _ => true

mutual

/-- Whether all sizes fit, however deep they stand. -/
def sizesFit : Shape → Bool
  | .basic name size _ => let (name, size) := expand name size; sizeFits name size
  | .tuple members _ => allSizesFit members

def allSizesFit : List Shape → Bool
  | [] => true
  | m :: ms => m.sizesFit && allSizesFit ms

end

def named (name : String) (size : Option Nat) : Except Fault Ty :=
  match name, size with
  | "bool", _ => .ok .bool
  | "address", none => .ok .address
  | "string", none => .ok .string
  | "bytes", none => .ok .bytes
  | "bytes", some n => if n ≤ 32 then .ok (.word n) else .error .unsupportedType
  | "uint", some n => if sizeFits name size then .ok (.uint (n / 8)) else .error .unsupportedType
  | "int", some n => if sizeFits name size then .ok (.int (n / 8)) else .error .unsupportedType
  | "address", some _ | "string", some _ => .error .unsupportedType
  | _, _ => .error .unknownType

/-- Dimensions are written from the innermost to the outermost. -/
def wrap (t : Ty) (dims : List (Option Nat)) : Ty :=
  dims.foldl (fun t d => d.elim (.array t) (.fixed t)) t

mutual

/-- The type of a shape. The short name `byte` is known only inside a composite type. -/
def toTy (inside : Bool) : Shape → Except Fault Ty
  | .basic name size dims => do
    if name = "byte" ∧ !inside ∧ dims = [] then .error .unknownType
    let (name, size) := expand name size
    return wrap (← named name size) dims
  | .tuple members dims => do
    if !allSizesFit members then .error .unsupportedType
    return wrap (.tuple (← membersToTy members)) dims

def membersToTy : List Shape → Except Fault (List Ty)
  | [] => .ok []
  | m :: ms => return (← m.toTy true) :: (← membersToTy ms)

end

end Shape

/-- Whether two parentheses stand side by side. -/
def hasEmptyTuple : List Char → Bool
  | '(' :: ')' :: _ => true
  | _ :: cs => hasEmptyTuple cs
  | [] => false

def Ty.ofText (s : String) : Except Fault Ty :=
  match Shape.ofText? s with
  | some shape => shape.toTy false
  | none => .error (if hasEmptyTuple s.toList then .emptyTupleType else .unreadableType)

end Basketry.Abi
