namespace Basketry.Abi

/-- The sizes of numbers and of fixed byte strings are counted in bytes. -/
inductive Ty where
  | uint (size : Nat)
  | int (size : Nat)
  | address
  | bool
  | word (size : Nat)
  | bytes
  | string
  | array (item : Ty)
  | fixed (item : Ty) (count : Nat)
  | tuple (members : List Ty)

mutual

/-- A dynamic value stands in the tail, and its offset in the head. -/
def Ty.isDynamic : Ty → Bool
  | .bytes | .string | .array _ => true
  | .fixed item _ => item.isDynamic
  | .tuple members => anyDynamic members
  | _ => false

def anyDynamic : List Ty → Bool
  | [] => false
  | t :: ts => t.isDynamic || anyDynamic ts

end

mutual

/-- The bytes that a static value takes in the head. -/
def Ty.staticSize : Ty → Nat
  | .fixed item count => count * item.staticSize
  | .tuple members => staticSizes members
  | _ => 32

def staticSizes : List Ty → Nat
  | [] => 0
  | t :: ts => t.staticSize + staticSizes ts

end

/-- The bytes that a value takes in the head; an offset takes one slot. -/
def Ty.headSize (t : Ty) : Nat := if t.isDynamic then 32 else t.staticSize

def headSizes (ts : List Ty) : Nat := ts.foldr (fun t n => t.headSize + n) 0

end Basketry.Abi
