import Basketry.Address
import Basketry.Abi.Ty

namespace Basketry.Abi

/-- An argument that fits its type. -/
inductive Datum where
  | number (n : Int)
  | flag (b : Bool)
  | account (a : Address)
  | raw (bs : List UInt8)
  | items (xs : List Datum)

namespace Datum

def ranged (low high n : Int) : Except Fault Datum :=
  if low ≤ n ∧ n < high then .ok (.number n) else .error .argumentRange

/-- An account is written as forty digits or as twenty bytes. -/
def accountOf : Value → Except Fault Datum
  | .text s => (Address.ofText? s).elim (.error .argumentType) (.ok ∘ .account)
  | .bytes bs => (Address.ofBytes? bs).elim (.error .argumentType) (.ok ∘ .account)
  | _ => .error .argumentType

mutual

def ofValue : Ty → Value → Except Fault Datum
  | .uint size, .int n => ranged 0 (BigEndian.count size) n
  | .int size, .int n => ranged (-(BigEndian.count size / 2)) (BigEndian.count size / 2) n
  | .address, v => accountOf v
  | .bool, .bool b => .ok (.flag b)
  | .word size, .bytes bs => if bs.length ≤ size then .ok (.raw bs) else .error .argumentRange
  | .bytes, .bytes bs => .ok (.raw bs)
  | .string, .text s => .ok (.raw s.toUTF8.toList)
  | .array item, .list xs => return .items (← xs.mapM (ofValue item))
  | .fixed item count, .list xs => do
    let items ← xs.mapM (ofValue item)
    if xs.length = count then return .items items else .error .argumentRange
  | .tuple members, .list xs => do
    if xs.length = members.length then return .items (← ofValues members xs)
    else .error .argumentRange
  | _, _ => .error .argumentType

/-- Each value beside its type. -/
def ofValues : List Ty → List Value → Except Fault (List Datum)
  | t :: ts, v :: vs => return (← ofValue t v) :: (← ofValues ts vs)
  | _, _ => .ok []

end

/-- As many values as types, and each fits. -/
def ofArguments (ts : List Ty) (vs : List Value) : Except Fault (List Datum) :=
  if ts.length = vs.length then ofValues ts vs else .error .argumentRange

end Datum

end Basketry.Abi
