import Basketry.Abi.Datum

namespace Basketry.Abi

/-- The `count` bytes at a position. -/
def window (data : List UInt8) (start count : Nat) : Except Fault (List UInt8) :=
  let bs := (data.drop start).take count
  if bs.length = count then .ok bs else .error .shortData

def readNat (data : List UInt8) (start : Nat) : Except Fault Nat :=
  return BigEndian.toNat (← window data start 32)

/-- The last `size` bytes of a slot, behind bytes that all equal `fill`. -/
def lowBytes (slot : List UInt8) (size : Nat) (fill : UInt8) : Except Fault (List UInt8) :=
  if (slot.take (32 - size)).all (· == fill) then .ok (slot.drop (32 - size)) else .error .dirtyPadding

/-- The first `size` bytes, in front of zeros. -/
def highBytes (slot : List UInt8) (size : Nat) : Except Fault (List UInt8) :=
  if (slot.drop size).all (· == 0) then .ok (slot.take size) else .error .dirtyPadding

def ceil32 (n : Nat) : Nat := (n + 31) / 32 * 32

/-- An offset points behind the head and into the data. -/
def pointer (data : List UInt8) (base headSize start : Nat) : Except Fault Nat := do
  let offset ← readNat data start
  if headSize ≤ offset ∧ base + offset < data.length then return base + offset
  else .error .strayPointer

def lengthPrefixed (data : List UInt8) (start : Nat) : Except Fault (List UInt8) := do
  let size ← readNat data start
  if data.length < size then .error .shortData
  else highBytes (← window data (start + 32) (ceil32 size)) size

/-- One after another, each a slot further. -/
def readSlots (read : Nat → Except Fault Datum) (step : Nat) : Nat → Nat → Except Fault (List Datum)
  | 0, _ => .ok []
  | count + 1, start => return (← read start) :: (← readSlots read step count (start + step))

def checkPointers (data : List UInt8) (base headSize : Nat) : Nat → Nat → Except Fault Unit
  | 0, _ => .ok ()
  | count + 1, start => do
    let _ ← pointer data base headSize start
    checkPointers data base headSize count (start + 32)

mutual

/-- The value of a type that begins at `start`. -/
def decode : Ty → List UInt8 → Nat → Except Fault Datum
  | .uint size, data, start => do
    let bs ← lowBytes (← window data start 32) size 0
    return .number (BigEndian.toNat bs)
  | .int size, data, start => do
    let slot ← window data start 32
    let n := BigEndian.toInt (slot.drop (32 - size))
    let _ ← lowBytes slot size (if n < 0 then 255 else 0)
    return .number n
  | .address, data, start => do
    match Address.ofBytes? (← lowBytes (← window data start 32) 20 0) with
    | some a => return .account a
    | none => .error .shortData
  | .bool, data, start => do
    match ← readNat data start with
    | 0 => return .flag false
    | 1 => return .flag true
    | _ => .error .dirtyPadding
  | .word size, data, start => return .raw (← highBytes (← window data start 32) size)
  | .bytes, data, start => return .raw (← lengthPrefixed data start)
  | .string, data, start => return .raw (← lengthPrefixed data start)
  | .array item, data, start => do
    let size ← readNat data start
    let count := min size (data.length + 1)
    let base := start + 32
    if item.isDynamic then
      checkPointers data base (32 * size) count base
      return .items (← readSlots (fun i => do decode item data (base + (← readNat data i))) 32 count base)
    else return .items (← readSlots (fun i => decode item data i) item.staticSize count base)
  | .fixed item count, data, start => do
    if item.isDynamic then
      checkPointers data start (32 * count) count start
      return .items (← readSlots (fun i => do decode item data (start + (← readNat data i))) 32 count start)
    else return .items (← readSlots (fun i => decode item data i) item.staticSize count start)
  | .tuple members, data, start => do
    if anyDynamic members then checkHeads members data start (headSizes members) start
    return .items (← decodeMembers members data start start)

/-- Static members are read, and the offsets of dynamic ones are judged. -/
def checkHeads : List Ty → List UInt8 → Nat → Nat → Nat → Except Fault Unit
  | [], _, _, _, _ => .ok ()
  | t :: ts, data, base, headSize, start => do
    if t.isDynamic then
      let _ ← pointer data base headSize start
    else
      let _ ← decode t data start
    checkHeads ts data base headSize (start + t.headSize)

def decodeMembers : List Ty → List UInt8 → Nat → Nat → Except Fault (List Datum)
  | [], _, _, _ => .ok []
  | t :: ts, data, base, start => do
    let x ← if t.isDynamic then do decode t data (base + (← readNat data start))
      else decode t data start
    return x :: (← decodeMembers ts data base (start + t.headSize))

end

/-- Arguments are read like the members of one tuple. -/
def decodeArguments (ts : List Ty) (data : List UInt8) : Except Fault (List Datum) := do
  if anyDynamic ts then checkHeads ts data 0 (headSizes ts) 0
  decodeMembers ts data 0 0

end Basketry.Abi
