import Basketry.Address

namespace Basketry.Swap

def addressWidth : Nat := 20

def feeWidth : Nat := 3

/-- The window of a width that begins at `start`. -/
def window? (width : Nat) (data : List UInt8) (start : Int) : Option (List UInt8) :=
  if 0 ≤ start ∧ start + width ≤ data.length then some ((data.drop start.toNat).take width) else none

def readAddress (data : List UInt8) (start : Int) : Except Fault Address :=
  match window? addressWidth data start >>= Address.ofBytes? with
  | some a => .ok a
  | none => .error (.revert "toAddress_outOfBounds")

def readFee (data : List UInt8) (start : Int) : Except Fault Int :=
  match window? feeWidth data start with
  | some bs => .ok (BigEndian.toNat bs)
  | none => .error (.revert "toUint24_outOfBounds")

def readSpacing (data : List UInt8) (start : Int) : Except Fault Int :=
  match window? feeWidth data start with
  | some bs => .ok (BigEndian.toInt bs)
  | none => .error (.revert "toInt24_outOfBounds")

/-- One byte, which has to be zero or one. -/
def readFlag (data : List UInt8) (start : Int) : Except Fault Bool :=
  match window? 1 data start with
  | some [0] => .ok false
  | some [1] => .ok true
  | some _ => .error (.revert "Invalid bool data")
  | none => .error (.revert "toBool_outOfBounds")

end Basketry.Swap
