import Basketry.Value
import Basketry.Address
import Basketry.Units

namespace Basketry.Constants

def zero : Int := 0

def zeroAddress : Address := Address.zero

def emptyBytes : List UInt8 := []

/-- One word of zeros. -/
def zeroBytes : List UInt8 := List.replicate 32 0

def maxWord : Int := BigEndian.count 32 - 1

def preciseUnit : Int := Units.preciseUnit

/-- All of them under their names. -/
def table : List (String × Value) :=
  [("ZERO", .int zero), ("ADDRESS_ZERO", .text zeroAddress.lowerText), ("EMPTY_BYTES", .bytes emptyBytes),
   ("ZERO_BYTES", .bytes zeroBytes), ("MAX_UINT_256", .int maxWord), ("PRECISE_UNIT", .int preciseUnit)]

end Basketry.Constants
