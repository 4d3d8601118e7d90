import Basketry.Value.Shown
import Basketry.Decimal.Reader

namespace Basketry

namespace Decimal

def Signal.fault : Signal → Fault
  | .invalid => .invalidDecimal
  | .overflow => .decimalOverflow

def NotIntegral.fault : NotIntegral → Fault
  | .nan => .notWhole
  | .infinite => .infiniteWhole

/-- The number that a value is written as. -/
def ofValue (v : Value) : Except Fault Decimal := do
  (ofText? (← v.shown)).elim (.error .invalidDecimal) .ok

/-- The power of ten with a whole exponent. -/
def tenTo (c : Context) : Value → Except Fault Decimal
  | .int n => (c.powTen n).mapError Signal.fault
  | .bool b => (c.powTen (if b then 1 else 0)).mapError Signal.fault
  | .decimal (.finite s m e) => (c.powTen (truncate s m e)).mapError Signal.fault
  | .decimal (.infinite s) => .ok (if s then .finite false 0 0 else .infinite false)
  | .decimal (.nan s g p) => if g then .error .invalidDecimal else .ok (.nan s g p)
  | _ => .error .wrongType

end Decimal

namespace Units

/-- The amount in base units of a token with so many decimals. -/
def scale (amount decimals : Value) : Except Fault Int := do
  let c := Decimal.Context.standard
  let amount ← Decimal.ofValue amount
  let power ← Decimal.tenTo c decimals
  let product ← (c.mul amount power).mapError Decimal.Signal.fault
  product.toInt.mapError Decimal.NotIntegral.fault

def ether (amount : Value) : Except Fault Int := scale amount (.int 18)

def gwei (amount : Value) : Except Fault Int := scale amount (.int 9)

def usdc (amount : Value) : Except Fault Int := scale amount (.int 6)

def bitcoin (amount : Value) : Except Fault Int := scale amount (.int 8)

/-- The unit in which exact fractions are counted. -/
def preciseUnit : Int := 1000000000000000000

/-- A product of precise numbers, rounded down. -/
def preciseMul (a b : Int) : Int := Int.fdiv (a * b) preciseUnit

/-- A quotient of precise numbers, rounded down. -/
def preciseDiv (a b : Int) : Except Fault Int :=
  if b = 0 then .error .divisionByZero else .ok (Int.fdiv (a * preciseUnit) b)

end Units

end Basketry
