import Basketry.Artifact.Factory
import Basketry.Units

namespace Basketry

/-- The most that an account can hold. -/
def Units.largest : Nat := BigEndian.count 32 - 1

/-- Zeros behind the point go, down to a least exponent. -/
def Decimal.trimmed (least : Int) : Nat → Nat → Int → Nat × Int
  | 0, coeff, exp => (coeff, exp)
  | fuel + 1, coeff, exp =>
    if exp < least ∧ coeff % 10 = 0 then trimmed least fuel (coeff / 10) (exp + 1) else (coeff, exp)

/-- A finite amount of the smallest unit, in the unit of ten to the eighteenth. -/
def Units.etherOf (negative : Bool) (coeff : Nat) (exp : Int) : Except Fault Decimal :=
  if coeff = 0 then .ok (.finite false 0 0)
  else if negative ∨ (Units.largest : Int) < Decimal.truncate false coeff exp then .error .amountRange
  else
    let (coeff, power) := Decimal.trimmed exp 18 coeff (exp - 18)
    .ok (.finite false coeff power)

/-- A balance in the unit that people use. -/
def Units.inEther : Value → Except Fault Decimal
  | .int n => Units.etherOf (n < 0) n.natAbs 0
  | .bool b => Units.etherOf false (if b then 1 else 0) 0
  | .decimal (.finite s m e) => Units.etherOf s m e
  | .decimal (.infinite _) => .error .amountRange
  | .decimal (.nan ..) => .error .invalidDecimal
  | .float s => match Decimal.ofText? s with
    | some (.finite s m e) => Units.etherOf s m e
    | _ => .error .amountRange
  | _ => .error .wrongType

namespace Deploy

open Work

/-- The key under which a signing account is found. -/
def keyVariable : Value := .text "DEPLOYER_PRIVATE_KEY"

/-- The account that a private key stands for; keys are not looked into here. -/
def accountOfKey (_ : String) : Deployer := .signing (.text "0x5656565656565656565656565656565656565656")

/-- The account of the environment's key, else the first account of the node. -/
def chooseDeployer : Work Deployer := do
  match ← filled? keyVariable with
  | some key => return accountOfKey key
  | none =>
    let accounts ← Work.accounts
    if !accounts.truth then throw .noAccounts
    return .unlocked (← ofReply accounts.first)

end Deploy

end Basketry
