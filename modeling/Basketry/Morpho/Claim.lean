import Basketry.CallData
import Basketry.Abi.Decoding

namespace Basketry.Morpho

/-- Claims from a rewards distributor. -/
structure ClaimAdapter where
  distributor : Address
deriving DecidableEq

namespace ClaimAdapter

def signature : String := "claim(address,address,uint256,bytes32[])"

def claimTypes : List Abi.Ty := [.uint 32, .array (.word 32)]

def argumentTypes : List Abi.Ty := [.address, .address, .uint 32, .array (.word 32)]

def ofValue (distributor : Value) : Except Fault ClaimAdapter := return ⟨← Address.ofValue distributor⟩

/-- The claimable amount and its proof. -/
def readClaim (data : List UInt8) : Except Fault (List Abi.Datum) :=
  match Abi.decodeArguments claimTypes data with
  | .ok claim => .ok claim
  | .error _ => .error (.revert "Invalid claim data")

/-- The call that claims for `account` the rewards paid in `pool`. -/
def claimCall (m : ClaimAdapter) (account pool claimData : Value) : Except Fault CallData := do
  let claim ← readClaim (← CallData.bytesOfValue claimData)
  let account ← Address.ofValue account
  let pool ← Address.ofValue pool
  let arguments := .account account :: .account pool :: claim
  return ⟨m.distributor, 0, CallData.selector signature ++ Abi.encodeArguments argumentTypes arguments⟩

/-- A pool pays in the token it is named by. -/
def rewardToken (pool : Value) : Except Fault Address := Address.ofValue pool

/-- Pending rewards are not known on the chain. -/
def rewards : Int := 0

end ClaimAdapter

end Basketry.Morpho
