import Basketry.CallData
import Basketry.Table
import Basketry.Abi.Decoding

namespace Basketry.Chain

/-- A token that anybody may mint. -/
structure Token where
  address : Address
  name : String
  symbol : String
  decimals : Int
  totalSupply : Int := 0
  balances : Table Address Int := {}
deriving DecidableEq

namespace Token

def balanceOf (t : Token) (holder : Address) : Int := t.balances.getD holder 0

def mint (t : Token) (receiver : Address) (amount : Int) : Token :=
  { t with
    balances := t.balances.put receiver (t.balanceOf receiver + amount)
    totalSupply := t.totalSupply + amount }

/-- Whether the sender holds the amount. -/
def covers (t : Token) (sender : Address) (amount : Int) : Except Fault Unit :=
  if t.balanceOf sender < amount then .error (.revert "ERC20: transfer amount exceeds balance") else .ok ()

/-- A sender without an account cannot send, not even nothing. -/
def move (t : Token) (sender receiver : Address) (amount : Int) : Except Fault Token :=
  match t.balances.get? sender with
  | none => .error .missingKey
  | some held =>
    let t := { t with balances := t.balances.put sender (held - amount) }
    .ok { t with balances := t.balances.put receiver (t.balanceOf receiver + amount) }

def transfer (t : Token) (sender receiver : Address) (amount : Int) : Except Fault Token := do
  t.covers sender amount
  t.move sender receiver amount

end Token

/-- A token that mints its rewards to whoever claims. -/
structure ClaimAdapter where
  token : Token
  rewards : Int := 0
deriving DecidableEq

/-- The calls that a token or a claim adapter understands. -/
inductive TokenCall where
  | transfer (receiver : Address) (amount : Int)
  | mint (receiver : Address) (amount : Int)
  | claimRewards (holder : Address)
deriving DecidableEq

namespace TokenCall

def transferSignature : String := "transfer(address,uint256)"

def mintSignature : String := "mint(address,uint256)"

def claimRewardsSignature : String := "claimRewards(address)"

def accountAndAmount (make : Address → Int → TokenCall) (data : List UInt8) : Except Fault TokenCall := do
  match ← Abi.decodeArguments [.address, .uint 32] data with
  | [.account a, .number n] => return make a n
  | _ => .error .shortData

def account (make : Address → TokenCall) (data : List UInt8) : Except Fault TokenCall := do
  match ← Abi.decodeArguments [.address] data with
  | [.account a] => return make a
  | _ => .error .shortData

/-- Reads a call by its selector. Only a claim adapter knows rewards. -/
def decode (adapter : Bool) (data : List UInt8) : Except Fault TokenCall :=
  let selector := data.take 4
  let arguments := data.drop 4
  if selector = CallData.selector transferSignature then accountAndAmount .transfer arguments
  else if selector = CallData.selector mintSignature then accountAndAmount .mint arguments
  else if adapter ∧ selector = CallData.selector claimRewardsSignature then account .claimRewards arguments
  else .error (.revert "Function selector was not recognized")

end TokenCall

namespace ClaimAdapter

/-- The call by which a set claims its rewards. -/
def claimCall (a : ClaimAdapter) (setToken : Address) : Except Fault CallData := do
  let data ← CallData.call TokenCall.claimRewardsSignature [.address] [setToken.toValue]
  return ⟨a.token.address, 0, data⟩

end ClaimAdapter

end Basketry.Chain
