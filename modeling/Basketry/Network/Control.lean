import Basketry.Network.Connection
import Basketry.Units
import Basketry.Address
import Basketry.Bytes.Hex

namespace Basketry.Network.Connection

open Work

/-- A number as a node takes it. -/
def quantity (v : Value) : Except Fault Value :=
  match v.int? with
  | some n => .ok (.text ((if n < 0 then "-0x" else "0x") ++ Hex.ofNat n.natAbs))
  | none => .error .wrongType

def checked (account : Value) : Work Value := return .text (← ofReply (Address.ofValue account)).text

/-- The settings of a chain that can be forked. -/
def forkSettings (forks network : Value) : Except Fault Value :=
  match network, forks with
  | .text name, _ => do
    if ← forks.mentions name then forks.field name else .error (.unknownNetwork name)
  | .list _, .dict _ | .dict _, .dict _ => .error .wrongType
  | v, .dict _ | v, .list _ => do .error (.unknownNetwork (← v.shown))
  | _, _ => .error .wrongType

/-- Where to fork a chain: at the given block, else at the block of its settings, else at the latest. -/
def forkOf (c : Connection) (network : Value) (block : Value := .null) : Work (List (String × Value)) := do
  let fork ← ofReply (forkSettings (← ofReply (c.settings.field "forks")) network)
  let setting ← ofReply (fork.field "rpc_url_env")
  match ← filled? setting with
  | none =>
    let setting ← written setting
    throw (.forkUrlMissing setting (← written (← ofReply (fork.field "name"))))
  | some url =>
    let block ← match block with
      | .null => ofReply (fork.fieldOr "default_block_number" .null)
      | given => pure given
    return ("jsonRpcUrl", .text url) :: match block with
      | .null => []
      | block => [("blockNumber", block)]

def resetToFork (c : Connection) (network : Value) (block : Value := .null) : Work Unit := do
  let fork ← c.forkOf network block
  let _ ← c.callOwn "reset" (return [.dict [("forking", .dict fork)]])
  note .info ("Node forked from " ++ (← written network) ++ " at block " ++
    (← written ((fork.lookup "blockNumber").getD (.text "latest"))))

def reset (c : Connection) : Work Unit := do
  let _ ← c.callOwn "reset" (return [])
  note .info "Node reset"

def snapshot (c : Connection) : Work Value := c.call "evm_snapshot" (.list [])

def revert (c : Connection) (id : Value) : Work Value := do
  let reverted ← c.call "evm_revert" (.list [id])
  if !reverted.truth then
    note .warning ("Snapshot " ++ (← written id) ++ " could not be reverted")
  return reverted

/-- Work between a snapshot and the way back to it, which is taken also when the work fails. -/
def restoring (c : Connection) (body : Value → Work α) : Work α := do
  let id ← c.snapshot
  let outcome ← tryCatch (Except.ok <$> body id) fun fault => return .error fault
  let _ ← c.revert id
  ofReply outcome

def setBalance (c : Connection) (account balance : Value) : Work Unit := do
  let _ ← c.callOwn "setBalance" do return [← checked account, ← ofReply (quantity balance)]

/-- What a lent account gets to pay with where nothing else is asked for. -/
def usualBalance : Except Fault Value := Value.int <$> Units.ether (.int 10)

/-- Lends an account with a balance; its address comes back with its checksum. -/
def impersonate (c : Connection) (account : Value) (balance : Value := .null) : Work Value := do
  let account ← checked account
  let _ ← c.callOwn "impersonateAccount" (return [account])
  let balance ← match balance with
    | .null => ofReply usualBalance
    | given => pure given
  c.setBalance account balance
  note .debug ("Impersonating " ++ (← written account))
  return account

def stopImpersonating (c : Connection) (account : Value) : Work Unit := do
  let _ ← c.callOwn "stopImpersonatingAccount" do return [← checked account]

def setNextTime (c : Connection) (time : Value) : Work Unit := do
  let _ ← c.call "evm_setNextBlockTimestamp" (.list [time])

def increaseTime (c : Connection) (seconds : Value) : Work Unit := do
  let _ ← c.call "evm_increaseTime" (.list [seconds])

def mine (c : Connection) (blocks : Value := .int 1) : Work Unit := do
  let _ ← c.callOwn "mine" do return [← ofReply (quantity blocks)]

end Basketry.Network.Connection
