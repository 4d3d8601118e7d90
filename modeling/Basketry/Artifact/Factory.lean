import Basketry.Artifact.Linking
import Basketry.Artifact.Index
import Basketry.Node.Asking
import Basketry.Bytes.Hex

namespace Basketry

open Work

/-- An account that the node signs for, or one that signs for itself. -/
inductive Deployer where
  | unlocked (account : Value)
  | signing (account : Value)

def Deployer.address : Deployer → Except Fault Value
  | .signing account => .ok account
  | .unlocked account => return .text (← Address.ofValue account).text

namespace Artifact

structure Factory where
  name : Value
  interface : Value
  deployer : Deployer
  libraries : Value
  code : Value
  references : Value

namespace Factory

/-- An artifact has an interface and code; a name and references are optional. -/
def ofArtifact (artifact : Value) (deployer : Deployer) (libraries : Value) : Except Fault Factory := do
  let name ← artifact.fieldOr "contractName" (.text "Unknown")
  let interface ← artifact.field "abi"
  let code ← artifact.field "bytecode"
  let references ← artifact.fieldOr "linkReferences" .null
  return { name, interface, deployer, libraries := libraries.orElse (.dict []), code,
           references := references.orElse (.dict []) }

/-- The creation code; without references it is taken as it is. -/
def bytecode (f : Factory) : Except Fault Value :=
  if f.references.truth then Value.text <$> link f.code f.references f.libraries else .ok f.code

/-- Binds the interface to a contract; its address comes back with its checksum. -/
def attach (f : Factory) (address : Value) : Work Value := do
  let address := Value.text (← ofReply (Address.ofValue address)).text
  ask (.contract address f.interface .null)
  return address

/-- Sends the creation and gives its hash. -/
def send (f : Factory) : Work (List UInt8) := do
  match f.deployer with
  | .signing account =>
    let nonce ← transactionCount account
    Work.send (← sign (← build [("from", account), ("nonce", nonce)]))
  | .unlocked _ => transact (.dict [("from", ← ofReply f.deployer.address)])

/-- Creates the contract; its address comes back. -/
def deploy (f : Factory) (args : List Value) : Work Value := do
  ask (.contract .null f.interface (← ofReply f.bytecode))
  ask (.construct args)
  let hash ← f.send
  let receipt ← receiptOf hash
  let status ← ofReply (receipt.field "status")
  if !status.isOne then
    note .error ((← written f.name) ++ " deployment failed: " ++ Hex.encode hash)
    throw (.deploymentReverted (← written f.name) (Hex.encode hash))
  let address ← ofReply (receipt.field "contractAddress")
  note .debug ((← written f.name) ++ " deployed at " ++ (← written address) ++
    " (gas used: " ++ (← written (← ofReply (receipt.field "gasUsed"))) ++ ")")
  f.attach address

end Factory

/-- The artifacts under a path, and the account that creates contracts from them. -/
structure Manager where
  deployer : Deployer
  path : String

namespace Manager

/-- The path is the given one, else that of the environment, else `artifacts`. -/
def choosePath (given : Option String) : Work String := do
  match given.filter (· ≠ "") with
  | some path => return path
  | none => return (← fromEnvironment "ARTIFACTS_DIR").getD "artifacts"

def factory (m : Manager) (name : String) (libraries : Value) : Work Factory := do
  ofReply (Factory.ofArtifact (← load m.path name) m.deployer libraries)

def deploy (m : Manager) (name : String) (args : List Value) (libraries : Value) : Work Value := do
  let address ← tryCatch (do (← m.factory name libraries).deploy args) fun fault => do
    report .error ("Error deploying " ++ name) fault
    throw fault
  note .info (name ++ " deployed at " ++ (← written address))
  return address

def attach (m : Manager) (name : String) (address : Value) : Work Value := do
  (← m.factory name .null).attach address

end Manager

end Artifact

end Basketry
