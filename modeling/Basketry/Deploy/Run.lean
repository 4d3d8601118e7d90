import Basketry.Deploy.Account
import Basketry.Deploy.CommandLine
import Basketry.Network.Connection
import Basketry.Network.Defaults
import Basketry.Decimal.Printer
import Basketry.Log.Sinks

namespace Basketry

open Work

/-- The sinks of a program that leaves the level to the environment. -/
def Log.Sinks.ofEnvironment : Work Log.Sinks := do
  ofReply (Log.Sinks.configure .null (← fromEnvironment "LOG_LEVEL") .null)

namespace Deploy

/-- The address under which a deployer is named. -/
def nameOf : Deployer → Except Fault Value
  | .signing account => .ok account
  | .unlocked (.text account) => .ok (.text account)
  | .unlocked _ => .error .missingAttribute

/-- Deploys from the chosen account, if the node is there and the deployment is a known one. -/
def deployContract (group : Group) (method : String) (args : List Value) (directory : Option String) :
    Work Value := do
  let connection ← Network.connect Network.defaults
  if !(← Network.Connection.isHealthy).truth then
    throw (.unreachableNode (← written connection.url))
  let deployer ← chooseDeployer
  let account ← ofReply (nameOf deployer)
  note .info ("Deploying from: " ++ (← written account))
  let balance ← ofReply (Units.inEther (← balanceOf account))
  note .info ("Account balance: " ++ balance.text ++ " ETH")
  let path ← Artifact.Manager.choosePath directory
  match group.find? method with
  | none => throw (.unknownDeployment group.name method)
  | some layout =>
    let order ← ofReply (layout.order args)
    let address ← order.carryOut ⟨deployer, path⟩
    note .success (group.name ++ "." ++ method ++ " deployed at " ++ (← written address))
    return address

/-- The exit code of a deployment: zero if it went well. -/
def Options.run (o : Options) : Work Nat := do
  let _ ← Log.Sinks.ofEnvironment
  tryCatch
    (do
      let args ← ofReply (o.args.mapM argumentOf)
      let _ ← deployContract o.group o.method args o.directory
      return 0)
    fun fault => do
      report .error "Deployment failed" fault
      return 1

/-- Help is no failure; a misused command line is one of its own. -/
def Invocation.run : Invocation → Work Nat
  | .help => return 0
  | .misuse => return 2
  | .deploy o => o.run

end Deploy

end Basketry
