import Basketry.Deploy.Run

namespace Basketry.Check

open Work

/-- What the text of the settings reads as, or why it could not be read. -/
structure SettingsFile where
  path : String
  content : Except Fault Value

def sections : List String := ["local_node", "forks", "retry"]

/-- The first section that the settings do not mention. -/
def missingSection? (settings : Value) : List String → Except Fault (Option String)
  | [] => .ok none
  | key :: keys => do
    if ← settings.mentions key then missingSection? settings keys else return some key

def settingsFile (f : SettingsFile) : Work Bool := do
  note .info "Checking configuration files..."
  match f.content with
  | .error fault =>
    report .error ("  " ++ f.path) fault
    return false
  | .ok settings =>
    match ← ofReply (missingSection? settings sections) with
    | some key =>
      note .error ("  Missing section '" ++ key ++ "' in " ++ f.path)
      return false
    | none =>
      note .success ("  ✓ " ++ f.path)
      return true

/-- The variables that forks need. -/
def forkVariables : List String := ["MAINNET_RPC_URL", "BASE_RPC_URL"]

def environment : Work Bool := do
  note .info "Checking environment variables..."
  for name in forkVariables do
    match ← filled? (.text name) with
    | some _ => note .success ("  ✓ " ++ name)
    | none => note .warning ("  " ++ name ++ " not set - forked tests will be skipped")
  if (← filled? Deploy.keyVariable).isNone then
    note .info "  DEPLOYER_PRIVATE_KEY not set - node accounts will deploy"
  return true

def localNode : Work Bool := do
  note .info "Checking local node..."
  let connection ← Network.connect Network.defaults
  if !(← Network.Connection.isHealthy).truth then
    note .error ("  ✗ No node at " ++ (← written connection.url))
    note .info "  Run: npx hardhat node"
    return false
  note .success ("  ✓ Connected to " ++ (← written connection.url) ++
    " (Block: " ++ (← written (← blockNumber)) ++ ")")
  match ← Network.Connection.accounts with
  | [] => return true
  | account :: _ =>
    let balance ← ofReply (Units.inEther (← balanceOf account))
    note .info ("  Account 0: " ++ (← written account) ++ " (" ++ balance.fixed 4 ++ " ETH)")
    return true

def requiredArtifacts : List String :=
  ["ClaimModuleV2", "MorphoClaimV2Adapter", "MorphoMigrationWrapV2Adapter", "UniswapV3ExchangeAdapterV3",
   "AerodromeSlipstreamExchangeAdapter"]

/-- The artifacts that are not there. An artifact that cannot be read ends the search. -/
def missingArtifacts (path : String) : List String → Work (List String)
  | [] => return []
  | name :: names => do
    let found ← tryCatch (do let _ ← Artifact.load path name; return true) fun fault =>
      match fault with
      | .artifactMissing _ _ => return false
      | fault => throw fault
    if found then note .success ("  ✓ " ++ name)
    let missing ← missingArtifacts path names
    return if found then missing else name :: missing

def artifacts : Work Bool := do
  note .info "Checking compiled artifacts..."
  let path ← Artifact.Manager.choosePath none
  let missing ← missingArtifacts path requiredArtifacts
  if missing.isEmpty then return true
  note .error ("Missing artifacts under " ++ path ++ ": " ++ String.intercalate ", " missing)
  note .info "  Run: npx hardhat compile"
  return false

def checks (f : SettingsFile) : List (String × Work Bool) :=
  [("Configuration Files", settingsFile f), ("Environment Variables", environment),
   ("Local Node", localNode), ("Artifacts", artifacts)]

def rule : String := String.ofList (List.replicate 70 '=')

def headline (title : String) : Work Unit := do
  note .info rule
  note .info title
  note .info rule

/-- The outcome of one check, with its name. -/
def perform (check : String × Work Bool) : Work (String × Bool) := do
  note .info ""
  let passed ← tryCatch check.2 fun fault => do
    report .error ("Error in " ++ check.1) fault
    return false
  return (check.1, passed)

/-- Makes all checks and sums them up. The exit code is zero if every one passed. -/
def run (f : SettingsFile) : Work Nat := do
  let _ ← Log.Sinks.ofEnvironment
  headline "System Check"
  let results ← (checks f).mapM perform
  note .info ""
  headline "Summary"
  for (name, passed) in results do
    note .info ("  " ++ (if passed then "✓ PASS" else "✗ FAIL") ++ ": " ++ name)
  let passed := results.countP (·.2)
  note .info ("Total: " ++ toString passed ++ "/" ++ toString results.length ++ " checks passed")
  return if passed = results.length then 0 else 1

end Basketry.Check
