import Basketry.Value.Shown

namespace Basketry

/-- What a call had to fail with, in quotes, when anything in particular was expected. -/
def expectation : Option String → String
  | none => ""
  | some "" => ""
  | some reason => " " ++ Text.quoted reason

def Fault.message? : Fault → Option String
  | .revert reason => some reason
  | .unknownSnapshot id => ((Value.int id).shown.map ("Unknown snapshot: " ++ ·)).toOption
  | .noDeadline => some "deadline required when no Web3 instance is configured"
  | .artifactMissing name dir => some ("Artifact for " ++ name ++ " not found under " ++ dir)
  | .libraryMissing source name => some ("Missing address for library " ++ source ++ ":" ++ name)
  | .unresolvedPlaceholders => some "Bytecode has unresolved library placeholders"
  | .deploymentReverted name hash => some (name ++ " deployment reverted (" ++ hash ++ ")")
  | .rpc method problem => some (method ++ " failed: " ++ problem)
  | .unknownNetwork network => some ("Unknown fork network: " ++ network)
  | .forkUrlMissing setting network => some (setting ++ " must be set to fork " ++ network)
  | .noAccounts => some "DEPLOYER_PRIVATE_KEY not set and node has no unlocked accounts"
  | .unreachableNode url => some ("Failed to connect to node at " ++ url)
  | .unknownDeployment group method => some ("Unknown deployment: " ++ group ++ "." ++ method)
  | .unexpectedReason expected actual =>
    some ("Expected revert '" ++ expected ++ "', got '" ++ actual ++ "'")
  | .noRevert expected => some ("Expected revert" ++ expectation expected ++ ", but call succeeded")
  | _ => none

end Basketry
