import Basketry.Node.Asking

namespace Basketry.Network

open Work

/-- The family is the word in front of the methods that one kind of node alone knows. -/
structure Connection where
  settings : Value
  url : Value
  family : Value
  attempts : Value
  pause : Value

/-- A connection as the settings and the environment ask for. -/
def connect (settings : Value) : Work Connection := do
  let node ← ofReply (settings.field "local_node")
  let chosen ← filled? (← ofReply (node.field "http_url_env"))
  let url ← match chosen with
    | some url => pure (Value.text url)
    | none => ofReply (node.field "default_http_url")
  let usual ← ofReply (node.field "rpc_namespace")
  let family := ((← fromEnvironment "RPC_NAMESPACE").map Value.text).getD usual
  let retry ← ofReply (settings.field "retry")
  let attempts ← ofReply (retry.field "max_retries")
  let pause ← ofReply (retry.field "backoff_seconds")
  note .info ("RPC Manager initialized for " ++ (← written url) ++ " (" ++ (← written family) ++ " namespace)")
  return { settings, url, family, attempts, pause }

namespace Connection

def countRequest : Work Unit := modify fun s => { s with requests := s.requests + 1 }

def countFailure : Work Unit := modify fun s => { s with failures := s.failures + 1 }

def wait (c : Connection) : Work Unit := do
  ofReply ((← get).sleep c.pause)
  modify fun s => { s with pauses := s.pauses ++ [c.pause] }

/-- Asks until an answer comes, with so many attempts left. -/
def persist (c : Connection) (method : String) (params : Value) : Nat → Work Value
  | 0 => throw .noAnswer
  | left + 1 => do
    match ← request method params with
    | .ok response =>
      countRequest
      return response
    | .error fault =>
      if !fault.isTransport then throw fault
      countFailure
      if left = 0 then
        report .error ("RPC " ++ method ++ " failed after " ++ (← written c.attempts) ++ " attempts") fault
        throw fault
      report .debug ("RPC error on " ++ method ++ ", retrying") fault
      c.wait
      c.persist method params left

/-- A response holds a result or an error, which may have a message. -/
def resultOf (method : String) (response : Value) : Except Fault Value := do
  if ← response.mentions "error" then
    let problem ← response.field "error"
    .error (.rpc method (← (← problem.fieldOr "message" problem).shown))
  else response.fieldOr "result" .null

def call (c : Connection) (method : String) (params : Value) : Work Value := do
  match c.attempts.int? with
  | none => throw .wrongType
  | some attempts => ofReply (resultOf method (← c.persist method params attempts.toNat))

/-- A call of a method of the node's own family. -/
def callOwn (c : Connection) (method : String) (params : Work (List Value)) : Work Value := do
  let method := (← written c.family) ++ "_" ++ method
  c.call method (.list (← params))

/-- Whether the node is there; a failure means that it is not. -/
def isHealthy : Work Value := tryCatch connected fun _ => return .bool false

def accounts : Work (List Value) := do ofReply (← Work.accounts).members

end Connection

end Basketry.Network
