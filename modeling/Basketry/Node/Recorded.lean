import Basketry.Session
import Basketry.Json.Reader

namespace Basketry.Recorded

/-- The kinds of failures that the transport is to blame for. -/
def transportKinds : List String :=
  ["OSError", "IOError", "EnvironmentError", "ConnectionError", "ConnectionRefusedError",
   "ConnectionResetError", "ConnectionAbortedError", "BrokenPipeError", "TimeoutError", "FileNotFoundError",
   "FileExistsError", "PermissionError", "InterruptedError", "BlockingIOError", "ChildProcessError",
   "IsADirectoryError", "NotADirectoryError", "ProcessLookupError"]

/-- The kind by which a node reports that a contract refused a call. -/
def refusalKind : String := "ContractLogicError"

def natureOf (kind : String) : Outage.Nature :=
  if transportKinds.contains kind then .transport
  else if kind == refusalKind then .refusal
  else .other

/-- A refusal by a contract in memory is a failure of its own. -/
def faultOf (kind message : String) : Fault :=
  if kind == "ContractRevertError" then .revert message else .outage ⟨natureOf kind, kind, message⟩

def textEntry (key : String) (v : Value) : String := ((v.lookup? key).bind Value.text?).getD ""

def reply (v : Value) : Reply :=
  match v.lookup? "raise" with
  | some failure => .error (faultOf (textEntry "kind" failure) (textEntry "message" failure))
  | none => .ok v

def replyOr (usual : Reply) (key : String) (v : Value) : Reply := ((v.lookup? key).map reply).getD usual

def replies (key : String) (v : Value) : List Reply :=
  (((v.lookup? key).bind Value.list?).getD []).map reply

/-- A node; whatever is not described answers as usual. -/
def node (v : Value) : Node :=
  let usual : Node := {}
  { connected := replyOr usual.connected "connected" v
    accounts := replyOr usual.accounts "accounts" v
    blockNumber := replyOr usual.blockNumber "block_number" v
    balance := replyOr usual.balance "balance" v
    block := replyOr usual.block "block" v
    nonce := replyOr usual.nonce "nonce" v
    responses := replies "responses" v
    receipts := replies "receipts" v }

def environment : Value → List (String × String)
  | .dict es => es.filterMap fun (name, v) => v.text?.map (name, ·)
  | _ => []

/-- A text is what a file holds; any other value is what the file reads as. -/
def content : Value → Option Value
  | .text s => Json.read? s
  | v => some v

/-- Files by their paths. -/
def folder : Value → Artifact.Folder
  | .dict es => es.foldl (fun f (path, v) => f.put (content v) (path.splitOn "/")) (Artifact.Folder.empty "")
  | _ => Artifact.Folder.empty ""

/-- The folder as a disk found under a path. Nobody waits for a node that is only described. -/
def session (path : String) (nodeValue environmentValue files : Value) : Session :=
  { node := node nodeValue, environment := environment environmentValue, disk := ⟨path, folder files⟩,
    sleep := fun _ => .ok () }

end Basketry.Recorded
