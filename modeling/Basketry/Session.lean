import Basketry.Log
import Basketry.Decimal.Reader
import Basketry.Table
import Basketry.Value.Shown
import Basketry.Node.Basic
import Basketry.Artifact.Folder

namespace Basketry

/-- Where an artifact was found. -/
structure Artifact.Place where
  path : String
  content : Option Value

/-- The longest wait that the clock can count. -/
def longestWait : Int := 9223372036

/-- A wait takes a number of seconds that is not negative. -/
def waitFor : Value → Except Fault Unit
  | .bool _ => .ok ()
  | .int n => if n < 0 then .error .invalidWait else if longestWait < n then .error .endlessWait else .ok ()
  | .float s => match Decimal.ofText? s with
    | some (.finite negative m e) =>
      if negative ∧ m ≠ 0 then .error .invalidWait
      else if longestWait < Decimal.truncate false m e then .error .endlessWait
      else .ok ()
    | some (.infinite _) => .error .endlessWait
    | _ => .error .invalidWait
  | _ => .error .wrongType

structure Session where
  node : Node := {}
  /-- What comes of a wait. -/
  sleep : Value → Except Fault Unit := waitFor
  /-- The variables of the environment. -/
  environment : List (String × String) := []
  disk : Artifact.Disk
  /-- The artifacts by name, once they have been looked for. -/
  index : Option (Table String Artifact.Place) := none
  /-- The artifacts that have been read. -/
  loaded : Table String Value := {}
  log : List Log.Line := []
  /-- The waits between attempts. -/
  pauses : List Value := []
  /-- The requests that were answered. -/
  requests : Nat := 0
  /-- The attempts that the transport failed. -/
  failures : Nat := 0

abbrev Work := ExceptT Fault (StateM Session)

namespace Work

def note (level : Log.Level) (text : String) : Work Unit :=
  modify fun s => { s with log := s.log ++ [⟨level, text, none⟩] }

/-- Notes a failure behind the text. -/
def report (level : Log.Level) (text : String) (cause : Fault) : Work Unit :=
  modify fun s => { s with log := s.log ++ [⟨level, text, some cause⟩] }

def ofReply (r : Except Fault α) : Work α := MonadExcept.ofExcept r

/-- A value as it stands in a message. -/
def written (v : Value) : Work String := ofReply v.shown

/-- A variable that is empty still counts as set. -/
def fromEnvironment (name : String) : Work (Option String) := return (← get).environment.lookup name

end Work

end Basketry
