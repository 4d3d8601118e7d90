import Basketry.Log
import Basketry.Value.Contents

namespace Basketry.Log

/-- The least severity that each sink takes; without a file there is one sink. -/
structure Sinks where
  console : Int
  file : Option Int
deriving DecidableEq, Repr

/-- A level is given by its name or by its severity. -/
def severityOf : Value → Except Fault Int
  | .text s => ((Level.ofName? s).map Level.severity).elim (.error .unknownLevel) .ok
  | .int n => if n < 0 then .error .unknownLevel else .ok n
  | .bool b => .ok (if b then 1 else 0)
  | _ => .error .wrongType

/-- The console level is the given one, else the preferred one, else that of information. -/
def Sinks.configure (level : Value) (preferred : Option String) (file : Value) : Except Fault Sinks := do
  let console ← severityOf (level.orElse (.text (preferred.getD Level.info.name)))
  if !file.truth then return ⟨console, none⟩
  match file with
  | .text _ => return ⟨console, some Level.debug.severity⟩
  | _ => .error .wrongType

/-- The name of a level, padded to eight characters, then the place that logs and the text. -/
def layout (place : String) (l : Line) : String :=
  let name := l.level.name
  name ++ String.ofList (List.replicate (8 - name.length) ' ') ++ " | " ++ place ++ " - " ++ l.text

/-- The lines that reach a sink. -/
def taken (least : Int) (lines : List Line) : List Line := lines.filter (least ≤ ·.level.severity)

end Basketry.Log
