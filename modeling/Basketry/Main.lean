import Basketry.Check
import Basketry.Node.Recorded
import Basketry.Wording

namespace Basketry.Console

def described : Fault → String
  | .outage o => o.message
  | fault => fault.message?.getD "unusable input"

/-- A line with its cause behind it. -/
def complete (l : Log.Line) : Log.Line :=
  { l with text := l.text ++ (l.cause.elim "" fun fault => ": " ++ described fault) }

/-- A session is described by the answers of the node, the environment and the files of the artifacts. -/
def sessionOf (description : Value) : Session :=
  let part (key : String) := (description.lookup? key).getD .null
  Recorded.session "artifacts" (part "node") (part "env") (part "artifacts")

/-- The work that the arguments ask for. -/
def workOf : List String → Work Nat
  | "deploy" :: argv => (Deploy.Invocation.ofArguments argv).run
  | ["check"] => Check.run ⟨"config/network_config.json", .ok Network.defaults⟩
  | _ => return 2

/-- What is printed of the work, and its exit code. -/
def outcome (description : Value) (args : List String) : List String × Nat :=
  let session := sessionOf description
  let (code, after) := (workOf args).run session
  let least := ((Log.Sinks.configure .null (session.environment.lookup "LOG_LEVEL") .null).map Log.Sinks.console).toOption
  let lines := (Log.taken (least.getD 0) after.log).map fun l => Log.layout "basketry" (complete l)
  (lines, match code with
    | .ok code => code
    | .error _ => 1)

end Basketry.Console

partial def readRest (input : IO.FS.Stream) (text : String) : IO String := do
  let line ← input.getLine
  if line.isEmpty then return text else readRest input (text ++ line)

def main (args : List String) : IO UInt32 := do
  let text ← readRest (← IO.getStdin) ""
  match Basketry.Json.read? text with
  | none =>
    IO.eprintln "standard input describes no session"
    return 2
  | some description =>
    let (lines, code) := Basketry.Console.outcome description args
    for line in lines do
      IO.eprintln line
    return code.toUInt32
