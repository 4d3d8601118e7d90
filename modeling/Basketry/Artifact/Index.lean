import Basketry.Session
import Basketry.Text.Search

namespace Basketry.Artifact

open Work

def ending : List Char := ".json".toList

def debugEnding : List Char := ".dbg.json".toList

/-- The contract that a file describes, told by its ending. Files for debugging describe none. -/
def contractName? (fileName : String) : Option String :=
  let cs := fileName.toList
  if ending.isSuffixOf cs ∧ ¬ debugEnding.isSuffixOf cs then
    some (String.ofList (cs.take (cs.length - ending.length)))
  else none

/-- Folders that hold the compiler's own input and output. -/
def isCompilerFolder (path : String) : Bool := Text.occursIn "build-info".toList path.toList

/-- The artifacts of a walk, with the names in walk order. -/
def artifactsOf (files : List (String × File)) : List (String × Place) :=
  files.filterMap fun (path, f) =>
    if isCompilerFolder path then none
    else (contractName? f.name).map (·, ⟨joinPath path f.name, f.content⟩)

/-- Takes an artifact in, unless its name is known already. -/
def enter (found : Table String Place × List Log.Line) (artifact : String × Place) :
    Table String Place × List Log.Line :=
  let (known, lines) := found
  let (name, place) := artifact
  match known.get? name with
  | some first => (known, lines ++ [⟨.warning, "Duplicate artifact for " ++ name ++ ", keeping " ++ first.path, none⟩])
  | none => (known.put name place, lines)

def indexOf (artifacts : List (String × Place)) : Table String Place × List Log.Line :=
  artifacts.foldl enter ({}, [])

/-- Everything below a folder; a folder that does not exist holds nothing. -/
def filesUnder (disk : Disk) (path : String) : List (String × File) :=
  ((disk.find? path).map (·.walk path)).getD []

/-- The artifacts under a path, looked for afresh. -/
def buildIndex (path : String) : Work (Table String Place) := do
  let (known, lines) := indexOf (artifactsOf (filesUnder (← get).disk path))
  modify fun s => { s with log := s.log ++ lines }
  note .debug ("Indexed " ++ toString known.entries.length ++ " artifacts under " ++ path)
  return known

/-- The index of the session, built when it is first needed. -/
def index (path : String) : Work (Table String Place) := do
  match (← get).index with
  | some known => return known
  | none =>
    let known ← buildIndex path
    modify fun s => { s with index := some known }
    return known

/-- An artifact by name. One that was read before is not read again. -/
def load (path name : String) : Work Value := do
  match (← get).loaded.get? name with
  | some artifact => return artifact
  | none =>
    match (← index path).get? name with
    | none => throw (.artifactMissing name path)
    | some place =>
      match place.content with
      | none => throw .unreadableJson
      | some artifact =>
        modify fun s => { s with loaded := s.loaded.put name artifact }
        return artifact

end Basketry.Artifact
