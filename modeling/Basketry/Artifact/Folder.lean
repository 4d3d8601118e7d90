import Basketry.Value

namespace Basketry.Artifact

/-- A file and what its text reads as, which is nothing where the text is malformed. -/
structure File where
  name : String
  content : Option Value

inductive Folder where
  | mk (name : String) (files : List File) (folders : List Folder)

namespace Folder

def name : Folder → String
  | mk name _ _ => name

def empty (name : String) : Folder := mk name [] []

end Folder

/-- The path of something inside a folder. -/
def joinPath (path name : String) : String :=
  if path = "" ∨ path.toList.getLast? = some '/' then path ++ name else path ++ "/" ++ name

mutual

/-- All files with the path of the folder that holds them: a folder's own ones first, then those of its
folders, one folder after another. -/
def Folder.walk (path : String) : Folder → List (String × File)
  | .mk _ files folders => files.map (path, ·) ++ walkAll path folders

def walkAll (path : String) : List Folder → List (String × File)
  | [] => []
  | f :: fs => f.walk (joinPath path f.name) ++ walkAll path fs

end

/-- Files stand by name; a name that is there already gets new content. -/
def putFile (f : File) : List File → List File
  | [] => [f]
  | g :: gs => if f.name = g.name then f :: gs else if f.name < g.name then f :: g :: gs else g :: putFile f gs

/-- The folder passes through `change` and is made first where it does not exist. -/
def changeFolder (name : String) (change : Folder → Folder) : List Folder → List Folder
  | [] => [change (Folder.empty name)]
  | g :: gs =>
    if name = g.name then change g :: gs
    else if name < g.name then change (Folder.empty name) :: g :: gs
    else g :: changeFolder name change gs

/-- The folder with a file at a path of names. -/
def Folder.putAt (content : Option Value) : List String → Folder → Folder
  | [], f => f
  | [name], .mk n files folders => .mk n (putFile ⟨name, content⟩ files) folders
  | name :: path, .mk n files folders => .mk n files (changeFolder name (Folder.putAt content path) folders)

def Folder.put (f : Folder) (content : Option Value) (path : List String) : Folder := f.putAt content path

/-- The folder reached by a path of names; an empty name and a single point stay where they are. -/
def Folder.find? : List String → Folder → Option Folder
  | [], f => some f
  | name :: path, .mk n files folders =>
    if name = "" ∨ name = "." then Folder.find? path (.mk n files folders)
    else (folders.find? (·.name == name)).bind (Folder.find? path)

/-- A folder with the path by which it is reached from outside. -/
structure Disk where
  path : String
  root : Folder

/-- The folder at a path, where the disk has one. -/
def Disk.find? (d : Disk) (path : String) : Option Folder :=
  if path = d.path then some d.root
  else
    let base := d.path.toList ++ ['/']
    if base.isPrefixOf path.toList then
      d.root.find? ((String.ofList (path.toList.drop base.length)).splitOn "/")
    else none

end Basketry.Artifact
