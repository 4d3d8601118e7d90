import Mathlib.Data.List.Basic
import Basketry.Artifact.Index
import Basketry.Proofs.Occurrences
import Basketry.Proofs.Outcomes
import Basketry.Proofs.Tables

namespace Basketry.Artifact

section Paths

/-- Inside a folder a path is marked where the path of the folder is, or the name. -/
theorem isCompilerFolder_joinPath (path name : String) :
    isCompilerFolder (joinPath path name) = (isCompilerFolder path || isCompilerFolder name) := by
  -- The name has no slash in it, so that it stands on one side of the slash that joins.
  have hmark : '/' ∉ "build-info".toList := by decide
  have hnil : ¬ "build-info".toList <:+: [] := by decide
  rw [Bool.eq_iff_iff, Bool.or_eq_true]
  simp only [isCompilerFolder, Text.occursIn_iff_isInfix, joinPath]
  split
  · rename_i hplain
    rw [String.toList_append]
    obtain rfl | hslash := hplain
    · exact (or_iff_right hnil).symm
    · obtain ⟨front,hfront⟩ := List.getLast?_eq_some_iff.mp hslash
      rw [hfront, List.append_assoc, List.singleton_append, Text.infix_around hmark,
        Text.infix_around hmark, or_iff_left hnil]
  · rw [String.toList_append, String.toList_append, List.append_assoc]
    exact Text.infix_around hmark

end Paths

section Trees
variable {hidden : String → Bool} {file : File} {path name : String}

/-- The file that a contract is looked for in: its name and the ending, unless it is one for debugging. -/
def File.Describes (name : String) (f : File) : Prop :=
  f.name = name ++ ".json" ∧ ¬ debugEnding <:+ f.name.toList

instance (name : String) (f : File) : Decidable (f.Describes name) :=
  inferInstanceAs (Decidable (_ ∧ _))

theorem contractName?_eq_some : contractName? file.name = some name ↔ file.Describes name := by
  have hjson : ".json".toList = ending := rfl
  simp only [contractName?, File.Describes, List.isSuffixOf_iff_suffix, ← String.toList_inj,
    String.toList_append, hjson]
  constructor
  · intro h
    split at h
    · rename_i hends
      obtain ⟨⟨front,hfront⟩,hdebug⟩ := hends
      rw [← hfront, List.length_append, Nat.add_sub_cancel, List.take_left, Option.some.injEq] at h
      exact ⟨by rw [← h, String.toList_ofList, hfront], hdebug⟩
    · cases h
  · rintro ⟨hname,hdebug⟩
    rw [if_pos ⟨⟨name.toList, hname.symm⟩, hdebug⟩, hname, List.length_append, Nat.add_sub_cancel,
      List.take_left, String.ofList_toList]

mutual

/-- A folder's files and those of the folders below it, in the order of the walk. What is hidden is left
out, with everything below it. -/
def Folder.outside (hidden : String → Bool) : Folder → List File
  | .mk _ files folders => files ++ outsideAll hidden folders

def outsideAll (hidden : String → Bool) : List Folder → List File
  | [] => []
  | f :: fs => (if hidden f.name then [] else f.outside hidden) ++ outsideAll hidden fs

end

/-- A file in a folder or below it, with no hidden folder on the way. -/
inductive Folder.Holds (hidden : String → Bool) : Folder → File → Prop where
  | here {name : String} {files : List File} {folders : List Folder} {file : File}
      (mem : file ∈ files) : Holds hidden (.mk name files folders) file
  | within {name : String} {files : List File} {folders : List Folder} {sub : Folder} {file : File}
      (mem : sub ∈ folders) (shown : hidden sub.name = false) (holds : Holds hidden sub file) :
      Holds hidden (.mk name files folders) file

mutual

theorem Folder.mem_outside : ∀ folder : Folder, file ∈ folder.outside hidden ↔ folder.Holds hidden file
  | .mk name files folders => by
    rw [Folder.outside, List.mem_append, mem_outsideAll folders]
    constructor
    · rintro (hfile | ⟨sub,hsub,hshown,hholds⟩)
      · exact .here hfile
      · exact .within hsub hshown hholds
    · rintro (hfile | ⟨hsub,hshown,hholds⟩)
      · exact .inl hfile
      · exact .inr ⟨_, hsub, hshown, hholds⟩

theorem mem_outsideAll : ∀ folders : List Folder, file ∈ outsideAll hidden folders ↔
    ∃ sub ∈ folders, hidden sub.name = false ∧ sub.Holds hidden file
  | [] => by simp [outsideAll]
  | f :: fs => by
    rw [outsideAll, List.mem_append, mem_outsideAll fs, List.exists_mem_cons_iff, ← Folder.mem_outside f]
    cases hidden f.name <;> simp

end

mutual

/-- The names of the folders that are come by below a folder. A hidden one is come by but not entered. -/
def Folder.innerNames (hidden : String → Bool) : Folder → List String
  | .mk _ _ folders => innerNamesAll hidden folders

def innerNamesAll (hidden : String → Bool) : List Folder → List String
  | [] => []
  | f :: fs => f.name :: ((if hidden f.name then [] else f.innerNames hidden) ++ innerNamesAll hidden fs)

end

mutual

theorem Folder.outside_congr {hidden' : String → Bool} :
    ∀ folder : Folder, (∀ name ∈ folder.innerNames hidden, hidden name = hidden' name) →
      folder.outside hidden = folder.outside hidden'
  | .mk name files folders => fun h => by
    rw [Folder.outside, Folder.outside, outsideAll_congr folders h]

theorem outsideAll_congr {hidden' : String → Bool} :
    ∀ folders : List Folder, (∀ name ∈ innerNamesAll hidden folders, hidden name = hidden' name) →
      outsideAll hidden folders = outsideAll hidden' folders
  | [] => fun _ => rfl
  | f :: fs => fun h => by
    simp only [innerNamesAll, List.forall_mem_cons, List.forall_mem_append] at h
    obtain ⟨hname,hbelow,hrest⟩ := h
    rw [outsideAll, outsideAll, ← hname, outsideAll_congr fs hrest]
    cases hhidden : hidden f.name with
    | true => rfl
    | false =>
      rw [hhidden] at hbelow
      rw [Folder.outside_congr f hbelow]

end

/-- The folder of the compiler by its whole name. -/
def isBuildInfo (name : String) : Bool := name == "build-info"

/-- No folder outside those of the compiler has their name as a part of its own. -/
def Folder.PlainlyNamed (folder : Folder) : Prop :=
  ∀ name ∈ folder.innerNames isBuildInfo, isCompilerFolder name → isBuildInfo name

instance (folder : Folder) : Decidable folder.PlainlyNamed :=
  inferInstanceAs (Decidable (∀ name ∈ folder.innerNames isBuildInfo, _))

theorem Folder.PlainlyNamed.outside {folder : Folder} (h : folder.PlainlyNamed) :
    folder.outside isBuildInfo = folder.outside isCompilerFolder := by
  have hmarked : isCompilerFolder "build-info" = true := by decide
  refine folder.outside_congr fun name hname => Bool.eq_iff_iff.mpr ⟨fun hbuild => ?_, h name hname⟩
  rwa [beq_iff_eq.mp hbuild]

mutual

theorem Folder.outside_sublist_walk : ∀ (folder : Folder) (path : String),
    (folder.outside hidden).Sublist ((folder.walk path).map (·.2))
  | .mk name files folders, path => by
    rw [Folder.outside, Folder.walk, List.map_append, List.map_map]
    refine List.Sublist.append ?_ (outsideAll_sublist_walkAll folders path)
    exact (List.map_id files).symm ▸ List.Sublist.refl files

theorem outsideAll_sublist_walkAll : ∀ (folders : List Folder) (path : String),
    (outsideAll hidden folders).Sublist ((walkAll path folders).map (·.2))
  | [], path => .slnil
  | f :: fs, path => by
    rw [outsideAll, walkAll, List.map_append]
    refine List.Sublist.append ?_ (outsideAll_sublist_walkAll fs path)
    split
    · exact List.nil_sublist _
    · exact f.outside_sublist_walk _

end

/-- The files of a walk outside the folders with a marked path. -/
def unmarked (files : List (String × File)) : List File :=
  (files.filter fun f => !isCompilerFolder f.1).map (·.2)

theorem unmarked_append (files files' : List (String × File)) :
    unmarked (files ++ files') = unmarked files ++ unmarked files' := by
  rw [unmarked, List.filter_append, List.map_append, unmarked, unmarked]

theorem unmarked_here (path : String) (files : List File) :
    unmarked (files.map (path, ·)) = if isCompilerFolder path then [] else files := by
  cases h : isCompilerFolder path <;> simp [unmarked, List.filter_map, h, Function.comp_def]

mutual

/-- A path is marked once and for all below it, so that passing marked paths over is leaving the marked
folders out. -/
theorem unmarked_walk : ∀ (folder : Folder) (path : String), unmarked (folder.walk path) =
    if isCompilerFolder path then [] else folder.outside isCompilerFolder
  | .mk name files folders, path => by
    rw [Folder.walk, unmarked_append, unmarked_here, unmarked_walkAll folders, Folder.outside]
    cases isCompilerFolder path <;> rfl

theorem unmarked_walkAll : ∀ (folders : List Folder) (path : String), unmarked (walkAll path folders) =
    if isCompilerFolder path then [] else outsideAll isCompilerFolder folders
  | [], path => by cases h : isCompilerFolder path <;> simp [walkAll, unmarked, outsideAll]
  | f :: fs, path => by
    rw [walkAll, unmarked_append, unmarked_walk f, unmarked_walkAll fs, isCompilerFolder_joinPath,
      outsideAll]
    cases isCompilerFolder path <;> simp

end

end Trees

section Indexes
variable {disk : Disk} {path name : String}

/-- The folder at a path, which is empty where there is none. -/
def folderAt (disk : Disk) (path : String) : Folder := (disk.find? path).getD (.empty "")

/-- The files that an artifact under the path is looked for in. -/
def candidates (disk : Disk) (path : String) : List File :=
  if isCompilerFolder path then [] else (folderAt disk path).outside isCompilerFolder

theorem unmarked_filesUnder (disk : Disk) (path : String) :
    unmarked (filesUnder disk path) = candidates disk path := by
  unfold filesUnder candidates folderAt
  cases disk.find? path with
  | none => cases h : isCompilerFolder path <;> simp [unmarked, Folder.empty, Folder.outside, outsideAll]
  | some folder => exact unmarked_walk folder path

/-- The index that a walk leaves has the first place of each name. -/
theorem get?_indexOf (artifacts : List (String × Place)) (name : String) :
    (indexOf artifacts).1.get? name = (artifacts.find? (·.1 = name)).map (·.2) := by
  -- What is known already stands, so that an earlier artifact wins over a later one.
  have step : ∀ (artifacts : List (String × Place)) (found : Table String Place × List Log.Line),
      (artifacts.foldl enter found).1.get? name =
        (found.1.get? name).or ((artifacts.find? (·.1 = name)).map (·.2)) := by
    intro artifacts
    induction artifacts with
    | nil => simp
    | cons artifact artifacts ih =>
      intro found
      obtain ⟨first,place⟩ := artifact
      rw [List.foldl_cons, ih, List.find?_cons]
      by_cases h : first = name
      · subst h
        cases hfirst : found.1.get? first <;> simp [enter, hfirst, Table.get?_put]
      · cases hfirst : found.1.get? first <;> simp [enter, hfirst, Table.get?_put, h, Ne.symm h]
  exact step artifacts ({}, [])

theorem find?_artifactsOf (files : List (String × File)) (name : String) :
    ((artifactsOf files).find? (·.1 = name)).map (·.2.content) =
      ((unmarked files).find? (·.Describes name)).map (·.content) := by
  induction files with
  | nil => rfl
  | cons entry files ih =>
    obtain ⟨path,file⟩ := entry
    have hdescribes : contractName? file.name = some name ↔ file.Describes name := contractName?_eq_some
    cases hmark : isCompilerFolder path with
    | true => simpa [artifactsOf, unmarked, hmark] using ih
    | false =>
      by_cases h : file.Describes name
      · simp [artifactsOf, unmarked, hmark, h, hdescribes.mpr h]
      · cases hname : contractName? file.name with
        | none => simpa [artifactsOf, unmarked, hmark, hname, h] using ih
        | some other =>
          have hother : other ≠ name := fun heq => h (hdescribes.mp (heq ▸ hname))
          simpa [artifactsOf, unmarked, hmark, hname, h, hother] using ih

/-- A table has for each name what the first of the files that describe it holds. -/
def Knows (files : List File) (known : Table String Place) : Prop :=
  ∀ name, (known.get? name).map (·.content) = (files.find? (·.Describes name)).map (·.content)

theorem knows_indexOf (disk : Disk) (path : String) :
    Knows (candidates disk path) (indexOf (artifactsOf (filesUnder disk path))).1 := by
  intro name
  rw [get?_indexOf, Option.map_map, ← unmarked_filesUnder, ← find?_artifactsOf]
  rfl

end Indexes

section Loads
variable {session : Session} {path : String}

/-- What is answered from the files under a path: the content of the first one that describes the name. -/
def answerFrom (files : List File) (path name : String) : Except Fault Value :=
  match files.find? (·.Describes name) with
  | none => .error (.artifactMissing name path)
  | some file => file.content.elim (.error .unreadableJson) .ok

/-- What a session keeps from earlier loads is what the tree would answer. -/
structure Faithful (path : String) (session : Session) : Prop where
  index : ∀ known, session.index = some known → Knows (candidates session.disk path) known
  loaded : ∀ name artifact, session.loaded.get? name = some artifact →
    answerFrom (candidates session.disk path) path name = .ok artifact

theorem outcome_get (session : Session) : (get : Work Session).outcome session = (.ok session, session) :=
  rfl

theorem index_kept {known : Table String Place} (h : session.index = some known) :
    (index path).outcome session = (.ok known, session) := by
  rw [index, Work.outcome_bind_ok (outcome_get session), h]
  rfl

/-- The index is made from the disk alone, and kept. -/
theorem index_built (path : String) (h : session.index = none) : ∃ next,
    (index path).outcome session = (.ok (indexOf (artifactsOf (filesUnder session.disk path))).1, next) ∧
      next.index = some (indexOf (artifactsOf (filesUnder session.disk path))).1 ∧
      next.loaded = session.loaded ∧ next.disk = session.disk := by
  rw [index, Work.outcome_bind_ok (outcome_get session), h]
  exact ⟨_, rfl, rfl, rfl, rfl⟩

theorem index_outcome (h : Faithful path session) : ∃ known next,
    (index path).outcome session = (.ok known, next) ∧ Knows (candidates session.disk path) known ∧
      next.disk = session.disk ∧ Faithful path next := by
  cases hindex : session.index with
  | some known => exact ⟨known, session, index_kept hindex, h.index known hindex, rfl, h⟩
  | none =>
    obtain ⟨next,hbuilt,hkept,hloaded,hdisk⟩ := index_built path hindex
    have hknown := knows_indexOf session.disk path
    refine ⟨_, next, hbuilt, hknown, hdisk, ?_, ?_⟩
    · rintro known hsome
      obtain rfl := Option.some.inj (hkept.symm.trans hsome)
      rwa [hdisk]
    · rw [hloaded, hdisk]
      exact h.loaded

theorem Faithful.put {name : String} {artifact : Value} (h : Faithful path session)
    (hanswer : answerFrom (candidates session.disk path) path name = .ok artifact) :
    Faithful path { session with loaded := session.loaded.put name artifact } := by
  refine ⟨h.index, fun other found hfound => ?_⟩
  rw [Table.get?_put] at hfound
  split at hfound
  · rename_i hsame
    obtain rfl := Option.some.inj hfound
    exact hsame ▸ hanswer
  · exact h.loaded other found hfound

/-- One load answers from the tree, whatever was loaded before it, and keeps what it read. -/
theorem load_outcome (h : Faithful path session) (name : String) : ∃ next,
    (load path name).outcome session = (answerFrom (candidates session.disk path) path name, next) ∧
      next.disk = session.disk ∧ Faithful path next := by
  cases hloaded : session.loaded.get? name with
  | some artifact =>
    refine ⟨session, ?_, rfl, h⟩
    rw [load, Work.outcome_bind_ok (outcome_get session), h.loaded name artifact hloaded, hloaded]
    rfl
  | none =>
    -- The index is left to be asked, and for the name it knows what the tree has.
    obtain ⟨known,next,hindex,hknown,hdisk,hnext⟩ := index_outcome h
    have hname := hknown name
    rw [load, Work.outcome_bind_ok (outcome_get session), hloaded, Work.outcome_bind_ok hindex]
    cases hplace : known.get? name with
    | none =>
      refine ⟨next, ?_, hdisk, hnext⟩
      rw [hplace, Option.map_none, eq_comm, Option.map_eq_none_iff] at hname
      rw [answerFrom, hname]
      rfl
    | some place =>
      rw [hplace, Option.map_some, eq_comm, Option.map_eq_some_iff] at hname
      obtain ⟨file,hfile,hcontent⟩ := hname
      have hanswer : answerFrom (candidates session.disk path) path name =
          place.content.elim (.error .unreadableJson) .ok := by
        rw [answerFrom, hfile, ← hcontent]
      rw [hanswer]
      cases hread : place.content with
      | none =>
        refine ⟨next, ?_, hdisk, hnext⟩
        simp only [hread]
        rfl
      | some artifact =>
        refine ⟨{ next with loaded := next.loaded.put name artifact }, ?_, hdisk, ?_⟩
        · simp only [hread]
          rfl
        · exact hnext.put (by rw [hdisk, hanswer, hread]; rfl)

/-- What becomes of loads one after another, whatever becomes of each. -/
def loads (path : String) : List String → Session → List (Except Fault Value)
  | [], _ => []
  | name :: names, session =>
    let (reply, next) := (load path name).outcome session
    reply :: loads path names next

theorem loads_answers (h : Faithful path session) (names : List String) :
    loads path names session = names.map (answerFrom (candidates session.disk path) path) := by
  induction names generalizing session with
  | nil => rfl
  | cons name names ih =>
    obtain ⟨next,hload,hdisk,hnext⟩ := load_outcome h name
    rw [loads, hload, List.map_cons, ← hdisk, ← ih hnext]

/-- A session that has not looked for artifacts yet. -/
def unread (session : Session) : Session := { session with index := none, loaded := {} }

theorem loads_unread (session : Session) (path : String) (names : List String) :
    loads path names (unread session) = names.map (answerFrom (candidates session.disk path) path) := by
  refine loads_answers ⟨?_, ?_⟩ names
  · rintro known ⟨⟩
  · rintro name artifact ⟨⟩

section Answers
variable {files : List File} {name : String}

theorem answerFrom_missing (h : ¬ ∃ file ∈ files, file.Describes name) :
    answerFrom files path name = .error (.artifactMissing name path) := by
  have hnone : files.find? (·.Describes name) = none := by
    rw [List.find?_eq_none]
    exact fun file hfile hdescribes => h ⟨file, hfile, of_decide_eq_true hdescribes⟩
  rw [answerFrom, hnone]

theorem answerFrom_found (hread : ∀ file ∈ files, file.content.isSome) :
    (∃ artifact, answerFrom files path name = .ok artifact) ↔ ∃ file ∈ files, file.Describes name := by
  constructor
  · rintro ⟨artifact,hanswer⟩
    by_contra h
    rw [answerFrom_missing h] at hanswer
    cases hanswer
  · rintro ⟨file,hfile,hdescribes⟩
    have hsome : (files.find? (·.Describes name)).isSome :=
      List.find?_isSome.mpr ⟨file, hfile, decide_eq_true hdescribes⟩
    obtain ⟨first,hfirst⟩ := Option.isSome_iff_exists.mp hsome
    obtain ⟨artifact,hcontent⟩ := Option.isSome_iff_exists.mp (hread first (List.mem_of_find?_eq_some hfirst))
    refine ⟨artifact, ?_⟩
    simp only [answerFrom, hfirst, hcontent]
    rfl

end Answers

/-- Loads of a session that has not looked for artifacts yet, where no folder has the name of the compiler's
folder as a part of a longer one. Each answers with the first file of the walk that describes the contract
and is in no folder of the compiler, whatever was loaded before; it fails only where there is no such file or
the path to all of them has that name in it, and says what it has not found. -/
theorem artifacts_are_found_by_name (session : Session) (path : String)
    (hnames : (folderAt session.disk path).PlainlyNamed)
    (hread : ∀ file, (folderAt session.disk path).Holds isBuildInfo file → file.content.isSome)
    (names : List String) :
    let folder := folderAt session.disk path
    let files := if isCompilerFolder path then [] else folder.outside isBuildInfo
    loads path names (unread session) = names.map (answerFrom files path) ∧
      files.Sublist ((folder.walk path).map (·.2)) ∧
      ∀ name, ((∃ artifact, answerFrom files path name = .ok artifact) ↔
          isCompilerFolder path = false ∧ ∃ file, folder.Holds isBuildInfo file ∧ file.Describes name) ∧
        ((¬ ∃ artifact, answerFrom files path name = .ok artifact) →
          answerFrom files path name = .error (.artifactMissing name path)) := by
  intro folder files
  have hfiles : files = candidates session.disk path := by
    simp only [files, candidates, folder, hnames.outside]
  have hmem : ∀ file, file ∈ files ↔ isCompilerFolder path = false ∧ folder.Holds isBuildInfo file := by
    intro file
    rw [← Folder.mem_outside]
    cases h : isCompilerFolder path <;> simp [files, h]
  have hfound : ∀ name, (∃ artifact, answerFrom files path name = .ok artifact) ↔
      ∃ file ∈ files, file.Describes name := fun name =>
    answerFrom_found fun file hfile => hread file ((hmem file).mp hfile).2
  refine ⟨by rw [loads_unread, hfiles], ?_, fun name => ⟨?_, fun hnone => ?_⟩⟩
  · simp only [files]
    split
    · exact List.nil_sublist _
    · exact folder.outside_sublist_walk path
  · rw [hfound name]
    simp only [hmem, and_assoc, exists_and_left]
  · exact answerFrom_missing fun hfile => hnone ((hfound name).mpr hfile)

/-- A disk where a contract is described below the compiler's folder, for debugging, and twice elsewhere. -/
def crowdedDisk : Disk where
  path := "artifacts"
  root := .mk "artifacts" []
    [.mk "build-info" [⟨"Token.json", some (.text "input")⟩] [],
      .mk "contracts" [⟨"Token.dbg.json", some .null⟩, ⟨"Token.json", some (.text "first")⟩] [],
      .mk "older" [⟨"Token.json", some (.text "second")⟩, ⟨"Vault.json", some (.text "vault")⟩] []]

theorem artifacts_are_found_by_name_again :
    loads "artifacts" ["Vault", "Token.dbg", "Token", "Vault", "Token"] (unread { disk := crowdedDisk }) =
      [.ok (.text "vault"), .error (.artifactMissing "Token.dbg" "artifacts"), .ok (.text "first"),
        .ok (.text "vault"), .ok (.text "first")] := by
  have hread : ∀ file ∈ crowdedDisk.root.outside isBuildInfo, file.content.isSome := by decide
  refine (artifacts_are_found_by_name { disk := crowdedDisk } "artifacts" (by decide) ?_ _).1
  exact fun file hfile => hread file (crowdedDisk.root.mem_outside.mpr hfile)

/-- A folder whose name only contains that of the compiler's folder is passed over all the same. -/
theorem lookalike_folders_are_passed_over :
    let token : File := ⟨"Token.json", some (.text "token")⟩
    let folder : Folder := .mk "artifacts" [] [.mk "my-build-info" [token] []]
    loads "artifacts" ["Token"] (unread { disk := ⟨"artifacts", folder⟩ }) =
        [.error (.artifactMissing "Token" "artifacts")] ∧
      folder.Holds isBuildInfo token ∧ token.Describes "Token" := by
  refine ⟨?_, .within List.mem_cons_self (by decide) (.here List.mem_cons_self), by decide⟩
  rw [loads_unread]
  rfl

end Loads

end Basketry.Artifact
