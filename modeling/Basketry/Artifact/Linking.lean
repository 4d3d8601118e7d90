import Basketry.Value.Contents
import Basketry.Address

namespace Basketry.Artifact

/-- A span of code, counted in bytes of two digits each. -/
structure Span where
  start : Int
  length : Int
deriving DecidableEq, Repr

namespace Span

/-- What is neither missing nor a dictionary can be told to be no number only later. -/
def measurable : Value → Bool
  | .null | .dict _ | .object _ => false
  | _ => true

def ofValue (v : Value) : Except Fault Span := do
  let start ← v.field "start"
  if !measurable start then .error .wrongType
  let length ← v.field "length"
  match start.int?, length.int? with
  | some start, some length => .ok ⟨start, length⟩
  | _, _ => .error .wrongType

end Span

/-- A position in a text of some length; a negative one counts from the end. -/
def position (length : Nat) (i : Int) : Nat :=
  if i < 0 then (i + length).toNat else min i.toNat length

/-- The code with digits in place of a span. -/
def splice (digits : List Char) (code : List Char) (s : Span) : List Char :=
  code.take (position code.length (2 * s.start)) ++ digits ++
    code.drop (position code.length (2 * s.start + 2 * s.length))

/-- The address of a library, by its qualified name before its plain one. -/
def libraryAddress (libraries : Value) (source name : String) : Except Fault Address := do
  let plain ← libraries.fieldOr name .null
  match ← libraries.fieldOr (source ++ ":" ++ name) plain with
  | .null => .error (.libraryMissing source name)
  | address => Address.ofValue address

/-- The code with one address in every one of the spans. -/
def spliceAll (digits : List Char) (code : List Char) : List Value → Except Fault (List Char)
  | [] => .ok code
  | v :: vs => do spliceAll digits (splice digits code (← Span.ofValue v)) vs

/-- The code with the libraries of one source. -/
def linkSource (libraries : Value) (source : String) (code : List Char) :
    List (String × Value) → Except Fault (List Char)
  | [] => .ok code
  | (name, spans) :: rest => do
    let address ← libraryAddress libraries source name
    let code ← spliceAll address.digits code (← spans.members)
    linkSource libraries source code rest

def linkSources (libraries : Value) (code : List Char) : List (String × Value) → Except Fault (List Char)
  | [] => .ok code
  | (source, names) :: rest => do
    let code ← linkSource libraries source code (← names.entries)
    linkSources libraries code rest

/-- What an open span begins with. -/
def placeholder : List Char := "__$".toList

def dropPrefix : List Char → List Char
  | '0' :: 'x' :: rest => rest
  | cs => cs

def codeOf : Value → Except Fault (List Char)
  | .text s => .ok (dropPrefix s.toList)
  | .bytes _ => .error .wrongType
  | _ => .error .missingAttribute

/-- The code with every reference resolved. Spans that no reference covers must not be left. -/
def link (bytecode references libraries : Value) : Except Fault String := do
  let code ← codeOf bytecode
  let sources ← (references.orElse (.dict [])).entries
  let code ← linkSources libraries code sources
  if Text.occursIn placeholder code then .error .unresolvedPlaceholders
  return String.ofList ('0' :: 'x' :: code)

end Basketry.Artifact
