import Basketry.Deploy.Catalogue
import Basketry.Text.Digits
import Basketry.Text.Search
import Basketry.Value.Whole

namespace Basketry.Deploy

structure Options where
  group : Group
  method : String
  args : List String
  directory : Option String
deriving DecidableEq, Repr

/-- What a command line asks for. -/
inductive Invocation where
  | help
  | misuse
  | deploy (o : Options)
deriving DecidableEq, Repr

/-- An option. Help that is given a value of its own is refused. -/
inductive Switch where
  | help
  | refused
  | directory (attached : Option String)
  | unknown
deriving DecidableEq, Repr

inductive Token where
  | separator
  | word (s : String)
  | switch (w : Switch)
deriving DecidableEq, Repr

namespace Token

def text : Token → String
  | separator => "--"
  | word s => s
  | switch _ => ""

def isSwitch : Token → Bool
  | switch _ => true
  | _ => false

/-- A word or a separator. -/
def isPlain (t : Token) : Bool := !t.isSwitch

end Token

def Switch.named? (name : String) (attached : Option String) : Option Switch :=
  match name with
  | "-h" | "--help" => some (if attached.isSome then .refused else .help)
  | "--artifacts-dir" => some (.directory attached)
  | _ => none

def longNames : List String := ["--help", "--artifacts-dir"]

/-- A name before an equals sign, and what stands behind it. -/
def attachment (s : String) : String × Option String :=
  match Text.splitAtFirst '=' s.toList with
  | some (name, value) => (String.ofList name, some (String.ofList value))
  | none => (s, none)

/-- The long options that begin like a name. -/
def abbreviated (name : String) : List String :=
  longNames.filter fun long => name.toList.isPrefixOf long.toList

def isDecimal (cs : List Char) : Bool := cs.all fun c => (Text.decimalDigit? c).isSome

/-- Negative numbers are words, although they begin with a dash. -/
def isNegativeNumber (s : String) : Bool :=
  let cs := s.toList.drop 1
  let cs := if cs.getLast? = some '\n' then cs.dropLast else cs
  (!cs.isEmpty && isDecimal cs) ||
    match Text.splitAtFirst '.' cs with
    | some (whole, fraction) => isDecimal whole && !fraction.isEmpty && isDecimal fraction
    | none => false

/-- Short options may be run together. One that is not known comes too late to keep help from being given. -/
def Switch.behindHelp : List Char → Switch
  | '-' :: _ => .refused
  | 'h' :: '=' :: _ => .refused
  | 'h' :: rest => behindHelp rest
  | _ => .help

/-- A dash and more that no option is known by. -/
def Token.ofUnknown (s : String) : Token :=
  if isNegativeNumber s || ' ' ∈ s.toList then .word s else .switch .unknown

/-- The token that an argument is, unless it abbreviates more than one option. -/
def Token.ofArgument? (s : String) : Option Token :=
  let (name, attached) := attachment s
  match s.toList with
  | '-' :: second :: rest =>
    match Switch.named? s none with
    | some w => some (.switch w)
    | none =>
      match attached.bind fun a => Switch.named? name (some a) with
      | some w => some (.switch w)
      | none =>
        if second = '-' then
          match abbreviated name with
          | [long] => (Switch.named? long attached).map .switch
          | [] => some (.ofUnknown s)
          | _ => none
        else if second = 'h' then some (.switch (.behindHelp rest))
        else some (.ofUnknown s)
  | _ => some (.word s)

/-- The tokens of a command line. Behind the first separator there are only words. -/
def tokens? : List String → Option (List Token)
  | [] => some []
  | "--" :: rest => some (.separator :: rest.map .word)
  | s :: rest => do return (← Token.ofArgument? s) :: (← tokens? rest)

/-- What has been read of a command line so far. -/
structure Progress where
  group : Option Group := none
  method : Option String := none
  args : Option (List String) := none
  directory : Option String := none
  /-- Something was left over. -/
  surplus : Bool := false

def dropSeparators (ts : List Token) : List Token := ts.dropWhile (· = .separator)

/-- The next word, with the separators around it. -/
def takeWord (ts : List Token) : Option (String × List Token) :=
  match dropSeparators ts with
  | .word s :: rest => some (s, dropSeparators rest)
  | _ => none

/-- All words up to the next option; the first pair of dashes among them goes. -/
def takeWords (ts : List Token) : List String × List Token :=
  (((ts.takeWhile Token.isPlain).map Token.text).erase "--", ts.dropWhile Token.isPlain)

/-- Reads the arguments, which may be none, once. -/
def Progress.readArgs (p : Progress) (ts : List Token) : Progress × List Token :=
  match p.args with
  | some _ => (p, ts)
  | none =>
    let (args, rest) := takeWords ts
    ({ p with args }, rest)

/-- Reads as many of group, method and arguments as there are words for. A group must be a known one. -/
def Progress.readWords (p : Progress) (ts : List Token) : Option (Progress × List Token) :=
  match p.group, p.method with
  | none, _ =>
    match takeWord ts with
    | none => some (p, ts)
    | some (name, rest) => do
      let p := { p with group := some (← Group.ofName? name) }
      match takeWord rest with
      | none => some (p, rest)
      | some (method, rest) => some ({ p with method := some method }.readArgs rest)
  | some _, none =>
    match takeWord ts with
    | none => some (p, ts)
    | some (method, rest) => some ({ p with method := some method }.readArgs rest)
  | some _, some _ => some (p.readArgs ts)

/-- Reads what an option takes; help ends the reading. -/
def Progress.readSwitch (p : Progress) (w : Switch) (ts : List Token) : Except Invocation (Progress × List Token) :=
  match w with
  | .unknown => .ok ({ p with surplus := true }, ts)
  | .help => .error .help
  | .refused => .error .misuse
  | .directory (some path) => .ok ({ p with directory := some path }, ts)
  | .directory none =>
    match ts with
    | .word path :: rest => .ok ({ p with directory := some path }, rest)
    | _ => .error .misuse

def Progress.finish (p : Progress) : Invocation :=
  match p.group, p.method with
  | some group, some method =>
    if p.surplus then .misuse else .deploy ⟨group, method, p.args.getD [], p.directory⟩
  | _, _ => .misuse

/-- Words and options in turn. Words behind the last option are read last; what then remains is too much. -/
def Progress.read : Nat → Progress → List Token → Invocation
  | 0, p, _ => p.finish
  | fuel + 1, p, ts =>
    match ts with
    | .switch w :: rest =>
      match p.readSwitch w rest with
      | .error i => i
      | .ok (p, rest) => read fuel p rest
    | ts =>
      match p.readWords ts with
      | none => .misuse
      | some (p, rest) =>
        if rest.any Token.isSwitch then
          if rest.length < ts.length then read fuel p rest
          else read fuel { p with surplus := true } (ts.dropWhile Token.isPlain)
        else { p with surplus := p.surplus || !rest.isEmpty }.finish

def Invocation.ofArguments (argv : List String) : Invocation :=
  match tokens? argv with
  | none => .misuse
  | some ts => Progress.read (2 * ts.length + 2) {} ts

/-- A constructor argument of digits alone is a number. -/
def argumentOf (s : String) : Except Fault Value :=
  if s ≠ "" ∧ s.toList.all Text.isDigit then Value.int <$> (Value.text s).whole else .ok (.text s)

end Basketry.Deploy
