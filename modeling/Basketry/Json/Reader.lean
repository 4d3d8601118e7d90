import Basketry.Value

namespace Basketry.Json

abbrev Rest := List Char

def isSpace (c : Char) : Bool := c = ' ' || c = '\t' || c = '\n' || c = '\r'

def skip (cs : Rest) : Rest := cs.dropWhile isSpace

def hexValue? (c : Char) : Option Nat :=
  if '0' ≤ c ∧ c ≤ '9' then some (c.toNat - '0'.toNat)
  else if 'a' ≤ c ∧ c ≤ 'f' then some (c.toNat - 'a'.toNat + 10)
  else if 'A' ≤ c ∧ c ≤ 'F' then some (c.toNat - 'A'.toNat + 10)
  else none

def codeUnit? : Rest → Option (Nat × Rest)
  | a :: b :: c :: d :: rest => do
    return (4096 * (← hexValue? a) + 256 * (← hexValue? b) + 16 * (← hexValue? c) + (← hexValue? d), rest)
  | _ => none

def escaped? : Char → Option Char
  | '"' => some '"'
  | '\\' => some '\\'
  | '/' => some '/'
  | 'b' => some '\x08'
  | 'f' => some '\x0c'
  | 'n' => some '\n'
  | 'r' => some '\r'
  | 't' => some '\t'
  | _ => none

/-- The second half of a pair of code units, when it follows. -/
def lowSurrogate? : Rest → Option (Nat × Rest)
  | '\\' :: 'u' :: rest => do
    let (low, rest) ← codeUnit? rest
    if 0xDC00 ≤ low ∧ low < 0xE000 then some (low, rest) else none
  | _ => none

/-- The characters up to the closing quote. Half a pair of code units counts as an unknown character. -/
def string? : Nat → Rest → Option (List Char × Rest)
  | 0, _ => none
  | _ + 1, '"' :: rest => some ([], rest)
  | fuel + 1, '\\' :: 'u' :: rest => do
    let (unit, rest) ← codeUnit? rest
    let (c, rest) :=
      if 0xD800 ≤ unit ∧ unit < 0xDC00 then
        match lowSurrogate? rest with
        | some (low, rest) => (Char.ofNat (0x10000 + 0x400 * (unit - 0xD800) + (low - 0xDC00)), rest)
        | none => (Char.ofNat 0xFFFD, rest)
      else if 0xDC00 ≤ unit ∧ unit < 0xE000 then (Char.ofNat 0xFFFD, rest)
      else (Char.ofNat unit, rest)
    let (cs, rest) ← string? fuel rest
    some (c :: cs, rest)
  | fuel + 1, '\\' :: e :: rest => do
    let c ← escaped? e
    let (cs, rest) ← string? fuel rest
    some (c :: cs, rest)
  | fuel + 1, c :: rest => do
    if c.toNat < 32 ∨ c = '\\' then none
    let (cs, rest) ← string? fuel rest
    some (c :: cs, rest)
  | _ + 1, [] => none

def isDigit (c : Char) : Bool := '0' ≤ c && c ≤ '9'

def natOf (ds : List Char) : Nat := ds.foldl (fun n c => 10 * n + (c.toNat - '0'.toNat)) 0

/-- Digits behind a point, with the point; nothing when no digit follows. -/
def fraction : Rest → List Char × Rest
  | '.' :: rest =>
    match rest.span isDigit with
    | ([], _) => ([], '.' :: rest)
    | (ds, rest) => ('.' :: ds, rest)
  | rest => ([], rest)

def exponent : Rest → List Char × Rest
  | e :: rest =>
    if e = 'e' ∨ e = 'E' then
      let (sign, ds) := match rest with
        | '+' :: ds => (['+'], ds)
        | '-' :: ds => (['-'], ds)
        | ds => ([], ds)
      match ds.span isDigit with
      | ([], _) => ([], e :: rest)
      | (ds, rest) => (e :: sign ++ ds, rest)
    else ([], e :: rest)
  | [] => ([], [])

/-- A whole part does not begin with zero unless it is zero. -/
def wholePart? (cs : Rest) : Option (List Char × Rest) :=
  match cs with
  | '0' :: rest => some (['0'], rest)
  | _ => match cs.span isDigit with
    | ([], _) => none
    | (ds, rest) => some (ds, rest)

def number? (negative : Bool) (cs : Rest) : Option (Value × Rest) := do
  let (whole, rest) ← wholePart? cs
  let (point, rest) := fraction rest
  let (power, rest) := exponent rest
  if point = [] ∧ power = [] then
    some (.int (if negative then -(natOf whole : Int) else natOf whole), rest)
  else
    let sign := if negative then ['-'] else []
    some (.float (String.ofList (sign ++ whole ++ point ++ power)), rest)

/-- The dictionary with a key set to a value. -/
def setKey (key : String) (v : Value) : List (String × Value) → List (String × Value)
  | [] => [(key, v)]
  | (k, w) :: entries => if k = key then (k, v) :: entries else (k, w) :: setKey key v entries

mutual

def value? : Nat → Rest → Option (Value × Rest)
  | 0, _ => none
  | fuel + 1, cs =>
    match cs with
    | '"' :: rest => do
      let (s, rest) ← string? (rest.length + 1) rest
      some (.text (String.ofList s), rest)
    | '[' :: rest =>
      match skip rest with
      | ']' :: rest => some (.list [], rest)
      | rest => do
        let (xs, rest) ← items? fuel rest
        some (.list xs, rest)
    | '\x7b' :: rest =>
      match skip rest with
      | '\x7d' :: rest => some (.dict [], rest)
      | rest => members? fuel [] rest
    | 'n' :: 'u' :: 'l' :: 'l' :: rest => some (.null, rest)
    | 't' :: 'r' :: 'u' :: 'e' :: rest => some (.bool true, rest)
    | 'f' :: 'a' :: 'l' :: 's' :: 'e' :: rest => some (.bool false, rest)
    | 'N' :: 'a' :: 'N' :: rest => some (.float "nan", rest)
    | 'I' :: 'n' :: 'f' :: 'i' :: 'n' :: 'i' :: 't' :: 'y' :: rest => some (.float "inf", rest)
    | '-' :: 'I' :: 'n' :: 'f' :: 'i' :: 'n' :: 'i' :: 't' :: 'y' :: rest => some (.float "-inf", rest)
    | '-' :: rest => number? true rest
    | rest => number? false rest

def items? : Nat → Rest → Option (List Value × Rest)
  | 0, _ => none
  | fuel + 1, cs => do
    let (x, rest) ← value? fuel (skip cs)
    match skip rest with
    | ',' :: rest =>
      let (xs, rest) ← items? fuel rest
      some (x :: xs, rest)
    | ']' :: rest => some ([x], rest)
    | _ => none

def members? : Nat → List (String × Value) → Rest → Option (Value × Rest)
  | 0, _, _ => none
  | fuel + 1, entries, cs =>
    match skip cs with
    | '"' :: rest => do
      let (key, rest) ← string? (rest.length + 1) rest
      match skip rest with
      | ':' :: rest =>
        let (v, rest) ← value? fuel (skip rest)
        let entries := setKey (String.ofList key) v entries
        match skip rest with
        | ',' :: rest => members? fuel entries rest
        | '\x7d' :: rest => some (.dict entries, rest)
        | _ => none
      | _ => none
    | _ => none

end

/-- The one value that a text holds. -/
def read? (text : String) : Option Value :=
  let cs := skip text.toList
  match value? (cs.length + 1) cs with
  | some (v, rest) => if (skip rest).isEmpty then some v else none
  | none => none

end Basketry.Json
