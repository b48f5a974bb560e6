/-
  Reroute.Document.Toml.Parser — reading a document in TOML.

  A document is a row of lines, each a key with its value or the header of the table to which the
  keys after it belong.  `Document.ofToml?` reads the revision of the format in which tables in
  braces may run over several lines and end in a comma.
-/
import Reroute.Document.Toml.Scalar
import Reroute.Document.Toml.Table
import Reroute.Document.Toml.Text

namespace Reroute.Document.Toml

open Reroute.Unicode (isBasicDigit isBasicLetter)

/-! ## §1. Blanks and comments -/

/-- The text without blanks at its start. -/
def skipBlanks (text : List Char) : List Char := text.dropWhile isBlank

/-- The text without a comment at its start. -/
def skipComment : List Char → List Char
  | '#' :: rest => rest.dropWhile isPlain
  | text => text

/-- The text after what may end a line: blanks, a comment, and the end of the line or document. -/
def afterLine? (text : List Char) : Option (List Char) :=
  match skipComment (skipBlanks text) with
  | [] => some []
  | rest => afterNewline? rest

/-- The text without blanks, comments and ends of lines at its start. -/
def skipSpace : (inComment : Bool) → List Char → List Char
  | _, [] => []
  | _, '\r' :: '\n' :: rest => skipSpace false rest
  | inComment, c :: rest =>
    if c = '\n' then skipSpace false rest
    else if inComment && isPlain c then skipSpace true rest
    else if isBlank c then skipSpace false rest
    else if c = '#' then skipSpace true rest
    else c :: rest

/-! ## §2. Keys -/

/-- May the character stand in a key without quotes? -/
def isBare (c : Char) : Bool :=
  isBasicLetter c || isBasicDigit c || c == '_' || c == '-'

/-- A key without dots, and what follows. -/
def simpleKey? (text : List Char) : Option (String × List Char) :=
  match text with
  | '"' :: rest => (basic? (rest.length + 1) rest).map fun (key, rest) => (String.ofList key, rest)
  | '\'' :: rest => (literal? rest).map fun (key, rest) => (String.ofList key, rest)
  | _ =>
    match text.span isBare with
    | ([], _) => none
    | (key, rest) => some (String.ofList key, rest)

/-- The parts of a dotted key, the last one apart, and what follows. -/
def dottedKey? : (fuel : Nat) → List Char → Option (List String × String × List Char)
  | 0, _ => none
  | fuel + 1, text => do
    let (first, rest) ← simpleKey? (skipBlanks text)
    match skipBlanks rest with
    | '.' :: rest => do
      let (path, key, rest) ← dottedKey? fuel rest
      return (first :: path, key, rest)
    | rest => return ([], first, rest)

/-- A key, and what follows it and its blanks. -/
def key? (text : List Char) : Option (List String × String × List Char) :=
  dottedKey? (text.length + 1) text

/-! ## §3. Values -/

/-- Does the character end a value without quotes? -/
def isDelimiter (c : Char) : Bool :=
  !isPlain c || c ∈ [' ', '\t', '#', ',', '=', '[', ']', '{', '}', '"', '\'']

/-- A value without quotes or brackets, and what follows.  A blank between a date and the time
    after it belongs to the value. -/
def scalar? (text : List Char) : Option (List Char) :=
  let (first, rest) := text.span (!isDelimiter ·)
  match afterDate? first, rest with
  | some [], ' ' :: c :: others =>
    if isBasicDigit c then
      let (second, rest) := (c :: others).span (!isDelimiter ·)
      if isScalar (first ++ ' ' :: second) then some rest else none
    else some rest
  | _, _ => if isScalar first then some rest else none

/-- How deep lists and tables in braces may be nested. -/
def maxNesting : Nat := 80

mutual

/-- A value and what follows.  `room` is how many more levels may be opened.  A character is read
    at least every second step, so twice the length of the text is enough fuel. -/
def value? (room : Nat) : (fuel : Nat) → List Char → Option (Document × List Char)
  | 0, _ => none
  | fuel + 1, text =>
    match text with
    | '[' :: rest =>
      if room = 0 then none
      else (items? (room - 1) fuel rest).map fun (items, rest) => (.list items, rest)
    | '{' :: rest =>
      if room = 0 then none
      else (fields? (room - 1) fuel [] rest).map fun (fields, rest) =>
        (.table (entriesOf fields), rest)
    | c :: _ =>
      if c = '"' ∨ c = '\'' then
        (quoted? text).map fun (value, rest) => (.str (some (String.ofList value)), rest)
      else (scalar? text).map fun rest => (.scalar, rest)
    | [] => none

/-- The items of a list up to the bracket that ends it, and what follows. -/
def items? (room : Nat) : (fuel : Nat) → List Char → Option (List Document × List Char)
  | 0, _ => none
  | fuel + 1, text =>
    match skipSpace false text with
    | ']' :: rest => some ([], rest)
    | text => do
      let (item, rest) ← value? room fuel text
      match skipSpace false rest with
      | ',' :: rest => do
        let (items, rest) ← items? room fuel rest
        return (item :: items, rest)
      | ']' :: rest => return ([item], rest)
      | _ => none

/-- The entries of a table up to the brace that ends it, after those read already, and what
    follows. -/
def fields? (room : Nat) : (fuel : Nat) → Fields → List Char → Option (Fields × List Char)
  | 0, _, _ => none
  | fuel + 1, fields, text =>
    match skipSpace false text with
    | '}' :: rest => some (fields, rest)
    | text => do
      let (path, key, rest) ← key? text
      let rest ← after? '=' rest
      let (value, rest) ← value? room fuel (skipBlanks rest)
      let fields ← fields.insert path key value
      match skipSpace false rest with
      | ',' :: rest => fields? room fuel fields rest
      | '}' :: rest => return (fields, rest)
      | _ => none

end

/-! ## §4. Documents -/

/-- What is read of a document: its entries, and the path of the table that is open. -/
structure State where
  fields : Fields := []
  header : List String := []

/-- The state after the header of a table, `element` for one of a list of tables. -/
def State.open? (state : State) (element : Bool) (path : List String) (key : String) :
    Option State := do
  let fields ← if element then state.fields.openElement path key
    else state.fields.openTable path key
  return { fields, header := path ++ [key] }

/-- The state after a key with its value. -/
def State.insert? (state : State) (path : List String) (key : String) (value : Document) :
    Option State := do
  return { state with fields := ← state.fields.within (Fields.insert path key value) state.header }

/-- The state after a line that is not blank, and what follows the line. -/
def line? (state : State) (text : List Char) : Option (State × List Char) := do
  match text with
  | '[' :: '[' :: rest =>
    let (path, key, rest) ← key? rest
    let rest ← after? ']' (← after? ']' rest)
    return (← state.open? true path key, ← afterLine? rest)
  | '[' :: rest =>
    let (path, key, rest) ← key? rest
    let rest ← after? ']' rest
    return (← state.open? false path key, ← afterLine? rest)
  | text =>
    let (path, key, rest) ← key? text
    let rest ← after? '=' rest
    let (value, rest) ← value? maxNesting (2 * rest.length + 2) (skipBlanks rest)
    return (← state.insert? path key value, ← afterLine? rest)

/-- The state after the lines.  Every line reads a character, so one more than the length of the
    text is enough fuel. -/
def lines? : (fuel : Nat) → State → List Char → Option State
  | 0, _, _ => none
  | fuel + 1, state, text =>
    match skipSpace false text with
    | [] => some state
    | text => do
      let (state, rest) ← line? state text
      lines? fuel state rest

/-- The text without a byte order mark at its start. -/
def skipMark : List Char → List Char
  | '\uFEFF' :: rest => rest
  | text => text

end Toml

/-- The content of a document in TOML, if the text is one. -/
def ofToml? (text : String) : Option Document :=
  let text := Toml.skipMark text.toList
  (Toml.lines? (text.length + 1) {} text).map fun state => .table (Toml.entriesOf state.fields)

end Reroute.Document
