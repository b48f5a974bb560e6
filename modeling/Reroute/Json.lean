/-
  Reroute.Json — JSON values and their text.

  `Json.render` writes a value over several lines, indented by two blanks a level, with the fields
  of an object in the order in which it has them.  An object or list without members is written on
  one line.  `Json.sortKeys` puts the fields of every object into the order of their names.
-/

namespace Reroute

/-- A JSON value. -/
inductive Json where
  | null
  | bool (value : Bool)
  /-- The number `mantissa / 10 ^ places`. -/
  | num (mantissa : Int) (places : Nat)
  | str (text : String)
  | arr (items : List Json)
  | obj (fields : List (String × Json))
deriving Repr, Inhabited

namespace Json

/-! ## §1. Values -/

/-- A natural number. -/
def nat (value : Nat) : Json := .num (Int.ofNat value) 0

/-- A list of texts. -/
def strs (texts : List String) : Json := .arr (texts.map .str)

/-- The field of an object. -/
def get? : Json → String → Option Json
  | obj fields, name => fields.lookup name
  | _, _ => none

/-- The text that a value is. -/
def text? : Json → Option String
  | str text => some text
  | _ => none

/-! ## §2. Order of fields -/

/-- The fields with one more put in by the order of names. -/
def insertField (field : String × Json) : List (String × Json) → List (String × Json)
  | [] => [field]
  | other :: rest =>
    if field.1 < other.1 then field :: other :: rest else other :: insertField field rest

mutual

/-- The value with the fields of every object in order of their names. -/
def sortKeys : Json → Json
  | obj fields => .obj (sortFields fields)
  | arr items => .arr (sortItems items)
  | null => .null
  | bool value => .bool value
  | num mantissa places => .num mantissa places
  | str text => .str text

/-- The fields in order, with their values in order too. -/
def sortFields : List (String × Json) → List (String × Json)
  | [] => []
  | (name, value) :: rest => insertField (name, sortKeys value) (sortFields rest)

/-- The items with their fields in order. -/
def sortItems : List Json → List Json
  | [] => []
  | item :: rest => sortKeys item :: sortItems rest

end

/-! ## §3. Text of scalars -/

/-- The digit with the given value below 16. -/
def hexDigit (value : Nat) : Char :=
  if value < 10 then Char.ofNat ('0'.toNat + value) else Char.ofNat ('a'.toNat + value - 10)

/-- A character within quotes.  Quotes, backslashes and control characters are escaped. -/
def escapeChar (c : Char) : List Char :=
  match c with
  | '"' => ['\\', '"']
  | '\\' => ['\\', '\\']
  | '\n' => ['\\', 'n']
  | '\t' => ['\\', 't']
  | '\r' => ['\\', 'r']
  | '\x08' => ['\\', 'b']
  | '\x0c' => ['\\', 'f']
  | c =>
    if c.toNat < 0x20 then ['\\', 'u', '0', '0', hexDigit (c.toNat / 16), hexDigit (c.toNat % 16)]
    else [c]

/-- A text in quotes. -/
def quote (text : String) : String :=
  String.ofList ('"' :: (text.toList.flatMap escapeChar ++ ['"']))

/-- The digits after the point: of the given number there are `places`, without zeros at the end,
    but always one. -/
def fraction (value places : Nat) : List Char :=
  let digits := Nat.toDigits 10 value
  let padded := List.replicate (places - digits.length) '0' ++ digits
  match (padded.reverse.dropWhile (· == '0')).reverse with
  | [] => ['0']
  | kept => kept

/-- A number in decimal notation; one without places is written without a point. -/
def number (mantissa : Int) (places : Nat) : String :=
  let sign := if mantissa < 0 then "-" else ""
  let scale := Nat.pow 10 places
  let whole := Nat.repr (mantissa.natAbs / scale)
  if places = 0 then sign ++ whole
  else sign ++ whole ++ "." ++ String.ofList (fraction (mantissa.natAbs % scale) places)

/-! ## §4. Text of values -/

/-- The start of a line at the given depth. -/
def newline (depth : Nat) : String :=
  String.ofList ('\n' :: List.replicate (2 * depth) ' ')

mutual

/-- The text of a value whose lines after the first are indented to the given depth. -/
def renderAt (depth : Nat) : Json → String
  | null => "null"
  | bool true => "true"
  | bool false => "false"
  | num mantissa places => number mantissa places
  | str text => quote text
  | arr [] => "[]"
  | arr (item :: rest) =>
    "[" ++ newline (depth + 1) ++ renderAt (depth + 1) item ++ renderItems depth rest ++
      newline depth ++ "]"
  | obj [] => "\x7b\x7d"
  | obj ((name, value) :: rest) =>
    "\x7b" ++ newline (depth + 1) ++ quote name ++ ": " ++ renderAt (depth + 1) value ++
      renderFields depth rest ++ newline depth ++ "\x7d"

/-- The items after the first. -/
def renderItems (depth : Nat) : List Json → String
  | [] => ""
  | item :: rest =>
    "," ++ newline (depth + 1) ++ renderAt (depth + 1) item ++ renderItems depth rest

/-- The fields after the first. -/
def renderFields (depth : Nat) : List (String × Json) → String
  | [] => ""
  | (name, value) :: rest =>
    "," ++ newline (depth + 1) ++ quote name ++ ": " ++ renderAt (depth + 1) value ++
      renderFields depth rest

end

/-- The text of a value. -/
def render (value : Json) : String := value.renderAt 0

end Json

end Reroute
