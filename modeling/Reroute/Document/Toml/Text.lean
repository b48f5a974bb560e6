/-
  Reroute.Document.Toml.Text — texts in quotes in TOML.

  Texts in double quotes have escapes, texts in single quotes have none.  Three quotes open a text
  that may run over several lines; up to two quotes in a row are part of it.
-/
import Reroute.Text.Digits

namespace Reroute.Document.Toml

/-- The value of a text up to the quotes that end it, and what follows. -/
abbrev TextRead := Option (List Char × List Char)

/-- One more character before a text that is read. -/
def TextRead.cons (c : Char) (read : TextRead) : TextRead :=
  read.map fun (text, rest) => (c :: text, rest)

/-! ## §1. Characters -/

/-- May the character stand in a comment or a text of one line? -/
def isPlain (c : Char) : Bool :=
  c == '\t' || (0x20 ≤ c.toNat && c.toNat != 0x7F)

/-- A blank within a line. -/
def isBlank (c : Char) : Bool :=
  c == ' ' || c == '\t'

/-- The character with the code point in exactly so many hexadecimal digits, and what follows. -/
def codePoint? (width : Nat) (text : List Char) : Option (Char × List Char) :=
  if width ≤ text.length then (charOfDigits? (text.take width)).map (·, text.drop width) else none

/-- The character that an escape stands for, after its backslash, and what follows. -/
def escape? : List Char → Option (Char × List Char)
  | 'b' :: rest => some ('\x08', rest)
  | 't' :: rest => some ('\t', rest)
  | 'n' :: rest => some ('\n', rest)
  | 'f' :: rest => some ('\x0c', rest)
  | 'r' :: rest => some ('\r', rest)
  | 'e' :: rest => some ('\x1b', rest)
  | '"' :: rest => some ('"', rest)
  | '\\' :: rest => some ('\\', rest)
  | 'x' :: rest => codePoint? 2 rest
  | 'u' :: rest => codePoint? 4 rest
  | 'U' :: rest => codePoint? 8 rest
  | _ => none

/-- The text after the end of a line at its start. -/
def afterNewline? : List Char → Option (List Char)
  | '\n' :: rest => some rest
  | '\r' :: '\n' :: rest => some rest
  | _ => none

/-! ## §2. Texts of one line -/

/-- A text in single quotes. -/
def literal? : List Char → TextRead
  | [] => none
  | c :: rest =>
    if c = '\'' then some ([], rest)
    else if isPlain c then (literal? rest).cons c
    else none

/-- A text in double quotes.  Every step reads a character, so the length of the text is enough
    fuel. -/
def basic? : (fuel : Nat) → List Char → TextRead
  | 0, _ => none
  | _, [] => none
  | fuel + 1, c :: rest =>
    if c = '"' then some ([], rest)
    else if c = '\\' then do
      let (c, rest) ← escape? rest
      (basic? fuel rest).cons c
    else if isPlain c then (basic? fuel rest).cons c
    else none

/-! ## §3. Texts of several lines -/

/-- The text without the end of a line at its start. -/
def skipNewline (text : List Char) : List Char :=
  (afterNewline? text).getD text

/-- The quotes at the end of a text of several lines: up to two before the three that end it. -/
def closing? (quote : Char) (text : List Char) : TextRead :=
  let run := (text.takeWhile (· == quote)).length
  if 3 ≤ run then
    let inside := min (run - 3) 2
    some (List.replicate inside quote, text.drop (inside + 3))
  else none

/-- The text without blanks and ends of lines at its start. -/
def skipLines : List Char → List Char
  | '\r' :: '\n' :: rest => skipLines rest
  | c :: rest => if isBlank c ∨ c = '\n' then skipLines rest else c :: rest
  | [] => []

/-- The text after a backslash that joins its line to the next one that is not blank. -/
def afterJoin? (text : List Char) : Option (List Char) :=
  (afterNewline? (text.dropWhile isBlank)).map skipLines

/-- A text of several lines in single quotes. -/
def multiLiteral? : (fuel : Nat) → List Char → TextRead
  | 0, _ => none
  | fuel + 1, text =>
    match closing? '\'' text, text with
    | some closed, _ => some closed
    | none, '\r' :: '\n' :: rest => ((multiLiteral? fuel rest).cons '\n').cons '\r'
    | none, c :: rest =>
      if isPlain c ∨ c = '\n' then (multiLiteral? fuel rest).cons c else none
    | none, [] => none

/-- A text of several lines in double quotes. -/
def multiBasic? : (fuel : Nat) → List Char → TextRead
  | 0, _ => none
  | fuel + 1, text =>
    match closing? '"' text, text with
    | some closed, _ => some closed
    | none, '\\' :: rest =>
      match afterJoin? rest with
      | some rest => multiBasic? fuel rest
      | none => do
        let (c, rest) ← escape? rest
        (multiBasic? fuel rest).cons c
    | none, '\r' :: '\n' :: rest => ((multiBasic? fuel rest).cons '\n').cons '\r'
    | none, c :: rest =>
      if isPlain c ∨ c = '\n' then (multiBasic? fuel rest).cons c else none
    | none, [] => none

/-! ## §4. Texts of any kind -/

/-- The value of a text in quotes of any kind, and what follows. -/
def quoted? : List Char → TextRead
  | '"' :: '"' :: '"' :: rest => multiBasic? (rest.length + 1) (skipNewline rest)
  | '\'' :: '\'' :: '\'' :: rest => multiLiteral? (rest.length + 1) (skipNewline rest)
  | '"' :: rest => basic? (rest.length + 1) rest
  | '\'' :: rest => literal? rest
  | _ => none

end Reroute.Document.Toml
