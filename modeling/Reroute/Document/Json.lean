/-
  Reroute.Document.Json — reading a document in JSON.

  `Document.ofJson?` accepts exactly one value with blanks around it.  Numbers need only be
  well-formed.  A text may hold half of a surrogate pair; it is then read as a text without a value,
  which only matters where the text is asked for.
-/
import Reroute.Document.Basic
import Reroute.Text.Digits

namespace Reroute.Document.Json

open Reroute.Unicode (isBasicDigit)

/-! ## §1. Blanks and numbers -/

/-- May the character stand between the parts of a document? -/
def isBlank (c : Char) : Bool :=
  c == ' ' || c == '\n' || c == '\t' || c == '\r'

/-- The text without blanks at its start. -/
def skipBlanks (text : List Char) : List Char := text.dropWhile isBlank

/-- The text after at least one digit. -/
def afterDigits? (text : List Char) : Option (List Char) :=
  match text.span isBasicDigit with
  | ([], _) => none
  | (_, rest) => some rest

/-- The text after a zero, or after digits that do not start with one. -/
def afterWhole? : List Char → Option (List Char)
  | '0' :: rest => some rest
  | text => afterDigits? text

/-- The text after a fraction, if it starts with one. -/
def afterFraction? : List Char → Option (List Char)
  | '.' :: rest => afterDigits? rest
  | text => some text

/-- The text after an exponent, if it starts with one. -/
def afterExponent? : List Char → Option (List Char)
  | c :: rest =>
    if c = 'e' ∨ c = 'E' then
      match rest with
      | '+' :: rest => afterDigits? rest
      | '-' :: rest => afterDigits? rest
      | rest => afterDigits? rest
    else some (c :: rest)
  | [] => some []

/-- The text after a number. -/
def afterNumber? (text : List Char) : Option (List Char) := do
  let text := match text with
    | '-' :: rest => rest
    | text => text
  afterExponent? (← afterFraction? (← afterWhole? text))

/-! ## §2. Texts -/

/-- A character of a text, or half of a surrogate pair. -/
inductive Unit16 where
  | char (c : Char)
  | half (code : Nat)
deriving DecidableEq, Repr

/-- What an escape with four hexadecimal digits stands for. -/
def Unit16.ofDigits? (digits : List Char) : Option Unit16 :=
  match charOfDigits? digits with
  | some c => some (.char c)
  | none => if digits.all isHexDigit then some (.half (numberOf 16 digits)) else none

/-- The character that an escape with one letter stands for. -/
def escaped? (letter : Char) : Option Char :=
  match letter with
  | '"' => some '"'
  | '\\' => some '\\'
  | '/' => some '/'
  | 'b' => some '\x08'
  | 'f' => some '\x0c'
  | 'n' => some '\n'
  | 'r' => some '\r'
  | 't' => some '\t'
  | _ => none

/-- The parts of a text up to the quote that ends it, and what follows. -/
def quoted? : List Char → Option (List Unit16 × List Char)
  | [] => none
  | '"' :: rest => some ([], rest)
  | '\\' :: 'u' :: a :: b :: c :: d :: rest => do
    let unit ← Unit16.ofDigits? [a, b, c, d]
    let (units, rest) ← quoted? rest
    return (unit :: units, rest)
  | '\\' :: letter :: rest => do
    let c ← escaped? letter
    let (units, rest) ← quoted? rest
    return (.char c :: units, rest)
  | c :: rest =>
    if c.toNat < 0x20 ∨ c = '\\' then none
    else do
      let (units, rest) ← quoted? rest
      return (.char c :: units, rest)

/-- The character that the halves of a pair make, the first of them being a leading one. -/
def pairOf? (leading trailing : Nat) : Option Char :=
  if leading < 0xDC00 ∧ 0xDC00 ≤ trailing then
    charOfCode? (0x10000 + (leading - 0xD800) * 0x400 + (trailing - 0xDC00))
  else none

/-- The characters of a text; none if half of a pair stands alone. -/
def charsOf? : List Unit16 → Option (List Char)
  | [] => some []
  | .char c :: rest => (charsOf? rest).map (c :: ·)
  | .half leading :: .half trailing :: rest => do
    let c ← pairOf? leading trailing
    return c :: (← charsOf? rest)
  | .half _ :: _ => none

/-- The value of a text up to the quote that ends it, and what follows. -/
def text? (text : List Char) : Option (Option String × List Char) :=
  (quoted? text).map fun (units, rest) => ((charsOf? units).map String.ofList, rest)

/-! ## §3. Values -/

mutual

/-- A value at the start of a text, and what follows.  Between two steps a character is read at
    least every second time, so twice the length of the text is enough fuel. -/
def value? : (fuel : Nat) → List Char → Option (Document × List Char)
  | 0, _ => none
  | fuel + 1, text =>
    match skipBlanks text with
    | '"' :: rest => (text? rest).map fun (value, rest) => (.str value, rest)
    | '[' :: rest =>
      match skipBlanks rest with
      | ']' :: rest => some (.list [], rest)
      | rest => (items? fuel rest).map fun (items, rest) => (.list items, rest)
    | '{' :: rest =>
      match skipBlanks rest with
      | '}' :: rest => some (.table [], rest)
      | rest => (entries? fuel rest).map fun (entries, rest) => (.table entries, rest)
    | 'n' :: 'u' :: 'l' :: 'l' :: rest => some (.null, rest)
    | 't' :: 'r' :: 'u' :: 'e' :: rest => some (.scalar, rest)
    | 'f' :: 'a' :: 'l' :: 's' :: 'e' :: rest => some (.scalar, rest)
    | rest => (afterNumber? rest).map fun rest => (.scalar, rest)

/-- The items of a list up to the bracket that ends it, and what follows. -/
def items? : (fuel : Nat) → List Char → Option (List Document × List Char)
  | 0, _ => none
  | fuel + 1, text => do
    let (item, rest) ← value? fuel text
    match skipBlanks rest with
    | ',' :: rest => do
      let (items, rest) ← items? fuel rest
      return (item :: items, rest)
    | ']' :: rest => return ([item], rest)
    | _ => none

/-- The entries of a table up to the brace that ends it, and what follows. -/
def entries? : (fuel : Nat) → List Char → Option (Entries × List Char)
  | 0, _ => none
  | fuel + 1, text =>
    match skipBlanks text with
    | '"' :: rest => do
      let (key, rest) ← text? rest
      match skipBlanks rest with
      | ':' :: rest => do
        let (value, rest) ← value? fuel rest
        match skipBlanks rest with
        | ',' :: rest => do
          let (entries, rest) ← entries? fuel rest
          return ((key, value) :: entries, rest)
        | '}' :: rest => return ([(key, value)], rest)
        | _ => none
      | _ => none
    | _ => none

end

end Json

/-- The content of a document in JSON, if the text is one. -/
def ofJson? (text : String) : Option Document :=
  match Json.value? (2 * text.toList.length + 2) text.toList with
  | some (value, rest) => if (Json.skipBlanks rest).isEmpty then some value else none
  | none => none

end Reroute.Document
