/-
  Reroute.Pattern.Escape — backslash escapes.

  An escape stands for a character, a set of characters or an assertion.  Any punctuation
  character of the basic Latin block may be escaped and then stands for itself; letters stand for
  nothing but what is listed here.
-/
import Reroute.Pattern.Flags
import Reroute.Pattern.Node
import Reroute.Pattern.Property
import Reroute.Text.Digits

namespace Reroute.Pattern

open Reroute.Unicode (isBasic isBasicDigit isBasicLetter)

/-- What an escape, or a character that needs none, stands for. -/
inductive Atom where
  /-- A character; `byte` if it was written as a byte in two hexadecimal digits. -/
  | char (c : Char) (byte : Bool)
  /-- One character of a set. -/
  | set (members : CharSet)
  /-- An assertion. -/
  | look (assertion : Assertion)
deriving DecidableEq, Repr

namespace Escape

/-! ## §1. Code points -/

/-- The character with the code point that the digits write. -/
def charOf (digits : List Char) : Except Fault Char :=
  match charOfDigits? digits with
  | some c => .ok c
  | none => .error .badCodePoint

/-- The given number of characters, blanks being skipped after each. -/
def readDigits (flags : Flags) : Nat → List Char → Except Fault (List Char × List Char)
  | 0, text => .ok ([], text)
  | _ + 1, [] => .error .unfinishedEscape
  | count + 1, c :: rest => do
    let (digits, rest) ← readDigits flags count (flags.skip rest)
    return (c :: digits, rest)

/-- The text between braces, the opening one being read already. -/
def readBraced (flags : Flags) (text : List Char) : Except Fault (List Char × List Char) :=
  match flags.collect (· != '}') false text with
  | (inner, _ :: rest) => .ok (inner, rest)
  | (_, []) => .error .unfinishedEscape

/-- The rest of a hexadecimal escape: so many digits, or any number of them in braces. -/
def readCodePoint (flags : Flags) (width : Nat) (text : List Char) :
    Except Fault (Atom × List Char) :=
  match flags.skip text with
  | [] => .error .unfinishedEscape
  | '{' :: text => do
    let (digits, rest) ← readBraced flags text
    return (.char (← charOf digits) false, flags.skip rest)
  | text => do
    let (digits, rest) ← readDigits flags width text
    return (.char (← charOf digits) (width == 2), rest)

/-! ## §2. Sets -/

/-- The name and the value of a property, and whether it is to be different. -/
def splitProperty : List Char → List Char × Option (Bool × List Char)
  | [] => ([], none)
  | '!' :: '=' :: value => ([], some (true, value))
  | c :: rest =>
    let (name, value) := splitProperty rest
    (c :: name, value)

/-- The name and the value around the first occurrence of the sign. -/
def splitAtSign (sign : Char) (text : List Char) : Option (List Char × List Char) :=
  match text.span (· != sign) with
  | (name, _ :: value) => some (name, value)
  | (_, []) => none

/-- The set that a property in braces stands for, and whether it is negated by `!=`. -/
def propertyOf (inner : List Char) : Option (CharSet × Bool) :=
  match splitProperty inner with
  | (name, some (_, value)) => (Property.ofValue? name value).map (·, true)
  | (_, none) =>
    match splitAtSign ':' inner <|> splitAtSign '=' inner with
    | some (name, value) => (Property.ofValue? name value).map (·, false)
    | none => (Property.ofName? inner).map (·, false)

/-- The rest of a property escape. -/
def readProperty (flags : Flags) (negated : Bool) (text : List Char) :
    Except Fault (Atom × List Char) :=
  if !flags.unicode then .error .unknownProperty
  else do
    let (inner, rest) ← match flags.skip text with
      | [] => .error .unfinishedEscape
      | '{' :: text => readBraced flags text
      | '\\' :: _ => .error .unknownProperty
      | c :: rest => .ok ([c], flags.skip rest)
    match propertyOf inner with
    | none => .error .unknownProperty
    | some (members, different) =>
      return (.set (.negateIf (negated != different) (flags.fold members)), rest)

/-- The class of a one-letter escape. -/
def shortClass (flags : Flags) (negated : Bool) (wide basic : CharSet) : Except Fault Atom :=
  if flags.unicode then .ok (.set (.negateIf negated wide))
  else if negated then .error .partOfCharacter
  else .ok (.set basic)

/-- The digits of the basic Latin block. -/
def basicDigits : CharSet := .span '0' '9'

/-- The white space of the basic Latin block. -/
def basicSpaces : CharSet := .union (.span '\t' '\r') (.single ' ')

/-- The letters of the basic Latin block. -/
def basicLetters : CharSet := .union (.span 'a' 'z') (.span 'A' 'Z')

/-- The word characters of the basic Latin block. -/
def basicWords : CharSet := .union basicLetters (.union basicDigits (.single '_'))

/-! ## §3. Word boundaries -/

/-- The boundary with the given name. -/
def boundaryOf : List Char → Except Fault Boundary
  | ['s', 't', 'a', 'r', 't'] => .ok .start
  | ['e', 'n', 'd'] => .ok .stop
  | ['s', 't', 'a', 'r', 't', '-', 'h', 'a', 'l', 'f'] => .ok .startHalf
  | ['e', 'n', 'd', '-', 'h', 'a', 'l', 'f'] => .ok .stopHalf
  | _ => .error .unknownBoundary

/-- Can the character occur in the name of a boundary? -/
def isBoundaryChar (c : Char) : Bool :=
  isBasicLetter c || c == '-'

/-- The rest of a boundary escape.  Braces that do not start a name are left for a counted
    repetition. -/
def readBoundary (flags : Flags) (text : List Char) : Except Fault (Boundary × List Char) :=
  match text with
  | '{' :: inner =>
    match flags.skip inner with
    | [] => .error .unknownBoundary
    | c :: _ =>
      if !isBoundaryChar c then .ok (.edge, text)
      else match flags.collect isBoundaryChar false inner with
        | (name, '}' :: rest) => return (← boundaryOf name, rest)
        | _ => .error .unknownBoundary
  | _ => .ok (.edge, text)

/-! ## §4. Escapes -/

/-- The characters with a meaning of their own in patterns. -/
def isMeta (c : Char) : Bool :=
  ['\\', '.', '+', '*', '?', '(', ')', '|', '[', ']', '{', '}', '^', '$', '#', '&', '-',
    '~'].contains c

/-- May the character be escaped to stand for itself? -/
def standsForItself (c : Char) : Bool :=
  isMeta c || (isBasic c && !isBasicLetter c && !isBasicDigit c && c != '<' && c != '>')

/-- An assertion about words. -/
def wordLook (flags : Flags) (kind : Boundary) : Atom :=
  .look (.boundary kind (!flags.unicode))

/-- What the text after a backslash stands for, and what follows it. -/
def read (flags : Flags) : List Char → Except Fault (Atom × List Char)
  | [] => .error .unfinishedEscape
  | c :: rest =>
    if isBasicDigit c then .error .backreference
    else if standsForItself c then .ok (.char c false, rest)
    else match c with
      | 'x' => readCodePoint flags 2 rest
      | 'u' => readCodePoint flags 4 rest
      | 'U' => readCodePoint flags 8 rest
      | 'p' => readProperty flags false rest
      | 'P' => readProperty flags true rest
      | 'd' => return (← shortClass flags false .digit basicDigits, rest)
      | 'D' => return (← shortClass flags true .digit basicDigits, rest)
      | 's' => return (← shortClass flags false .space basicSpaces, rest)
      | 'S' => return (← shortClass flags true .space basicSpaces, rest)
      | 'w' => return (← shortClass flags false .word basicWords, rest)
      | 'W' => return (← shortClass flags true .word basicWords, rest)
      | 'a' => .ok (.char '\x07' false, rest)
      | 'f' => .ok (.char '\x0c' false, rest)
      | 't' => .ok (.char '\t' false, rest)
      | 'n' => .ok (.char '\n' false, rest)
      | 'r' => .ok (.char '\r' false, rest)
      | 'v' => .ok (.char '\x0b' false, rest)
      | 'A' => .ok (.look .textStart, rest)
      | 'z' => .ok (.look .textEnd, rest)
      | 'b' => do
        let (kind, rest) ← readBoundary flags rest
        return (wordLook flags kind, rest)
      | 'B' => .ok (wordLook flags .inside, rest)
      | '<' => .ok (wordLook flags .start, rest)
      | '>' => .ok (wordLook flags .stop, rest)
      | _ => .error (.unknownEscape c)

end Escape

end Reroute.Pattern
