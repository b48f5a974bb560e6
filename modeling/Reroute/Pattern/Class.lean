/-
  Reroute.Pattern.Class — character classes in brackets.

  A class is a union of characters, ranges, escapes, named classes and further classes in
  brackets.  The operators `&&`, `--` and `~~` stand between unions and apply from left to right.
  `read` keeps the open brackets and pending operators on a stack; each of its steps takes at least
  one character, so the length of the text is enough fuel.

  How deep a pattern nests is limited, and classes count towards it.  So a class is read together
  with its depth: a bracket, an operator, and a union of more than one item are each one level.
-/
import Reroute.Pattern.Escape

namespace Reroute.Pattern

/-- The deepest nesting that a pattern may have. -/
def maxNesting : Nat := 250

/-- How deep a row nests, by the depths of its parts: more than one part make a level of their
    own. -/
def rowDepth : List Nat → Nat
  | [] => 0
  | [depth] => depth
  | first :: second :: rest => (first :: second :: rest).foldr Nat.max 0 + 1

namespace Class

/-! ## §1. Named classes -/

/-- The basic Latin class with the given name. -/
def named? (name : List Char) : Option CharSet :=
  match String.ofList name with
  | "alnum" => some (.union Escape.basicDigits Escape.basicLetters)
  | "alpha" => some Escape.basicLetters
  | "ascii" => some (.span (Char.ofNat 0) (Char.ofNat 0x7F))
  | "blank" => some (.union (.single '\t') (.single ' '))
  | "cntrl" => some (.union (.span (Char.ofNat 0) (Char.ofNat 0x1F)) (.single (Char.ofNat 0x7F)))
  | "digit" => some Escape.basicDigits
  | "graph" => some (.span '!' '~')
  | "lower" => some (.span 'a' 'z')
  | "print" => some (.span ' ' '~')
  | "punct" => some (.unionAll [.span '!' '/', .span ':' '@', .span '[' (Char.ofNat 0x60),
      .span (Char.ofNat 0x7B) '~'])
  | "space" => some Escape.basicSpaces
  | "upper" => some (.span 'A' 'Z')
  | "word" => some Escape.basicWords
  | "xdigit" => some (.unionAll [Escape.basicDigits, .span 'A' 'F', .span 'a' 'f'])
  | _ => none

/-- The set, kept to whole characters: without Unicode a set may only have basic Latin members. -/
def wholeCharacters (flags : Flags) (members : CharSet) : Except Fault CharSet :=
  if flags.unicode then .ok members
  else if members.isBasicOnly then .ok (.inter members (.span (Char.ofNat 0) (Char.ofNat 0x7F)))
  else .error .partOfCharacter

/-- A named class such as `[:alpha:]` or `[:^alpha:]` at the start of the text, without its first
    bracket, and what follows it. -/
def readNamed? (flags : Flags) (text : List Char) :
    Option (Except Fault CharSet × List Char) :=
  match text with
  | ':' :: rest =>
    let (negated, rest) := match rest with
      | '^' :: rest => (true, rest)
      | _ => (false, rest)
    match rest.span (· != ':') with
    | (name, ':' :: ']' :: rest) =>
      (named? name).map fun members =>
        (wholeCharacters flags (.negateIf negated (flags.fold members)), rest)
    | _ => none
  | _ => none

/-! ## §2. Items and ranges -/

/-- A character of a class, if it is one there. -/
def charOf (flags : Flags) : Atom → Except Fault Char
  | .char c byte =>
    if flags.unicode || byte || Unicode.isBasic c then .ok c else .error .partOfCharacter
  | _ => .error .rangeOfClass

/-- The set of one item. -/
def itemSet (flags : Flags) : Atom → Except Fault CharSet
  | .char c byte => return .single (← charOf flags (.char c byte))
  | .set members => .ok members
  | .look _ => .error .assertionInClass

/-- One escape or plain character. -/
def readAtom (flags : Flags) : List Char → Except Fault (Atom × List Char)
  | [] => .error .unclosedClass
  | '\\' :: rest => Escape.read flags rest
  | c :: rest => .ok (.char c false, rest)

/-- The character that comes next, past blanks if they are skipped.  Of a comment only the sign
    that starts it is passed over. -/
def peek (flags : Flags) (text : List Char) : Option Char :=
  if !flags.extended then text.head?
  else match text.dropWhile Unicode.isSpace with
    | '#' :: rest => (rest.dropWhile Unicode.isSpace).head?
    | rest => rest.head?

/-- One item or range. -/
def readRange (flags : Flags) (text : List Char) : Except Fault (CharSet × List Char) := do
  let (first, rest) ← readAtom flags text
  match flags.skip rest with
  | [] => .error .unclosedClass
  | '-' :: after =>
    if peek flags after = some ']' ∨ peek flags after = some '-' then
      return (← itemSet flags first, '-' :: after)
    else match flags.skip after with
      | [] => .error .unclosedClass
      | after =>
        let (last, rest) ← readAtom flags after
        let first ← charOf flags first
        let last ← charOf flags last
        if first ≤ last then return (.span first last, rest)
        else .error .rangeOutOfOrder
  | rest => return (← itemSet flags first, rest)

/-! ## §3. Brackets and operators -/

/-- A part of a class: its members, and how deep it nests. -/
structure Part where
  members : CharSet
  depth : Nat
deriving DecidableEq, Repr

/-- A union being read: its members, and the depths of its items, the last first. -/
structure Union where
  members : CharSet
  depths : List Nat
deriving DecidableEq, Repr

namespace Union

/-- The union of no items. -/
def none : Union :=
  { members := .none, depths := [] }

/-- One more item. -/
def push (union : Union) (item : Part) : Union :=
  { members := .union union.members item.members, depths := item.depth :: union.depths }

/-- The union as a whole. -/
def part (union : Union) : Part :=
  { members := union.members, depth := rowDepth union.depths }

end Union

/-- An operator between unions. -/
inductive Operator where
  | inter
  | diff
  | symDiff
deriving DecidableEq, Repr

/-- The set that the operator makes of two. -/
def Operator.apply : Operator → CharSet → CharSet → CharSet
  | inter => .inter
  | diff => .diff
  | symDiff => .symDiff

/-- What is pending while a class is read. -/
inductive Pending where
  /-- An open bracket, after the union that stands before it. -/
  | bracket (negated : Bool) (before : Union)
  /-- An operator with its left side. -/
  | operator (op : Operator) (left : Part)
deriving DecidableEq, Repr

/-- The union read last with the pending operator applied, and what is pending then. -/
def applyPending (flags : Flags) (union : Union) : List Pending → Part × List Pending
  | .operator op left :: rest =>
    let members := op.apply (flags.fold left.members) (flags.fold union.members)
    ({ members, depth := Nat.max left.depth union.part.depth + 1 }, rest)
  | stack => (union.part, stack)

/-- Leading hyphens stand for themselves. -/
def readHyphens (flags : Flags) : (fuel : Nat) → Union → List Char → Union × List Char
  | fuel + 1, union, '-' :: rest =>
    readHyphens flags fuel (union.push { members := .single '-', depth := 0 }) (flags.skip rest)
  | _, union, text => (union, text)

/-- The start of a class after its bracket: the negation sign, and the hyphens or the bracket that
    stand for themselves because they come first. -/
def readOpening (flags : Flags) (text : List Char) : Bool × Union × List Char :=
  let (negated, text) := match flags.skip text with
    | '^' :: rest => (true, flags.skip rest)
    | text => (false, text)
  match text with
  | ']' :: rest => (negated, { members := .single ']', depths := [0] }, flags.skip rest)
  | _ =>
    let (union, rest) := readHyphens flags text.length .none text
    (negated, union, rest)

/-- Reads on until the bracket of the outermost class is closed; `union` is the union being read
    in the innermost one. -/
def readUnion (flags : Flags) : (fuel : Nat) → List Pending → (union : Union) → List Char →
    Except Fault (Part × List Char)
  | 0, _, _, _ => .error .unclosedClass
  | fuel + 1, stack, union, text =>
    let operator (op : Operator) (rest : List Char) :=
      let (left, stack) := applyPending flags union stack
      readUnion flags fuel (.operator op left :: stack) .none rest
    match flags.skip text with
    | [] => .error .unclosedClass
    | '[' :: rest =>
      match readNamed? flags rest with
      | some (members, rest) => do
        readUnion flags fuel stack (union.push { members := ← members, depth := 0 }) rest
      | none =>
        let (negated, inner, rest) := readOpening flags rest
        readUnion flags fuel (.bracket negated union :: stack) inner rest
    | ']' :: rest =>
      match applyPending flags union stack with
      | (inner, .bracket negated before :: stack) => do
        let members ← wholeCharacters flags (.negateIf negated (flags.fold inner.members))
        let bracketed : Part := { members, depth := inner.depth + 1 }
        if stack.isEmpty then return (bracketed, rest)
        else readUnion flags fuel stack (before.push bracketed) rest
      | _ => .error .unclosedClass
    | '&' :: '&' :: rest => operator .inter rest
    | '-' :: '-' :: rest => operator .diff rest
    | '~' :: '~' :: rest => operator .symDiff rest
    | text => do
      let (members, rest) ← readRange flags text
      readUnion flags fuel stack (union.push { members, depth := 0 }) rest

/-- A class, its first bracket being read already. -/
def read (flags : Flags) (text : List Char) : Except Fault (Part × List Char) :=
  let (negated, union, rest) := readOpening flags text
  readUnion flags (text.length + 1) [.bracket negated .none] union rest

end Class

end Reroute.Pattern
