/-
  Reroute.Pattern.Node — the structure of a pattern.

  A pattern is built from character sets and zero-width assertions by concatenation, ordered
  alternation, repetition and capture groups.  Flags, escapes and classes are resolved when the
  pattern is read, so nothing here depends on how it was spelled.
-/
import Reroute.CharSet

namespace Reroute.Pattern

/-! ## §1. Assertions -/

/-- Where a word boundary assertion holds, by whether a word character stands before and after. -/
inductive Boundary where
  /-- Exactly one of the two sides is in a word. -/
  | edge
  /-- Both sides or neither are in a word. -/
  | inside
  /-- A word starts here. -/
  | start
  /-- A word ends here. -/
  | stop
  /-- No word character stands before. -/
  | startHalf
  /-- No word character stands after. -/
  | stopHalf
deriving DecidableEq, Repr

/-- Does the assertion hold between two sides of which `before` and `after` say whether they are
    word characters? -/
def Boundary.holds : Boundary → (before after : Bool) → Bool
  | edge, before, after => before != after
  | inside, before, after => before == after
  | start, before, after => !before && after
  | stop, before, after => before && !after
  | startHalf, before, _ => !before
  | stopHalf, _, after => !after

/-- A condition on a place in the text that consumes nothing. -/
inductive Assertion where
  /-- The start of the text. -/
  | textStart
  /-- The end of the text. -/
  | textEnd
  /-- The start of a line; lines end in a line feed. -/
  | lineStart
  /-- The end of a line; lines end in a line feed. -/
  | lineEnd
  /-- The start of a line; a carriage return, a line feed or the two together end a line. -/
  | returnLineStart
  /-- The end of a line; a carriage return, a line feed or the two together end a line. -/
  | returnLineEnd
  /-- A place relative to words; `basic` words are of basic Latin characters only. -/
  | boundary (kind : Boundary) (basic : Bool)
deriving DecidableEq, Repr

namespace Assertion

/-- Is there a word character on this side? -/
def wordSide (basic : Bool) : Option Char → Bool
  | some c => if basic then Unicode.isBasicWord c else Unicode.isWord c
  | none => false

/-- Does the assertion hold between the characters `prev` and `next`? -/
def holds : Assertion → (prev next : Option Char) → Bool
  | textStart, prev, _ => prev.isNone
  | textEnd, _, next => next.isNone
  | lineStart, prev, _ => prev.isNone || prev == some '\n'
  | lineEnd, _, next => next.isNone || next == some '\n'
  | returnLineStart, prev, next =>
    prev.isNone || prev == some '\n' || (prev == some '\r' && next != some '\n')
  | returnLineEnd, prev, next =>
    next.isNone || next == some '\r' || (next == some '\n' && prev != some '\r')
  | boundary kind basic, prev, next => kind.holds (wordSide basic prev) (wordSide basic next)

end Assertion

/-! ## §2. Nodes -/

/-- The structure of a pattern. -/
inductive Node where
  /-- The empty text. -/
  | empty
  /-- One character of a set. -/
  | set (members : CharSet)
  /-- A zero-width assertion. -/
  | look (assertion : Assertion)
  /-- A capture group with its number and its name, if it has one. -/
  | group (index : Nat) (name : Option String) (body : Node)
  /-- One pattern, then another. -/
  | cat (first second : Node)
  /-- One pattern or, less preferred, another. -/
  | alt (first second : Node)
  /-- At least `min` and at most `max` times, preferring more rounds if `greedy`. -/
  | rep (body : Node) (min : Nat) (max : Option Nat) (greedy : Bool)
deriving DecidableEq, Repr

namespace Node

/-- The nodes one after the other. -/
def seq : List Node → Node
  | [] => .empty
  | [node] => node
  | node :: rest => .cat node (seq rest)

/-- The first of the nodes that matches, in order of preference. -/
def oneOf : List Node → Node
  | [] => .empty
  | [node] => node
  | node :: rest => .alt node (oneOf rest)

/-- The highest number of a capture group, 0 if there is none. -/
def lastGroup : Node → Nat
  | empty | set _ | look _ => 0
  | group index _ body => Nat.max index body.lastGroup
  | cat first second | alt first second => Nat.max first.lastGroup second.lastGroup
  | rep body _ _ _ => body.lastGroup

/-- The named groups with their numbers, from left to right. -/
def groupNames : Node → List (String × Nat)
  | empty | set _ | look _ => []
  | group index (some name) body => (name, index) :: body.groupNames
  | group _ none body => body.groupNames
  | cat first second | alt first second => first.groupNames ++ second.groupNames
  | rep body _ _ _ => body.groupNames

end Node

end Reroute.Pattern
