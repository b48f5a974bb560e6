/-
  Reroute.Pattern.Basic — patterns and their matches in a text.

  `Pattern.parse` makes a pattern of its text, `Pattern.allMatches` lists its matches in a text from
  left to right.  Matches do not overlap, and an empty match directly at the end of the one before
  it is passed over.

  How deep a pattern nests is limited (`maxNesting`).  How large its program gets is not: a limit on
  the memory that a program takes depends on how it is laid out, and is left out here.
-/
import Reroute.Pattern.Parser
import Reroute.Pattern.Search

namespace Reroute

/-! ## §1. Patterns -/

/-- A pattern: its text, its structure and the program that finds its matches. -/
structure Pattern where
  source : String
  node : Pattern.Node
  program : Pattern.Program := node.program

namespace Pattern

/-- The pattern that a text writes. -/
def parse (source : String) : Except Fault Pattern := do
  return { source, node := ← Node.parse source.toList }

/-- The number of capture groups, without the group of the whole match. -/
def groupCount (pattern : Pattern) : Nat :=
  pattern.node.lastGroup

/-- The names of the capture groups. -/
def groupNames (pattern : Pattern) : List String :=
  pattern.node.groupNames.map (·.1)

/-- The number of the group with the given name. -/
def groupIndex? (pattern : Pattern) (name : String) : Option Nat :=
  pattern.node.groupNames.lookup name

/-- Slots of which none is filled yet. -/
def blankSlots (pattern : Pattern) : Slots :=
  List.replicate (2 * (pattern.groupCount + 1)) none

/-! ## §2. Matches -/

/-- A part of a text by the numbers of characters before its start and before its end. -/
structure Span where
  start : Nat
  stop : Nat
deriving DecidableEq, Repr

/-- The part of the text. -/
def Span.slice (span : Span) (text : List Char) : List Char :=
  (text.drop span.start).take (span.stop - span.start)

/-- A match: the whole of it, and its capture groups by number, group 0 being the whole match.
    A group that took no part in the match has no span. -/
structure Match where
  whole : Span
  groups : List (Option Span)
deriving DecidableEq, Repr

/-- The spans of the groups, from slots in pairs. -/
def spansOf : Slots → List (Option Span)
  | start :: stop :: rest =>
    (match start, stop with
      | some start, some stop => some ⟨start, stop⟩
      | _, _ => none) :: spansOf rest
  | _ => []

/-- The match that the slots of an accepting thread describe. -/
def Match.ofSlots? (slots : Slots) : Option Match :=
  match spansOf slots with
  | some whole :: groups => some { whole, groups := some whole :: groups }
  | _ => none

/-- Has the match no character? -/
def Match.isEmpty (m : Match) : Bool :=
  m.whole.start == m.whole.stop

/-- The span of a group, if it exists and took part in the match. -/
def Match.group? (m : Match) (index : Nat) : Option Span :=
  (m.groups[index]?).join

/-! ## §3. Finding matches -/

/-- A place in a text: how many characters stand before it, the last of them, and those after. -/
structure Cursor where
  place : Nat
  prev : Option Char
  rest : List Char
deriving DecidableEq, Repr

/-- The start of a text. -/
def Cursor.start (text : List Char) : Cursor :=
  { place := 0, prev := none, rest := text }

/-- The place so many characters further on, or the end of the text. -/
def Cursor.advance : Nat → Cursor → Cursor
  | 0, cursor => cursor
  | count + 1, cursor =>
    match cursor.rest with
    | [] => cursor
    | c :: rest => advance count { place := cursor.place + 1, prev := some c, rest }

/-- The first match at or after a place. -/
def find? (pattern : Pattern) (cursor : Cursor) : Option Match :=
  (scan pattern.program pattern.blankSlots cursor.rest cursor.place cursor.prev []).bind
    Match.ofSlots?

/-- The first match at or after a place that is not an empty one at the end of the match before,
    which is at `last`. -/
def findNext? (pattern : Pattern) (cursor : Cursor) (last : Option Nat) : Option Match :=
  match pattern.find? cursor with
  | none => none
  | some m =>
    if m.isEmpty && last == some m.whole.stop then
      if cursor.rest.isEmpty then none else pattern.find? (cursor.advance 1)
    else some m

/-- The matches at or after a place.  Each match ends beyond the one before it, so that one more
    than there are places is enough fuel. -/
def matchesFrom (pattern : Pattern) : (fuel : Nat) → Cursor → (last : Option Nat) → List Match
  | 0, _, _ => []
  | fuel + 1, cursor, last =>
    match pattern.findNext? cursor last with
    | none => []
    | some m =>
      m :: matchesFrom pattern fuel (cursor.advance (m.whole.stop - cursor.place))
        (some m.whole.stop)

/-- The matches in a text, from left to right. -/
def allMatches (pattern : Pattern) (text : List Char) : List Match :=
  pattern.matchesFrom (text.length + 2) (.start text) none

end Pattern

end Reroute
