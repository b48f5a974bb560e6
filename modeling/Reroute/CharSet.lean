/-
  Reroute.CharSet — sets of characters as expressions.

  A set is kept as it was written: ranges, property tables and named classes under union,
  intersection, difference and complement, and closed under change of case where that was asked
  for.  `CharSet.mem` gives an expression its meaning one character at a time, so every set
  operation is the Boolean operation on membership.
-/
import Reroute.Unicode.CaseFold
import Reroute.Unicode.Derived

namespace Reroute

/-- An expression for a set of characters. -/
inductive CharSet where
  /-- No character. -/
  | none
  /-- Every character. -/
  | any
  /-- The characters from `first` to `last`. -/
  | span (first last : Char)
  /-- The characters of a property table. -/
  | table (ranges : Unicode.Ranges)
  /-- Word characters of every script. -/
  | word
  /-- Decimal digits of every script. -/
  | digit
  /-- White space. -/
  | space
  /-- The characters of either set. -/
  | union (left right : CharSet)
  /-- The characters of both sets. -/
  | inter (left right : CharSet)
  /-- The characters of the first set that are not in the second. -/
  | diff (left right : CharSet)
  /-- The characters of exactly one of the sets. -/
  | symDiff (left right : CharSet)
  /-- The characters outside of the set. -/
  | compl (set : CharSet)
  /-- The characters that differ from one of the set at most by case. -/
  | foldCase (set : CharSet)
  /-- The same, with the two cases of basic Latin letters only. -/
  | foldBasicCase (set : CharSet)
deriving DecidableEq, Repr

namespace CharSet

/-! ## §1. Membership -/

/-- Is the character in the set? -/
def mem : CharSet → Char → Bool
  | none, _ => false
  | any, _ => true
  | span first last, c => first ≤ c && c ≤ last
  | table ranges, c => ranges.covers c.toNat
  | word, c => Unicode.isWord c
  | digit, c => Unicode.isDigit c
  | space, c => Unicode.isSpace c
  | union left right, c => left.mem c || right.mem c
  | inter left right, c => left.mem c && right.mem c
  | diff left right, c => left.mem c && !right.mem c
  | symDiff left right, c => left.mem c != right.mem c
  | compl set, c => !set.mem c
  | foldCase set, c => set.mem c || (Unicode.CaseFold.caseVariants c).any set.mem
  | foldBasicCase set, c => set.mem c || (Unicode.CaseFold.basicVariants c).any set.mem

/-! ## §2. Small sets -/

/-- The set of one character. -/
def single (c : Char) : CharSet := .span c c

/-- The union of several sets. -/
def unionAll (sets : List CharSet) : CharSet :=
  sets.foldr .union .none

/-- The union of several property tables. -/
def ofTables (tables : List Unicode.Ranges) : CharSet :=
  unionAll (tables.map .table)

/-- The set, or the characters outside of it if `negated`. -/
def negateIf (negated : Bool) (set : CharSet) : CharSet :=
  if negated then .compl set else set

/-- No character above the basic Latin block among the first 256 is in the set. -/
def isBasicOnly (set : CharSet) : Bool :=
  (List.range 128).all fun k => !set.mem (Char.ofNat (128 + k))

end CharSet

end Reroute
