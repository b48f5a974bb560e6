/-
  Reroute.Unicode.Ranges — sets of code points written as range lists.

  A table of a Unicode property is kept in the notation of the character database: hexadecimal
  code points, `first-last` for a run, `first-last/step` for every `step`-th code point of a run.
  `Ranges.ofLines` reads that notation; `Ranges.covers` decides membership.  The ranges of a table
  stand in increasing order of their first code point, so the search stops at the first range that
  starts beyond the code point asked for.
-/
import Reroute.Text.Digits
import Reroute.Text.Pieces

namespace Reroute.Unicode

/-! ## §1. Ranges -/

/-- Every `step`-th code point from `first` to `last`. -/
structure CodeRange where
  first : Nat
  last : Nat
  step : Nat
deriving DecidableEq, Repr

/-- Is the code point one of the range? -/
def CodeRange.covers (r : CodeRange) (code : Nat) : Bool :=
  r.first ≤ code && code ≤ r.last && (code - r.first) % r.step == 0

/-- Code points as ranges in increasing order of their first member. -/
abbrev Ranges := List CodeRange

/-- Is the code point in one of the ranges?  Ranges that start beyond it are not looked at. -/
def Ranges.covers : Ranges → Nat → Bool
  | [], _ => false
  | r :: rest, code =>
    if code < r.first then false else r.covers code || Ranges.covers rest code

/-! ## §2. Reading a table -/

/-- One entry of a table: `41`, `41-5A` or `100-12E/2`. -/
def CodeRange.ofEntry (entry : List Char) : CodeRange :=
  match splitAtChar '-' entry with
  | first :: last :: _ =>
    match splitAtChar '/' last with
    | last :: step :: _ => ⟨numberOf 16 first, numberOf 16 last, numberOf 10 step⟩
    | _ => ⟨numberOf 16 first, numberOf 16 last, 1⟩
  | _ => ⟨numberOf 16 entry, numberOf 16 entry, 1⟩

/-- The table on lines of entries with a blank between them. -/
def Ranges.ofLines (lines : List String) : Ranges :=
  lines.flatMap fun line => (splitAtChar ' ' line.toList).map CodeRange.ofEntry

end Reroute.Unicode
