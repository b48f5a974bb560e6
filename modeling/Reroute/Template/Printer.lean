/-
  Reroute.Template.Printer — the text of a template.

  Braces of literal text are doubled; references stand in single braces.
-/
import Reroute.Template.Basic

namespace Reroute.Template

/-- The word that stands for the root prefix. -/
def rootWord : String := "root"

/-- A character of literal text, with braces doubled. -/
def escapeChar (c : Char) : List Char :=
  if c = '{' ∨ c = '}' then [c, c] else [c]

/-- A reference in braces. -/
def reference (inner : List Char) : List Char :=
  '{' :: (inner ++ ['}'])

/-- The text of one segment. -/
def printSegment : Segment → List Char
  | .literal text => text.toList.flatMap escapeChar
  | .group index => reference (Nat.toDigits 10 index)
  | .named name => reference name.toList
  | .rootPrefix => reference rootWord.toList

/-- The text of a template. -/
def print (template : Template) : String :=
  String.ofList (template.segments.flatMap printSegment)

end Reroute.Template
