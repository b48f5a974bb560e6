/-
  Reroute.Template.Basic — replacement templates.

  A template is a row of segments: literal text, references to capture groups and the prefix that
  leads back to the scan root.  Templates are built from left to right; neighbouring literals are
  joined and empty ones left out, so that templates that were built in different ways compare
  equal.
-/

namespace Reroute

/-- A part of a template. -/
inductive Segment where
  /-- Copied as it is. -/
  | literal (text : String)
  /-- The capture group with the number; group 0 is the whole match. -/
  | group (index : Nat)
  /-- The capture group with the name. -/
  | named (name : String)
  /-- The relative path from the directory of the file to the scan root. -/
  | rootPrefix
deriving DecidableEq, Repr

/-- A replacement template. -/
structure Template where
  segments : List Segment
deriving DecidableEq, Repr

namespace Template

/-- The template without segments. -/
def empty : Template := { segments := [] }

/-- The segments with a text after them, joined to a literal at their end. -/
def appendText (text : String) : List Segment → List Segment
  | [] => [.literal text]
  | [.literal last] => [.literal (last ++ text)]
  | segment :: rest => segment :: appendText text rest

/-- The template with a text after it; an empty text changes nothing. -/
def text (template : Template) (text : String) : Template :=
  if text.isEmpty then template else { segments := appendText text template.segments }

/-- The template with one more segment, not a literal, after it. -/
def push (template : Template) (segment : Segment) : Template :=
  { segments := template.segments ++ [segment] }

/-- The template with a reference to a numbered group after it. -/
def group (template : Template) (index : Nat) : Template := template.push (.group index)

/-- The template with a reference to a named group after it. -/
def named (template : Template) (name : String) : Template := template.push (.named name)

/-- The template with the root prefix after it. -/
def rootPrefix (template : Template) : Template := template.push .rootPrefix

/-- The template of one text. -/
def literal (text : String) : Template := empty.text text

end Template

end Reroute
