/-
  Reroute.Template.Expansion — templates and the matches of a pattern.

  `checkAgainst` finds the first reference of a template that its pattern cannot serve; after that
  check every reference of the template names a group of the pattern.  `expand` is the text that
  replaces a match; a group that took no part in the match gives no text.
-/
import Reroute.Context
import Reroute.Pattern.Basic
import Reroute.Template.Printer

namespace Reroute.Template

/-! ## §1. References and groups -/

/-- Why a template does not go with a pattern. -/
inductive Mismatch where
  /-- The pattern gives a group the name of the root prefix. -/
  | reservedName
  /-- The pattern has fewer groups than the number referred to. -/
  | noGroup (index count : Nat)
  /-- The pattern has no group of that name. -/
  | unknownName (name : String)
deriving DecidableEq, Repr

/-- The mismatch in words. -/
def Mismatch.message : Mismatch → String
  | reservedName => "group name '" ++ rootWord ++ "' is reserved for the root prefix"
  | noGroup index count =>
    "references group " ++ Nat.repr index ++ " but the pattern has " ++ Nat.repr count ++
      " group(s)"
  | unknownName name => "references unknown group '" ++ name ++ "'"

/-- Does the segment refer to no group, or to one of the pattern? -/
def checkSegment (pattern : Pattern) : Segment → Except Mismatch Unit
  | .literal _ | .rootPrefix => .ok ()
  | .group index =>
    if index ≤ pattern.groupCount then .ok () else .error (.noGroup index pattern.groupCount)
  | .named name =>
    if pattern.groupNames.contains name then .ok () else .error (.unknownName name)

/-- Checks the segments from left to right. -/
def checkSegments (pattern : Pattern) : List Segment → Except Mismatch Unit
  | [] => .ok ()
  | segment :: rest => do
    checkSegment pattern segment
    checkSegments pattern rest

/-- Checks every reference of the template against the groups of the pattern, which may not have
    the name of the root prefix. -/
def checkAgainst (template : Template) (pattern : Pattern) : Except Mismatch Unit :=
  if pattern.groupNames.contains rootWord then .error .reservedName
  else checkSegments pattern template.segments

/-! ## §2. Expansion -/

/-- The text of a group of a match in the text; none if the group took no part. -/
def groupText (text : List Char) (m : Pattern.Match) (index : Nat) : List Char :=
  match m.group? index with
  | some span => span.slice text
  | none => []

/-- The text that a segment stands for at a match. -/
def expandSegment (context : Context) (pattern : Pattern) (text : List Char)
    (m : Pattern.Match) : Segment → List Char
  | .literal literal => literal.toList
  | .group index => groupText text m index
  | .named name =>
    match pattern.groupIndex? name with
    | some index => groupText text m index
    | none => []
  | .rootPrefix => context.rootPrefix.toList

/-- The text that replaces a match. -/
def expand (template : Template) (context : Context) (pattern : Pattern) (text : List Char)
    (m : Pattern.Match) : List Char :=
  template.segments.flatMap (expandSegment context pattern text m)

end Reroute.Template
