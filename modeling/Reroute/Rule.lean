/-
  Reroute.Rule — replacement rules and their validation.

  A rule is loaded in two steps.  `RuleSpec.toDef` reads the replacement template of a rule as it
  is written in a rules file; `RuleDef.load` reads the pattern, refuses one that yields an empty
  match on a probe text, and checks that the template refers to groups of the pattern only.
-/
import Reroute.Failure
import Reroute.Template.Expansion
import Reroute.Template.Parser

namespace Reroute

/-! ## §1. Rules and how they are written -/

/-- A rule as it is written in a rules file. -/
structure RuleSpec where
  pattern : String
  replacement : String
  description : String
deriving DecidableEq, Repr

/-- A rule whose template is read and whose pattern is not. -/
structure RuleDef where
  pattern : String
  replacement : Template
  description : String
deriving DecidableEq, Repr

/-- A rule that can be applied. -/
structure Rule where
  pattern : Pattern
  replacement : Template
  description : String

/-! ## §2. Empty matches -/

/-- The texts on which a pattern is tried for empty matches. -/
def emptyMatchProbes : List String :=
  ["", " ", "a", "\n", "_1-./'\"", "import \x7b x \x7d from \"../a\";\n"]

/-- Does the pattern yield an empty match on one of the probes? -/
def Pattern.matchesEmpty (pattern : Pattern) : Bool :=
  emptyMatchProbes.any fun probe => (pattern.allMatches probe.toList).any (·.isEmpty)

/-! ## §3. Loading -/

/-- The definition of a rule at the given position of its list. -/
def RuleSpec.toDef (index : Nat) (spec : RuleSpec) : Except Failure RuleDef :=
  match Template.parse spec.replacement with
  | .ok replacement =>
    .ok { pattern := spec.pattern, replacement, description := spec.description }
  | .error fault =>
    .error { cause := .invalidTemplate ⟨index, spec.description, spec.pattern⟩ fault.message }

/-- The rule of a definition at the given position of its list. -/
def RuleDef.load (index : Nat) (definition : RuleDef) : Except Failure Rule :=
  let position : Failure.RulePosition := ⟨index, definition.description, definition.pattern⟩
  match Pattern.parse definition.pattern with
  | .error fault => .error { cause := .invalidPattern position fault.message }
  | .ok pattern =>
    if pattern.matchesEmpty then .error { cause := .zeroWidth position }
    else match definition.replacement.checkAgainst pattern with
      | .error mismatch => .error { cause := .invalidTemplate position mismatch.message }
      | .ok () =>
        .ok { pattern, replacement := definition.replacement,
              description := definition.description }

end Reroute
