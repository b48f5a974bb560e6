/-
  Reroute.Registry — ordered lists of rules.

  The order of a registry is part of its meaning: each rule sees the text that the rules before it
  have left.  Loading stops at the first rule that has a flaw; the templates of a rules file are
  all read before the first pattern is.
-/
import Reroute.Rule

namespace Reroute

/-- Loaded rules in the order in which they apply. -/
structure Registry where
  name : String
  rules : List Rule

namespace Registry

/-- Loads the items of a list from the given position on, up to the first that fails. -/
def loadFrom {α β : Type} (load : Nat → α → Except Failure β) : (index : Nat) → List α →
    Except Failure (List β)
  | _, [] => .ok []
  | index, item :: rest => do
    let first ← load index item
    let others ← loadFrom load (index + 1) rest
    return first :: others

/-- The registry of the definitions. -/
def ofDefs (name : String) (definitions : List RuleDef) : Except Failure Registry := do
  return { name, rules := ← loadFrom RuleDef.load 0 definitions }

/-- The registry of rules as they are written in a rules file. -/
def ofSpecs (name : String) (specs : List RuleSpec) : Except Failure Registry := do
  ofDefs name (← loadFrom RuleSpec.toDef 0 specs)

/-- The number of rules. -/
def size (registry : Registry) : Nat := registry.rules.length

end Registry

end Reroute
