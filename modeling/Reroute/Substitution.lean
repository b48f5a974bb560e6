/-
  Reroute.Substitution — applying rules to a text.

  One rule replaces each of its matches by the expansion of its template and copies the text
  between them (`Rule.substitute`).  A registry applies its rules one after the other, each to the
  result of those before it, and notes every rule that had a match (`Registry.substitute`).
-/
import Reroute.Registry

namespace Reroute

/-- A rule that had matches, and how many.  A text has at most one match more than characters, so
    the number always fits a word. -/
structure Change where
  description : String
  count : Nat
deriving DecidableEq, Repr

/-! ## §1. One rule -/

/-- The text from the place `start` on with the matches replaced; `rest` is that text as it is. -/
def splice (expansion : Pattern.Match → List Char) : (start : Nat) → (rest : List Char) →
    List Pattern.Match → List Char
  | _, rest, [] => rest
  | start, rest, m :: others =>
    rest.take (m.whole.start - start) ++ expansion m ++
      splice expansion m.whole.stop (rest.drop (m.whole.stop - start)) others

namespace Rule

/-- The matches of the rule in a text. -/
def allMatches (rule : Rule) (text : List Char) : List Pattern.Match :=
  rule.pattern.allMatches text

/-- The text that replaces a match of the rule. -/
def expansion (rule : Rule) (context : Context) (text : List Char) (m : Pattern.Match) :
    List Char :=
  rule.replacement.expand context rule.pattern text m

/-- The text with every match replaced. -/
def replaceAll (rule : Rule) (context : Context) (text : List Char) : List Char :=
  splice (rule.expansion context text) 0 text (rule.allMatches text)

/-- The text with every match replaced, and the change if there was a match. -/
def substitute (rule : Rule) (context : Context) (text : List Char) : List Char × Option Change :=
  match rule.allMatches text with
  | [] => (text, none)
  | found =>
    (splice (rule.expansion context text) 0 text found,
      some { description := rule.description, count := found.length })

end Rule

/-! ## §2. All rules -/

/-- The text after the rules, each applied to the result of those before it, and the changes. -/
def substituteAll (context : Context) : List Rule → List Char → List Char × List Change
  | [], text => (text, [])
  | rule :: rules, text =>
    let (text, change) := rule.substitute context text
    let (text, changes) := substituteAll context rules text
    (text, change.toList ++ changes)

/-- The text after the rules of a registry, and the changes. -/
def Registry.substitute (registry : Registry) (context : Context) (text : String) :
    String × List Change :=
  let (text, changes) := substituteAll context registry.rules text.toList
  (String.ofList text, changes)

end Reroute
