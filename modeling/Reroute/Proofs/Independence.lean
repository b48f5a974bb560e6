/-
  Reroute.Proofs.Independence — rules whose order does not matter.

  Two rules are independent if each finds as many matches after the other one as before, and if
  their replacements commute (`Independent`).  For a list of pairwise independent rules the final
  text is the same in every order (`substituteAll_perm`), and every rule finds at its turn as many
  matches as in the text at the start (`occurrences_at_turn`), which are those that it notes
  (`changes_of_independent`).  What a second pass finds is therefore decided rule by rule: it finds
  nothing exactly if no rule finds a match in its own result (`substituteAll_twice_iff`).
-/
import Mathlib.Data.List.Perm.Basic
import Reroute.Proofs.Substitution

namespace Reroute

/-! ## §1. Two rules. -/

/-- The number of matches of the rule in a text. -/
def Rule.occurrences (rule : Rule) (text : List Char) : Nat :=
  (rule.allMatches text).length

/-- Neither rule changes how many matches the other one has, and their order does not matter. -/
structure Independent (context : Context) (rule other : Rule) : Prop where
  commute : ∀ text, other.replaceAll context (rule.replaceAll context text) =
    rule.replaceAll context (other.replaceAll context text)
  keeps_other : ∀ text, other.occurrences (rule.replaceAll context text) = other.occurrences text
  keeps : ∀ text, rule.occurrences (other.replaceAll context text) = rule.occurrences text

theorem Independent.symm {context : Context} {rule other : Rule}
    (h : Independent context rule other) : Independent context other rule :=
  ⟨fun text => (h.commute text).symm, h.keeps, h.keeps_other⟩

/-! ## §2. Lists of rules. -/

/-- The change that a rule notes in a text. -/
def Rule.noted? (rule : Rule) (text : List Char) : Option Change :=
  if rule.occurrences text = 0 then none
  else some { description := rule.description, count := rule.occurrences text }

theorem Rule.substitute_snd (rule : Rule) (context : Context) (text : List Char) :
    (rule.substitute context text).2 = rule.noted? text := by
  unfold Rule.substitute Rule.noted? Rule.occurrences
  cases rule.allMatches text with
  | nil => rfl
  | cons first others => rfl

section Lists

variable {context : Context} {rules rules' : List Rule}

/-- The text after a list of rules, rule by rule. -/
theorem substituteAll_fst (context : Context) (rules : List Rule) (text : List Char) :
    (substituteAll context rules text).1 =
      rules.foldl (fun text rule => rule.replaceAll context text) text := by
  induction rules generalizing text with
  | nil => rfl
  | cons rule rules ih => rw [substituteAll_cons, ih, List.foldl_cons]

/-- **The order does not matter for the final text.** -/
theorem substituteAll_perm (h : rules.Pairwise (Independent context)) (hperm : rules.Perm rules')
    (text : List Char) :
    (substituteAll context rules text).1 = (substituteAll context rules' text).1 := by
  rw [substituteAll_fst, substituteAll_fst]
  -- a rule commutes with itself, so that the pairs need not be of two places of the list
  have hpairs : rules.Pairwise fun rule other => ∀ text,
      other.replaceAll context (rule.replaceAll context text) =
        rule.replaceAll context (other.replaceAll context text) :=
    h.imp fun hpair => hpair.commute
  have hflip := hpairs.imp fun hpair text => (hpair text).symm
  refine hperm.foldl_eq' (fun rule hrule other hother => ?_) text
  exact hpairs.forall_of_forall_of_flip (fun _ _ _ => rfl) hflip hrule hother

theorem pairwise_independent_perm (h : rules.Pairwise (Independent context))
    (hperm : rules.Perm rules') : rules'.Pairwise (Independent context) :=
  (hperm.pairwise_iff Independent.symm).1 h

/-- A rule finds the same number of matches after rules that are independent of it. -/
theorem occurrences_substituteAll {rule : Rule}
    (h : ∀ other ∈ rules, Independent context other rule) (text : List Char) :
    rule.occurrences (substituteAll context rules text).1 = rule.occurrences text := by
  induction rules generalizing text with
  | nil => rfl
  | cons other rules ih =>
    rw [substituteAll_cons, ih fun next hnext => h next (.tail _ hnext)]
    exact (h other (.head _)).keeps_other text

/-- **Every rule finds at its turn as many matches as in the text at the start.** -/
theorem occurrences_at_turn {before after : List Rule} {rule : Rule}
    (h : (before ++ rule :: after).Pairwise (Independent context)) (text : List Char) :
    rule.occurrences (substituteAll context before text).1 = rule.occurrences text := by
  refine occurrences_substituteAll (fun other hother => ?_) text
  exact (List.pairwise_append.1 h).2.2 other hother rule (.head _)

/-- **Independent rules note the matches that they have in the text at the start.** -/
theorem changes_of_independent (h : rules.Pairwise (Independent context)) (text : List Char) :
    (substituteAll context rules text).2 = rules.filterMap (·.noted? text) := by
  -- the list is built from the left, and the rules before keep what the later ones find
  induction rules generalizing text with
  | nil => rfl
  | cons rule rules ih =>
    obtain ⟨hfirst, hrest⟩ := List.pairwise_cons.1 h
    have hnoted : ∀ other ∈ rules,
        other.noted? (rule.replaceAll context text) = other.noted? text := by
      intro other hother
      rw [Rule.noted?, Rule.noted?, (hfirst other hother).keeps_other]
    rw [substituteAll_cons, ih hrest, Rule.substitute_snd, List.filterMap_congr hnoted,
      List.filterMap_cons]
    cases rule.noted? text with
    | none => rfl
    | some change => rfl

/-! ## §3. Two passes. -/

/-- After all rules a rule finds what it finds in its own result. -/
theorem occurrences_after_all (h : rules.Pairwise (Independent context)) {rule : Rule}
    (hrule : rule ∈ rules) (text : List Char) :
    rule.occurrences (substituteAll context rules text).1 =
      rule.occurrences (rule.replaceAll context text) := by
  obtain ⟨before, after, rfl⟩ := List.append_of_mem hrule
  -- the rule may go first, and those after it keep what it finds
  have hfirst := pairwise_independent_perm h List.perm_middle
  rw [substituteAll_perm h List.perm_middle, substituteAll_cons]
  refine occurrences_substituteAll (fun other hother => ?_) _
  exact ((List.pairwise_cons.1 hfirst).1 other hother).symm

/-- **A second pass finds nothing exactly if no rule finds a match in its own result.** -/
theorem substituteAll_twice_iff {context' : Context} (h : rules.Pairwise (Independent context))
    (h' : rules.Pairwise (Independent context')) (text : List Char) :
    substituteAll context' rules (substituteAll context rules text).1 =
        ((substituteAll context rules text).1, []) ↔
      ∀ rule ∈ rules, rule.occurrences (rule.replaceAll context text) = 0 := by
  constructor
  · intro hsame rule hrule
    have hnone : rules.filterMap (·.noted? (substituteAll context rules text).1) = [] := by
      rw [← changes_of_independent h', hsame]
    have hrule' := List.filterMap_eq_nil_iff.1 hnone rule hrule
    rw [← occurrences_after_all h hrule]
    by_contra hne
    rw [Rule.noted?, if_neg hne] at hrule'
    cases hrule'
  · intro hzero
    refine substituteAll_of_no_match (fun rule hrule => ?_) context'
    refine List.length_eq_zero_iff.1 ?_
    exact (occurrences_after_all h hrule text).trans (hzero rule hrule)

/-- The same for the rules of a registry. -/
theorem Registry.substitute_twice_iff {registry : Registry} {context' : Context}
    (h : registry.rules.Pairwise (Independent context))
    (h' : registry.rules.Pairwise (Independent context')) (content : String) :
    registry.substitute context' (registry.substitute context content).1 =
        ((registry.substitute context content).1, []) ↔
      ∀ rule ∈ registry.rules, rule.occurrences (rule.replaceAll context content.toList) = 0 := by
  rw [← substituteAll_twice_iff h h']
  -- a text and its characters determine each other
  simp only [Registry.substitute, String.toList_ofList, Prod.mk.injEq]
  constructor
  · intro hsame
    exact Prod.ext (String.ofList_injective hsame.1) hsame.2
  · intro hsame
    rw [hsame]
    exact ⟨rfl, rfl⟩

end Lists

end Reroute
