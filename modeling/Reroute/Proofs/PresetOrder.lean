/-
  Reroute.Proofs.PresetOrder — the order of the rules in the presets.

  The rules of `feature-first` are pairwise independent (`independent_featureFirst`), and so are
  those of `planning`.  Whatever the order in which they are applied, the final text is the same,
  and every rule finds and notes the matches that it has in the text at the start
  (`presets_in_any_order`).
-/
import Reroute.Proofs.Planning

namespace Reroute.Presets

theorem independent_featureFirst (context : Context) :
    (featureFirstMoves.map Move.rule).Pairwise (Independent context) := by
  have hdistinct : (featureFirstMoves.map Move.old).Nodup := by decide +kernel
  exact independent_moves areSettled_featureFirst hdistinct context

/-- The presets `feature-first` and `planning` load, and their rules are pairwise independent. -/
theorem load_independent {name : String} (hname : name ∈ ["feature-first", "planning"]) :
    ∃ registry, load name = .ok registry ∧
      ∀ context, registry.rules.Pairwise (Independent context) := by
  simp only [List.mem_cons, List.not_mem_nil, or_false] at hname
  rcases hname with rfl | rfl
  · exact ⟨_, load_featureFirst, independent_featureFirst⟩
  · exact ⟨_, load_planning, independent_planning⟩

/-- **Main.**  In every order of the rules the final text is that of the preset, every rule finds at
    its turn as many matches as in the text at the start, and these are the changes that are
    noted. -/
theorem presets_in_any_order {name : String} (hname : name ∈ ["feature-first", "planning"]) :
    ∃ registry, load name = .ok registry ∧
      ∀ (rules : List Rule), rules.Perm registry.rules → ∀ (context : Context) (content : String),
        ({ registry with rules }.substitute context content).1 =
            (registry.substitute context content).1 ∧
          (∀ before rule after, rules = before ++ rule :: after →
            (rule.allMatches (substituteAll context before content.toList).1).length =
              (rule.allMatches content.toList).length) ∧
          ({ registry with rules }.substitute context content).2 =
            rules.filterMap (·.noted? content.toList) := by
  obtain ⟨registry, hload, hindependent⟩ := load_independent hname
  refine ⟨registry, hload, fun rules hperm context content => ?_⟩
  have hrules := pairwise_independent_perm (hindependent context) hperm.symm
  refine ⟨congrArg String.ofList (substituteAll_perm hrules hperm content.toList), ?_,
    changes_of_independent hrules content.toList⟩
  rintro before rule after rfl
  exact occurrences_at_turn hrules content.toList

/-- A line on which several rules of `planning` have a match, one of them within the clause of the
    table's import. -/
def crowdedLine : String :=
  "import \x7b Switch \x7d from '../components/common/Switch'; import Table from " ++
    "'../components/planning/GeneratedPlanningTable'; import Toast from \"../components/Toast\""

/-- The rules of `planning` from last to first. -/
theorem planning_reversed_crowdedLine :
    ∃ registry, load "planning" = .ok registry ∧
      registry.rules.reverse.Perm registry.rules ∧ ∀ context : Context,
        ({ registry with rules := registry.rules.reverse }.substitute context crowdedLine).1 =
            (registry.substitute context crowdedLine).1 ∧
          ({ registry with rules := registry.rules.reverse }.substitute context crowdedLine).2 =
            registry.rules.reverse.filterMap (·.noted? crowdedLine.toList) := by
  have hname : "planning" ∈ ["feature-first", "planning"] := by decide
  obtain ⟨registry, hload, horder⟩ := presets_in_any_order hname
  have hperm := List.reverse_perm registry.rules
  refine ⟨registry, hload, hperm, fun context => ?_⟩
  obtain ⟨htext, -, hchanges⟩ := horder _ hperm context crowdedLine
  exact ⟨htext, hchanges⟩

end Reroute.Presets
