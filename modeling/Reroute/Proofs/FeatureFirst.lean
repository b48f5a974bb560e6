/-
  Reroute.Proofs.FeatureFirst — the preset `feature-first` is done after one run.

  All of its rules are moves, so it loads (`load_featureFirst`), and none of them matches an import
  that one of them writes.  A second pass over any text therefore finds nothing to do
  (`featureFirst_twice`).
-/
import Mathlib.Data.List.Forall2
import Reroute.Proofs.Moves

namespace Reroute.Presets

/-! ## §1. Loading. -/

/-- Definitions that load at every position load one after the other. -/
theorem ofDefs_of_forall₂ (name : String) {definitions : List RuleDef} {rules : List Rule}
    (h : List.Forall₂ (fun definition rule => ∀ index, definition.load index = .ok rule)
      definitions rules) : Registry.ofDefs name definitions = .ok ⟨name, rules⟩ := by
  have hload : ∀ index, Registry.loadFrom RuleDef.load index definitions = .ok rules := by
    induction h with
    | nil => intro index; rfl
    | cons hfirst hrest ih =>
      intro index
      rw [Registry.loadFrom, hfirst index, ih (index + 1)]
      rfl
  rw [Registry.ofDefs, hload]
  rfl

/-- Definitions of moves load as their rules. -/
theorem load_moves (moves : List Move) :
    List.Forall₂ (fun definition rule => ∀ index, definition.load index = .ok rule)
      (moves.map Move.definition) (moves.map Move.rule) := by
  rw [List.forall₂_map_left_iff, List.forall₂_map_right_iff, List.forall₂_same]
  exact fun move _ => move.load_definition

theorem load_featureFirst :
    load "feature-first" = .ok ⟨"feature-first", featureFirstMoves.map Move.rule⟩ :=
  ofDefs_of_forall₂ "feature-first" (load_moves featureFirstMoves)

/-! ## §2. Two passes. -/

/-- No rule of the table matches what one of them writes. -/
theorem areSettled_featureFirst : areSettled featureFirstMoves = true := by
  decide +kernel

/-- **Main.**  Whatever the text and the contexts, the second pass leaves the text as the first one
    left it and notes no change. -/
theorem featureFirst_twice :
    ∃ registry, load "feature-first" = .ok registry ∧
      ∀ (context context' : Context) (content : String),
        registry.substitute context' (registry.substitute context content).1 =
          ((registry.substitute context content).1, []) := by
  refine ⟨_, load_featureFirst, ?_⟩
  intro context context' content
  -- the texts between the passes are strings, the moves speak of characters
  simp only [Registry.substitute, String.toList_ofList]
  rw [substitute_moves_twice areSettled_featureFirst context context' content.toList]

end Reroute.Presets
