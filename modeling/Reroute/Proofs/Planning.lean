/-
  Reroute.Proofs.Planning — the preset `planning` and its second pass.

  All rules of the preset are moves but one, the rule for the imports of the table component.  They
  are pairwise independent (`independent_planning`), so a second pass finds what the rules find in
  their own results.  A move finds nothing there; the rule of the table does
  if a line imports the table twice.  The text is thus done after one run exactly if no line of it
  does so (`planning_twice_iff`).
-/
import Reroute.Proofs.FeatureFirst
import Reroute.Proofs.TableImport

namespace Reroute.Presets

/-! ## §1. Loading. -/

/-- The rules of the preset. -/
def planningRules : List Rule :=
  planningMovesBefore.map Move.rule ++ TableImport.rule :: planningMovesAfter.map Move.rule

theorem mem_planningRules {rule : Rule} : rule ∈ planningRules ↔
    rule = TableImport.rule ∨
      ∃ move ∈ planningMovesBefore ++ planningMovesAfter, rule = move.rule := by
  rw [planningRules, List.perm_middle.mem_iff, ← List.map_append, List.mem_cons, List.mem_map]
  simp only [eq_comm]

theorem load_planning : load "planning" = .ok ⟨"planning", planningRules⟩ :=
  ofDefs_of_forall₂ "planning" (List.rel_append (load_moves planningMovesBefore)
    (.cons TableImport.load_definition (load_moves planningMovesAfter)))

/-! ## §2. The order of the rules. -/

theorem areSettled_planning : areSettled (planningMovesBefore ++ planningMovesAfter) = true := by
  decide +kernel

/-- **The rules of the preset are pairwise independent.** -/
theorem independent_planning (context : Context) :
    planningRules.Pairwise (Independent context) := by
  have hdistinct : ((planningMovesBefore ++ planningMovesAfter).map Move.old).Nodup := by
    decide +kernel
  have hclear : (planningMovesBefore ++ planningMovesAfter).all TableImport.isClear = true := by
    decide +kernel
  -- the rule of the table component may as well stand first
  have hfirst : (TableImport.rule :: (planningMovesBefore ++ planningMovesAfter).map
      Move.rule).Pairwise (Independent context) := by
    refine List.pairwise_cons.2 ⟨?_, independent_moves areSettled_planning hdistinct context⟩
    intro rule hrule
    obtain ⟨move, hmove, rfl⟩ := List.mem_map.1 hrule
    exact TableImport.independent_move (List.all_eq_true.1 hclear move hmove) context
  rw [List.map_append] at hfirst
  exact pairwise_independent_perm hfirst List.perm_middle.symm

/-! ## §3. Two passes. -/

/-- A move finds nothing in its own result; the rule of the table component does if a line imports
    the table twice. -/
theorem occurrences_planning_iff (context : Context) (text : List Char) :
    (∀ rule ∈ planningRules, rule.occurrences (rule.replaceAll context text) = 0) ↔
      ¬ TableImport.RepeatsImport text := by
  rw [← TableImport.occurrences_replaceAll_iff context]
  constructor
  · intro hall
    exact hall _ (mem_planningRules.2 (.inl rfl))
  · intro htable rule hrule
    rcases mem_planningRules.1 hrule with rfl | ⟨move, hmove, rfl⟩
    · exact htable
    · exact occurrences_replaceAll_of_areSettled areSettled_planning hmove context text

/-- **Main.**  The second pass leaves the text as the first one left it and notes no change, exactly
    if no line of the text has two imports from the old path of the table behind `import `. -/
theorem planning_twice_iff (context context' : Context) (content : String) :
    ∃ registry, load "planning" = .ok registry ∧
      (registry.substitute context' (registry.substitute context content).1 =
          ((registry.substitute context content).1, []) ↔
        ¬ TableImport.RepeatsImport content.toList) := by
  refine ⟨_, load_planning, ?_⟩
  exact (Registry.substitute_twice_iff (independent_planning context)
    (independent_planning context') content).trans (occurrences_planning_iff context _)

/-- A line that imports the table twice. -/
def twoTables : String :=
  "import a from '../components/planning/GeneratedPlanningTable'; " ++
    "import b from '../components/planning/GeneratedPlanningTable'"

/-- For this line the second pass finds the import that the first one has left. -/
theorem planning_again_twoTables :
    ∃ registry, load "planning" = .ok registry ∧
      registry.substitute {} (registry.substitute {} twoTables).1 ≠
        ((registry.substitute {} twoTables).1, []) := by
  have hrepeats : TableImport.RepeatsImport twoTables.toList :=
    ⟨['a'], importText '\'' TableImport.move.old '\'', "; import b".toList,
      importText '\'' TableImport.move.old '\'', by decide, by decide,
      ⟨'\'', by decide, '\'', by decide, rfl⟩, ⟨'\'', by decide, '\'', by decide, rfl⟩,
      [], [], by decide +kernel⟩
  obtain ⟨registry, hload, htwice⟩ := planning_twice_iff {} {} twoTables
  exact ⟨registry, hload, fun hsame => htwice.1 hsame hrepeats⟩

end Reroute.Presets
