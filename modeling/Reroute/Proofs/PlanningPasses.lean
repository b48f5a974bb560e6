/-
  Reroute.Proofs.PlanningPasses — the preset `planning` again and again.

  One pass need not be enough: on every line the rule of the table component moves the last import
  only.  What decreases from pass to pass is the number of places where the old path of the table
  stands (`placesOf`).  Every match of the rule takes one of them away, and the moves of the preset
  leave them as they are: their own paths are too short to contain that path, and what stands around
  a path in an import cannot be a part of it (`oldPlaces_pass`).

  The moves find nothing after the first pass, so from then on a pass notes imports of the table or
  nothing (`changesAt_planning_succ`), and a pass that notes nothing is the last one to look at
  (`changesAt_stays`).

  Main statement (`planning_settles`).
-/
import Mathlib.Data.Nat.Find
import Reroute.Proofs.Planning

namespace Reroute

/-! ## §1. The places of a word in a text. -/

/-- The number of places of the text where the word stands. -/
def placesOf (word text : List Char) : Nat :=
  text.tails.countP (word.isPrefixOf ·)

section Places

variable {word : List Char} {c : Char}

theorem placesOf_cons (text : List Char) : placesOf word (c :: text) =
    placesOf word text + if word.isPrefixOf (c :: text) then 1 else 0 := by
  rw [placesOf, List.tails_cons, List.countP_cons]
  rfl

/-- A word has no place in a text that is too short for it. -/
theorem placesOf_of_length_lt {text : List Char} (h : text.length < word.length) :
    placesOf word text = 0 := by
  refine List.countP_eq_zero.2 fun rest hrest hstands => ?_
  have hle := (List.isPrefixOf_iff_prefix.1 hstands).length_le
  have hle' := ((List.mem_tails _ _).1 hrest).length_le
  omega

theorem placesOf_self (hne : word ≠ []) : placesOf word word = 1 := by
  cases word with
  | nil => exact absurd rfl hne
  | cons d word =>
    have hself : (d :: word).isPrefixOf (d :: word) = true :=
      List.isPrefixOf_iff_prefix.2 (List.prefix_refl _)
    rw [placesOf_cons, placesOf_of_length_lt (Nat.lt_succ_self _), if_pos hself]

/-- A word stands before a character that it does not have, or not at all. -/
theorem prefix_before_char (hc : c ∉ word) (before after : List Char) :
    word <+: before ++ c :: after ↔ word <+: before := by
  refine ⟨fun hstands => ?_, fun hstands => hstands.trans (List.prefix_append _ _)⟩
  obtain ⟨rest, heq⟩ := hstands
  rcases noOverlap_char hc [] rest before after heq with ⟨-, rfl, -⟩ | ⟨gap, rfl, -⟩ | ⟨gap, h, -⟩
  · exact absurd (.head _) hc
  · exact List.prefix_append word gap
  · cases before <;> cases h

/-- A character that is not in the word parts its places. -/
theorem placesOf_around_char (hne : word ≠ []) (hc : c ∉ word) (before after : List Char) :
    placesOf word (before ++ c :: after) = placesOf word before + placesOf word after := by
  induction before with
  | nil =>
    have hnot : ¬ word.isPrefixOf (c :: after) = true := by
      intro hstands
      refine hne (List.prefix_nil.1 ?_)
      exact (prefix_before_char hc [] after).1 (List.isPrefixOf_iff_prefix.1 hstands)
    have hnil : placesOf word [] = 0 := placesOf_of_length_lt (List.length_pos_iff.2 hne)
    rw [List.nil_append, placesOf_cons, if_neg hnot, hnil, Nat.add_comm]
  | cons d before ih =>
    have hsame : word.isPrefixOf (d :: (before ++ c :: after)) = word.isPrefixOf (d :: before) := by
      rw [Bool.eq_iff_iff, List.isPrefixOf_iff_prefix, List.isPrefixOf_iff_prefix]
      exact prefix_before_char hc (d :: before) after
    rw [List.cons_append, placesOf_cons, placesOf_cons, hsame, ih]
    omega

end Places

/-! ## §2. What the rules do to the places of the table's path. -/

/-- A rule leaves a number as it is that adds up around the words, if it is the same for the words
    that match and for what is written. -/
theorem Rule.Replaces.weight_replaceAll {rule : Rule} {context : Context}
    {isWord isMatch : List Char → Prop} {target : List Char}
    (h : rule.Replaces context isWord isMatch target) {weight : List Char → Nat}
    (haround : ∀ before word after, isWord word →
      weight (before ++ (word ++ after)) = weight before + (weight word + weight after))
    (hsame : ∀ word, isMatch word → weight word = weight target) (text : List Char) :
    weight (rule.replaceAll context text) = weight text := by
  induction text using h.apart.induction with
  | free text hnone =>
    rw [(h.of_no_word fun word hword => hnone word (h.isWord_of_isMatch hword)).1]
  | around before word after hword ih ih' =>
    have hinner : weight (rule.replaceAll context word) = weight word := by
      by_cases hmatch : isMatch word
      · rw [(h.of_match hmatch).1, hsame word hmatch]
      · rw [(h.of_not_match hword hmatch).1]
    rw [(h.around_word hword before after).1, haround _ _ _ (h.isWord_replaceAll hword), ih, hinner,
      ih', haround _ _ _ hword]

namespace TableImport

/-- The places of the old path of the table. -/
def oldPlaces (text : List Char) : Nat := placesOf move.old text

theorem old_ne_nil : move.old ≠ [] := by
  simp [move, Move.old]

theorem oldPlaces_around_char {c : Char} (hc : c ∉ move.old) (before after : List Char) :
    oldPlaces (before ++ c :: after) = oldPlaces before + oldPlaces after :=
  placesOf_around_char old_ne_nil hc before after

theorem oldPlaces_of_short {text : List Char} (h : text.length < move.old.length) :
    oldPlaces text = 0 :=
  placesOf_of_length_lt h

theorem quote_not_mem {quote : Char} (h : isQuote quote = true) : quote ∉ move.old := by
  intro hmem
  have hpaths := hasPaths_move
  simp only [Move.hasPaths, Bool.and_eq_true, List.all_eq_true] at hpaths
  have hpath := hpaths.1 quote hmem
  simp [isPathChar, h] at hpath

/-- In an import the old path can only stand between the quotes: there is no quote in it, and no
    `f`, which parts the import from what stands before it. -/
theorem oldPlaces_around_importText {quote quote' : Char} (h : isQuote quote = true)
    (h' : isQuote quote' = true) (path before after : List Char) :
    oldPlaces (before ++ (importText quote path quote' ++ after)) =
      oldPlaces before + (oldPlaces path + oldPlaces after) := by
  have hf : 'f' ∉ move.old := by simp [move, Move.old]
  have hword : oldPlaces ['r', 'o', 'm', ' '] = 0 := oldPlaces_of_short (by simp [move, Move.old])
  have hshape : before ++ (importText quote path quote' ++ after) =
      before ++ 'f' :: (['r', 'o', 'm', ' '] ++ quote :: (path ++ quote' :: after)) := by
    simp [importText]
  rw [hshape, oldPlaces_around_char hf, oldPlaces_around_char (quote_not_mem h),
    oldPlaces_around_char (quote_not_mem h'), hword, Nat.zero_add]

theorem oldPlaces_importText {quote quote' : Char} (h : isQuote quote = true)
    (h' : isQuote quote' = true) (path : List Char) :
    oldPlaces (importText quote path quote') = oldPlaces path := by
  have haround := oldPlaces_around_importText h h' path [] []
  have hnil : oldPlaces [] = 0 := oldPlaces_of_short (List.length_pos_iff.2 old_ne_nil)
  rwa [List.append_nil, List.nil_append, hnil, Nat.zero_add, Nat.add_zero] at haround

/-- A move between shorter paths keeps the places. -/
theorem oldPlaces_replaceAll_move {other : Move} (hpaths : other.hasPaths = true)
    (hold : other.old.length < move.old.length) (hnew : other.new.length < move.old.length)
    (context : Context) (text : List Char) :
    oldPlaces (other.rule.replaceAll context text) = oldPlaces text := by
  refine (Move.replaces hpaths context).weight_replaceAll ?_ ?_ text
  · rintro before word after ⟨quote, path, quote', hquote, hquote', -, rfl⟩
    rw [oldPlaces_around_importText hquote hquote', oldPlaces_importText hquote hquote']
  · rintro word ⟨quote, hquote, quote', hquote', rfl⟩
    rw [Move.target, oldPlaces_importText (Move.isQuote_of_mem_quotes hquote)
      (Move.isQuote_of_mem_quotes hquote'), oldPlaces_importText rfl rfl, oldPlaces_of_short hold,
      oldPlaces_of_short hnew]

/-- On a line the rule moves one import from the old path, or none. -/
theorem LineMoved.oldPlaces_add_count {line out : List Char} {count : Nat}
    (h : LineMoved line out count) : oldPlaces out + count = oldPlaces line := by
  cases h with
  | kept => rfl
  | @moved before last after _ _ _ hlast _ =>
    obtain ⟨quote, hquote, quote', hquote', rfl⟩ := hlast
    have hold : oldPlaces move.old = 1 := placesOf_self old_ne_nil
    have hnew : oldPlaces move.new = 0 := oldPlaces_of_short (by simp [move, Move.old, Move.new])
    have hline : ∀ word,
        before ++ (' ' :: word ++ after) = (before ++ [' ']) ++ (word ++ after) := by
      simp
    rw [hline, hline, Move.target, oldPlaces_around_importText rfl rfl,
      oldPlaces_around_importText (Move.isQuote_of_mem_quotes hquote)
        (Move.isQuote_of_mem_quotes hquote'), hold, hnew]
    omega

/-- **Every match of the rule takes one place away.** -/
theorem oldPlaces_replaceAll (context : Context) (text : List Char) :
    oldPlaces (rule.replaceAll context text) + rule.occurrences text = oldPlaces text := by
  have hmoved := textMoved context text
  generalize rule.replaceAll context text = out, rule.occurrences text = count at hmoved
  induction hmoved with
  | line hline => exact hline.oldPlaces_add_count
  | @lines line out rest out' count count' hline hrest ih =>
    have hnewline : '\n' ∉ move.old := by simp [move, Move.old]
    rw [oldPlaces_around_char hnewline, oldPlaces_around_char hnewline, ← ih,
      ← hline.oldPlaces_add_count]
    omega

end TableImport

/-! ## §3. Passes of a registry. -/

namespace Registry

/-- The text that a pass starts from: the content at first, then what the pass before has left. -/
def textBefore (registry : Registry) (contexts : Nat → Context) (content : String) : Nat → String
  | 0 => content
  | pass + 1 =>
    (registry.substitute (contexts pass) (registry.textBefore contexts content pass)).1

/-- The changes that a pass notes. -/
def changesAt (registry : Registry) (contexts : Nat → Context) (content : String) (pass : Nat) :
    List Change :=
  (registry.substitute (contexts pass) (registry.textBefore contexts content pass)).2

section Passes

variable {registry : Registry} {contexts : Nat → Context} {content : String} {pass : Nat}

theorem toList_textBefore_succ : (registry.textBefore contexts content (pass + 1)).toList =
    (substituteAll (contexts pass) registry.rules
      (registry.textBefore contexts content pass).toList).1 :=
  String.toList_ofList

variable (h : ∀ context, registry.rules.Pairwise (Independent context))
include h

/-- A pass of independent rules notes what they find in the text before it. -/
theorem changesAt_of_independent : registry.changesAt contexts content pass =
    registry.rules.filterMap (·.noted? (registry.textBefore contexts content pass).toList) :=
  changes_of_independent (h (contexts pass)) _

/-- A pass that notes no change is followed by such passes only, whatever their contexts are. -/
theorem changesAt_stays (hquiet : registry.changesAt contexts content pass = []) :
    registry.changesAt contexts content (pass + 1) = [] := by
  have hsame : registry.textBefore contexts content (pass + 1) =
      registry.textBefore contexts content pass :=
    Registry.substitute_of_no_change hquiet
  rw [changesAt_of_independent h] at hquiet ⊢
  rw [hsame, hquiet]

end Passes

end Registry

namespace Presets

open TableImport (oldPlaces)

/-! ## §4. One pass of the preset. -/

/-- The rule of the table component may as well stand first. -/
theorem substituteAll_planning (context : Context) (text : List Char) :
    (substituteAll context planningRules text).1 =
      (substituteAll context ((planningMovesBefore ++ planningMovesAfter).map Move.rule)
        (TableImport.rule.replaceAll context text)).1 := by
  have hperm : planningRules.Perm
      (TableImport.rule :: (planningMovesBefore ++ planningMovesAfter).map Move.rule) := by
    rw [List.map_append]
    exact List.perm_middle
  rw [substituteAll_perm (independent_planning context) hperm, substituteAll_cons]

theorem oldPlaces_substituteAll_moves {moves : List Move}
    (hpaths : ∀ move ∈ moves, move.hasPaths = true)
    (hshort : ∀ move ∈ moves, move.old.length < TableImport.move.old.length ∧
      move.new.length < TableImport.move.old.length) (context : Context) (text : List Char) :
    oldPlaces (substituteAll context (moves.map Move.rule) text).1 = oldPlaces text := by
  induction moves generalizing text with
  | nil => rfl
  | cons move moves ih =>
    obtain ⟨hold, hnew⟩ := hshort move (.head _)
    rw [List.map_cons, substituteAll_cons, ih (fun other hother => hpaths other (.tail _ hother))
      fun other hother => hshort other (.tail _ hother)]
    exact TableImport.oldPlaces_replaceAll_move (hpaths move (.head _)) hold hnew context text

/-- **A pass takes as many places of the table's path away as its rule has matches.** -/
theorem oldPlaces_pass (context : Context) (text : List Char) :
    oldPlaces (substituteAll context planningRules text).1 + TableImport.rule.occurrences text =
      oldPlaces text := by
  have hshort : ∀ move ∈ planningMovesBefore ++ planningMovesAfter,
      move.old.length < TableImport.move.old.length ∧
        move.new.length < TableImport.move.old.length := by
    simp [planningMovesBefore, planningMovesAfter, TableImport.move, Move.old, Move.new]
  rw [substituteAll_planning, oldPlaces_substituteAll_moves
    (fun move hmove => hasPaths_of_areSettled areSettled_planning hmove) hshort,
    TableImport.oldPlaces_replaceAll]

/-- A rule that has no match in a text has none after a pass either. -/
theorem occurrences_pass_eq_zero {rule : Rule} (hrule : rule ∈ planningRules) {text : List Char}
    (h : rule.occurrences text = 0) (context : Context) :
    rule.occurrences (substituteAll context planningRules text).1 = 0 := by
  have hsame : rule.replaceAll context text = text := by
    rw [← Rule.substitute_fst, Rule.substitute_of_no_match (List.length_eq_zero_iff.1 h)]
  rw [occurrences_after_all (independent_planning context) hrule, hsame, h]

/-- After a pass the moves have no match. -/
theorem occurrences_move_pass {move : Move}
    (hmove : move ∈ planningMovesBefore ++ planningMovesAfter) (context : Context)
    (text : List Char) :
    move.rule.occurrences (substituteAll context planningRules text).1 = 0 := by
  have hrule : move.rule ∈ planningRules := mem_planningRules.2 (.inr ⟨move, hmove, rfl⟩)
  rw [occurrences_after_all (independent_planning context) hrule]
  exact occurrences_replaceAll_of_areSettled areSettled_planning hmove context text

/-- Where the moves have no match, only the rule of the table component notes a change. -/
theorem filterMap_noted_planning {text : List Char}
    (h : ∀ move ∈ planningMovesBefore ++ planningMovesAfter, move.rule.occurrences text = 0) :
    planningRules.filterMap (·.noted? text) = (TableImport.rule.noted? text).toList := by
  have hnone : ∀ moves ⊆ planningMovesBefore ++ planningMovesAfter,
      (moves.map Move.rule).filterMap (·.noted? text) = [] := by
    intro moves hmoves
    refine List.filterMap_eq_nil_iff.2 fun rule hrule => ?_
    obtain ⟨move, hmove, rfl⟩ := List.mem_map.1 hrule
    rw [Rule.noted?, if_pos (h move (hmoves hmove))]
  rw [planningRules, List.filterMap_append, List.filterMap_cons,
    hnone _ (List.subset_append_left _ _), hnone _ (List.subset_append_right _ _)]
  cases TableImport.rule.noted? text with
  | none => rfl
  | some change => rfl

/-! ## §5. Passes of the preset. -/

/-- The registry of the preset. -/
def planningRegistry : Registry := { name := "planning", rules := planningRules }

section Passes

variable {contexts : Nat → Context} {content : String} {pass : Nat}

theorem changesAt_planning_succ : planningRegistry.changesAt contexts content (pass + 1) =
    (TableImport.rule.noted?
      (planningRegistry.textBefore contexts content (pass + 1)).toList).toList := by
  rw [Registry.changesAt_of_independent independent_planning]
  refine filterMap_noted_planning fun move hmove => ?_
  rw [Registry.toList_textBefore_succ]
  exact occurrences_move_pass hmove _ _

/-- As long as there are imports of the table to move, every pass has taken a place of its path
    away. -/
theorem oldPlaces_textBefore
    (h : TableImport.rule.occurrences
      (planningRegistry.textBefore contexts content pass).toList ≠ 0) :
    pass + oldPlaces (planningRegistry.textBefore contexts content pass).toList ≤
      oldPlaces content.toList := by
  induction pass with
  | zero => exact Nat.le_of_eq (Nat.zero_add _)
  | succ pass ih =>
    rw [Registry.toList_textBefore_succ] at h ⊢
    have hbefore : TableImport.rule.occurrences
        (planningRegistry.textBefore contexts content pass).toList ≠ 0 :=
      fun hzero => h (occurrences_pass_eq_zero (mem_planningRules.2 (.inl rfl)) hzero _)
    have hpass := oldPlaces_pass (contexts pass)
      (planningRegistry.textBefore contexts content pass).toList
    have hsum := ih hbefore
    change _ + oldPlaces (substituteAll (contexts pass) planningRules _).1 ≤ _
    omega

/-- A pass after the first that notes a change is one of as many as there are places at the
    start. -/
theorem lt_oldPlaces_of_changesAt
    (h : planningRegistry.changesAt contexts content (pass + 1) ≠ []) :
    pass + 1 < oldPlaces content.toList := by
  have hmoved : TableImport.rule.occurrences
      (planningRegistry.textBefore contexts content (pass + 1)).toList ≠ 0 := by
    intro hzero
    rw [changesAt_planning_succ, Rule.noted?, if_pos hzero] at h
    exact h rfl
  have hsum := oldPlaces_textBefore hmoved
  have hpass := oldPlaces_pass (contexts (pass + 1))
    (planningRegistry.textBefore contexts content (pass + 1)).toList
  omega

end Passes

/-- **Main.**  The preset applied again and again settles: there is a first pass that notes no
    change, after at most as many passes as the old path of the table has places in the content, or
    after one, and no pass from there on notes any.  Every pass but the first notes imports of the
    table component only, or nothing. -/
theorem planning_settles (contexts : Nat → Context) (content : String) :
    ∃ registry, load "planning" = .ok registry ∧
      ∃ passes,
        passes ≤ max 1 (placesOf "../components/planning/GeneratedPlanningTable".toList
          content.toList) ∧
        (∀ pass, registry.changesAt contexts content pass = [] ↔ passes ≤ pass) ∧
        ∀ pass, 0 < pass → registry.changesAt contexts content pass = [] ∨
          ∃ count, registry.changesAt contexts content pass =
            [{ description := "GeneratedPlanningTable component", count }] := by
  refine ⟨planningRegistry, load_planning, ?_⟩
  have hbound : planningRegistry.changesAt contexts content
      (max 1 (oldPlaces content.toList)) = [] := by
    obtain ⟨pass, hpass⟩ := Nat.exists_eq_add_of_le' (Nat.le_max_left 1 (oldPlaces content.toList))
    have hle := Nat.le_max_right 1 (oldPlaces content.toList)
    rw [hpass] at hle ⊢
    by_contra hchanges
    exact Nat.not_lt.2 hle (lt_oldPlaces_of_changesAt hchanges)
  have hquiet : ∃ pass, planningRegistry.changesAt contexts content pass = [] := ⟨_, hbound⟩
  refine ⟨Nat.find hquiet, Nat.find_min' hquiet hbound, fun pass => ⟨Nat.find_min' hquiet, ?_⟩, ?_⟩
  · intro hle
    induction hle with
    | refl => exact Nat.find_spec hquiet
    | step _ ih => exact Registry.changesAt_stays independent_planning ih
  · intro pass hpos
    obtain ⟨pass, rfl⟩ := Nat.exists_eq_add_of_le' hpos
    rw [changesAt_planning_succ, Rule.noted?]
    split
    · exact .inl rfl
    · exact .inr ⟨_, rfl⟩

end Presets

end Reroute
