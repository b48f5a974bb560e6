/-
  Reroute.Proofs.MoveOrder — moves in any order.

  Imports do not overlap (`apart_imports`), and a move replaces the imports from its old path by
  another one (`Move.replaces`).  So moves from different paths, none of which matches what one of
  them writes, are pairwise independent (`independent_moves`).

  A move leaves the lines of a text as they are, and so it does with the word that opens an import
  and with the imports that it neither matches nor writes (`Move.landmark_newline`,
  `Move.landmark_opening`, `Move.landmark_blank_import`).
-/
import Mathlib.Data.Bool.AllAny
import Reroute.Proofs.Moves
import Reroute.Proofs.Replacement

namespace Reroute

/-! ## §1. Imports as a family of words. -/

section Imports

variable {word other : List Char}

theorem IsImport.ne_nil (h : IsImport word) : word ≠ [] := by
  have hlength := h.length_ge
  rintro rfl
  cases hlength

theorem IsImport.head (h : IsImport word) : word[0]? = some 'f' := by
  obtain ⟨quote, path, quote', -, -, -, rfl⟩ := h
  rfl

theorem IsImport.noOverlap (h : IsImport word) (h' : IsImport other) : NoOverlap word other :=
  .of_places (import_unique h h') (imports_apart h h') (imports_apart h' h)

theorem apart_imports : Apart IsImport :=
  ⟨IsImport.ne_nil, IsImport.noOverlap⟩

/-- An import ends with a quote, so not with a blank. -/
theorem IsImport.ne_append_blank (h : IsImport word) (start : List Char) :
    word ≠ start ++ [' '] := by
  rintro rfl
  obtain ⟨c, hlast, hquote⟩ := h.last_quote
  rw [← List.getLast?_eq_getElem?, List.getLast?_concat] at hlast
  cases hlast
  cases hquote

/-- A blank before an import that ends a text belongs to the gap before it. -/
theorem IsImport.exists_gap_blank (h : IsImport word) {before before' gap : List Char}
    (heq : before' ++ [' '] = before ++ (word ++ gap)) :
    ∃ gap', gap = gap' ++ [' '] ∧ before' = before ++ (word ++ gap') := by
  rcases List.eq_nil_or_concat gap with rfl | ⟨gap', c, rfl⟩
  · rw [List.append_nil] at heq
    rcases List.eq_nil_or_concat word with rfl | ⟨start, c, rfl⟩
    · exact absurd rfl h.ne_nil
    · rw [List.concat_eq_append, ← List.append_assoc] at heq
      obtain ⟨-, hlast⟩ := List.append_inj' heq rfl
      cases hlast
      exact absurd (List.concat_eq_append) (h.ne_append_blank start)
  · rw [List.concat_eq_append, ← List.append_assoc word, ← List.append_assoc before] at heq
    obtain ⟨hbefore, hlast⟩ := List.append_inj' heq rfl
    cases hlast
    exact ⟨gap', List.concat_eq_append, hbefore⟩

/-- An import does not overlap a blank and another import. -/
theorem IsImport.noOverlap_blank (h : IsImport word) (h' : IsImport other) (hne : word ≠ other) :
    NoOverlap word (' ' :: other) := by
  intro before after before' after' heq
  have hplaces : before ++ (word ++ after) = (before' ++ [' ']) ++ (other ++ after') := by
    simp [heq]
  rcases h.noOverlap h' _ _ _ _ hplaces with ⟨-, hword, -⟩ | ⟨gap, hgap, rfl⟩ | ⟨gap, rfl, rfl⟩
  · exact absurd hword hne
  · obtain ⟨gap', rfl, rfl⟩ := h.exists_gap_blank hgap
    exact .inr (.inl ⟨gap', rfl, by simp⟩)
  · exact .inr (.inr ⟨gap, by simp, rfl⟩)

/-- Blanks with an import behind them do not overlap. -/
theorem IsImport.blanks_noOverlap (h : IsImport word) (h' : IsImport other) :
    NoOverlap (' ' :: word) (' ' :: other) := by
  intro before after before' after' heq
  have hplaces : (before ++ [' ']) ++ (word ++ after) =
      (before' ++ [' ']) ++ (other ++ after') := by
    simpa using heq
  rcases h.noOverlap h' _ _ _ _ hplaces with
    ⟨hbefore, rfl, rfl⟩ | ⟨gap, hgap, rfl⟩ | ⟨gap, hgap, rfl⟩
  · exact .inl ⟨List.append_cancel_right hbefore, rfl, rfl⟩
  · obtain ⟨gap', rfl, rfl⟩ := h.exists_gap_blank hgap
    exact .inr (.inl ⟨gap', by simp, by simp⟩)
  · obtain ⟨gap', rfl, rfl⟩ := h'.exists_gap_blank hgap
    exact .inr (.inr ⟨gap', by simp, by simp⟩)

/-- The word that opens an import, and a blank. -/
def importOpening : List Char := ['i', 'm', 'p', 'o', 'r', 't', ' ']

/-- The opening word does not overlap the text of an import. -/
theorem IsImport.noOverlap_opening (h : IsImport word) : NoOverlap word importOpening := by
  have hnoQuote : ∀ c ∈ importOpening, isQuote c = false := List.all_iff_forall_prop.1 rfl
  have hlength := h.length_ge
  have hopening : importOpening.length = 7 := rfl
  refine .of_places ?_ ?_ ?_
  · intro text i hword hmark
    have hhead := h.head
    rw [getElem?_of_prefix_drop hword (by omega), ← getElem?_of_prefix_drop hmark (by omega)]
      at hhead
    cases hhead
  · intro text i j hword hmark hlt
    refine Nat.le_of_not_lt fun hoverlap => ?_
    by_cases hinside : j + 6 < i + word.length
    · -- the blank of the opening word would be one of the import
      have hblank : word[j + 6 - i]? = some ' ' := by
        have hmarkBlank : importOpening[6]? = some ' ' := rfl
        rw [getElem?_of_prefix_drop hword (by omega), ← hmarkBlank,
          getElem?_of_prefix_drop hmark (by omega)]
        congr 1
        omega
      have heq := h.blank_unique hblank
      omega
    · -- the quote that closes the import would stand in the opening word
      obtain ⟨c, hlast, hquote⟩ := h.last_quote
      have hmarkQuote : importOpening[i + (word.length - 1) - j]? = some c := by
        rw [getElem?_of_prefix_drop hmark (by omega), ← hlast,
          getElem?_of_prefix_drop hword (by omega)]
        congr 1
        omega
      rw [hnoQuote c (List.mem_of_getElem? hmarkQuote)] at hquote
      cases hquote
  · intro text i j hmark hword hlt
    refine Nat.le_of_not_lt fun hoverlap => ?_
    have hhead : importOpening[j - i]? = some 'f' := by
      rw [getElem?_of_prefix_drop hmark (by omega), ← h.head,
        getElem?_of_prefix_drop hword (by omega)]
      congr 1
      omega
    have hmem := List.mem_of_getElem? hhead
    revert hmem
    decide

theorem importText_inj {quote quote' other other' : Char} {path path' : List Char}
    (h : importText quote path quote' = importText other path' other') : path = path' := by
  simp only [importText, List.append_cancel_left_eq, List.cons.injEq] at h
  exact (List.append_inj' h.2 rfl).1

theorem newline_not_mem_importText {quote quote' : Char} {path : List Char}
    (hquote : isQuote quote = true) (hquote' : isQuote quote' = true) (hpath : '\n' ∉ path) :
    '\n' ∉ importText quote path quote' := by
  have hne : ∀ {c : Char}, isQuote c = true → '\n' ≠ c := by
    rintro c hc rfl
    cases hc
  simp only [importText, List.mem_append, List.mem_cons, List.not_mem_nil, or_false, not_or]
  exact ⟨by decide, hne hquote, hpath, hne hquote'⟩

end Imports

/-! ## §2. Moves replace imports. -/

namespace Move

variable {move other : Move}

theorem replaces (h : move.hasPaths = true) (context : Context) :
    move.rule.Replaces context IsImport move.Matches move.target where
  isRead := move.isRead_pattern
  spansWords := ⟨spans_iff⟩
  expansion_eq text m := congrFun (move.expansion_rule context text) m
  apart := apart_imports
  isWord_of_isMatch hword := hword.isImport h
  isWord_target := isImport_target h

/-- An import tells from which path it is. -/
theorem Matches.old_eq {word : List Char} (h : move.Matches word) (h' : other.Matches word) :
    move.old = other.old := by
  obtain ⟨quote, -, quote', -, rfl⟩ := h
  obtain ⟨_, -, _, -, heq⟩ := h'
  exact importText_inj heq

/-! ## §3. Landmarks of a move. -/

variable {landmark : List Char}

/-- A text that overlaps no import from the two paths of the move, and is none. -/
theorem landmark_of_imports (h : move.hasPaths = true) (hne : landmark ≠ [])
    (himports : ∀ word, IsImport word → move.Matches word ∨ word = move.target →
      NoOverlap word landmark ∧ word ≠ landmark) :
    Landmark move.Matches move.target landmark := by
  have hall : ∀ {word}, move.Matches word ∨ word = move.target →
      NoOverlap word landmark ∧ word ≠ landmark := by
    intro word hword
    refine himports word ?_ hword
    rcases hword with hword | rfl
    · exact hword.isImport h
    · exact isImport_target h
  exact ⟨hne, fun hword => (hall hword).1, fun hword => (hall hword).2⟩

theorem landmark_newline (h : move.hasPaths = true) (hold : '\n' ∉ move.old)
    (hnew : '\n' ∉ move.new) : Landmark move.Matches move.target ['\n'] := by
  refine landmark_of_imports h (List.cons_ne_nil _ _) fun word himport hword => ?_
  have hnewline : '\n' ∉ word := by
    rcases hword with ⟨quote, hquote, quote', hquote', rfl⟩ | rfl
    · exact newline_not_mem_importText (isQuote_of_mem_quotes hquote)
        (isQuote_of_mem_quotes hquote') hold
    · exact newline_not_mem_importText rfl rfl hnew
  refine ⟨noOverlap_char hnewline, ?_⟩
  rintro rfl
  exact hnewline (.head _)

theorem landmark_opening (h : move.hasPaths = true) :
    Landmark move.Matches move.target importOpening := by
  refine landmark_of_imports h (List.cons_ne_nil _ _) fun word himport _ => ?_
  refine ⟨himport.noOverlap_opening, ?_⟩
  rintro rfl
  cases himport.head

theorem landmark_blank_import (h : move.hasPaths = true) {word : List Char}
    (hword : IsImport word) (hmatch : ¬ move.Matches word) (htarget : word ≠ move.target) :
    Landmark move.Matches move.target (' ' :: word) := by
  refine landmark_of_imports h (List.cons_ne_nil _ _) fun other hother hor => ?_
  have hne : other ≠ word := by
    rintro rfl
    rcases hor with hmatch' | rfl
    · exact hmatch hmatch'
    · exact htarget rfl
  refine ⟨hother.noOverlap_blank hword hne, ?_⟩
  rintro rfl
  cases hother.head

end Move

/-! ## §4. Lists of moves. -/

theorem hasPaths_of_areSettled {moves : List Move} (h : areSettled moves = true) {move : Move}
    (hmove : move ∈ moves) : move.hasPaths = true := by
  simp only [areSettled, List.all_eq_true, Bool.and_eq_true] at h
  exact (h move hmove).1

/-- A move of a settled list finds nothing in its own result. -/
theorem occurrences_replaceAll_of_areSettled {moves : List Move} (h : areSettled moves = true)
    {move : Move} (hmove : move ∈ moves) (context : Context) (text : List Char) :
    move.rule.occurrences (move.rule.replaceAll context text) = 0 :=
  (Move.replaces (hasPaths_of_areSettled h hmove) context).occurrences_replaceAll
    (not_matches_target h hmove hmove) text

/-- **Main.**  The moves of a settled list, each from a path of its own, are independent. -/
theorem independent_moves {moves : List Move} (h : areSettled moves = true)
    (hdistinct : (moves.map Move.old).Nodup) (context : Context) :
    (moves.map Move.rule).Pairwise (Independent context) := by
  have hpairs : moves.Pairwise fun move other => move.old ≠ other.old :=
    List.pairwise_map.1 hdistinct
  refine List.pairwise_map.2 (hpairs.imp_of_mem fun {move other} hmove hother hne => ?_)
  exact (Move.replaces (hasPaths_of_areSettled h hmove) context).independent
    (Move.replaces (hasPaths_of_areSettled h hother) context)
    (fun word hword hword' => hne (hword.old_eq hword'))
    (not_matches_target h hother hmove) (not_matches_target h hmove hother)

end Reroute
