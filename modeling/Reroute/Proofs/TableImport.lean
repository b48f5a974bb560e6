/-
  Reroute.Proofs.TableImport — the rule of `planning` for the imports of its table.

  The pattern of this rule takes the clause of an import into a greedy group: all of the line from
  `import ` up to the last import text from the old path.  So on every line the rule moves the last
  of these texts, if `import ` stands before it, and leaves the others (`LineMoved`, `TextMoved`,
  `textMoved`).

  Two facts follow.  The rule is independent of every move between other paths
  (`independent_move`): such a move leaves the lines, the opening words and the import texts of the
  table where they are.  And after the rule there is an import of the table left exactly if a line
  of the text had two of them behind an opening word (`occurrences_replaceAll_iff`).
-/
import Mathlib.Data.List.Infix
import Reroute.Proofs.MoveOrder
import Reroute.Proofs.Pattern.Captured

namespace Reroute.TableImport

open Pattern

/-! ## §1. The rule and its pattern. -/

/-- The move of the table without regard to what stands before it. -/
def move : Move :=
  .relocate "../components/planning/GeneratedPlanningTable" "../components/GeneratedPlanningTable"
    "GeneratedPlanningTable component"

/-- The pattern: the opening word, the clause on the same line, and the import text. -/
def pattern : Pattern :=
  { source := Presets.tableImport.pattern
    node := capturedBetween (importOpening.map .single) (.compl (.single '\n'))
      (.single ' ' :: move.sets) }

/-- The rule. -/
def rule : Rule := Presets.tableImport.toRule pattern

/-- An import of the table on one line: the opening word, the clause, and the import text behind a
    blank. -/
def IsTableImport (word : List Char) : Prop :=
  ∃ clause last, '\n' ∉ clause ∧ move.Matches last ∧
    word = importOpening ++ (clause ++ ' ' :: last)

theorem parse_definition : Pattern.parse Presets.tableImport.pattern = .ok pattern := by
  have hnode : Node.parse Presets.tableImport.pattern.toList = .ok pattern.node := by
    decide +kernel
  rw [Pattern.parse, hnode]
  rfl

theorem isRead_pattern : pattern.IsRead :=
  isRead_parse parse_definition

theorem areSettled_move : areSettled [move] = true := by
  decide +kernel

theorem hasPaths_move : move.hasPaths = true :=
  hasPaths_of_areSettled areSettled_move (.head _)

theorem newline_not_mem {last : List Char} (h : move.Matches last) : '\n' ∉ last := by
  obtain ⟨quote, hquote, quote', hquote', rfl⟩ := h
  exact newline_not_mem_importText (Move.isQuote_of_mem_quotes hquote)
    (Move.isQuote_of_mem_quotes hquote') (by simp [move, Move.old])

theorem not_matches_target : ¬ move.Matches move.target :=
  Reroute.not_matches_target areSettled_move (.head _) (.head _)

theorem mem_clauseSet {c : Char} :
    (CharSet.compl (.single '\n')).mem c = true ↔ c ≠ '\n' := by
  show (!(CharSet.single '\n').mem c) = true ↔ _
  rw [Bool.not_eq_true', ← Bool.not_eq_true, CharSet.mem_single]

theorem spells_tail {word : List Char} :
    Spells (.single ' ' :: move.sets) word ↔ ∃ last, move.Matches last ∧ word = ' ' :: last := by
  constructor
  · intro hex
    obtain ⟨c, last, rfl, hc, hlast⟩ := hex
    obtain rfl := CharSet.mem_single.1 hc
    exact ⟨last, Move.spells_sets.1 hlast, rfl⟩
  · intro hex
    obtain ⟨last, hlast, rfl⟩ := hex
    exact ⟨' ', last, rfl, CharSet.mem_single.2 rfl, Move.spells_sets.2 hlast⟩

section Spans

variable {text : List Char}

theorem spansWords : pattern.SpansWords IsTableImport := by
  have haccepts : ∀ word, pattern.node.Accepts word ↔ IsTableImport word := by
    intro word
    show (capturedBetween _ _ _).Accepts word ↔ _
    rw [accepts_capturedBetween]
    simp only [spells_singles, mem_clauseSet, spells_tail]
    constructor
    · intro hex
      obtain ⟨_, clause, _, rfl, rfl, hclause, last, hlast, rfl⟩ := hex
      exact ⟨clause, last, fun hmem => hclause _ hmem rfl, hlast, rfl⟩
    · intro hex
      obtain ⟨clause, last, hclause, hlast, rfl⟩ := hex
      refine ⟨_, clause, _, rfl, rfl, ?_, last, hlast, rfl⟩
      rintro _ hmem rfl
      exact hclause hmem
  have hplain : pattern.node.isPlain = true := isPlain_capturedBetween
  constructor
  intro text i j
  rw [spans_iff_accepts hplain]
  simp only [haccepts]

theorem IsTableImport.ne_nil {word : List Char} (h : IsTableImport word) : word ≠ [] := by
  obtain ⟨clause, last, -, -, rfl⟩ := h
  exact List.cons_ne_nil _ _

/-- The match at a place has the longest clause, and keeps it. -/
theorem matchAt?_clause (context : Context) {k : Nat} {m : Match}
    (hm : pattern.matchAt? text k = some m) :
    ∃ clause last, '\n' ∉ clause ∧ move.Matches last ∧
      importOpening ++ (clause ++ ' ' :: last) <+: text.drop k ∧
      m.whole = ⟨k, k + (importOpening ++ (clause ++ ' ' :: last)).length⟩ ∧
      rule.expansion context text m = importOpening ++ (clause ++ ' ' :: move.target) ∧
      ∀ clause' last', '\n' ∉ clause' → move.Matches last' →
        importOpening ++ (clause' ++ ' ' :: last') <+: text.drop k →
        clause'.length ≤ clause.length := by
  obtain ⟨first, clause, tail, hfirst, hstands, ⟨hclause, htail, hrun⟩, hwhole, hgroup, hlongest⟩ :=
    matchAt?_captured isRead_pattern rfl (List.cons_ne_nil _ _) hm
  obtain rfl := spells_singles.1 hfirst
  obtain ⟨last, hlast, rfl⟩ := spells_tail.1 htail
  refine ⟨clause, last, fun hmem => mem_clauseSet.1 (hclause _ hmem) rfl, hlast,
    append_prefix_drop.2 ⟨hstands, hrun⟩, hwhole, ?_, ?_⟩
  · -- the group is the clause
    have htext : Template.groupText text m 1 = clause := by
      obtain ⟨after, hafter⟩ := hrun
      rw [Template.groupText, hgroup]
      show (text.drop _).take _ = clause
      rw [Nat.add_sub_cancel_left, ← hafter, List.append_assoc, List.take_left]
    show importOpening ++ (Template.groupText text m 1 ++ (' ' :: move.target ++ [])) = _
    rw [htext, List.append_nil]
  · intro clause' last' hclause' hlast' hstands'
    refine hlongest clause' (' ' :: last') ⟨?_, spells_tail.2 ⟨last', hlast', rfl⟩,
      (append_prefix_drop.1 hstands').2⟩
    intro c hmem
    refine mem_clauseSet.2 ?_
    rintro rfl
    exact hclause' hmem

end Spans

/-- The rule loads at every position of a table. -/
theorem load_definition (index : Nat) : Presets.tableImport.load index = .ok rule := by
  have hempty := spansWords.matchesEmpty_eq_false IsTableImport.ne_nil isRead_pattern
  have hnames : pattern.groupNames = [] := by decide +kernel
  have hcount : pattern.groupCount = 1 := lastGroup_capturedBetween
  have hcheck : Presets.tableImport.replacement.checkAgainst pattern = .ok () := by
    rw [Template.checkAgainst, hnames, if_neg (by simp)]
    show Template.checkSegments pattern [.literal _, .group 1, .literal _] = _
    simp [Template.checkSegments, Template.checkSegment, hcount]
    rfl
  exact RuleDef.load_eq_ok_iff.2 ⟨pattern, parse_definition, hempty, hcheck, rfl⟩

/-! ## §2. Lines. -/

/-- A line after the rule, and the number of its matches: the last import text from the old path is
    moved if the opening word stands before it. -/
inductive LineMoved : (line out : List Char) → (count : Nat) → Prop where
  | kept {line : List Char} (hline : '\n' ∉ line)
      (hnone : ∀ word, IsTableImport word → ¬ word <:+: line) : LineMoved line line 0
  | moved {before last after : List Char} (hbefore : '\n' ∉ before) (hafter : '\n' ∉ after)
      (hopening : importOpening <:+: before) (hlast : move.Matches last)
      (hnone : ∀ word, move.Matches word → ¬ ' ' :: word <:+: after) :
      LineMoved (before ++ (' ' :: last ++ after)) (before ++ (' ' :: move.target ++ after)) 1

/-- A text after the rule, line by line. -/
inductive TextMoved : (text out : List Char) → (count : Nat) → Prop where
  | line {line out : List Char} {count : Nat} (h : LineMoved line out count) :
      TextMoved line out count
  | lines {line out rest out' : List Char} {count count' : Nat} (h : LineMoved line out count)
      (hrest : TextMoved rest out' count') :
      TextMoved (line ++ '\n' :: rest) (out ++ '\n' :: out') (count + count')

theorem IsTableImport.newline_not_mem {word : List Char} (h : IsTableImport word) :
    '\n' ∉ word := by
  obtain ⟨clause, last, hclause, hlast, rfl⟩ := h
  have hnewline := TableImport.newline_not_mem hlast
  simp only [List.mem_append, List.mem_cons, not_or]
  exact ⟨by decide, hclause, by decide, hnewline⟩

/-- An import of the table has its import text behind a blank. -/
theorem IsTableImport.exists_tail {word text : List Char} (h : IsTableImport word)
    (hpart : word <:+: text) : ∃ last, move.Matches last ∧ ' ' :: last <:+: text := by
  obtain ⟨clause, last, -, hlast, rfl⟩ := h
  refine ⟨last, hlast, List.IsInfix.trans ?_ hpart⟩
  rw [← List.append_assoc]
  exact (List.suffix_append _ _).isInfix

theorem blanks_noOverlap {last other : List Char} (h : move.Matches last) (h' : IsImport other) :
    NoOverlap (' ' :: last) (' ' :: other) :=
  (h.isImport hasPaths_move).blanks_noOverlap h'

/-- An import of the table in a line with no import text from the old path behind a certain import:
    it stands before that import or ends with it. -/
theorem IsTableImport.before_or_at {word before last after : List Char} (h : IsTableImport word)
    (hlast : IsImport last) (hnone : ∀ word, move.Matches word → ¬ ' ' :: word <:+: after)
    (hpart : word <:+: before ++ (' ' :: last ++ after)) :
    word <:+: before ∨ (importOpening <:+: before ∧ move.Matches last) := by
  obtain ⟨clause, last', hclause, hlast', rfl⟩ := h
  obtain ⟨start, rest, heq⟩ := hpart
  have hplaces : (start ++ (importOpening ++ clause)) ++ (' ' :: last' ++ rest) =
      before ++ (' ' :: last ++ after) := by
    rw [← heq]
    simp
  rcases blanks_noOverlap hlast' hlast _ _ _ _ hplaces with
    ⟨rfl, hsame, -⟩ | ⟨gap, rfl, -⟩ | ⟨gap, -, rfl⟩
  · refine .inr ⟨⟨start, clause, by simp⟩, ?_⟩
    cases hsame
    exact hlast'
  · exact .inl ⟨start, gap, by simp⟩
  · exact absurd ⟨gap, rest, by simp⟩ (hnone last' hlast')

/-- A line has a last import text from the old path behind a blank, or none. -/
theorem exists_last_or_none (line : List Char) :
    (∀ word, move.Matches word → ¬ ' ' :: word <:+: line) ∨
      ∃ before last after, line = before ++ (' ' :: last ++ after) ∧ move.Matches last ∧
        ∀ word, move.Matches word → ¬ ' ' :: word <:+: after := by
  induction hlength : line.length using Nat.strongRecOn generalizing line with
  | ind length ih =>
    by_cases hex : ∃ word, move.Matches word ∧ ' ' :: word <:+: line
    · obtain ⟨word, hword, before, after, rfl⟩ := hex
      refine .inr ?_
      have hlt : after.length < length := by
        rw [← hlength]
        simp
        omega
      -- the last one stands behind this one, or this is the last one
      rcases ih after.length hlt after rfl with hnone | ⟨before', last, after', rfl, hlast, hnone⟩
      · exact ⟨before, word, after, List.append_assoc _ _ _, hword, hnone⟩
      · exact ⟨before ++ (' ' :: word ++ before'), last, after', by simp, hlast, hnone⟩
    · exact .inl fun word hword hpart => hex ⟨word, hword, hpart⟩

theorem exists_lineMoved {line : List Char} (hline : '\n' ∉ line) :
    ∃ out count, LineMoved line out count := by
  rcases exists_last_or_none line with hnone | ⟨before, last, after, rfl, hlast, hnone⟩
  · refine ⟨line, 0, .kept hline fun word hword hpart => ?_⟩
    obtain ⟨last, hlast, htail⟩ := hword.exists_tail hpart
    exact hnone last hlast htail
  · simp only [List.mem_append, not_or] at hline
    by_cases hopening : importOpening <:+: before
    · exact ⟨_, 1, .moved hline.1 hline.2.2 hopening hlast hnone⟩
    · refine ⟨_, 0, .kept (by simpa using hline) fun word hword hpart => hopening ?_⟩
      rcases hword.before_or_at (hlast.isImport hasPaths_move) hnone hpart with hbefore | hat
      · obtain ⟨clause, last', -, -, rfl⟩ := hword
        exact (List.prefix_append _ _).isInfix.trans hbefore
      · exact hat.1

theorem exists_textMoved (text : List Char) : ∃ out count, TextMoved text out count := by
  induction hlength : text.length using Nat.strongRecOn generalizing text with
  | ind length ih =>
    by_cases hnewline : '\n' ∈ text
    · obtain ⟨line, rest, rfl, hline⟩ := List.eq_append_cons_of_mem hnewline
      obtain ⟨out, count, hout⟩ := exists_lineMoved hline
      have hlt : rest.length < length := by
        rw [← hlength]
        simp
        omega
      obtain ⟨out', count', hout'⟩ := ih rest.length hlt rest rfl
      exact ⟨_, _, .lines hout hout'⟩
    · obtain ⟨out, count, hout⟩ := exists_lineMoved hnewline
      exact ⟨out, count, .line hout⟩

/-! ## §3. The rule line by line. -/

/-- A text without line ends that stands at the start of a line lies within the line. -/
theorem prefix_line {word line rest : List Char} (hword : '\n' ∉ word)
    (hrest : ∀ c, rest.head? = some c → c = '\n') (h : word <+: line ++ rest) : word <+: line := by
  obtain ⟨after, heq⟩ := h
  rcases List.append_eq_append_iff.1 heq with ⟨gap, rfl, -⟩ | ⟨gap, rfl, rfl⟩
  · exact List.prefix_append word gap
  · cases gap with
    | nil => simp
    | cons c gap =>
      obtain rfl := hrest c rfl
      exact absurd (by simp) hword

section Walk

variable {text line rest : List Char} {place : Nat}
  (hrest : ∀ c, rest.head? = some c → c = '\n') (htext : text.drop place = line ++ rest)
include hrest htext

/-- A match that starts in a line is an import of the table in that line. -/
theorem exists_of_startsAt {k : Nat} (hk : place ≤ k) (hlt : k < place + line.length)
    (h : pattern.StartsAt text k) :
    ∃ word, IsTableImport word ∧ word <+: line.drop (k - place) := by
  obtain ⟨word, hword, hstands⟩ := spansWords.startsAt_iff.1 h
  refine ⟨word, hword, prefix_line hword.newline_not_mem hrest ?_⟩
  rw [← Nat.add_sub_cancel' hk, ← List.drop_drop, htext,
    List.drop_append_of_le_length (by omega)] at hstands
  exact hstands

/-- A line without an import of the table is passed over. -/
theorem pass_line (expansion : Match → List Char)
    (hnone : ∀ word, IsTableImport word → ¬ word <:+: line) {last : Option Nat}
    {found : List Match} (hfound : Iterates pattern text place last found) :
    Iterates pattern text (place + line.length) last found ∧
      splice expansion place (text.drop place) found =
        line ++ splice expansion (place + line.length) (text.drop (place + line.length)) found := by
  have hpassed : ∀ k, place ≤ k → k < place + line.length → ¬ pattern.StartsAt text k := by
    intro k hk hlt hstarts
    obtain ⟨word, hword, hstands⟩ := exists_of_startsAt hrest htext hk hlt hstarts
    exact hnone word hword (hstands.isInfix.trans (List.drop_suffix _ _).isInfix)
  obtain ⟨hfound', hsplice⟩ := hfound.pass isRead_pattern expansion (Nat.le_add_right _ _) hpassed
  refine ⟨hfound', ?_⟩
  rw [hsplice, Nat.add_sub_cancel_left, htext, List.take_left]

end Walk

section Walk

variable {text before tail after rest : List Char} {place : Nat}
  (hrest : ∀ c, rest.head? = some c → c = '\n')
  (htext : text.drop place = (before ++ (' ' :: tail ++ after)) ++ rest)
  (hbefore : '\n' ∉ before) (htail : move.Matches tail)
include hrest htext hbefore htail

/-- The match that starts at an opening word ends with the last import text of the line. -/
theorem match_of_line (context : Context)
    (hnone : ∀ word, move.Matches word → ¬ ' ' :: word <:+: after) {k : Nat} {m : Match}
    (hk : k ≤ before.length) (hm : pattern.matchAt? text (place + k) = some m) :
    ∃ start clause, start.length = k ∧ before = start ++ (importOpening ++ clause) ∧
      m.whole = ⟨place + k, place + (before ++ ' ' :: tail).length⟩ ∧
      rule.expansion context text m = importOpening ++ (clause ++ ' ' :: move.target) := by
  obtain ⟨clause, tail', hclause, htail', hstands, hwhole, hexpansion, hlongest⟩ :=
    matchAt?_clause context hm
  obtain ⟨start, before', rfl, rfl⟩ : ∃ start before', before = start ++ before' ∧
      start.length = k :=
    ⟨before.take k, before.drop k, (List.take_append_drop k before).symm, by simp [hk]⟩
  have hhere : text.drop (place + start.length) = (before' ++ (' ' :: tail ++ after)) ++ rest := by
    rw [← List.drop_drop, htext, List.append_assoc, List.append_assoc, List.append_assoc,
      List.drop_left]
    simp
  rw [hhere] at hstands hlongest
  have hword : IsTableImport (importOpening ++ (clause ++ ' ' :: tail')) :=
    ⟨clause, tail', hclause, htail', rfl⟩
  obtain ⟨after', heq⟩ := prefix_line hword.newline_not_mem hrest hstands
  have hplaces : (importOpening ++ clause) ++ (' ' :: tail' ++ after') =
      before' ++ (' ' :: tail ++ after) := by
    rw [← heq]
    simp
  rcases blanks_noOverlap htail' (htail.isImport hasPaths_move) _ _ _ _ hplaces with
    ⟨rfl, htails, -⟩ | ⟨gap, rfl, -⟩ | ⟨gap, -, rfl⟩
  · cases htails
    refine ⟨start, clause, rfl, rfl, ?_, hexpansion⟩
    rw [hwhole]
    simp [Nat.add_assoc]
  · -- the clause up to the last import text would be longer
    have hlonger := hlongest (clause ++ (' ' :: tail' ++ gap)) tail (by simp_all) htail
      ⟨after ++ rest, by simp⟩
    simp only [List.length_append, List.length_cons] at hlonger
    omega
  · exact absurd ⟨gap, after', by simp⟩ (hnone tail' htail')

/-- The next match of a line with an opening word before its last import text. -/
theorem next_match (context : Context) (hopening : importOpening <:+: before)
    (hnone : ∀ word, move.Matches word → ¬ ' ' :: word <:+: after) {last : Option Nat}
    {found : List Match} (hfound : Iterates pattern text place last found) :
    ∃ m others start clause, found = m :: others ∧ before = start ++ (importOpening ++ clause) ∧
      m.whole = ⟨place + start.length, place + (before ++ ' ' :: tail).length⟩ ∧
      rule.expansion context text m = importOpening ++ (clause ++ ' ' :: move.target) ∧
      Iterates pattern text m.whole.stop (some m.whole.stop) others := by
  -- a match starts at the opening word, so the next match starts there or before it
  obtain ⟨start, clause, heq⟩ := hopening
  have hhere : pattern.StartsAt text (place + start.length) := by
    refine spansWords.startsAt_iff.2 ⟨_, ⟨clause, tail, ?_, htail, rfl⟩, after ++ rest, ?_⟩
    · intro hmem
      exact hbefore (heq ▸ List.mem_append_right _ hmem)
    · rw [← List.drop_drop, htext, ← heq]
      simp
  have hbound : place + start.length ≤ text.length := by
    have hlength := congrArg List.length htext
    rw [← heq] at hlength
    simp at hlength
    omega
  obtain ⟨m, others, rfl, hle, hle', hmatch, hothers⟩ :=
    hfound.next_of_startsAt isRead_pattern (spansWords.lt_of_spans IsTableImport.ne_nil)
      (Nat.le_add_right _ _) hbound hhere
  obtain ⟨k, hk⟩ := Nat.exists_eq_add_of_le hle
  rw [hk] at hmatch hle'
  have hkBefore : k ≤ before.length := by
    rw [← heq]
    simp
    omega
  obtain ⟨start', clause', rfl, hsplit, hwhole, hexpansion⟩ :=
    match_of_line hrest htext hbefore htail context hnone hkBefore hmatch
  exact ⟨m, others, start', clause', rfl, hsplit, hwhole, hexpansion, hothers⟩

end Walk

/-- **One line.**  The matches that start in a line are as `LineMoved` says, and the iteration goes
    on behind the line. -/
theorem walk_line {text line out rest : List Char} {place count : Nat}
    (hrest : ∀ c, rest.head? = some c → c = '\n') (htext : text.drop place = line ++ rest)
    (context : Context) (h : LineMoved line out count) {last : Option Nat} {found : List Match}
    (hfound : Iterates pattern text place last found) :
    ∃ last' found', Iterates pattern text (place + line.length) last' found' ∧
      splice (rule.expansion context text) place (text.drop place) found =
        out ++ splice (rule.expansion context text) (place + line.length)
          (text.drop (place + line.length)) found' ∧
      found.length = count + found'.length := by
  cases h with
  | kept hline hnone =>
    obtain ⟨hfound', hsplice⟩ := pass_line hrest htext (rule.expansion context text) hnone hfound
    exact ⟨last, found, hfound', hsplice, (Nat.zero_add _).symm⟩
  | @moved before tail after hbefore hafter hopening htail hnone =>
    obtain ⟨m, others, start, clause, rfl, rfl, hwhole, hexpansion, hothers⟩ :=
      next_match hrest htext hbefore htail context hopening hnone hfound
    -- behind the match the line has no import of the table
    have hpassed : ∀ word, IsTableImport word → ¬ word <:+: after := by
      intro word hword hpart
      obtain ⟨other, hother, hpart'⟩ := hword.exists_tail hpart
      exact hnone other hother hpart'
    have hbehind : text.drop (place + (start ++ (importOpening ++ clause) ++ ' ' :: tail).length) =
        after ++ rest := by
      rw [← List.drop_drop, htext]
      simp
    rw [hwhole] at hothers
    obtain ⟨hothers', hsplice⟩ :=
      pass_line hrest hbehind (rule.expansion context text) hpassed hothers
    have hend : place + (start ++ (importOpening ++ clause) ++ (' ' :: tail ++ after)).length =
        place + (start ++ (importOpening ++ clause) ++ ' ' :: tail).length + after.length := by
      simp only [List.length_append, List.length_cons]
      omega
    refine ⟨_, others, hend ▸ hothers', ?_, Nat.add_comm _ _⟩
    rw [splice, hexpansion, hwhole, List.drop_drop, Nat.add_sub_cancel_left,
      Nat.add_sub_cancel_left, hsplice, hend, htext]
    simp

/-- **All lines.**  The matches from a place on are as `TextMoved` says. -/
theorem splice_of_textMoved {text : List Char} (context : Context) {rest out : List Char}
    {count : Nat} (h : TextMoved rest out count) : ∀ {place : Nat} {last : Option Nat}
    {found : List Match}, text.drop place = rest → Iterates pattern text place last found →
    splice (rule.expansion context text) place (text.drop place) found = out ∧
      found.length = count := by
  induction h with
  | @line line out count h =>
    intro place last found htext hfound
    have hline : text.drop place = line ++ [] := by rw [htext, List.append_nil]
    obtain ⟨last', found', hfound', hsplice, hcount⟩ :=
      walk_line (by simp) hline context h hfound
    have hend : text.drop (place + line.length) = [] := by
      rw [← List.drop_drop, htext, List.drop_length]
    have hnil : found' = [] := by
      refine hfound'.eq_nil isRead_pattern fun k hk hstarts => ?_
      obtain ⟨_, ⟨clause, tail, -, -, rfl⟩, hstands⟩ := spansWords.startsAt_iff.1 hstarts
      rw [← Nat.add_sub_cancel' hk, ← List.drop_drop, hend, List.drop_nil] at hstands
      cases List.prefix_nil.1 hstands
    rw [hsplice, hcount, hnil, hend, splice, List.append_nil]
    exact ⟨rfl, rfl⟩
  | @lines line out rest out' count count' h hrest ih =>
    intro place last found htext hfound
    obtain ⟨last', found', hfound', hsplice, hcount⟩ := walk_line (by simp) htext context h hfound
    have hend : text.drop (place + line.length) = '\n' :: rest := by
      rw [← List.drop_drop, htext, List.drop_left]
    have hnext : text.drop (place + line.length + 1) = rest := by
      rw [← List.drop_drop, hend]
      rfl
    -- no match starts at the end of the line
    have hpassed : ∀ k, place + line.length ≤ k → k < place + line.length + 1 →
        ¬ pattern.StartsAt text k := by
      intro k hk hlt hstarts
      obtain rfl : k = place + line.length := by omega
      obtain ⟨_, ⟨clause, tail, -, -, rfl⟩, after, hstands⟩ := spansWords.startsAt_iff.1 hstarts
      rw [hend] at hstands
      cases hstands
    obtain ⟨hfound'', hsplice'⟩ := hfound'.pass isRead_pattern (rule.expansion context text)
      (Nat.le_add_right _ 1) hpassed
    obtain ⟨heq, hcount'⟩ := ih hnext hfound''
    rw [hsplice, hsplice', heq, hcount, hcount', hend, Nat.add_sub_cancel_left]
    exact ⟨rfl, rfl⟩

theorem eq_of_textMoved (context : Context) {text out : List Char} {count : Nat}
    (h : TextMoved text out count) :
    rule.replaceAll context text = out ∧ rule.occurrences text = count :=
  splice_of_textMoved context h rfl (iterates_allMatches isRead_pattern text)

/-- **What the rule does to a text.** -/
theorem textMoved (context : Context) (text : List Char) :
    TextMoved text (rule.replaceAll context text) (rule.occurrences text) := by
  obtain ⟨out, count, hout⟩ := exists_textMoved text
  obtain ⟨rfl, rfl⟩ := eq_of_textMoved context hout
  exact hout

/-! ## §4. Independence of other moves. -/

/-- The move is between paths other than those of the table, all of them on one line. -/
def isClear (other : Move) : Bool :=
  other.hasPaths && !other.old.contains '\n' && !other.new.contains '\n' &&
    [other.old, other.new].all fun path => path != move.old && path != move.new

section Clear

variable {other : Move} (h : isClear other = true) (context : Context)
include h

theorem hasPaths_of_isClear : other.hasPaths = true := by
  simp only [isClear, Bool.and_eq_true] at h
  exact h.1.1.1

theorem landmark_newline : Landmark other.Matches other.target ['\n'] := by
  have hpaths := hasPaths_of_isClear h
  simp [isClear] at h
  exact Move.landmark_newline hpaths h.1.1.2 h.1.2

/-- The move neither matches nor writes an import from a path of the table. -/
theorem landmark_table {quote quote' : Char} {path : List Char}
    (himport : IsImport (importText quote path quote'))
    (hpath : path = move.old ∨ path = move.new) :
    Landmark other.Matches other.target (' ' :: importText quote path quote') := by
  have hpaths := hasPaths_of_isClear h
  simp [isClear] at h
  refine Move.landmark_blank_import hpaths himport ?_ ?_
  · intro hex
    obtain ⟨_, -, _, -, heq⟩ := hex
    rcases hpath with rfl | rfl
    · exact h.2.1.1 (importText_inj heq).symm
    · exact h.2.1.2 (importText_inj heq).symm
  · intro heq
    rcases hpath with rfl | rfl
    · exact h.2.2.1 (importText_inj heq).symm
    · exact h.2.2.2 (importText_inj heq).symm

theorem landmark_matches {last : List Char} (hlast : move.Matches last) :
    Landmark other.Matches other.target (' ' :: last) := by
  have himport := hlast.isImport hasPaths_move
  obtain ⟨quote, -, quote', -, rfl⟩ := hlast
  exact landmark_table h himport (.inl rfl)

theorem landmark_target : Landmark other.Matches other.target (' ' :: move.target) :=
  landmark_table h (Move.isImport_target hasPaths_move) (.inr rfl)

/-- The move leaves the lines of the table's rule as they are. -/
theorem LineMoved.replaceAll {line out : List Char} {count : Nat}
    (hline : LineMoved line out count) :
    LineMoved (other.rule.replaceAll context line) (other.rule.replaceAll context out) count ∧
      other.rule.occurrences out = other.rule.occurrences line := by
  have hpaths := hasPaths_of_isClear h
  have hreplaces := Move.replaces hpaths context
  have hnewline : ∀ {text}, '\n' ∉ text → '\n' ∉ other.rule.replaceAll context text := by
    intro text hnot hmem
    rw [← List.singleton_infix_iff] at hnot hmem
    exact hnot ((hreplaces.landmark_part_iff (landmark_newline h)).1 hmem)
  cases hline with
  | kept hline hnone =>
    refine ⟨.kept (hnewline hline) fun word hword hpart => ?_, rfl⟩
    obtain ⟨clause, last, -, hlast, rfl⟩ := hword
    obtain ⟨start, rest, heq⟩ := hpart
    -- the import text and the opening word stood there before, and so did an import of the table
    have htail : other.rule.replaceAll context line =
        (start ++ (importOpening ++ clause)) ++ (' ' :: last ++ rest) := by
      rw [← heq]
      simp
    obtain ⟨before, after, rfl, hbefore, -⟩ :=
      hreplaces.exists_landmark (landmark_matches h hlast) htail
    obtain ⟨start', clause', rfl, -, -⟩ :=
      hreplaces.exists_landmark (Move.landmark_opening hpaths) hbefore
    refine hnone (importOpening ++ (clause' ++ ' ' :: last)) ⟨clause', last, ?_, hlast, rfl⟩ ?_
    · intro hmem
      exact hline (by simp [hmem])
    · exact ⟨start', after, by simp⟩
  | @moved before last after hbefore hafter hopening hlast hnone =>
    have haround := hreplaces.around_landmark (landmark_matches h hlast) before after
    have haround' := hreplaces.around_landmark (landmark_target h) before after
    rw [haround.1, haround.2, haround'.1, haround'.2]
    refine ⟨.moved (hnewline hbefore) (hnewline hafter) ?_ hlast fun word hword hpart => ?_, rfl⟩
    · exact (hreplaces.landmark_part_iff (Move.landmark_opening hpaths)).2 hopening
    · exact hnone word hword ((hreplaces.landmark_part_iff (landmark_matches h hword)).1 hpart)

theorem TextMoved.replaceAll {text out : List Char} {count : Nat}
    (htext : TextMoved text out count) :
    TextMoved (other.rule.replaceAll context text) (other.rule.replaceAll context out) count ∧
      other.rule.occurrences out = other.rule.occurrences text := by
  have hreplaces := Move.replaces (hasPaths_of_isClear h) context
  induction htext with
  | line hline =>
    obtain ⟨hline', hcount⟩ := hline.replaceAll h context
    exact ⟨.line hline', hcount⟩
  | @lines line out rest out' count count' hline hrest ih =>
    obtain ⟨hline', hcount⟩ := hline.replaceAll h context
    have haround := hreplaces.around_landmark (landmark_newline h) line rest
    have haround' := hreplaces.around_landmark (landmark_newline h) out out'
    rw [List.singleton_append] at haround haround'
    rw [haround.1, haround.2, haround'.1, haround'.2, hcount, ih.2]
    exact ⟨.lines hline' ih.1, rfl⟩

/-- **The rule is independent of every move between other paths.** -/
theorem independent_move : Independent context rule other.rule where
  commute text := by
    obtain ⟨hmoved, -⟩ := (textMoved context text).replaceAll h context
    exact (eq_of_textMoved context hmoved).1.symm
  keeps_other text := ((textMoved context text).replaceAll h context).2
  keeps text := by
    obtain ⟨hmoved, -⟩ := (textMoved context text).replaceAll h context
    exact (eq_of_textMoved context hmoved).2

end Clear

/-! ## §5. A second pass. -/

/-- Behind an opening word the text has two imports from the old path of the table on one line. -/
def RepeatsImport (text : List Char) : Prop :=
  ∃ clause first between second, '\n' ∉ clause ∧ '\n' ∉ between ∧ move.Matches first ∧
    move.Matches second ∧
    importOpening ++ (clause ++ (' ' :: first ++ (between ++ ' ' :: second))) <:+: text

/-- A text without line ends stands in one of the lines. -/
theorem part_lines_iff {word line rest : List Char} (hword : '\n' ∉ word) :
    word <:+: line ++ '\n' :: rest ↔ word <:+: line ∨ word <:+: rest := by
  constructor
  · intro hex
    obtain ⟨before, after, heq⟩ := hex
    rw [List.append_assoc] at heq
    rcases noOverlap_char hword before after line rest heq with
      ⟨-, rfl, -⟩ | ⟨gap, rfl, -⟩ | ⟨gap, -, rfl⟩
    · exact absurd (.head _) hword
    · exact .inl ⟨before, gap, List.append_assoc _ _ _⟩
    · exact .inr ⟨gap, after, List.append_assoc _ _ _⟩
  · intro hor
    rcases hor with hline | hrest
    · exact hline.trans (List.prefix_append _ _).isInfix
    · exact hrest.trans ((List.suffix_cons _ _).trans (List.suffix_append _ _)).isInfix

theorem exists_tableImport_lines {line rest : List Char} :
    (∃ word, IsTableImport word ∧ word <:+: line ++ '\n' :: rest) ↔
      (∃ word, IsTableImport word ∧ word <:+: line) ∨
        ∃ word, IsTableImport word ∧ word <:+: rest := by
  rw [← exists_or]
  refine exists_congr fun word => ?_
  rw [← and_or_left]
  exact and_congr_right fun hword => part_lines_iff hword.newline_not_mem

theorem repeatsImport_lines {line rest : List Char} :
    RepeatsImport (line ++ '\n' :: rest) ↔ RepeatsImport line ∨ RepeatsImport rest := by
  simp only [RepeatsImport, ← exists_or, ← and_or_left]
  refine exists_congr fun clause => exists_congr fun first => exists_congr fun between =>
    exists_congr fun second => ?_
  refine and_congr_right fun hclause => and_congr_right fun hbetween =>
    and_congr_right fun hfirst => and_congr_right fun hsecond => part_lines_iff ?_
  have hnewline := newline_not_mem hfirst
  have hnewline' := newline_not_mem hsecond
  simp only [List.mem_append, List.mem_cons, not_or]
  exact ⟨by decide, hclause, ⟨by decide, hnewline⟩, hbetween, by decide, hnewline'⟩

/-- The first of two imports of the table on a line is one of them. -/
theorem RepeatsImport.exists_tableImport {text : List Char} (h : RepeatsImport text) :
    ∃ word, IsTableImport word ∧ word <:+: text := by
  obtain ⟨clause, first, between, second, hclause, -, hfirst, -, hpart⟩ := h
  refine ⟨_, ⟨clause, first, hclause, hfirst, rfl⟩, List.IsInfix.trans ?_ hpart⟩
  exact ⟨[], between ++ ' ' :: second, by simp⟩

/-- An import of the table is left on a line exactly if there were two. -/
theorem LineMoved.exists_tableImport_iff {line out : List Char} {count : Nat}
    (h : LineMoved line out count) :
    (∃ word, IsTableImport word ∧ word <:+: out) ↔ RepeatsImport line := by
  cases h with
  | kept hline hnone =>
    have hnot : ¬ ∃ word, IsTableImport word ∧ word <:+: line := by
      intro hex
      obtain ⟨word, hword, hpart⟩ := hex
      exact hnone word hword hpart
    exact ⟨fun hex => absurd hex hnot, fun hrepeats => absurd hrepeats.exists_tableImport hnot⟩
  | @moved before last after hbefore hafter hopening hlast hnone =>
    constructor
    · intro hex
      obtain ⟨word, hword, hpart⟩ := hex
      rcases hword.before_or_at (Move.isImport_target hasPaths_move) hnone hpart with hpart | hat
      · -- it stands before the one that was moved
        obtain ⟨clause, first, hclause, hfirst, rfl⟩ := hword
        obtain ⟨start, between, rfl⟩ := hpart
        refine ⟨clause, first, between, last, hclause, ?_, hfirst, hlast, start, after, by simp⟩
        exact fun hmem => hbefore (List.mem_append_right _ hmem)
      · exact absurd hat.2 not_matches_target
    · intro hex
      obtain ⟨clause, first, between, second, hclause, -, hfirst, hsecond, start, rest, heq⟩ := hex
      have hplaces : (start ++ (importOpening ++ clause)) ++
          (' ' :: first ++ (between ++ (' ' :: second ++ rest))) =
            before ++ (' ' :: last ++ after) := by
        rw [← heq]
        simp
      refine ⟨_, ⟨clause, first, hclause, hfirst, rfl⟩, ?_⟩
      rcases blanks_noOverlap hfirst (hlast.isImport hasPaths_move) _ _ _ _ hplaces with
        ⟨-, -, rfl⟩ | ⟨gap, rfl, -⟩ | ⟨gap, -, rfl⟩
      · exact absurd ⟨between, rest, by simp⟩ (hnone second hsecond)
      · exact ⟨start, gap ++ (' ' :: move.target ++ after), by simp⟩
      · exact absurd ⟨gap, between ++ (' ' :: second ++ rest), by simp⟩ (hnone first hfirst)

theorem TextMoved.exists_tableImport_iff {text out : List Char} {count : Nat}
    (h : TextMoved text out count) :
    (∃ word, IsTableImport word ∧ word <:+: out) ↔ RepeatsImport text := by
  induction h with
  | line hline => exact hline.exists_tableImport_iff
  | lines hline hrest ih =>
    rw [exists_tableImport_lines, repeatsImport_lines, hline.exists_tableImport_iff, ih]

theorem LineMoved.count_eq_zero_iff {line out : List Char} {count : Nat}
    (h : LineMoved line out count) :
    count = 0 ↔ ¬ ∃ word, IsTableImport word ∧ word <:+: line := by
  cases h with
  | kept hline hnone =>
    refine ⟨fun _ hex => ?_, fun _ => rfl⟩
    obtain ⟨word, hword, hpart⟩ := hex
    exact hnone word hword hpart
  | @moved before last after hbefore hafter hopening hlast hnone =>
    refine ⟨fun hzero => absurd hzero (by decide), fun hnot => absurd ?_ hnot⟩
    obtain ⟨start, clause, rfl⟩ := hopening
    refine ⟨_, ⟨clause, last, ?_, hlast, rfl⟩, start, after, by simp⟩
    exact fun hmem => hbefore (List.mem_append_right _ hmem)

theorem TextMoved.count_eq_zero_iff {text out : List Char} {count : Nat}
    (h : TextMoved text out count) :
    count = 0 ↔ ¬ ∃ word, IsTableImport word ∧ word <:+: text := by
  induction h with
  | line hline => exact hline.count_eq_zero_iff
  | lines hline hrest ih =>
    rw [exists_tableImport_lines, not_or, ← hline.count_eq_zero_iff, ← ih, Nat.add_eq_zero_iff]

/-- **Main.**  After the rule there is nothing left to move exactly if no line had two imports of
    the table behind an opening word. -/
theorem occurrences_replaceAll_iff (context : Context) (text : List Char) :
    rule.occurrences (rule.replaceAll context text) = 0 ↔ ¬ RepeatsImport text := by
  rw [(textMoved context (rule.replaceAll context text)).count_eq_zero_iff,
    (textMoved context text).exists_tableImport_iff]

end Reroute.TableImport
