/-
  Reroute.Proofs.Moves — rules that move imports.

  Most built-in rules lead the imports from one path to another one, or only change their quotes.
  Such a rule always loads (`Move.load_definition`) and matches the imports from its old path, in
  its quotes, and nothing else (`Move.spans_iff`).

  An import in the text after such a rule is the one that the rule writes, or it stood in the text
  before and the rule does not match it (`Move.infix_replaceAll`): an occurrence is never passed
  over, and what is written forms no import with the text around it.  So after a list of moves there
  is no import left that one of them matches, unless one of them writes it; if none does, a second
  pass finds nothing (`substitute_moves_twice`).
-/
import Reroute.Presets
import Reroute.Proofs.EmptyMatches
import Reroute.Proofs.Imports
import Reroute.Proofs.Pattern.Literal
import Reroute.Proofs.Substitution

namespace Reroute

open Pattern

/-! ## §1. What a move matches and writes. -/

namespace Move

/-- The path of the imports that match. -/
def old : Move → List Char
  | relocate old _ _ => old.toList
  | requote path _ => path.toList

/-- The path of the import that is written. -/
def new : Move → List Char
  | relocate _ new _ => new.toList
  | requote path _ => path.toList

/-- The quotes of the imports that match. -/
def quotes : Move → List Char
  | relocate .. => ['\'', '"']
  | requote .. => ['\'']

/-- The quotes as a set. -/
def quoteSet : Move → CharSet
  | relocate .. => .union (.union .none (.single '\'')) (.single '"')
  | requote .. => .single '\''

/-- The import that is written. -/
def target (move : Move) : List Char :=
  importText '"' move.new '"'

/-- The word is an import that the rule matches. -/
def Matches (move : Move) (word : List Char) : Prop :=
  ∃ quote ∈ move.quotes, ∃ quote' ∈ move.quotes, word = importText quote move.old quote'

/-- The paths have neither quotes nor blanks. -/
def hasPaths (move : Move) : Bool :=
  move.old.all isPathChar && move.new.all isPathChar

variable {move : Move} {word text : List Char}

theorem mem_quoteSet {c : Char} : move.quoteSet.mem c = true ↔ c ∈ move.quotes := by
  cases move with
  | relocate old new description =>
    show ((false || (CharSet.single '\'').mem c) || (CharSet.single '"').mem c) = true ↔ _
    rw [Bool.false_or, Bool.or_eq_true, CharSet.mem_single, CharSet.mem_single]
    simp [quotes]
  | requote path description =>
    show (CharSet.single '\'').mem c = true ↔ _
    rw [CharSet.mem_single]
    simp [quotes]

theorem isQuote_of_mem_quotes {c : Char} (h : c ∈ move.quotes) : isQuote c = true := by
  cases move with
  | relocate old new description =>
    rcases List.mem_cons.1 h with rfl | h
    · rfl
    · obtain rfl := List.mem_singleton.1 h
      rfl
  | requote path description =>
    obtain rfl := List.mem_singleton.1 h
    rfl

theorem isImport_target (h : move.hasPaths = true) : IsImport move.target := by
  simp only [hasPaths, Bool.and_eq_true, List.all_eq_true] at h
  exact ⟨'"', move.new, '"', rfl, rfl, h.2, rfl⟩

theorem Matches.isImport (hmatches : move.Matches word) (h : move.hasPaths = true) :
    IsImport word := by
  simp only [hasPaths, Bool.and_eq_true, List.all_eq_true] at h
  obtain ⟨quote, hquote, quote', hquote', rfl⟩ := hmatches
  exact ⟨quote, move.old, quote', isQuote_of_mem_quotes hquote, isQuote_of_mem_quotes hquote',
    h.1, rfl⟩

theorem Matches.ne_nil (hmatches : move.Matches word) : word ≠ [] := by
  obtain ⟨quote, -, quote', -, rfl⟩ := hmatches
  exact List.cons_ne_nil _ _

/-! ## §2. The pattern of a move. -/

/-- The sets of the pattern, one for each character of an import that matches. -/
def sets (move : Move) : List CharSet :=
  ['f', 'r', 'o', 'm', ' '].map .single ++
    ([move.quoteSet] ++ (move.old.map .single ++ [move.quoteSet]))

/-- The pattern. -/
def pattern (move : Move) : Pattern :=
  { source := move.definition.pattern, node := Node.seq (move.sets.map .set) }

theorem reads_quotes : Reads ['[', '\'', '"', ']']
    [.union (.union .none (.single '\'')) (.single '"')] :=
  reads_of_step (by decide : 2 < maxNesting) fun _ _ => rfl

theorem toList_literalPattern (text : String) :
    (Presets.literalPattern text).toList = escaped text.toList :=
  String.toList_ofList

theorem parse_definition (move : Move) :
    Pattern.parse move.definition.pattern = .ok move.pattern := by
  have hreads : Reads move.definition.pattern.toList move.sets := by
    have hfrom : Reads ['f', 'r', 'o', 'm', ' '] (['f', 'r', 'o', 'm', ' '].map .single) :=
      reads_escaped ['f', 'r', 'o', 'm', ' ']
    -- the two kinds differ in how their quotes are written
    cases move with
    | relocate old new description =>
      have htext : (relocate old new description).definition.pattern.toList =
          ['f', 'r', 'o', 'm', ' '] ++ (['[', '\'', '"', ']'] ++
            (escaped old.toList ++ ['[', '\'', '"', ']'])) := by
        show ("from ['\"]" ++ Presets.literalPattern old ++ "['\"]").toList = _
        rw [String.toList_append, String.toList_append, toList_literalPattern, List.append_assoc]
        rfl
      rw [htext]
      exact hfrom.append (reads_quotes.append ((reads_escaped old.toList).append reads_quotes))
    | requote path description =>
      have htext : (requote path description).definition.pattern.toList =
          ['f', 'r', 'o', 'm', ' '] ++ (['\''] ++ (escaped path.toList ++ ['\''])) := by
        show ("from '" ++ Presets.literalPattern path ++ "'").toList = _
        rw [String.toList_append, String.toList_append, toList_literalPattern, List.append_assoc]
        rfl
      rw [htext]
      have hquote : Reads ['\''] [.single '\''] := reads_plain rfl
      exact hfrom.append (hquote.append ((reads_escaped path.toList).append hquote))
  rw [Pattern.parse, parse_of_reads hreads]
  rfl

theorem isRead_pattern (move : Move) : move.pattern.IsRead :=
  isRead_parse move.parse_definition

/-- The sets spell the imports that match: the fixed characters leave only the two quotes open. -/
theorem spells_sets : Spells move.sets word ↔ move.Matches word := by
  have hsingle : ∀ {members : CharSet} {word : List Char},
      Spells [members] word ↔ ∃ c, members.mem c = true ∧ word = [c] := by
    intro members word
    constructor
    · intro hex
      obtain ⟨c, _, rfl, hmem, rfl⟩ := hex
      exact ⟨c, hmem, rfl⟩
    · intro hex
      obtain ⟨c, hmem, rfl⟩ := hex
      exact ⟨c, [], rfl, hmem, rfl⟩
  simp only [sets, spells_append, spells_singles, hsingle, mem_quoteSet]
  constructor
  · intro hex
    obtain ⟨_, _, rfl, rfl, _, _, rfl, ⟨quote, hquote, rfl⟩, _, _, rfl, rfl, quote', hquote', rfl⟩ :=
      hex
    exact ⟨quote, hquote, quote', hquote', rfl⟩
  · intro hex
    obtain ⟨quote, hquote, quote', hquote', rfl⟩ := hex
    exact ⟨_, _, rfl, rfl, _, _, rfl, ⟨quote, hquote, rfl⟩, _, _, rfl, rfl, quote', hquote', rfl⟩

/-- The pattern spans the imports that match, and nothing else. -/
theorem spans_iff {i j : Nat} : move.pattern.node.Spans text i j ↔
    ∃ word, move.Matches word ∧ word <+: text.drop i ∧ j = i + word.length := by
  rw [pattern, spans_sets]
  simp only [spells_sets]

/-! ## §3. Loading a move. -/

/-- The rule. -/
def rule (move : Move) : Rule :=
  move.definition.toRule move.pattern

/-- A template of one text has no reference to check, and stands for that text. -/
theorem literal_checkAgainst (literal : String) {pattern : Pattern}
    (h : pattern.groupNames = []) : (Template.literal literal).checkAgainst pattern = .ok () := by
  rw [Template.checkAgainst, h, if_neg (by simp), Template.literal, Template.text]
  split <;> rfl

theorem literal_expand (literal : String) (context : Context) (pattern : Pattern)
    (text : List Char) (m : Match) :
    (Template.literal literal).expand context pattern text m = literal.toList := by
  rw [Template.literal, Template.text]
  split
  · next hempty =>
    rw [String.isEmpty_iff.1 hempty]
    rfl
  · show literal.toList ++ [] = literal.toList
    rw [List.append_nil]

theorem groupNames_seq_sets (sets : List CharSet) :
    (Node.seq (sets.map .set)).groupNames = [] := by
  induction sets with
  | nil => rfl
  | cons members sets ih =>
    cases sets with
    | nil => rfl
    | cons next sets => exact ih

/-- The import that is written does not depend on the match. -/
theorem expansion_rule (context : Context) (text : List Char) :
    move.rule.expansion context text = fun _ => move.target := by
  funext m
  cases move with
  | relocate old new description =>
    show (Template.literal ("from \"" ++ new ++ "\"")).expand _ _ _ _ = _
    rw [literal_expand, String.toList_append, String.toList_append]
    rfl
  | requote path description =>
    show (Template.literal ("from \"" ++ path ++ "\"")).expand _ _ _ _ = _
    rw [literal_expand, String.toList_append, String.toList_append]
    rfl

/-- A move loads whatever its paths are: its pattern takes characters at every match, and its
    template refers to no group. -/
theorem load_definition (move : Move) (index : Nat) :
    move.definition.load index = .ok move.rule := by
  -- no probe has an empty match, for what matches is an import
  have hempty : move.pattern.matchesEmpty = false := by
    rw [← Bool.not_eq_true, matchesEmpty_iff move.isRead_pattern]
    intro hex
    obtain ⟨probe, -, k, hbare⟩ := hex
    obtain ⟨word, hmatches, -, hlength⟩ := spans_iff.1 (hbare.spans move.isRead_pattern)
    have hne := List.length_pos_iff.2 hmatches.ne_nil
    omega
  have hnames : move.pattern.groupNames = [] := by
    rw [groupNames, pattern, groupNames_seq_sets]
    rfl
  have hcheck : move.definition.replacement.checkAgainst move.pattern = .ok () := by
    cases move with
    | relocate old new description => exact literal_checkAgainst _ hnames
    | requote path description => exact literal_checkAgainst _ hnames
  exact RuleDef.load_eq_ok_iff.2 ⟨move.pattern, move.parse_definition, hempty, hcheck, rfl⟩

/-! ## §4. Imports after a move. -/

/-- What a match is replaced by forms no import with the text around it, and no import that
    matches is passed over. -/
theorem infix_splice (hpaths : move.hasPaths = true) (hword : IsImport word) {place : Nat}
    {last : Option Nat} {found : List Match}
    (hfound : Iterates move.pattern text place last found)
    (hoccurs : word <:+: splice (fun _ => move.target) place (text.drop place) found) :
    word = move.target ∨ (word <:+: text.drop place ∧ ¬ move.Matches word) := by
  -- a match starts wherever a word stands that matches, and none is empty
  have hstarts : ∀ {last k}, move.pattern.Skips text last k → word <+: text.drop k →
      ¬ move.Matches word := by
    intro last k hor hstands hmatches
    rcases hor with hnone | ⟨-, m, hm, hempty⟩
    · exact hnone ⟨_, spans_iff.2 ⟨word, hmatches, hstands, rfl⟩⟩
    · obtain ⟨hstart, hspans⟩ := matchAt?_spans move.isRead_pattern hm
      obtain ⟨other, hother, -, hlength⟩ := spans_iff.1 hspans
      have hne := List.length_pos_iff.2 hother.ne_nil
      have heq := isEmpty_iff.1 hempty
      omega
  induction hfound with
  | @done place last hend =>
    -- behind the last match the text is kept, and every place of it was passed over
    rw [splice] at hoccurs
    obtain ⟨i, hle, hstands⟩ := infix_iff_prefix_drop.1 hoccurs
    rw [List.length_drop] at hle
    rw [List.drop_drop] at hstands
    refine .inr ⟨hoccurs, ?_⟩
    by_cases hplace : place ≤ text.length
    · exact hstarts (hend (place + i) (by omega) (by omega)) hstands
    · rw [List.drop_eq_nil_of_le (by omega)] at hstands
      have hge := hword.length_ge
      rw [List.prefix_nil.1 hstands] at hge
      cases hge
  | @next place last m rest hstart hstop hmatch hfresh hgap hrest ih =>
    -- an import lies before what is written, is what is written, or lies behind it
    have hle := start_le_stop move.isRead_pattern hmatch
    rw [splice, List.append_assoc] at hoccurs
    rcases infix_around_import hword (isImport_target hpaths) hoccurs with hbefore | rfl | hafter
    · refine .inr ⟨hbefore.trans (List.take_prefix _ _).isInfix, ?_⟩
      obtain ⟨i, -, hstands⟩ := infix_iff_prefix_drop.1 hbefore
      -- it starts in the gap before the match, where no import that matches starts
      have hlt : i < m.whole.start - place := by
        have hlength := hstands.length_le
        have hge := hword.length_ge
        rw [List.length_drop, List.length_take] at hlength
        omega
      rw [List.drop_take] at hstands
      have hhere := hstands.trans (List.take_prefix _ _)
      rw [List.drop_drop] at hhere
      exact hstarts (hgap (place + i) (by omega) (by omega)) hhere
    · exact .inl rfl
    · rw [List.drop_drop, Nat.add_sub_cancel' (by omega)] at hafter
      rcases ih hafter with heq | ⟨hoccurs, hnot⟩
      · exact .inl heq
      · refine .inr ⟨hoccurs.trans ?_, hnot⟩
        exact (List.drop_suffix_drop_left text (by omega)).isInfix

/-- An import after a move is the one that the move writes, or one that stood there before and
    does not match. -/
theorem infix_replaceAll (hpaths : move.hasPaths = true) (hword : IsImport word)
    {context : Context} (hoccurs : word <:+: move.rule.replaceAll context text) :
    word = move.target ∨ (word <:+: text ∧ ¬ move.Matches word) := by
  rw [Rule.replaceAll, expansion_rule] at hoccurs
  exact infix_splice hpaths hword (iterates_allMatches move.isRead_pattern text) hoccurs

/-- Where no import matches, the rule has no match. -/
theorem allMatches_eq_nil (h : ∀ word, move.Matches word → ¬ word <:+: text) :
    move.rule.allMatches text = [] := by
  have hfound := iterates_allMatches move.isRead_pattern text
  show move.pattern.allMatches text = []
  generalize move.pattern.allMatches text = found at hfound
  cases hfound with
  | done => rfl
  | next hstart hstop hmatch =>
    obtain ⟨word, hmatches, hstands, -⟩ :=
      spans_iff.1 (matchAt?_spans move.isRead_pattern hmatch).2
    refine absurd ?_ (h word hmatches)
    exact hstands.isInfix.trans (List.drop_suffix _ _).isInfix

end Move

/-! ## §5. Lists of moves. -/

/-- An import after a list of moves is one that a move writes, or one that stood there before and
    that no move matches. -/
theorem infix_substitute_moves {moves : List Move}
    (hpaths : ∀ move ∈ moves, move.hasPaths = true) {word : List Char} (hword : IsImport word)
    {context : Context} : ∀ {text : List Char},
    word <:+: (substituteAll context (moves.map Move.rule) text).1 →
      (∃ move ∈ moves, word = move.target) ∨
        (word <:+: text ∧ ∀ move ∈ moves, ¬ move.Matches word) := by
  induction moves with
  | nil =>
    intro text hoccurs
    exact .inr ⟨hoccurs, by simp⟩
  | cons move moves ih =>
    intro text hoccurs
    rw [List.map_cons, substituteAll_cons] at hoccurs
    -- a later move either writes the import or found it, and then the first move left it
    rcases ih (fun other hmem => hpaths other (.tail _ hmem)) hoccurs with
      ⟨other, hmem, heq⟩ | ⟨hoccurs, hnone⟩
    · exact .inl ⟨other, .tail _ hmem, heq⟩
    · rcases Move.infix_replaceAll (hpaths move (.head _)) hword hoccurs with heq | ⟨hoccurs, hnot⟩
      · exact .inl ⟨move, .head _, heq⟩
      · refine .inr ⟨hoccurs, fun other hmem => ?_⟩
        rcases List.mem_cons.1 hmem with rfl | hmem
        · exact hnot
        · exact hnone other hmem

/-- No move of the list matches what one of them writes, and all have proper paths. -/
def areSettled (moves : List Move) : Bool :=
  moves.all fun move => move.hasPaths &&
    moves.all fun other => !(other.quotes.contains '"' && other.old == move.new)

/-- No move matches what a move of a settled list writes. -/
theorem not_matches_target {moves : List Move} (h : areSettled moves = true) {move other : Move}
    (hmove : move ∈ moves) (hother : other ∈ moves) : ¬ other.Matches move.target := by
  intro hex
  obtain ⟨quote, hquote, quote', hquote', heq⟩ := hex
  simp only [areSettled, List.all_eq_true, Bool.and_eq_true] at h
  have hpair := (h move hmove).2 other hother
  -- the import that is written has double quotes around its path
  simp only [Move.target, importText, List.append_cancel_left_eq, List.cons.injEq] at heq
  obtain ⟨rfl, hrest⟩ := heq
  obtain ⟨hpath, -⟩ := List.append_inj' hrest rfl
  simp [hquote, hpath] at hpair

/-- **Main.**  After a settled list of moves a second pass finds no match. -/
theorem substitute_moves_twice {moves : List Move} (h : areSettled moves = true)
    (context context' : Context) (text : List Char) :
    substituteAll context' (moves.map Move.rule)
        (substituteAll context (moves.map Move.rule) text).1 =
      ((substituteAll context (moves.map Move.rule) text).1, []) := by
  have hpaths : ∀ move ∈ moves, move.hasPaths = true := by
    intro move hmove
    simp only [areSettled, List.all_eq_true, Bool.and_eq_true] at h
    exact (h move hmove).1
  refine substituteAll_of_no_match ?_ context'
  intro rule hrule
  obtain ⟨other, hother, rfl⟩ := List.mem_map.1 hrule
  refine other.allMatches_eq_nil fun word hmatches hoccurs => ?_
  have hword := hmatches.isImport (hpaths other hother)
  rcases infix_substitute_moves hpaths hword hoccurs with ⟨move, hmove, rfl⟩ | ⟨-, hnone⟩
  · exact not_matches_target h hmove hother hmatches
  · exact hnone other hother hmatches

end Reroute
