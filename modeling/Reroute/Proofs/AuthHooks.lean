/-
  Reroute.Proofs.AuthHooks — the preset `auth-hooks` is done after one run.

  Its only rule matches the imports of `useAuth` from a path that ends in `/hooks/useAuth`, with any
  white space between the parts of the clause (`spansWords`), and writes an import of the same kind
  whose path starts with the way up to the scan root.

  What is matched and what is written are imports of one shape: no `i` but the first character
  stands before the quote that opens the path, no quote but the two around the path, and the clause
  ends in `m` or white space while the path does not (`IsClauseImport`).  If two of them overlapped,
  the second one would start within the path of the first one and its clause would end with that
  path, which no clause does (`apart_clauseImports`).  Since the rule does not match what it writes,
  a second pass finds nothing (`authHooks_twice`).
-/
import Mathlib.Data.Bool.AllAny
import Reroute.Presets
import Reroute.Proofs.Imports
import Reroute.Proofs.Pattern.Words
import Reroute.Proofs.Replacement

namespace Reroute.AuthHooks

open Pattern

/-! ## §1. Imports with a clause. -/

/-- Can the character stand before the quote that opens the path? -/
def endsClause (c : Char) : Bool := c == 'm' || Unicode.isSpace c

/-- An import: `i`, the rest of the clause, and a path in quotes. -/
def IsClauseImport (word : List Char) : Prop :=
  ∃ clause quote path quote', word = 'i' :: (clause ++ quote :: (path ++ [quote'])) ∧
    isQuote quote = true ∧ isQuote quote' = true ∧
    (∀ c ∈ clause, c ≠ 'i' ∧ isQuote c = false) ∧
    (∃ start c, clause = start ++ [c] ∧ endsClause c = true) ∧
    (∀ c ∈ path, isQuote c = false) ∧ ∃ start c, path = start ++ [c] ∧ endsClause c = false

/-- Two characters of one text: the same, or one before the other. -/
theorem append_cons_cases {x r g s : List Char} {q c : Char} (h : x ++ q :: r = g ++ c :: s) :
    (∃ x', x = g ++ c :: x' ∧ s = x' ++ q :: r) ∨ (x = g ∧ q = c ∧ r = s) ∨
      ∃ g', g = x ++ q :: g' ∧ r = g' ++ c :: s := by
  rcases List.append_eq_append_iff.1 h with ⟨gap, rfl, hgap⟩ | ⟨gap, rfl, hgap⟩
  · cases gap with
    | nil =>
      cases hgap
      exact .inr (.inl ⟨(List.append_nil x).symm, rfl, rfl⟩)
    | cons d gap =>
      cases hgap
      exact .inr (.inr ⟨gap, rfl, rfl⟩)
  · cases gap with
    | nil =>
      cases hgap
      exact .inr (.inl ⟨List.append_nil g, rfl, rfl⟩)
    | cons d gap =>
      cases hgap
      exact .inl ⟨gap, rfl, rfl⟩

/-- The first quote of a text is at one place. -/
theorem first_quote {x r y s : List Char} {q p : Char} (hx : ∀ c ∈ x, isQuote c = false)
    (hy : ∀ c ∈ y, isQuote c = false) (hq : isQuote q = true) (hp : isQuote p = true)
    (h : x ++ q :: r = y ++ p :: s) : x = y ∧ q = p ∧ r = s := by
  rcases append_cons_cases h with ⟨x', rfl, -⟩ | hsame | ⟨y', rfl, -⟩
  · rw [hx p (by simp)] at hp
    cases hp
  · exact hsame
  · rw [hy q (by simp)] at hq
    cases hq

theorem isQuote_ne_i {c : Char} (h : isQuote c = true) : c ≠ 'i' := by
  rintro rfl
  cases h

/-- Another import starts with this one or behind it. -/
theorem IsClauseImport.starts {word other : List Char} (h : IsClauseImport word)
    (h' : IsClauseImport other) {gap after after' : List Char}
    (heq : word ++ after = gap ++ (other ++ after')) :
    (gap = [] ∧ word = other ∧ after = after') ∨
      ∃ gap', gap = word ++ gap' ∧ after = gap' ++ (other ++ after') := by
  obtain ⟨clause, q, path, q', rfl, hq, hq', hclause, -, hpath, ⟨pathStart, d, rfl, hd⟩⟩ := h
  obtain ⟨clause', p, path', p', rfl, hp, hp', hclause', ⟨clauseStart, e, rfl, he⟩, hpath', -⟩ := h'
  have hquotes : ∀ c ∈ clause, isQuote c = false := fun c hc => (hclause c hc).2
  have hquotes' : ∀ c ∈ clauseStart ++ [e], isQuote c = false := fun c hc => (hclause' c hc).2
  simp only [List.cons_append, List.append_assoc, List.nil_append] at heq
  cases gap with
  | nil =>
    -- both pairs of quotes are at the same places
    simp only [List.nil_append, List.cons.injEq, true_and] at heq
    have hfirst := first_quote hquotes hquotes' hq hp (by simpa using heq)
    obtain ⟨rfl, rfl, hrest⟩ := hfirst
    obtain ⟨hpaths, rfl, rfl⟩ := first_quote hpath hpath' hq' hp' (by simpa using hrest)
    exact .inl ⟨rfl, by rw [hpaths], rfl⟩
  | cons c gap =>
    simp only [List.cons_append, List.cons.injEq] at heq
    obtain ⟨rfl, heq⟩ := heq
    rcases append_cons_cases heq with ⟨x, rfl, -⟩ | ⟨-, hi, -⟩ | ⟨gap', rfl, hrest⟩
    · exact absurd rfl (hclause 'i' (by simp)).1
    · exact absurd hi (isQuote_ne_i hq)
    · have hrest' : (pathStart ++ [d]) ++ q' :: after = gap' ++ 'i' :: (clauseStart ++
          (e :: (p :: (path' ++ (p' :: after'))))) := by
        simpa using hrest
      rcases append_cons_cases hrest' with ⟨x, hx, hx'⟩ | ⟨-, hi, -⟩ | ⟨gap'', rfl, rfl⟩
      · -- the clause of the other import would end with the path of this one
        have hx'' : x ++ q' :: after = (clauseStart ++ [e]) ++ p :: (path' ++ (p' :: after')) := by
          simpa using hx'.symm
        have hquotesX : ∀ c ∈ x, isQuote c = false := fun c hc => hpath c (by simp [hx, hc])
        obtain ⟨rfl, -, -⟩ := first_quote hquotesX hquotes' hq' hp hx''
        have hends : pathStart ++ [d] = (gap' ++ 'i' :: clauseStart) ++ [e] := by simp [hx]
        obtain ⟨-, hde⟩ := List.append_inj' hends rfl
        cases hde
        rw [hd] at he
        cases he
      · exact absurd hi (isQuote_ne_i hq')
      · exact .inr ⟨gap'', by simp, by simp⟩

theorem apart_clauseImports : Apart IsClauseImport where
  ne_nil h := by
    obtain ⟨clause, q, path, q', rfl, -⟩ := h
    exact List.cons_ne_nil _ _
  noOverlap h h' := .of_starts (h.starts h') (h'.starts h)

/-! ## §2. The rule. -/

/-- The quotes as a set. -/
def quoteSet : CharSet := .union (.union .none (.single '\'')) (.single '"')

/-- The nodes of a text. -/
def literal (text : String) : List Node := (text.toList.map .single).map .set

/-- White space, or nothing. -/
def spaces : Node := .rep (.set .space) 0 none true

/-- The nodes of the clause. -/
def clauseNodes : List Node :=
  literal "import" ++ (spaces :: (literal "\x7b" ++ (spaces :: (literal "useAuth" ++ (spaces ::
    (literal "\x7d" ++ (spaces :: (literal "from" ++ [spaces]))))))))

/-- The nodes of the path in its quotes. -/
def pathNodes : List Node :=
  .set quoteSet :: .rep (.set (.compl quoteSet)) 0 none true ::
    (literal "/hooks/useAuth" ++ [.set quoteSet])

/-- The pattern. -/
def pattern : Pattern :=
  { source := Presets.authImport.pattern, node := .seq (clauseNodes ++ pathNodes) }

/-- The rule. -/
def rule : Rule := Presets.authImport.toRule pattern

/-- The characters are all white space. -/
def Blank (text : List Char) : Prop := ∀ c ∈ text, Unicode.isSpace c = true

/-- The clause of an import of `useAuth`. -/
def IsClause (clause : List Char) : Prop :=
  ∃ a b c d e, Blank a ∧ Blank b ∧ Blank c ∧ Blank d ∧ Blank e ∧
    clause = "import".toList ++ (a ++ ("\x7b".toList ++ (b ++ ("useAuth".toList ++ (c ++
      ("\x7d".toList ++ (d ++ ("from".toList ++ e))))))))

/-- The end of the old paths. -/
def oldEnding : List Char := "/hooks/useAuth".toList

/-- An import of `useAuth` from a path that ends in `/hooks/useAuth`. -/
def IsHookImport (word : List Char) : Prop :=
  ∃ clause quote path quote', IsClause clause ∧ isQuote quote = true ∧
    (∀ c ∈ path, isQuote c = false) ∧ isQuote quote' = true ∧
    word = clause ++ quote :: (path ++ (oldEnding ++ [quote']))

theorem parse_definition : Pattern.parse Presets.authImport.pattern = .ok pattern := by
  have hnode : Node.parse Presets.authImport.pattern.toList = .ok pattern.node := by
    decide +kernel
  rw [Pattern.parse, hnode]
  rfl

theorem isRead_pattern : pattern.IsRead :=
  isRead_parse parse_definition

theorem mem_quoteSet {c : Char} : quoteSet.mem c = isQuote c := by
  show ((false || (CharSet.single '\'').mem c) || (CharSet.single '"').mem c) = isQuote c
  rw [Bool.false_or, Bool.eq_iff_iff, Bool.or_eq_true, CharSet.mem_single, CharSet.mem_single]
  simp [isQuote]

theorem accepts_clause {word : List Char} :
    (Node.seq clauseNodes).Accepts word ↔ IsClause word := by
  have hempty : ∀ {rest : List Char}, (Node.seq []).Accepts rest ↔ rest = [] := Iff.rfl
  simp only [clauseNodes, literal, spaces, accepts_literal, accepts_seq_run, hempty]
  constructor
  · intro hex
    obtain ⟨_, rfl, a, _, rfl, ha, _, rfl, b, _, rfl, hb, _, rfl, c, _, rfl, hc, _, rfl, d, _, rfl,
      hd, _, rfl, e, _, rfl, he, rfl⟩ := hex
    exact ⟨a, b, c, d, e, ha, hb, hc, hd, he, by rw [List.append_nil]⟩
  · intro hex
    obtain ⟨a, b, c, d, e, ha, hb, hc, hd, he, rfl⟩ := hex
    exact ⟨_, rfl, a, _, rfl, ha, _, rfl, b, _, rfl, hb, _, rfl, c, _, rfl, hc, _, rfl, d, _, rfl,
      hd, _, rfl, e, _, (List.append_nil e).symm, he, rfl⟩

theorem accepts_path {word : List Char} : (Node.seq pathNodes).Accepts word ↔
    ∃ quote path quote', isQuote quote = true ∧ (∀ c ∈ path, isQuote c = false) ∧
      isQuote quote' = true ∧ word = quote :: (path ++ (oldEnding ++ [quote'])) := by
  have hcompl : ∀ {c}, (CharSet.compl quoteSet).mem c = true ↔ isQuote c = false := by
    intro c
    show (!quoteSet.mem c) = true ↔ _
    rw [mem_quoteSet, Bool.not_eq_true']
  have hempty : ∀ {rest : List Char}, (Node.seq []).Accepts rest ↔ rest = [] := Iff.rfl
  simp only [pathNodes, literal, accepts_seq_set, accepts_seq_run, accepts_literal, mem_quoteSet,
    hcompl, hempty]
  constructor
  · intro hex
    obtain ⟨quote, _, rfl, hquote, path, _, rfl, hpath, _, rfl, quote', _, rfl, hquote', rfl⟩ := hex
    exact ⟨quote, path, quote', hquote, hpath, hquote', rfl⟩
  · intro hex
    obtain ⟨quote, path, quote', hquote, hpath, hquote', rfl⟩ := hex
    exact ⟨quote, _, rfl, hquote, path, _, rfl, hpath, _, rfl, quote', _, rfl, hquote', rfl⟩

theorem spansWords : pattern.SpansWords IsHookImport := by
  have haccepts : ∀ word, pattern.node.Accepts word ↔ IsHookImport word := by
    intro word
    show (Node.seq (clauseNodes ++ pathNodes)).Accepts word ↔ _
    simp only [accepts_seq_append, accepts_clause, accepts_path]
    constructor
    · intro hex
      obtain ⟨clause, _, rfl, hclause, quote, path, quote', hquote, hpath, hquote', rfl⟩ := hex
      exact ⟨clause, quote, path, quote', hclause, hquote, hpath, hquote', rfl⟩
    · intro hex
      obtain ⟨clause, quote, path, quote', hclause, hquote, hpath, hquote', rfl⟩ := hex
      exact ⟨clause, _, rfl, hclause, quote, path, quote', hquote, hpath, hquote', rfl⟩
  have hplain : pattern.node.isPlain = true := by decide +kernel
  constructor
  intro text i j
  rw [spans_iff_accepts hplain]
  simp only [haccepts]

/-! ## §3. What is matched and what is written. -/

theorem isSpace_ne {c : Char} (h : Unicode.isSpace c = true) : c ≠ 'i' ∧ isQuote c = false := by
  constructor
  · rintro rfl
    revert h
    decide +kernel
  · rw [← Bool.not_eq_true]
    intro hquote
    rcases Bool.or_eq_true_iff.1 hquote with hc | hc
    all_goals
      rw [beq_iff_eq.1 hc] at h
      revert h
      decide +kernel

theorem IsClause.shape {clause : List Char} (h : IsClause clause) :
    ∃ rest c, clause = 'i' :: (rest ++ [c]) ∧ endsClause c = true ∧
      ∀ d ∈ rest ++ [c], d ≠ 'i' ∧ isQuote d = false := by
  obtain ⟨a, b, c, d, e, ha, hb, hc, hd, he, hclause⟩ := h
  have hblank : ∀ {text}, Blank text → ∀ c ∈ text, c ≠ 'i' ∧ isQuote c = false :=
    fun htext c hc => isSpace_ne (htext c hc)
  obtain ⟨body, rfl, hbody⟩ : ∃ body, clause = 'i' :: (body ++ 'm' :: e) ∧
      ∀ d ∈ body ++ 'm' :: e, d ≠ 'i' ∧ isQuote d = false := by
    refine ⟨"mport".toList ++ (a ++ ("\x7b".toList ++ (b ++ ("useAuth".toList ++ (c ++
      ("\x7d".toList ++ (d ++ "fro".toList))))))), by simp [hclause], ?_⟩
    simp only [List.forall_mem_append, List.forall_mem_cons]
    have hletters : ∀ {text : List Char}, text.all (fun c => c ≠ 'i' ∧ isQuote c = false) = true →
        ∀ c ∈ text, c ≠ 'i' ∧ isQuote c = false := List.all_iff_forall_prop.1
    exact ⟨⟨hletters rfl, hblank ha, hletters rfl, hblank hb, hletters rfl, hblank hc, hletters rfl,
      hblank hd, hletters rfl⟩, by decide, hblank he⟩
  -- the clause ends with `from` or with the white space behind it
  rcases List.eq_nil_or_concat e with rfl | ⟨start, last, rfl⟩
  · exact ⟨body, 'm', rfl, rfl, hbody⟩
  · rw [List.concat_eq_append] at he hbody
    have hspace := he last (by simp)
    refine ⟨body ++ 'm' :: start, last, by simp, by simp [endsClause, hspace], ?_⟩
    rwa [List.append_assoc, List.cons_append]

theorem oldEnding_shape : ∃ start, oldEnding = start ++ ['h'] ∧
    ∀ c ∈ start ++ ['h'], isQuote c = false :=
  ⟨"/hooks/useAut".toList, by decide, List.all_iff_forall_prop.1 rfl⟩

/-- An import of the hook has the shape. -/
theorem IsHookImport.isClauseImport {word : List Char} (h : IsHookImport word) :
    IsClauseImport word := by
  obtain ⟨_, quote, path, quote', hclause, hquote, hpath, hquote', rfl⟩ := h
  obtain ⟨rest, c, rfl, hc, hrest⟩ := hclause.shape
  obtain ⟨start, hending, hstart⟩ := oldEnding_shape
  rw [hending]
  refine ⟨rest ++ [c], quote, path ++ (start ++ ['h']), quote', by simp, hquote, hquote', hrest,
    ⟨rest, c, rfl, hc⟩, ?_, path ++ start, 'h', by simp, rfl⟩
  rw [List.forall_mem_append]
  exact ⟨hpath, hstart⟩

/-- What is written before the way up to the root. -/
def newOpening : List Char := "import \x7b useAuth \x7d from '".toList

/-- What is written behind it. -/
def newEnding : List Char := "features/auth/hooks'".toList

/-- The import that is written in a context. -/
def target (context : Context) : List Char :=
  newOpening ++ (context.rootPrefix.toList ++ newEnding)

theorem newOpening_shape : ∃ clause, newOpening = 'i' :: ((clause ++ [' ']) ++ ['\'']) ∧
    ∀ c ∈ clause ++ [' '], c ≠ 'i' ∧ isQuote c = false :=
  ⟨"mport \x7b useAuth \x7d from".toList, by decide, List.all_iff_forall_prop.1 rfl⟩

theorem newEnding_shape : ∃ start, newEnding = (start ++ ['s']) ++ ['\''] ∧
    ∀ c ∈ start ++ ['s'], isQuote c = false :=
  ⟨"features/auth/hook".toList, by decide, List.all_iff_forall_prop.1 rfl⟩

/-- What is written has the shape, if no quote stands in the way up to the root. -/
theorem isClauseImport_target {context : Context}
    (h : ∀ c ∈ context.rootPrefix.toList, isQuote c = false) : IsClauseImport (target context) := by
  obtain ⟨clause, hopening, hclause⟩ := newOpening_shape
  obtain ⟨start, hending, hstart⟩ := newEnding_shape
  rw [target, hopening, hending]
  refine ⟨clause ++ [' '], '\'', context.rootPrefix.toList ++ (start ++ ['s']), '\'', by simp, rfl,
    rfl, hclause, ⟨clause, ' ', rfl, rfl⟩, ?_, context.rootPrefix.toList ++ start, 's', by simp,
    rfl⟩
  rw [List.forall_mem_append]
  exact ⟨h, hstart⟩

/-- The path that is written does not end as the old ones do. -/
theorem not_isHookImport_target (context : Context) : ¬ IsHookImport (target context) := by
  intro hex
  obtain ⟨clause, quote, path, quote', -, -, -, -, heq⟩ := hex
  obtain ⟨start, hnew, -⟩ := newEnding_shape
  obtain ⟨start', hold, -⟩ := oldEnding_shape
  have hends : (newOpening ++ (context.rootPrefix.toList ++ start)) ++ ['s', '\''] =
      (clause ++ quote :: (path ++ start')) ++ ['h', quote'] := by
    rw [target, hnew, hold] at heq
    simpa using heq
  obtain ⟨-, hlast⟩ := List.append_inj' hends rfl
  cases hlast

/-- The rule replaces the imports of the hook, if no quote stands in the way up to the root. -/
theorem replaces {context : Context} (h : ∀ c ∈ context.rootPrefix.toList, isQuote c = false) :
    rule.Replaces context IsClauseImport IsHookImport (target context) where
  isRead := isRead_pattern
  spansWords := spansWords
  expansion_eq text m := by
    show _ ++ (context.rootPrefix.toList ++ (_ ++ [])) = target context
    rw [List.append_nil]
    rfl
  apart := apart_clauseImports
  isWord_of_isMatch := IsHookImport.isClauseImport
  isWord_target := isClauseImport_target h

/-! ## §4. The preset. -/

theorem load_definition (index : Nat) : Presets.authImport.load index = .ok rule := by
  have hempty := spansWords.matchesEmpty_eq_false
    (fun hword => apart_clauseImports.ne_nil hword.isClauseImport) isRead_pattern
  have hnames : pattern.groupNames = [] := by decide +kernel
  have hcheck : Presets.authImport.replacement.checkAgainst pattern = .ok () := by
    rw [Template.checkAgainst, hnames, if_neg (by simp)]
    rfl
  exact RuleDef.load_eq_ok_iff.2 ⟨pattern, parse_definition, hempty, hcheck, rfl⟩

theorem load_authHooks : Presets.load "auth-hooks" = .ok ⟨"auth-hooks", [rule]⟩ := by
  show Registry.ofDefs "auth-hooks" [Presets.authImport] = _
  rw [Registry.ofDefs, Registry.loadFrom, load_definition]
  rfl

/-- The way up to the root has no quotes. -/
theorem isQuote_forPath (root path : String) :
    ∀ c ∈ (Context.forPath root path).rootPrefix.toList, isQuote c = false := by
  unfold Context.forPath
  split
  · exact List.all_iff_forall_prop.1 rfl
  · intro c hc
    rw [Context.ascend, String.toList_ofList] at hc
    obtain ⟨step, hstep, hc⟩ := List.mem_flatten.1 hc
    rw [List.eq_of_mem_replicate hstep] at hc
    have hstep' : ∀ c ∈ ['.', '.', '/'], isQuote c = false := List.all_iff_forall_prop.1 rfl
    exact hstep' c hc

/-- **Main.**  Whatever the text, the place of the file and the context of the second pass, that
    pass leaves the text as the first one left it and notes no change. -/
theorem authHooks_twice :
    ∃ registry, Presets.load "auth-hooks" = .ok registry ∧
      ∀ (root path : String) (context' : Context) (content : String),
        registry.substitute context' (registry.substitute (Context.forPath root path) content).1 =
          ((registry.substitute (Context.forPath root path) content).1, []) := by
  refine ⟨_, load_authHooks, fun root path context' content => ?_⟩
  refine (Registry.substitute_twice_iff (List.pairwise_singleton _ _) (List.pairwise_singleton _ _)
    content).2 fun other hother => ?_
  obtain rfl := List.mem_singleton.1 hother
  exact (replaces (isQuote_forPath root path)).occurrences_replaceAll (not_isHookImport_target _) _

end Reroute.AuthHooks
