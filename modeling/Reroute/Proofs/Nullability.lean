/-
  Reroute.Proofs.Nullability — what the probes decide for patterns without assertions.

  Whether such a pattern can match nothing follows from its structure alone (`Node.isNullable`): it
  then spans every place of every text on its own, and otherwise none.  The first probe is the empty
  text, where nothing else can be matched, so the probes find an empty match exactly if the pattern
  is nullable; and if it is not, no search finds one, in whatever text and from whatever place.

  Main statement (`matchesEmpty_decides`).
-/
import Reroute.Proofs.EmptyMatches

namespace Reroute.Pattern

variable {pattern : Pattern} {text : List Char}

/-! ## §1. Searching where the pattern spans no place on its own. -/

section Consuming

variable (h : pattern.IsRead) (hconsumes : ∀ k, ¬ pattern.node.Spans text k k)
include h hconsumes

/-- What a search finds then has characters. -/
theorem find?_consumes {place : Nat} (hplace : place ≤ text.length) {m : Match}
    (hfind : pattern.find? (.ofPlace text place) = some m) : m.isEmpty = false := by
  rcases find?_cases h hplace with ⟨hnone, -⟩ | ⟨m', hfind', -, -, hm, -⟩
  · rw [hfind] at hnone
    cases hnone
  · rw [hfind] at hfind'
    cases hfind'
    refine Bool.eq_false_iff.2 fun hempty => ?_
    have hspans := (matchAt?_spans h hm).2
    rw [← isEmpty_iff.1 hempty] at hspans
    exact hconsumes _ hspans

/-- So nothing is passed over as an empty match at the end of the one before. -/
theorem findNext?_eq_find? {place : Nat} (hplace : place ≤ text.length) (last : Option Nat) :
    pattern.findNext? (.ofPlace text place) last = pattern.find? (.ofPlace text place) := by
  unfold findNext?
  cases hfind : pattern.find? (.ofPlace text place) with
  | none => rfl
  | some m =>
    have hempty := find?_consumes h hconsumes hplace hfind
    simp [hempty]

/-- All matches from a place on have characters. -/
theorem matchesFrom_consumes (fuel : Nat) : ∀ (place : Nat) (last : Option Nat),
    place ≤ text.length →
    ∀ m ∈ pattern.matchesFrom fuel (.ofPlace text place) last, m.isEmpty = false := by
  induction fuel with
  | zero => intro place last _ m hm; cases hm
  | succ fuel ih =>
    intro place last hplace m hm
    rw [matchesFrom, findNext?_eq_find? h hconsumes hplace] at hm
    cases hfind : pattern.find? (.ofPlace text place) with
    | none =>
      rw [hfind] at hm
      cases hm
    | some first =>
      rw [hfind] at hm
      rcases List.mem_cons.1 hm with rfl | hm
      · exact find?_consumes h hconsumes hplace hfind
      · -- the search goes on from a place of the text, wherever the match ends
        change m ∈ pattern.matchesFrom fuel
          ((Cursor.ofPlace text place).advance (first.whole.stop - place)) _ at hm
        rw [advance_ofPlace_min _ _ hplace] at hm
        exact ih _ _ (Nat.min_le_right _ _) m hm

end Consuming

/-! ## §2. What the probes decide. -/

/-- The probes have an empty match exactly if the empty text has one. -/
theorem matchesEmpty_iff_spans (h : pattern.IsRead) (hplain : pattern.node.isPlain = true) :
    pattern.matchesEmpty = true ↔ pattern.node.Spans [] 0 0 := by
  rw [matchesEmpty_iff h]
  constructor
  · rintro ⟨probe, -, k, hbare⟩
    exact (Node.spans_empty_iff hplain probe.toList [] k 0).1 (hbare.spans h)
  · intro hspans
    exact ⟨"", .head _, 0, bareAt_nil h hspans⟩

theorem matchesEmpty_eq_isNullable (h : pattern.IsRead) (hplain : pattern.node.isPlain = true) :
    pattern.matchesEmpty = pattern.node.isNullable :=
  Bool.eq_iff_iff.2 ((matchesEmpty_iff_spans h hplain).trans (Node.spans_self_iff hplain [] 0))

/-- The loader refuses a definition for an empty match exactly if the probes have one. -/
theorem load_eq_zeroWidth_iff {source : String} (hparse : parse source = .ok pattern)
    (index : Nat) (replacement : Template) (description : String) :
    RuleDef.load index ⟨source, replacement, description⟩ =
        .error { cause := .zeroWidth ⟨index, description, source⟩ } ↔
      pattern.matchesEmpty = true := by
  simp only [RuleDef.load, hparse]
  cases pattern.matchesEmpty with
  | true => simp
  | false =>
    cases replacement.checkAgainst pattern with
    | ok _ => simp
    | error mismatch => simp

/-- **Main.**  The probes decide whether a pattern without assertions can match nothing: they have
    an empty match exactly if its structure admits one, that is, if it matches the empty text; this
    is when the loader refuses the pattern.  If they have none, no match is empty that is found in
    any text, from any place of it and after whatever match. -/
theorem matchesEmpty_decides {source : String} (hparse : parse source = .ok pattern)
    (hplain : pattern.node.isPlain = true) :
    (pattern.matchesEmpty = true ↔ pattern.node.Spans [] 0 0) ∧
      pattern.matchesEmpty = pattern.node.isNullable ∧
      (pattern.matchesEmpty = false → ∀ (text : List Char) (place fuel : Nat) (last : Option Nat),
        ∀ m ∈ pattern.matchesFrom fuel ((Cursor.start text).advance place) last,
          m.isEmpty = false) ∧
      ∀ (index : Nat) (replacement : Template) (description : String),
        RuleDef.load index ⟨source, replacement, description⟩ =
            .error { cause := .zeroWidth ⟨index, description, source⟩ } ↔
          pattern.node.isNullable = true := by
  have hread := isRead_parse hparse
  have hdecides := matchesEmpty_eq_isNullable hread hplain
  refine ⟨matchesEmpty_iff_spans hread hplain, hdecides, ?_, ?_⟩
  · intro hprobes text place fuel last m hm
    have hconsumes : ∀ k, ¬ pattern.node.Spans text k k := by
      intro k hspans
      rw [hdecides, hspans.isNullable] at hprobes
      cases hprobes
    have hcursor : (Cursor.start text).advance place =
        .ofPlace text (min (0 + place) text.length) :=
      advance_ofPlace_min place 0 (Nat.zero_le _)
    rw [hcursor] at hm
    exact matchesFrom_consumes hread hconsumes fuel _ last (Nat.min_le_right _ _) m hm
  · intro index replacement description
    rw [load_eq_zeroWidth_iff hparse, hdecides]

/-- Two letters or more, as few as possible, or commas; all of that once or more, in any case of the
    letters.  No probe has to be looked at. -/
theorem lettersOrCommas_consumes :
    ∃ pattern, parse "(?i:(?P<word>[a-z]{2,}?)|,+)+" = .ok pattern ∧
      pattern.node.isPlain = true ∧ pattern.matchesEmpty = false ∧
      ∀ (text : List Char) (place fuel : Nat) (last : Option Nat),
        ∀ m ∈ pattern.matchesFrom fuel ((Cursor.start text).advance place) last,
          m.isEmpty = false := by
  have heval : (match parse "(?i:(?P<word>[a-z]{2,}?)|,+)+" with
      | .ok pattern => pattern.node.isPlain && !pattern.node.isNullable
      | .error _ => false) = true := by
    decide +kernel
  split at heval
  · next pattern hparse =>
    obtain ⟨hplain, hnullable⟩ := Bool.and_eq_true_iff.1 heval
    obtain ⟨-, hdecides, hconsumes, -⟩ := matchesEmpty_decides hparse hplain
    have hprobes : pattern.matchesEmpty = false := by
      rw [hdecides]
      simpa using hnullable
    exact ⟨pattern, hparse, hplain, hprobes, hconsumes hprobes⟩
  · cases heval

end Reroute.Pattern
