/-
  Reroute.Proofs.EmptyMatches — which rules replace empty matches.

  The loader tries a pattern on six probes and refuses it if one of them has an empty match.  In
  any text, the empty matches stand at its *bare* places: those where the pattern prefers the empty
  match and to which no match leads that starts before them (`exists_empty_iff`).  So a rule that
  loads never replaces an empty match exactly if no text at all has a bare place, of which the
  loader has seen six texts (`loaded_matches_nonempty_iff`).

  For patterns without assertions the first probe, the empty text, decides: such a pattern spans
  every place on its own or none.  A pattern with assertions may have bare places in other texts
  only (`wordsOrEdges_replaces_nothing`).
-/
import Reroute.Proofs.Loading
import Reroute.Proofs.Pattern.Matches
import Reroute.Substitution

namespace Reroute

namespace Pattern

variable {pattern : Pattern} {text : List Char}

/-! ## §1. Bare places. -/

/-- The pattern prefers the empty match at the place, and no match that starts before it covers
    the place or ends there. -/
def BareAt (pattern : Pattern) (text : List Char) (k : Nat) : Prop :=
  k ≤ text.length ∧ pattern.EmptyAt text k ∧
    ∀ m ∈ pattern.allMatches text, ¬ (m.whole.start < k ∧ k ≤ m.whole.stop)

/-- Matches come from `matchAt?`, at or after the place, and end beyond the match before. -/
theorem Iterates.of_mem (h : pattern.IsRead) {place : Nat} {last : Option Nat}
    {found : List Match} (hfound : Iterates pattern text place last found) :
    ∀ m ∈ found, pattern.matchAt? text m.whole.start = some m ∧ place ≤ m.whole.start ∧
      m.whole.stop ≤ text.length ∧ (last = some place → place < m.whole.stop) := by
  induction hfound with
  | done => intro m hmem; cases hmem
  | @next place last first rest hstart hstop hmatch hfresh _ _ ih =>
    intro m hmem
    have hle := start_le_stop h hmatch
    rcases List.mem_cons.1 hmem with rfl | hmem
    · refine ⟨hmatch, hstart, hstop, fun hlast => ?_⟩
      -- an empty match at the end of the match before is not found a second time
      have hbeyond : m.whole.stop ≠ place := by
        intro heq
        refine hfresh (isEmpty_iff.2 (by omega)) ?_
        rw [hlast, heq]
      omega
    · obtain ⟨hm, hle', hstop', hbeyond⟩ := ih m hmem
      have hlt := hbeyond rfl
      exact ⟨hm, by omega, hstop', fun _ => by omega⟩

/-- No match that starts before an empty one leads up to it. -/
theorem Iterates.bare_of_mem (h : pattern.IsRead) {place : Nat} {last : Option Nat}
    {found : List Match} (hfound : Iterates pattern text place last found) :
    ∀ m ∈ found, m.isEmpty = true →
      ∀ other ∈ found, ¬ (other.whole.start < m.whole.start ∧ m.whole.start ≤ other.whole.stop) := by
  induction hfound with
  | done => intro m hmem; cases hmem
  | @next place last first rest _ _ hmatch _ _ hrest ih =>
    intro m hmem hempty other hother
    have hle := start_le_stop h hmatch
    have hwhole := isEmpty_iff.1 hempty
    rcases List.mem_cons.1 hmem with rfl | hmem
    · rcases List.mem_cons.1 hother with rfl | hother
      · omega
      · obtain ⟨-, hafter, -, -⟩ := hrest.of_mem h other hother
        omega
    · obtain ⟨-, -, -, hbeyond⟩ := hrest.of_mem h m hmem
      have hlt := hbeyond rfl
      rcases List.mem_cons.1 hother with rfl | hother
      · omega
      · exact ih m hmem hempty other hother

/-- The iteration passes over a place that prefers the empty match only at the end of a match. -/
theorem not_skips_of_emptyAt (h : pattern.IsRead) {k : Nat} (hempty : pattern.EmptyAt text k)
    {last : Option Nat} (hlast : last ≠ some k) : ¬ pattern.Skips text last k := by
  intro hskips
  rcases hskips with hnone | ⟨heq, -⟩
  · obtain ⟨m, hm, -⟩ := hempty
    exact hnone ((matchAt?_isSome_iff h).1 (by rw [hm]; rfl))
  · exact hlast heq

/-- A place that prefers the empty match is found unless a match leads up to it: the iteration
    comes to a place at or before it, and what it finds next starts no later. -/
theorem Iterates.mem_of_bare (h : pattern.IsRead) {k : Nat} (hk : k ≤ text.length)
    (hempty : pattern.EmptyAt text k) {place : Nat} {last : Option Nat} {found : List Match}
    (hfound : Iterates pattern text place last found) (hplace : place ≤ k) (hlast : last ≠ some k)
    (hbare : ∀ m ∈ found, ¬ (m.whole.start < k ∧ k ≤ m.whole.stop)) :
    ∃ m ∈ found, m.isEmpty = true := by
  induction hfound with
  | done hend => exact absurd (hend k hplace hk) (not_skips_of_emptyAt h hempty hlast)
  | @next place last first rest hstart hstop hmatch hfresh hgap hrest ih =>
    have hle : first.whole.start ≤ k := by
      refine Nat.le_of_not_lt fun hlt => ?_
      exact not_skips_of_emptyAt h hempty hlast (hgap k hplace hlt)
    by_cases heq : first.whole.start = k
    · obtain ⟨m, hm, hmempty⟩ := hempty
      rw [heq, hm] at hmatch
      cases hmatch
      exact ⟨first, .head _, hmempty⟩
    · -- the first match starts before the place, so it must end before it
      have hbefore := hbare first (.head _)
      have hlt : first.whole.stop < k := by omega
      have hne : some first.whole.stop ≠ some k := by
        intro heq
        cases heq
        omega
      obtain ⟨m, hmem, hmempty⟩ := ih (by omega) hne fun other hmem => hbare other (.tail _ hmem)
      exact ⟨m, .tail _ hmem, hmempty⟩

/-- A text has an empty match exactly if it has a bare place. -/
theorem exists_empty_iff (h : pattern.IsRead) :
    (∃ m ∈ pattern.allMatches text, m.isEmpty = true) ↔ ∃ k, pattern.BareAt text k := by
  have hfound := iterates_allMatches h text
  constructor
  · intro hex
    obtain ⟨m, hmem, hempty⟩ := hex
    obtain ⟨hm, -, hstop, -⟩ := hfound.of_mem h m hmem
    refine ⟨m.whole.start, ?_, ⟨m, hm, hempty⟩, hfound.bare_of_mem h m hmem hempty⟩
    rw [isEmpty_iff.1 hempty]
    exact hstop
  · intro hex
    obtain ⟨k, hk, hempty, hbare⟩ := hex
    exact hfound.mem_of_bare h hk hempty (Nat.zero_le k) (by simp) hbare

/-- All matches in a text have characters exactly if the text has no bare place. -/
theorem forall_nonempty_iff (h : pattern.IsRead) :
    (∀ m ∈ pattern.allMatches text, m.isEmpty = false) ↔ ∀ k, ¬ pattern.BareAt text k := by
  rw [← not_exists, ← exists_empty_iff h]
  simp

/-- The loader looks for a bare place in the probes. -/
theorem matchesEmpty_iff (h : pattern.IsRead) :
    pattern.matchesEmpty = true ↔
      ∃ probe ∈ emptyMatchProbes, ∃ k, pattern.BareAt probe.toList k := by
  simp only [matchesEmpty, List.any_eq_true, exists_empty_iff h]

/-! ## §2. Patterns without assertions. -/

/-- At a bare place the pattern spans nothing. -/
theorem BareAt.spans (h : pattern.IsRead) {k : Nat} (hbare : pattern.BareAt text k) :
    pattern.node.Spans text k k := by
  obtain ⟨-, ⟨m, hm, hempty⟩, -⟩ := hbare
  obtain ⟨hstart, hspans⟩ := matchAt?_spans h hm
  rwa [← isEmpty_iff.1 hempty, hstart] at hspans

/-- A pattern that spans the start of the empty text has a bare place there. -/
theorem bareAt_nil (h : pattern.IsRead) (hspans : pattern.node.Spans [] 0 0) :
    pattern.BareAt [] 0 := by
  obtain ⟨m, hm⟩ := Option.isSome_iff_exists.1 ((matchAt?_isSome_iff h).2 ⟨0, hspans⟩)
  refine ⟨Nat.le_refl 0, ⟨m, hm, ?_⟩, fun _ _ hlt => absurd hlt.1 (Nat.not_lt_zero _)⟩
  obtain ⟨hstart, hspans'⟩ := matchAt?_spans h hm
  -- in the empty text a match can only end where it starts
  have hstop := hspans'.bounds.2 (Nat.le_refl 0)
  rw [isEmpty_iff, hstart]
  exact (Nat.le_zero.1 hstop).symm

/-- A pattern without assertions that passes the probes has no bare place in any text. -/
theorem not_bareAt_of_isPlain (h : pattern.IsRead) (hplain : pattern.node.isPlain = true)
    (hprobes : pattern.matchesEmpty = false) (text : List Char) (k : Nat) :
    ¬ pattern.BareAt text k := by
  intro hbare
  have hspans : pattern.node.Spans [] 0 0 :=
    (Node.spans_empty_iff hplain text [] k 0).1 (hbare.spans h)
  have hmatches := (matchesEmpty_iff h).2 ⟨"", .head _, 0, bareAt_nil h hspans⟩
  rw [hprobes] at hmatches
  cases hmatches

end Pattern

/-! ## §3. Rules that load. -/

/-- **Main.**  A rule of a registry that loads has no bare place in the probes and, if its pattern
    has no assertion, in no text.  Whatever the pattern, every match that the rule replaces in a
    text has characters exactly if the text has no bare place. -/
theorem loaded_matches_nonempty_iff {name : String} {registry : Registry}
    (h : (∃ definitions, Registry.ofDefs name definitions = .ok registry) ∨
      ∃ specs, Registry.ofSpecs name specs = .ok registry)
    (rule : Rule) (hrule : rule ∈ registry.rules) :
    (∀ probe ∈ emptyMatchProbes, ∀ k, ¬ rule.pattern.BareAt probe.toList k) ∧
      (rule.pattern.node.isPlain = true → ∀ text k, ¬ rule.pattern.BareAt text k) ∧
      ∀ text, (∀ m ∈ rule.allMatches text, m.isEmpty = false) ↔
        ∀ k, ¬ rule.pattern.BareAt text k := by
  obtain ⟨definitions, hload⟩ : ∃ definitions, Registry.ofDefs name definitions = .ok registry := by
    rcases h with h | ⟨specs, h⟩
    · exact h
    · exact Registry.ofDefs_of_ofSpecs h
  obtain ⟨index, definition, -, hrule⟩ := Registry.loaded_of_mem hload hrule
  obtain ⟨pattern, hparse, hprobes, -, rfl⟩ := RuleDef.load_eq_ok_iff.1 hrule
  have hread := Pattern.isRead_parse hparse
  refine ⟨?_, fun hplain => Pattern.not_bareAt_of_isPlain hread hplain hprobes,
    fun text => Pattern.forall_nonempty_iff hread⟩
  intro probe hprobe k hbare
  have hmatches := (Pattern.matchesEmpty_iff hread).2 ⟨probe, hprobe, k, hbare⟩
  rw [hprobes] at hmatches
  cases hmatches

/-- Words in small letters, or the edges of words.  In the probes every edge is an end of such a
    word. -/
def wordsOrEdges : RuleDef :=
  { pattern := "[a-z0-9_]+|\\b", replacement := .literal "-", description := "words or edges" }

/-- The rule loads, and there is a bare place before a capital letter: the rule inserts text
    there. -/
theorem wordsOrEdges_replaces_nothing :
    ∃ registry rule, Registry.ofDefs "words" [wordsOrEdges] = .ok registry ∧
      rule ∈ registry.rules ∧ (∃ m ∈ rule.allMatches ['A'], m.isEmpty = true) ∧
      ∃ k, rule.pattern.BareAt ['A'] k := by
  have heval : (match wordsOrEdges.load 0 with
      | .ok rule => (rule.allMatches ['A']).any (·.isEmpty)
      | .error _ => false) = true := by
    decide +kernel
  obtain ⟨rule, hload, hany⟩ : ∃ rule, wordsOrEdges.load 0 = .ok rule ∧
      (rule.allMatches ['A']).any (·.isEmpty) = true := by
    split at heval
    · next rule hload => exact ⟨rule, hload, heval⟩
    · cases heval
  have hregistry : Registry.ofDefs "words" [wordsOrEdges] = .ok ⟨"words", [rule]⟩ := by
    rw [Registry.ofDefs, Registry.loadFrom, hload]
    rfl
  have hempty : ∃ m ∈ rule.allMatches ['A'], m.isEmpty = true := List.any_eq_true.1 hany
  obtain ⟨-, -, hiff⟩ := loaded_matches_nonempty_iff (.inl ⟨_, hregistry⟩) rule (.head _)
  refine ⟨_, rule, hregistry, .head _, hempty, ?_⟩
  refine Classical.byContradiction fun hnone => ?_
  obtain ⟨m, hmem, hm⟩ := hempty
  have hall := (hiff ['A']).2 (fun k hbare => hnone ⟨k, hbare⟩) m hmem
  rw [hm] at hall
  cases hall

end Reroute
