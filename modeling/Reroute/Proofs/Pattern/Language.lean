/-
  Reroute.Proofs.Pattern.Language — what a pattern means.

  `node.Spans text i j` says that the pattern matches the part of the text from place `i` to place
  `j`.  It follows the structure of the pattern and knows nothing of programs, threads or
  preference; an assertion looks at the characters on both sides of its place, in the whole text.

  A pattern that does not span a place on its own (`¬ node.Spans text i i`) can have no empty match
  there.  For a pattern without assertions this does not depend on text and place: its structure
  decides (`spans_self_iff`).
-/
import Reroute.Pattern.Node

namespace Reroute.Pattern

/-! ## §1. Spans. -/

/-- The character before a place of a text. -/
def before? (text : List Char) : Nat → Option Char
  | 0 => none
  | place + 1 => text[place]?

/-- `n` steps, one after the other. -/
def Rounds {σ : Type} (step : σ → σ → Prop) : (n : Nat) → (i j : σ) → Prop
  | 0, i, j => i = j
  | n + 1, i, j => ∃ k, step i k ∧ Rounds step n k j

theorem Rounds.append {σ : Type} {step : σ → σ → Prop} {m n : Nat} {i j k : σ}
    (h : Rounds step m i k) (h' : Rounds step n k j) : Rounds step (m + n) i j := by
  induction m generalizing i with
  | zero =>
    cases h
    rw [Nat.zero_add]
    exact h'
  | succ m ih =>
    obtain ⟨l, hstep, hrest⟩ := h
    rw [Nat.succ_add]
    exact ⟨l, hstep, ih hrest⟩

theorem Rounds.split {σ : Type} {step : σ → σ → Prop} {m n : Nat} {i j : σ}
    (h : Rounds step (m + n) i j) : ∃ k, Rounds step m i k ∧ Rounds step n k j := by
  induction m generalizing i with
  | zero => exact ⟨i, rfl, by rwa [Nat.zero_add] at h⟩
  | succ m ih =>
    rw [Nat.succ_add] at h
    obtain ⟨l, hstep, hrest⟩ := h
    obtain ⟨k, hfirst, hsecond⟩ := ih hrest
    exact ⟨k, ⟨l, hstep, hfirst⟩, hsecond⟩

theorem Rounds.stay {σ : Type} {step : σ → σ → Prop} {i : σ} (h : step i i) :
    ∀ n, Rounds step n i i
  | 0 => rfl
  | n + 1 => ⟨i, h, .stay h n⟩

/-- What single steps do in order, rounds do too. -/
theorem Rounds.bounds {step : Nat → Nat → Prop} {length n i j : Nat} (h : Rounds step n i j)
    (hstep : ∀ k l, step k l → k ≤ l ∧ (k ≤ length → l ≤ length)) :
    i ≤ j ∧ (i ≤ length → j ≤ length) := by
  induction n generalizing i with
  | zero =>
    obtain rfl : i = j := h
    exact ⟨Nat.le_refl i, id⟩
  | succ n ih =>
    obtain ⟨k, hfirst, hrest⟩ := h
    obtain ⟨hle, hlength⟩ := hstep i k hfirst
    obtain ⟨hle', hlength'⟩ := ih hrest
    exact ⟨Nat.le_trans hle hle', fun hi => hlength' (hlength hi)⟩

namespace Node

/-- The pattern matches the part of the text from place `i` to place `j`.  A repetition with its
    bounds out of order allows as many rounds as its lower bound says. -/
def Spans (text : List Char) : Node → (i j : Nat) → Prop
  | empty, i, j => i = j
  | set members, i, j => ∃ c, text[i]? = some c ∧ members.mem c = true ∧ j = i + 1
  | look assertion, i, j => assertion.holds (before? text i) text[i]? = true ∧ i = j
  | group _ _ body, i, j => body.Spans text i j
  | cat first second, i, j => ∃ k, first.Spans text i k ∧ second.Spans text k j
  | alt first second, i, j => first.Spans text i j ∨ second.Spans text i j
  | rep body min max _, i, j =>
    ∃ n, min ≤ n ∧ (∀ bound, max = some bound → n ≤ min + (bound - min)) ∧
      Rounds (body.Spans text) n i j

/-! ## §2. Spans lie within the text. -/

/-- A span starts before it ends, and ends within the text if it starts there. -/
theorem Spans.bounds {text : List Char} {node : Node} {i j : Nat} (h : node.Spans text i j) :
    i ≤ j ∧ (i ≤ text.length → j ≤ text.length) := by
  induction node generalizing i j with
  | empty =>
    obtain rfl : i = j := h
    exact ⟨Nat.le_refl i, id⟩
  | set members =>
    obtain ⟨c, hget, -, rfl⟩ := h
    have hlt := (List.getElem?_eq_some_iff.1 hget).1
    exact ⟨Nat.le_succ i, fun _ => hlt⟩
  | look assertion =>
    obtain ⟨-, rfl⟩ := h
    exact ⟨Nat.le_refl i, id⟩
  | group index name body ih => exact ih h
  | cat first second ih ih' =>
    obtain ⟨k, hfirst, hsecond⟩ := h
    obtain ⟨hle, hlen⟩ := ih hfirst
    obtain ⟨hle', hlen'⟩ := ih' hsecond
    exact ⟨Nat.le_trans hle hle', fun hi => hlen' (hlen hi)⟩
  | alt first second ih ih' =>
    rcases h with h | h
    · exact ih h
    · exact ih' h
  | rep body min max greedy ih =>
    obtain ⟨n, -, -, hrounds⟩ := h
    exact hrounds.bounds fun k l hstep => ih hstep

theorem Spans.le {text : List Char} {node : Node} {i j : Nat} (h : node.Spans text i j) : i ≤ j :=
  h.bounds.1

/-! ## §3. Numbers of groups. -/

/-- The numbers of the capture groups, from left to right. -/
def groupIndices : Node → List Nat
  | empty | set _ | look _ => []
  | group index _ body => index :: body.groupIndices
  | cat first second | alt first second => first.groupIndices ++ second.groupIndices
  | rep body _ _ _ => body.groupIndices

/-! ## §4. Patterns without assertions. -/

/-- Has the pattern no assertion? -/
def isPlain : Node → Bool
  | empty | set _ => true
  | look _ => false
  | group _ _ body => body.isPlain
  | cat first second | alt first second => first.isPlain && second.isPlain
  | rep body _ _ _ => body.isPlain

/-- Can the pattern match nothing at all, as far as its structure tells?  An assertion can, at a
    place where it holds. -/
def isNullable : Node → Bool
  | empty | look _ => true
  | set _ => false
  | group _ _ body => body.isNullable
  | cat first second => first.isNullable && second.isNullable
  | alt first second => first.isNullable || second.isNullable
  | rep body min _ _ => min == 0 || body.isNullable

/-- A pattern that spans a place on its own is nullable. -/
theorem Spans.isNullable {text : List Char} {node : Node} {i : Nat} (h : node.Spans text i i) :
    node.isNullable = true := by
  induction node with
  | empty | look _ => rfl
  | set members =>
    obtain ⟨c, -, -, heq⟩ := h
    omega
  | group index name body ih => exact ih h
  | cat first second ih ih' =>
    obtain ⟨k, hfirst, hsecond⟩ := h
    have hle := hfirst.le
    have hle' := hsecond.le
    obtain rfl : k = i := by omega
    exact Bool.and_eq_true_iff.2 ⟨ih hfirst, ih' hsecond⟩
  | alt first second ih ih' =>
    rcases h with h | h
    · exact Bool.or_eq_true_iff.2 (.inl (ih h))
    · exact Bool.or_eq_true_iff.2 (.inr (ih' h))
  | rep body min max greedy ih =>
    obtain ⟨n, hmin, -, hrounds⟩ := h
    cases n with
    | zero => exact Bool.or_eq_true_iff.2 (.inl (beq_iff_eq.2 (Nat.le_zero.1 hmin)))
    | succ n =>
      -- no round goes back, so the first one stays where it is
      obtain ⟨k, hstep, hrest⟩ := hrounds
      have hle := hstep.le
      have hle' := (hrest.bounds fun k l (hround : body.Spans text k l) => hround.bounds).1
      obtain rfl : k = i := by omega
      exact Bool.or_eq_true_iff.2 (.inr (ih hstep))

/-- A nullable pattern without assertions spans every place of every text on its own. -/
theorem spans_self_of_isNullable {node : Node} (hplain : node.isPlain = true)
    (h : node.isNullable = true) (text : List Char) (i : Nat) : node.Spans text i i := by
  induction node with
  | empty => rfl
  | set members => cases h
  | look assertion => cases hplain
  | group index name body ih => exact ih hplain h
  | cat first second ih ih' =>
    obtain ⟨hplain, hplain'⟩ := Bool.and_eq_true_iff.1 hplain
    obtain ⟨h, h'⟩ := Bool.and_eq_true_iff.1 h
    exact ⟨i, ih hplain h, ih' hplain' h'⟩
  | alt first second ih ih' =>
    obtain ⟨hplain, hplain'⟩ := Bool.and_eq_true_iff.1 hplain
    rcases Bool.or_eq_true_iff.1 h with h | h
    · exact .inl (ih hplain h)
    · exact .inr (ih' hplain' h)
  | rep body min max greedy ih =>
    -- as few rounds as are allowed, each of them staying where it is
    refine ⟨min, Nat.le_refl min, fun _ _ => Nat.le_add_right min _, ?_⟩
    rcases Bool.or_eq_true_iff.1 h with hmin | h
    · obtain rfl := beq_iff_eq.1 hmin
      rfl
    · exact .stay (ih hplain h) min

/-- A pattern without assertions spans a place on its own exactly if it is nullable. -/
theorem spans_self_iff {node : Node} (hplain : node.isPlain = true) (text : List Char) (i : Nat) :
    node.Spans text i i ↔ node.isNullable = true :=
  ⟨fun h => h.isNullable, fun h => spans_self_of_isNullable hplain h text i⟩

/-- So whether it does depends neither on the text nor on the place. -/
theorem spans_empty_iff {node : Node} (h : node.isPlain = true) (text text' : List Char)
    (i i' : Nat) : node.Spans text i i ↔ node.Spans text' i' i' :=
  (spans_self_iff h text i).trans (spans_self_iff h text' i').symm

end Node

end Reroute.Pattern
