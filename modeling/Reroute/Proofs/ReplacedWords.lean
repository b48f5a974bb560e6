/-
  Reroute.Proofs.ReplacedWords — words of a text and their replacement.

  Two words do not overlap if, wherever both occur in a text, they occur at the same place or one
  after the other (`NoOverlap`).

  `Replaced` says what it means to replace the words of a set in a text, from left to right: keep a
  character where no word starts, replace the word where one does.  The parts of a text around a
  word that overlaps none of them are treated one by one (`Replaced.around`), and such a word in the
  text afterwards stood there before, unless it overlaps what is written
  (`Replaced.exists_landmark`).
-/

namespace Reroute

/-! ## §1. Words that do not overlap. -/

/-- Two occurrences of the words in one text are the same, or one ends before the other starts. -/
def NoOverlap (word other : List Char) : Prop :=
  ∀ before after before' after', before ++ (word ++ after) = before' ++ (other ++ after') →
    (before = before' ∧ word = other ∧ after = after') ∨
      (∃ gap, before' = before ++ (word ++ gap) ∧ after = gap ++ (other ++ after')) ∨
      ∃ gap, before = before' ++ (other ++ gap) ∧ after' = gap ++ (word ++ after)

section Overlaps

variable {word other : List Char}

theorem NoOverlap.symm (h : NoOverlap word other) : NoOverlap other word := by
  intro before after before' after' heq
  rcases h _ _ _ _ heq.symm with ⟨hbefore, hword, hafter⟩ | hlater | hearlier
  · exact .inl ⟨hbefore.symm, hword.symm, hafter.symm⟩
  · exact .inr (.inr hlater)
  · exact .inr (.inl hearlier)

/-- A word that ends before another one starts leaves a gap. -/
theorem exists_gap {before after before' after' : List Char}
    (heq : before ++ (word ++ after) = before' ++ (other ++ after'))
    (hle : before.length + word.length ≤ before'.length) :
    ∃ gap, before' = before ++ (word ++ gap) ∧ after = gap ++ (other ++ after') := by
  rw [← List.append_assoc] at heq
  have hstands : before ++ word <+: before' :=
    List.prefix_of_prefix_length_le ⟨after, heq⟩ (List.prefix_append _ _)
      (by rw [List.length_append]; exact hle)
  obtain ⟨gap, rfl⟩ := hstands
  refine ⟨gap, List.append_assoc _ _ _, ?_⟩
  rwa [List.append_assoc (before ++ word), List.append_cancel_left_eq] at heq

/-- Words do not overlap if no place of a text allows it. -/
theorem NoOverlap.of_places
    (hsame : ∀ {text : List Char} {i : Nat}, word <+: text.drop i → other <+: text.drop i →
      word = other)
    (hfirst : ∀ {text : List Char} {i j : Nat}, word <+: text.drop i → other <+: text.drop j →
      i < j → i + word.length ≤ j)
    (hsecond : ∀ {text : List Char} {i j : Nat}, other <+: text.drop i → word <+: text.drop j →
      i < j → i + other.length ≤ j) : NoOverlap word other := by
  intro before after before' after' heq
  have hword : word <+: (before ++ (word ++ after)).drop before.length := by
    rw [List.drop_left]
    exact List.prefix_append word after
  have hother : other <+: (before ++ (word ++ after)).drop before'.length := by
    rw [heq, List.drop_left]
    exact List.prefix_append other after'
  rcases Nat.lt_trichotomy before.length before'.length with hlt | hlength | hlt
  · exact .inr (.inl (exists_gap heq (hfirst hword hother hlt)))
  · refine .inl ?_
    obtain ⟨rfl, hrest⟩ := List.append_inj heq hlength
    obtain rfl := hsame hword hother
    exact ⟨rfl, rfl, List.append_cancel_left hrest⟩
  · exact .inr (.inr (exists_gap heq.symm (hsecond hother hword hlt)))

/-- Words do not overlap if each of them starts with the other one or behind it. -/
theorem NoOverlap.of_starts
    (hfirst : ∀ {gap after after' : List Char}, word ++ after = gap ++ (other ++ after') →
      (gap = [] ∧ word = other ∧ after = after') ∨
        ∃ gap', gap = word ++ gap' ∧ after = gap' ++ (other ++ after'))
    (hsecond : ∀ {gap after after' : List Char}, other ++ after = gap ++ (word ++ after') →
      (gap = [] ∧ other = word ∧ after = after') ∨
        ∃ gap', gap = other ++ gap' ∧ after = gap' ++ (word ++ after')) :
    NoOverlap word other := by
  intro before after before' after' heq
  rcases List.append_eq_append_iff.1 heq with ⟨gap, rfl, hgap⟩ | ⟨gap, rfl, hgap⟩
  · rcases hfirst hgap with ⟨rfl, rfl, rfl⟩ | ⟨gap', rfl, hafter⟩
    · exact .inl ⟨(List.append_nil _).symm, rfl, rfl⟩
    · exact .inr (.inl ⟨gap', rfl, hafter⟩)
  · rcases hsecond hgap with ⟨rfl, rfl, rfl⟩ | ⟨gap', rfl, hafter⟩
    · exact .inl ⟨List.append_nil _, rfl, rfl⟩
    · exact .inr (.inr ⟨gap', rfl, hafter⟩)

/-- A word without the character does not overlap it. -/
theorem noOverlap_char {c : Char} (h : c ∉ word) : NoOverlap word [c] := by
  intro before after before' after' heq
  rcases List.append_eq_append_iff.1 heq with ⟨gap, rfl, hrest⟩ | ⟨gap, rfl, hrest⟩
  · rcases List.append_eq_append_iff.1 hrest with ⟨gap', rfl, rfl⟩ | ⟨gap', rfl, hrest'⟩
    · exact .inr (.inl ⟨gap', rfl, rfl⟩)
    · cases gap' with
      | nil => exact .inr (.inl ⟨[], by simp, hrest'.symm⟩)
      | cons d gap' =>
        -- the character would stand in the word
        cases hrest'
        exact absurd (by simp) h
  · cases gap with
    | nil =>
      cases word with
      | nil => exact .inr (.inl ⟨[], by simp, hrest.symm⟩)
      | cons d word =>
        cases hrest
        exact absurd (.head _) h
    | cons d gap =>
      cases hrest
      exact .inr (.inr ⟨gap, rfl, rfl⟩)

/-- A word that is part of another one is that one. -/
theorem NoOverlap.eq_of_part (h : NoOverlap word other) (hne : word ≠ [])
    (hpart : word <:+: other) : word = other := by
  obtain ⟨before, after, heq⟩ := hpart
  have hplaces : before ++ (word ++ after) = [] ++ (other ++ []) := by
    rw [List.nil_append, List.append_nil, ← List.append_assoc, heq]
  rcases h _ _ _ _ hplaces with ⟨-, hword, -⟩ | ⟨gap, hgap, -⟩ | ⟨gap, -, hgap⟩
  · exact hword
  · exact absurd hgap.symm (by simp [hne])
  · exact absurd hgap.symm (by simp [hne])

end Overlaps

/-! ## §2. Texts with their words replaced. -/

/-- The text with its words replaced by the target, from left to right, and how many there were. -/
inductive Replaced (isMatch : List Char → Prop) (target : List Char) :
    (text out : List Char) → (count : Nat) → Prop where
  | done : Replaced isMatch target [] [] 0
  | keep {c : Char} {rest out : List Char} {count : Nat}
      (hnone : ∀ word, isMatch word → ¬ word <+: c :: rest)
      (hrest : Replaced isMatch target rest out count) :
      Replaced isMatch target (c :: rest) (c :: out) count
  | word {word rest out : List Char} {count : Nat} (hword : isMatch word)
      (hrest : Replaced isMatch target rest out count) :
      Replaced isMatch target (word ++ rest) (target ++ out) (count + 1)

section Texts

variable {isMatch : List Char → Prop} {target : List Char}

theorem exists_replaced (hne : ∀ word, isMatch word → word ≠ []) (target text : List Char) :
    ∃ out count, Replaced isMatch target text out count := by
  induction hlength : text.length using Nat.strongRecOn generalizing text with
  | ind length ih =>
    cases text with
    | nil => exact ⟨[], 0, .done⟩
    | cons c rest =>
      by_cases hword : ∃ word, isMatch word ∧ word <+: c :: rest
      · obtain ⟨word, hmatch, after, hafter⟩ := hword
        have hpos := List.length_pos_iff.2 (hne word hmatch)
        obtain ⟨out, count, hout⟩ := ih after.length
          (by rw [← hlength, ← hafter, List.length_append]; omega) after rfl
        exact ⟨target ++ out, count + 1, hafter ▸ .word hmatch hout⟩
      · obtain ⟨out, count, hout⟩ := ih rest.length (by simp [← hlength]) rest rfl
        refine ⟨c :: out, count, .keep (fun word hmatch hstands => ?_) hout⟩
        exact hword ⟨word, hmatch, hstands⟩

/-- Where no word stands, nothing is replaced. -/
theorem replaced_of_no_word {text : List Char} (h : ∀ word, isMatch word → ¬ word <:+: text) :
    Replaced isMatch target text text 0 := by
  induction text with
  | nil => exact .done
  | cons c rest ih =>
    refine .keep (fun word hword hstands => h word hword hstands.isInfix) (ih ?_)
    intro word hword hpart
    exact h word hword (hpart.trans (List.suffix_cons c rest).isInfix)

theorem replaced_word {word : List Char} (h : isMatch word) :
    Replaced isMatch target word target 1 := by
  have hreplaced : Replaced isMatch target (word ++ []) (target ++ []) 1 := .word h .done
  rwa [List.append_nil, List.append_nil] at hreplaced

/-- No word of the text lies across the end of its first part. -/
def Seam (isMatch : List Char → Prop) (first second : List Char) : Prop :=
  ∀ word before after, isMatch word → first ++ second = before ++ (word ++ after) →
    before.length + word.length ≤ first.length ∨ first.length ≤ before.length

theorem Seam.drop {start first second : List Char} (h : Seam isMatch (start ++ first) second) :
    Seam isMatch first second := by
  intro word before after hword heq
  have hplaces := h word (start ++ before) after hword (by simp [heq])
  simp only [List.length_append] at hplaces
  omega

/-- Two parts without a word across are treated one by one. -/
theorem Replaced.append {first second out out' : List Char} {count count' : Nat}
    (h : Replaced isMatch target first out count) (h' : Replaced isMatch target second out' count')
    (hseam : Seam isMatch first second) :
    Replaced isMatch target (first ++ second) (out ++ out') (count + count') := by
  induction h with
  | done => rwa [Nat.zero_add]
  | @keep c rest out count hnone hrest ih =>
    have hrestSeam : Seam isMatch ([c] ++ rest) second := hseam
    refine .keep (fun word hword hstands => ?_) (ih hrestSeam.drop)
    obtain ⟨after, hafter⟩ := hstands
    -- a word here ends within the first part, which has none
    rcases hseam word [] after hword hafter.symm with hlength | hlength
    · refine hnone word hword ?_
      exact List.prefix_of_prefix_length_le ⟨after, hafter⟩
        (List.prefix_append (c :: rest) second) (by simpa using hlength)
    · cases hlength
  | @word word rest out count hword hrest ih =>
    rw [List.append_assoc, List.append_assoc, Nat.add_right_comm]
    exact .word hword (ih hseam.drop)

/-- The parts of a text around a landmark are treated one by one, and so is the landmark. -/
theorem Replaced.around {landmark first second out out' mid : List Char}
    {count count' inner : Nat} (hmark : ∀ word, isMatch word → NoOverlap word landmark)
    (h : Replaced isMatch target first out count)
    (hinner : Replaced isMatch target landmark mid inner)
    (h' : Replaced isMatch target second out' count') :
    Replaced isMatch target (first ++ (landmark ++ second)) (out ++ (mid ++ out'))
      (count + (inner + count')) := by
  refine h.append (hinner.append h' ?_) ?_
  · intro word before after hword heq
    rcases hmark word hword before after [] second heq.symm with
      ⟨rfl, rfl, -⟩ | ⟨gap, hgap, -⟩ | ⟨gap, rfl, -⟩
    · exact .inl (by simp)
    · obtain ⟨rfl, hword⟩ := List.append_eq_nil_iff.1 hgap.symm
      exact .inl (by simp [(List.append_eq_nil_iff.1 hword).1])
    · exact .inr (by simp)
  · intro word before after hword heq
    rcases hmark word hword before after first second heq.symm with
      ⟨rfl, -, -⟩ | ⟨gap, rfl, -⟩ | ⟨gap, rfl, -⟩
    · exact .inr (Nat.le_refl _)
    · exact .inl (by simp)
    · exact .inr (by simp)

section Landmarks

variable {landmark : List Char} (hoverlap : NoOverlap target landmark) (hne : target ≠ landmark)
  (htarget : target ≠ []) (hlandmark : landmark ≠ [])
include hoverlap hne htarget

/-- The rest of a landmark that the text goes on with was there before: what is written does not
    start within a landmark. -/
theorem Replaced.landmark_rest {out' : List Char} (rest : List Char) :
    ∀ (start : List Char) {text : List Char} {count : Nat}, landmark = start ++ rest →
      Replaced isMatch target text (rest ++ out') count →
      ∃ text' count', text = rest ++ text' ∧ Replaced isMatch target text' out' count' := by
  induction rest with
  | nil => intro start text count _ h; exact ⟨text, count, rfl, h⟩
  | cons c rest ih =>
    intro start text count hstart h
    generalize hout : c :: rest ++ out' = out at h
    cases h with
    | done => cases hout
    | keep hnone hrest =>
      cases hout
      obtain ⟨text', count', rfl, h'⟩ := ih (start ++ [c]) (by simp [hstart]) hrest
      exact ⟨text', count', rfl, h'⟩
    | @word word text out count hword hrest =>
      have hplaces : start ++ (target ++ out) = [] ++ (landmark ++ out') := by
        rw [← hout, hstart]
        simp
      rcases hoverlap _ _ _ _ hplaces with ⟨-, heq, -⟩ | ⟨gap, hgap, -⟩ | ⟨gap, hgap, -⟩
      · exact absurd heq hne
      · exact absurd hgap.symm (by simp [htarget])
      · -- the start would be longer than the landmark
        have hlength := congrArg List.length hgap
        rw [hstart] at hlength
        simp at hlength

include hlandmark

/-- A landmark after the replacement stood there before. -/
theorem Replaced.exists_landmark {text out : List Char} {count : Nat}
    (h : Replaced isMatch target text out count) : ∀ {first second : List Char},
    out = first ++ (landmark ++ second) → ∃ first' second' count' count'',
      text = first' ++ (landmark ++ second') ∧ Replaced isMatch target first' first count' ∧
        Replaced isMatch target second' second count'' := by
  induction h with
  | done =>
    intro first second hout
    exact absurd hout.symm (by simp [hlandmark])
  | @keep c rest out count hnone hrest ih =>
    intro first second hout
    cases first with
    | nil =>
      rw [List.nil_append] at hout
      have hhere : Replaced isMatch target (c :: rest) (landmark ++ second) count :=
        hout ▸ .keep hnone hrest
      obtain ⟨second', count', heq, hsecond⟩ :=
        Replaced.landmark_rest hoverlap hne htarget landmark [] rfl hhere
      exact ⟨[], second', 0, count', heq, .done, hsecond⟩
    | cons d first =>
      cases hout
      obtain ⟨first', second', count', count'', rfl, hfirst, hsecond⟩ := ih rfl
      refine ⟨c :: first', second', count', count'', rfl, .keep ?_ hfirst, hsecond⟩
      intro word hword hstands
      refine hnone word hword (hstands.trans ?_)
      exact List.prefix_append (c :: first') (landmark ++ second')
  | @word word rest out count hword hrest ih =>
    intro first second hout
    have hplaces : [] ++ (target ++ out) = first ++ (landmark ++ second) := hout
    rcases hoverlap _ _ _ _ hplaces with ⟨-, heq, -⟩ | ⟨gap, rfl, rfl⟩ | ⟨gap, hgap, -⟩
    · exact absurd heq hne
    · obtain ⟨first', second', count', count'', rfl, hfirst, hsecond⟩ := ih rfl
      refine ⟨word ++ first', second', count' + 1, count'', ?_, .word hword hfirst, hsecond⟩
      exact (List.append_assoc _ _ _).symm
    · exact absurd hgap.symm (by simp [hlandmark])

end Landmarks

end Texts

end Reroute
