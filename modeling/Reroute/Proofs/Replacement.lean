/-
  Reroute.Proofs.Replacement — rules that replace words.

  Many rules match the words of a set and write the same text for each of them (`Rule.Replaces`).
  Such a rule replaces the words as `Replaced` says (`Rule.Replaces.replaced`).

  If the words, and what is written for them, belong to a family of words of which no two overlap
  in any text (`Apart`), the rule treats the parts of a text around a word of the family one by one
  (`Rule.Replaces.around_word`).  Therefore a second pass finds nothing
  (`Rule.Replaces.occurrences_replaceAll`), and two such rules of which neither matches what the
  other one matches or writes are independent (`Rule.Replaces.independent`).

  A landmark of a rule is a text that overlaps neither the words nor what is written for them.  A
  rule leaves its landmarks where they are (`Rule.Replaces.around_landmark`), and every landmark
  after the rule stood there before (`Rule.Replaces.exists_landmark`).
-/
import Reroute.Proofs.EmptyMatches
import Reroute.Proofs.Independence
import Reroute.Proofs.ReplacedWords

namespace Reroute

open Pattern

/-! ## §1. Matches one after the other. -/

section Walk

variable {pattern : Pattern} {text : List Char} {place : Nat} {last : Option Nat}
  {found : List Match}

/-- Places where no match starts can be passed over. -/
theorem Pattern.Iterates.pass (hread : pattern.IsRead) (h : Iterates pattern text place last found)
    (expansion : Match → List Char) {place' : Nat} (hle : place ≤ place')
    (hnone : ∀ k, place ≤ k → k < place' → ¬ pattern.StartsAt text k) :
    Iterates pattern text place' last found ∧
      splice expansion place (text.drop place) found = (text.drop place).take (place' - place) ++
        splice expansion place' (text.drop place') found := by
  have hdrop : ∀ {k}, place ≤ k → (text.drop place).drop (k - place) = text.drop k := by
    intro k hk
    rw [List.drop_drop, Nat.add_sub_cancel' hk]
  cases h with
  | done hend =>
    refine ⟨.done fun k hk hlength => hend k (by omega) hlength, ?_⟩
    rw [splice, splice, ← hdrop hle, List.take_append_drop]
  | @next _ _ m others hstart hstop hmatch hfresh hgap hrest =>
    obtain ⟨-, hspans⟩ := matchAt?_spans hread hmatch
    have hle' : place' ≤ m.whole.start :=
      Nat.le_of_not_lt fun hlt => hnone _ hstart hlt ⟨_, hspans⟩
    have hstop' := hspans.le
    refine ⟨.next hle' hstop hmatch hfresh (fun k hk hlt => hgap k (by omega) hlt) hrest, ?_⟩
    have htake : (text.drop place).take (m.whole.start - place) =
        (text.drop place).take (place' - place) ++
          (text.drop place').take (m.whole.start - place') := by
      have hsum : m.whole.start - place = (place' - place) + (m.whole.start - place') := by omega
      rw [hsum, List.take_add, hdrop hle]
    rw [splice, splice, htake, hdrop (by omega), List.drop_drop,
      Nat.add_sub_cancel' (show place' ≤ m.whole.stop by omega)]
    simp only [List.append_assoc]

/-- The next match, where one starts later on and none is empty. -/
theorem Pattern.Iterates.next_of_startsAt (hread : pattern.IsRead)
    (hsolid : ∀ i j, pattern.node.Spans text i j → i < j)
    (h : Iterates pattern text place last found) {k : Nat} (hk : place ≤ k)
    (hlength : k ≤ text.length) (hstarts : pattern.StartsAt text k) :
    ∃ m others, found = m :: others ∧ place ≤ m.whole.start ∧ m.whole.start ≤ k ∧
      pattern.matchAt? text m.whole.start = some m ∧
      Iterates pattern text m.whole.stop (some m.whole.stop) others := by
  have hpassed : ¬ pattern.Skips text last k := by
    intro hskips
    rcases hskips with hnone | ⟨-, m, hm, hempty⟩
    · exact hnone hstarts
    · obtain ⟨hstart, hspans⟩ := matchAt?_spans hread hm
      have hlt := hsolid _ _ hspans
      have heq := isEmpty_iff.1 hempty
      omega
  cases h with
  | done hend => exact absurd (hend k hk hlength) hpassed
  | @next _ _ m others hstart hstop hmatch hfresh hgap hrest =>
    refine ⟨m, others, rfl, hstart, ?_, hmatch, hrest⟩
    exact Nat.le_of_not_lt fun hlt => hpassed (hgap k hk hlt)

/-- At the end of the text there is no match left. -/
theorem Pattern.Iterates.eq_nil (hread : pattern.IsRead)
    (h : Iterates pattern text place last found) (hnone : ∀ k, place ≤ k → ¬ pattern.StartsAt text k) : found = [] := by
  cases h with
  | done => rfl
  | next hstart hstop hmatch =>
    exact absurd ⟨_, (matchAt?_spans hread hmatch).2⟩ (hnone _ hstart)

end Walk

/-- The pattern spans the words of the set, and nothing else. -/
structure Pattern.SpansWords (pattern : Pattern) (isWord : List Char → Prop) : Prop where
  spans_iff : ∀ {text : List Char} {i j : Nat}, pattern.node.Spans text i j ↔
    ∃ word, isWord word ∧ word <+: text.drop i ∧ j = i + word.length

namespace Pattern.SpansWords

variable {pattern : Pattern} {isWord : List Char → Prop} (h : pattern.SpansWords isWord)
include h

theorem startsAt_iff {text : List Char} {k : Nat} :
    pattern.StartsAt text k ↔ ∃ word, isWord word ∧ word <+: text.drop k := by
  constructor
  · intro hex
    obtain ⟨j, hspans⟩ := hex
    obtain ⟨word, hword, hstands, -⟩ := h.spans_iff.1 hspans
    exact ⟨word, hword, hstands⟩
  · intro hex
    obtain ⟨word, hword, hstands⟩ := hex
    exact ⟨_, h.spans_iff.2 ⟨word, hword, hstands, rfl⟩⟩

variable (hne : ∀ {word}, isWord word → word ≠ [])
include hne

theorem lt_of_spans {text : List Char} (i j : Nat) (hspans : pattern.node.Spans text i j) :
    i < j := by
  obtain ⟨word, hword, -, rfl⟩ := h.spans_iff.1 hspans
  have hpos := List.length_pos_iff.2 (hne hword)
  omega

/-- A pattern without the empty word passes the probes. -/
theorem matchesEmpty_eq_false (hread : pattern.IsRead) : pattern.matchesEmpty = false := by
  rw [← Bool.not_eq_true, matchesEmpty_iff hread]
  intro hex
  obtain ⟨probe, -, k, hbare⟩ := hex
  exact absurd (h.lt_of_spans hne _ _ (hbare.spans hread)) (Nat.lt_irrefl k)

end Pattern.SpansWords

/-! ## §2. Rules that replace words. -/

/-- No two words of the family overlap. -/
structure Apart (isWord : List Char → Prop) : Prop where
  ne_nil : ∀ {word}, isWord word → word ≠ []
  noOverlap : ∀ {word other}, isWord word → isWord other → NoOverlap word other

/-- In the context the rule replaces the words that match by the target; the words and the target
    belong to a family of words that do not overlap. -/
structure Rule.Replaces (rule : Rule) (context : Context) (isWord isMatch : List Char → Prop)
    (target : List Char) : Prop where
  isRead : rule.pattern.IsRead
  spansWords : rule.pattern.SpansWords isMatch
  expansion_eq : ∀ (text : List Char) (m : Match), rule.expansion context text m = target
  apart : Apart isWord
  isWord_of_isMatch : ∀ {word}, isMatch word → isWord word
  isWord_target : isWord target

namespace Rule.Replaces

variable {rule : Rule} {context : Context} {isWord isMatch : List Char → Prop}
  {target text : List Char} (h : rule.Replaces context isWord isMatch target)
include h

theorem ne_nil {word : List Char} (hword : isMatch word) : word ≠ [] :=
  h.apart.ne_nil (h.isWord_of_isMatch hword)

theorem noOverlap {word other : List Char} (hword : isMatch word) (hother : isWord other) :
    NoOverlap word other :=
  h.apart.noOverlap (h.isWord_of_isMatch hword) hother

/-- At most one word matches at a place. -/
theorem eq_of_stands {word other : List Char} (hword : isMatch word) (hother : isMatch other)
    (hstands : word <+: text) (hstands' : other <+: text) : word = other := by
  have hsame := h.noOverlap hword (h.isWord_of_isMatch hother)
  rcases List.prefix_or_prefix_of_prefix hstands hstands' with hle | hle
  · exact hsame.eq_of_part (h.ne_nil hword) hle.isInfix
  · exact (hsame.symm.eq_of_part (h.ne_nil hother) hle.isInfix).symm

/-- The matches from a place on and the words that are replaced from there on are the same. -/
theorem splice_eq {rest out : List Char} {count : Nat}
    (hout : Replaced isMatch target rest out count) : ∀ {place : Nat} {last : Option Nat}
    {found : List Match}, rest = text.drop place →
    Iterates rule.pattern text place last found →
    splice (rule.expansion context text) place (text.drop place) found = out ∧
      found.length = count := by
  induction hout with
  | done =>
    intro place last found hrest hfound
    have hnil : found = [] := by
      refine hfound.eq_nil h.isRead fun k hk hstarts => ?_
      obtain ⟨word, hword, hstands⟩ := h.spansWords.startsAt_iff.1 hstarts
      have hlength := List.drop_eq_nil_iff.1 hrest.symm
      rw [List.drop_eq_nil_of_le (by omega)] at hstands
      exact h.ne_nil hword (List.prefix_nil.1 hstands)
    rw [hnil, splice, ← hrest]
    exact ⟨rfl, rfl⟩
  | @keep c rest out count hnone hrest ih =>
    intro place last found htext hfound
    have hnext : rest = text.drop (place + 1) := by
      rw [← List.tail_drop, ← htext]
      rfl
    have hnone' : ∀ k, place ≤ k → k < place + 1 → ¬ rule.pattern.StartsAt text k := by
      intro k hk hlt hstarts
      obtain rfl : k = place := by omega
      obtain ⟨word, hword, hstands⟩ := h.spansWords.startsAt_iff.1 hstarts
      exact hnone word hword (htext ▸ hstands)
    obtain ⟨hfound', hsplice⟩ := hfound.pass h.isRead (rule.expansion context text)
      (Nat.le_add_right place 1) hnone'
    obtain ⟨heq, hcount⟩ := ih hnext hfound'
    rw [hsplice, heq, ← htext, Nat.add_sub_cancel_left]
    exact ⟨rfl, hcount⟩
  | @word word rest out count hword hrest ih =>
    intro place last found htext hfound
    have hhere : word <+: text.drop place := ⟨rest, htext⟩
    have hpos := List.length_pos_iff.2 (h.ne_nil hword)
    have hlength : place ≤ text.length := by
      have hle := hhere.length_le
      rw [List.length_drop] at hle
      omega
    obtain ⟨m, others, rfl, hstart, hstart', hmatch, hothers⟩ :=
      hfound.next_of_startsAt h.isRead (h.spansWords.lt_of_spans h.ne_nil) (Nat.le_refl place)
        hlength (h.spansWords.startsAt_iff.2 ⟨word, hword, hhere⟩)
    obtain hplace : m.whole.start = place := by omega
    -- the match at the place is the word that stands there
    have hstop : m.whole.stop = place + word.length := by
      obtain ⟨-, hspans⟩ := matchAt?_spans h.isRead hmatch
      obtain ⟨other, hother, hstands, hstop⟩ := h.spansWords.spans_iff.1 hspans
      rw [hplace] at hstands hstop
      rw [hstop, h.eq_of_stands hother hword hstands hhere]
    rw [hstop] at hothers
    have hnext : rest = text.drop (place + word.length) := by
      rw [← List.drop_drop, ← htext, List.drop_left]
    obtain ⟨heq, hcount⟩ := ih hnext hothers
    rw [splice, h.expansion_eq, hplace, hstop, Nat.sub_self, List.take_zero, List.nil_append,
      List.drop_drop, Nat.add_sub_cancel' (Nat.le_add_right _ _), heq, List.length_cons, hcount]
    exact ⟨rfl, rfl⟩

theorem eq_of_replaced {out : List Char} {count : Nat}
    (hout : Replaced isMatch target text out count) :
    rule.replaceAll context text = out ∧ rule.occurrences text = count :=
  h.splice_eq hout rfl (iterates_allMatches h.isRead text)

/-- **What the rule does to a text.** -/
theorem replaced (text : List Char) :
    Replaced isMatch target text (rule.replaceAll context text) (rule.occurrences text) := by
  obtain ⟨out, count, hout⟩ := exists_replaced (fun _ hword => h.ne_nil hword) target text
  obtain ⟨rfl, rfl⟩ := h.eq_of_replaced hout
  exact hout

theorem of_no_word (hnone : ∀ word, isMatch word → ¬ word <:+: text) :
    rule.replaceAll context text = text ∧ rule.occurrences text = 0 :=
  h.eq_of_replaced (replaced_of_no_word hnone)

theorem of_match {word : List Char} (hword : isMatch word) :
    rule.replaceAll context word = target ∧ rule.occurrences word = 1 :=
  h.eq_of_replaced (replaced_word hword)

theorem of_not_match {word : List Char} (hword : isWord word) (hnot : ¬ isMatch word) :
    rule.replaceAll context word = word ∧ rule.occurrences word = 0 := by
  refine h.of_no_word fun other hother hpart => hnot ?_
  rwa [← (h.noOverlap hother hword).eq_of_part (h.ne_nil hother) hpart]

/-- The parts of a text around a word of the family are treated one by one. -/
theorem around_word {word : List Char} (hword : isWord word) (before after : List Char) :
    rule.replaceAll context (before ++ (word ++ after)) = rule.replaceAll context before ++
        (rule.replaceAll context word ++ rule.replaceAll context after) ∧
      rule.occurrences (before ++ (word ++ after)) =
        rule.occurrences before + (rule.occurrences word + rule.occurrences after) :=
  h.eq_of_replaced (.around (fun _ hother => h.noOverlap hother hword) (h.replaced before)
    (h.replaced word) (h.replaced after))

theorem isWord_replaceAll {word : List Char} (hword : isWord word) :
    isWord (rule.replaceAll context word) := by
  by_cases hmatch : isMatch word
  · rw [(h.of_match hmatch).1]
    exact h.isWord_target
  · rwa [(h.of_not_match hword hmatch).1]

end Rule.Replaces

/-! ## §3. Texts by their words. -/

/-- A property of texts holds of all texts if it holds of those without a word of the family and
    goes over from the parts around a word to the whole. -/
theorem Apart.induction {isWord : List Char → Prop} (h : Apart isWord)
    {motive : List Char → Prop}
    (free : ∀ text, (∀ word, isWord word → ¬ word <:+: text) → motive text)
    (around : ∀ before word after, isWord word → motive before → motive after →
      motive (before ++ (word ++ after))) (text : List Char) : motive text := by
  induction hlength : text.length using Nat.strongRecOn generalizing text with
  | ind length ih =>
    by_cases hword : ∃ word, isWord word ∧ word <:+: text
    · obtain ⟨word, hword, before, after, rfl⟩ := hword
      have hpos := List.length_pos_iff.2 (h.ne_nil hword)
      rw [List.append_assoc] at hlength ⊢
      simp only [List.length_append] at hlength
      exact around before word after hword (ih before.length (by omega) before rfl)
        (ih after.length (by omega) after rfl)
    · exact free text fun word hisWord hpart => hword ⟨word, hisWord, hpart⟩

namespace Rule.Replaces

variable {rule other : Rule} {context : Context} {isWord isMatch isMatch' : List Char → Prop}
  {target target' : List Char}

/-- **After the rule there is nothing left to replace,** if it does not match what it writes. -/
theorem occurrences_replaceAll (h : rule.Replaces context isWord isMatch target)
    (hsettled : ¬ isMatch target) (text : List Char) :
    rule.occurrences (rule.replaceAll context text) = 0 := by
  induction text using h.apart.induction with
  | free text hnone =>
    obtain ⟨heq, hcount⟩ := h.of_no_word fun word hword => hnone word (h.isWord_of_isMatch hword)
    rw [heq, hcount]
  | around before word after hword ih ih' =>
    have hinner : rule.occurrences (rule.replaceAll context word) = 0 := by
      by_cases hmatch : isMatch word
      · rw [(h.of_match hmatch).1]
        exact (h.of_not_match h.isWord_target hsettled).2
      · rw [(h.of_not_match hword hmatch).1]
        exact (h.of_not_match hword hmatch).2
    rw [(h.around_word hword before after).1, (h.around_word (h.isWord_replaceAll hword) _ _).2,
      ih, hinner, ih']

/-- A rule finds the words that it matches also after one that neither matches nor writes any of
    them. -/
theorem occurrences_of_disjoint (h : rule.Replaces context isWord isMatch target)
    (h' : other.Replaces context isWord isMatch' target')
    (hdisjoint : ∀ word, isMatch word → ¬ isMatch' word) (hsettled : ¬ isMatch target')
    (text : List Char) :
    rule.occurrences (other.replaceAll context text) = rule.occurrences text := by
  induction text using h.apart.induction with
  | free text hnone =>
    rw [(h'.of_no_word fun word hword => hnone word (h'.isWord_of_isMatch hword)).1]
  | around before word after hword ih ih' =>
    have hinner : rule.occurrences (other.replaceAll context word) = rule.occurrences word := by
      by_cases hmatch : isMatch' word
      · rw [(h'.of_match hmatch).1, (h.of_not_match h'.isWord_target hsettled).2,
          (h.of_not_match hword fun hmatch' => hdisjoint word hmatch' hmatch).2]
      · rw [(h'.of_not_match hword hmatch).1]
    rw [(h'.around_word hword before after).1, (h.around_word (h'.isWord_replaceAll hword) _ _).2,
      ih, hinner, ih', (h.around_word hword before after).2]

/-- **Two rules of one family are independent,** if neither matches what the other one matches or
    writes. -/
theorem independent (h : rule.Replaces context isWord isMatch target)
    (h' : other.Replaces context isWord isMatch' target')
    (hdisjoint : ∀ word, isMatch word → ¬ isMatch' word) (hsettled : ¬ isMatch target')
    (hsettled' : ¬ isMatch' target) : Independent context rule other where
  keeps := h.occurrences_of_disjoint h' hdisjoint hsettled
  keeps_other := h'.occurrences_of_disjoint h (fun word hword hword' => hdisjoint word hword' hword)
    hsettled'
  commute text := by
    induction text using h.apart.induction with
    | free text hnone =>
      rw [(h.of_no_word fun word hword => hnone word (h.isWord_of_isMatch hword)).1,
        (h'.of_no_word fun word hword => hnone word (h'.isWord_of_isMatch hword)).1,
        (h.of_no_word fun word hword => hnone word (h.isWord_of_isMatch hword)).1]
    | around before word after hword ih ih' =>
      have hinner : other.replaceAll context (rule.replaceAll context word) =
          rule.replaceAll context (other.replaceAll context word) := by
        by_cases hmatch : isMatch word
        · rw [(h'.of_not_match hword (hdisjoint word hmatch)).1, (h.of_match hmatch).1,
            (h'.of_not_match h.isWord_target hsettled').1]
        · rw [(h.of_not_match hword hmatch).1]
          by_cases hmatch' : isMatch' word
          · rw [(h'.of_match hmatch').1, (h.of_not_match h'.isWord_target hsettled).1]
          · rw [(h'.of_not_match hword hmatch').1, (h.of_not_match hword hmatch).1]
      rw [(h.around_word hword before after).1, (h'.around_word hword before after).1,
        (h'.around_word (h.isWord_replaceAll hword) _ _).1,
        (h.around_word (h'.isWord_replaceAll hword) _ _).1, ih, hinner, ih']

end Rule.Replaces

/-! ## §4. Landmarks. -/

/-- A text that overlaps neither the words that match nor what is written for them. -/
structure Landmark (isMatch : List Char → Prop) (target landmark : List Char) : Prop where
  ne_nil : landmark ≠ []
  noOverlap : ∀ {word}, isMatch word ∨ word = target → NoOverlap word landmark
  ne : ∀ {word}, isMatch word ∨ word = target → word ≠ landmark

namespace Rule.Replaces

variable {rule : Rule} {context : Context} {isWord isMatch : List Char → Prop}
  {target landmark : List Char} (h : rule.Replaces context isWord isMatch target)
  (hmark : Landmark isMatch target landmark)
include h hmark

theorem around_landmark (before after : List Char) :
    rule.replaceAll context (before ++ (landmark ++ after)) =
        rule.replaceAll context before ++ (landmark ++ rule.replaceAll context after) ∧
      rule.occurrences (before ++ (landmark ++ after)) =
        rule.occurrences before + rule.occurrences after := by
  have hinner : Replaced isMatch target landmark landmark 0 := by
    refine replaced_of_no_word fun word hword hpart => hmark.ne (.inl hword) ?_
    exact (hmark.noOverlap (.inl hword)).eq_of_part (h.ne_nil hword) hpart
  have houter := h.eq_of_replaced (.around (fun _ hword => hmark.noOverlap (.inl hword))
    (h.replaced before) hinner (h.replaced after))
  rwa [Nat.zero_add] at houter

/-- A landmark after the rule stood there before, and the rule has treated the parts around it. -/
theorem exists_landmark {text before after : List Char}
    (heq : rule.replaceAll context text = before ++ (landmark ++ after)) :
    ∃ before' after', text = before' ++ (landmark ++ after') ∧
      rule.replaceAll context before' = before ∧ rule.replaceAll context after' = after := by
  obtain ⟨before', after', _, _, rfl, hbefore, hafter⟩ :=
    (h.replaced text).exists_landmark (hmark.noOverlap (.inr rfl)) (hmark.ne (.inr rfl))
      (h.apart.ne_nil h.isWord_target) hmark.ne_nil heq
  exact ⟨before', after', rfl, (h.eq_of_replaced hbefore).1, (h.eq_of_replaced hafter).1⟩

/-- A landmark stands in the text after the rule exactly if it stands in the text before. -/
theorem landmark_part_iff {text : List Char} :
    landmark <:+: rule.replaceAll context text ↔ landmark <:+: text := by
  constructor
  · intro hex
    obtain ⟨before, after, heq⟩ := hex
    rw [List.append_assoc] at heq
    obtain ⟨before', after', rfl, -, -⟩ := h.exists_landmark hmark heq.symm
    exact ⟨before', after', List.append_assoc _ _ _⟩
  · intro hex
    obtain ⟨before, after, rfl⟩ := hex
    rw [List.append_assoc, (h.around_landmark hmark before after).1]
    exact ⟨_, _, List.append_assoc _ _ _⟩

end Rule.Replaces

end Reroute
