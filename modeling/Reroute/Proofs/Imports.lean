/-
  Reroute.Proofs.Imports — import texts do not overlap.

  The text of an import is `from`, a blank and a path in quotes; the path has neither quotes nor
  blanks.  So its only blank is its fifth character, and its only quotes are its sixth and its last
  one.  Two of them in one text are therefore the same or apart from each other
  (`imports_apart`, `import_unique`): whatever surrounds an import, no other import is formed with a
  part of it (`infix_around_import`).
-/

namespace Reroute

/-! ## §1. Import texts. -/

/-- Is the character a quote of either kind? -/
def isQuote (c : Char) : Bool := c == '\'' || c == '"'

/-- Can the character stand in a path in quotes? -/
def isPathChar (c : Char) : Bool := !isQuote c && c != ' '

/-- An import from the path in the given quotes. -/
def importText (quote : Char) (path : List Char) (quote' : Char) : List Char :=
  ['f', 'r', 'o', 'm', ' '] ++ quote :: (path ++ [quote'])

/-- The text is an import from some path. -/
def IsImport (word : List Char) : Prop :=
  ∃ quote path quote', isQuote quote = true ∧ isQuote quote' = true ∧
    (∀ c ∈ path, isPathChar c = true) ∧ word = importText quote path quote'

section Shape

variable {word word' text : List Char}

theorem length_importText (quote : Char) (path : List Char) (quote' : Char) :
    (importText quote path quote').length = path.length + 7 := by
  simp [importText]

theorem IsImport.length_ge (h : IsImport word) : 7 ≤ word.length := by
  obtain ⟨quote, path, quote', -, -, -, rfl⟩ := h
  rw [length_importText]
  omega

theorem IsImport.blank (h : IsImport word) : word[4]? = some ' ' := by
  obtain ⟨quote, path, quote', -, -, -, rfl⟩ := h
  rfl

theorem IsImport.last_quote (h : IsImport word) :
    ∃ c, word[word.length - 1]? = some c ∧ isQuote c = true := by
  obtain ⟨quote, path, quote', -, hquote', -, rfl⟩ := h
  refine ⟨quote', ?_, hquote'⟩
  rw [← List.getLast?_eq_getElem?, importText, List.getLast?_append, List.getLast?_cons]
  simp

/-- A character after the quote that opens the path stands in the path or closes it. -/
theorem getElem?_importText {quote quote' c : Char} {path : List Char} {k : Nat}
    (h : (importText quote path quote')[k + 6]? = some c) :
    c ∈ path ∨ (c = quote' ∧ k = path.length) := by
  have hrest : (path ++ [quote'])[k]? = some c := h
  rw [List.getElem?_append] at hrest
  split at hrest
  · exact .inl (List.mem_of_getElem? hrest)
  · rw [List.getElem?_singleton] at hrest
    split at hrest
    · cases hrest
      exact .inr ⟨rfl, by omega⟩
    · cases hrest

/-- There is no other blank. -/
theorem IsImport.blank_unique (h : IsImport word) {k : Nat} (hk : word[k]? = some ' ') : k = 4 := by
  obtain ⟨quote, path, quote', hquote, hquote', hpath, rfl⟩ := h
  match k, hk with
  | 0, hk => simp [importText] at hk
  | 1, hk => simp [importText] at hk
  | 2, hk => simp [importText] at hk
  | 3, hk => simp [importText] at hk
  | 4, _ => rfl
  | 5, hk =>
    have heq : quote = ' ' := by simpa [importText] using hk
    rw [heq] at hquote
    cases hquote
  | k + 6, hk =>
    rcases getElem?_importText hk with hmem | ⟨heq, -⟩
    · have hblank := hpath ' ' hmem
      cases hblank
    · rw [← heq] at hquote'
      cases hquote'

/-- There are no quotes but those around the path. -/
theorem IsImport.quote_unique (h : IsImport word) {k : Nat} {c : Char} (hk : word[k]? = some c)
    (hc : isQuote c = true) : k = 5 ∨ k = word.length - 1 := by
  obtain ⟨quote, path, quote', -, -, hpath, rfl⟩ := h
  match k, hk with
  | 0, hk => cases hk; cases hc
  | 1, hk => cases hk; cases hc
  | 2, hk => cases hk; cases hc
  | 3, hk => cases hk; cases hc
  | 4, hk => cases hk; cases hc
  | 5, _ => exact .inl rfl
  | k + 6, hk =>
    rcases getElem?_importText hk with hmem | ⟨-, heq⟩
    · have hpathChar := hpath c hmem
      simp [isPathChar, hc] at hpathChar
    · refine .inr ?_
      rw [length_importText]
      omega

/-! ## §2. Imports within a text. -/

/-- A character of a text that stands in a word of it. -/
theorem getElem?_of_prefix_drop {i k : Nat} (h : word <+: text.drop i) (hk : k < word.length) :
    word[k]? = text[i + k]? := by
  rw [← List.getElem?_drop, List.getElem?_eq_getElem hk]
  exact (List.prefix_iff_getElem?.1 h k hk).symm

/-- An import ends before another one starts. -/
theorem imports_apart {i j : Nat} (h : IsImport word) (h' : IsImport word')
    (hword : word <+: text.drop i) (hword' : word' <+: text.drop j) (hlt : i < j) :
    i + word.length ≤ j := by
  have hlength := h.length_ge
  have hlength' := h'.length_ge
  refine Nat.le_of_not_lt fun hoverlap => ?_
  by_cases hblank : j + 4 < i + word.length
  · -- the blank of the second import would be one of the first
    have hinside : word[j + 4 - i]? = some ' ' := by
      rw [getElem?_of_prefix_drop hword (by omega), ← h'.blank,
        getElem?_of_prefix_drop hword' (by omega)]
      congr 1
      omega
    have heq := h.blank_unique hinside
    omega
  · -- the quote that closes the first import would stand before the path of the second
    obtain ⟨c, hlast, hquote⟩ := h.last_quote
    have hinside : word'[i + (word.length - 1) - j]? = some c := by
      rw [getElem?_of_prefix_drop hword' (by omega), ← hlast,
        getElem?_of_prefix_drop hword (by omega)]
      congr 1
      omega
    have heq := h'.quote_unique hinside hquote
    omega

/-- Imports at the same place are the same. -/
theorem import_unique {i : Nat} (h : IsImport word) (h' : IsImport word')
    (hword : word <+: text.drop i) (hword' : word' <+: text.drop i) : word = word' := by
  -- the quote that closes the shorter one closes the other
  have hdir : ∀ {word word' : List Char}, IsImport word → IsImport word' →
      word <+: text.drop i → word' <+: text.drop i → word.length ≤ word'.length →
      word = word' := by
    intro word word' h h' hword hword' hle
    have hlength := h.length_ge
    obtain ⟨c, hlast, hquote⟩ := h.last_quote
    rw [getElem?_of_prefix_drop hword (by omega), ← getElem?_of_prefix_drop hword' (by omega)]
      at hlast
    have heq := h'.quote_unique hlast hquote
    have hsame : word.length = word'.length := by omega
    exact (List.prefix_of_prefix_length_le hword hword' hle).eq_of_length hsame
  rcases Nat.le_total word.length word'.length with hle | hle
  · exact hdir h h' hword hword' hle
  · exact (hdir h' h hword' hword hle).symm

/-! ## §3. Imports around an import. -/

theorem infix_iff_prefix_drop : word <:+: text ↔ ∃ i, i ≤ text.length ∧ word <+: text.drop i := by
  constructor
  · intro hex
    obtain ⟨before, after, rfl⟩ := hex
    refine ⟨before.length, by simp, after, ?_⟩
    rw [List.append_assoc, List.drop_left]
  · intro hex
    obtain ⟨i, -, hword⟩ := hex
    exact hword.isInfix.trans (List.drop_suffix i text).isInfix

/-- An import within a text that has an import in it is that import or lies to one side of it. -/
theorem infix_around_import {gap target rest : List Char} (h : IsImport word)
    (htarget : IsImport target) (hword : word <:+: gap ++ (target ++ rest)) :
    word <:+: gap ∨ word = target ∨ word <:+: rest := by
  obtain ⟨i, -, hi⟩ := infix_iff_prefix_drop.1 hword
  have hat : target <+: (gap ++ (target ++ rest)).drop gap.length := by
    rw [List.drop_left]
    exact List.prefix_append target rest
  rcases Nat.lt_trichotomy i gap.length with hlt | rfl | hlt
  · refine .inl ?_
    have hapart := imports_apart h htarget hi hat hlt
    rw [List.drop_append_of_le_length (Nat.le_of_lt hlt)] at hi
    have hgap : word <+: gap.drop i :=
      List.prefix_of_prefix_length_le hi (List.prefix_append _ _) (by rw [List.length_drop]; omega)
    exact infix_iff_prefix_drop.2 ⟨i, Nat.le_of_lt hlt, hgap⟩
  · exact .inr (.inl (import_unique h htarget hi hat))
  · refine .inr (.inr ?_)
    have hapart := imports_apart htarget h hat hi hlt
    rw [← List.append_assoc, List.drop_append, List.drop_eq_nil_of_le (by simp; omega),
      List.nil_append] at hi
    exact hi.isInfix.trans (List.drop_suffix _ _).isInfix

end Shape

end Reroute
