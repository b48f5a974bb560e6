/-
  Reroute.Proofs.Template.Grammar — which texts are templates.

  A template is written token by token: a doubled brace, any other character, or a reference in
  braces (`Writes`).  Three facts about the start of a text carry everything:

    • it is a token, or something is wrong with the brace it starts with, or it is at its end
      (`writes_or_blames`),
    • a token at the start is cut off, whatever follows it (`tokensFrom_writes`),
    • a brace that is wrong is reported with the bytes before it (`tokensFrom_blames`).

  So a text is read exactly if it is a row of tokens, and what is read joins neighbouring
  characters to one literal (`Joins`); a fault with an offset is about the brace at that offset,
  and the text before it is a template (`parse_iff_spells`).
-/
import Mathlib.Algebra.GroupWithZero.Nat
import Mathlib.Data.List.Chain
import Mathlib.Data.List.Forall2
import Reroute.Proofs.Template.RoundTrip

namespace Reroute

open Unicode (isBasicDigit)

namespace Template

/-! ## §1. The grammar. -/

/-- The text writes the token. -/
inductive Writes : List Char → Token → Prop where
  | openBrace : Writes ['{', '{'] (.char '{')
  | closeBrace : Writes ['}', '}'] (.char '}')
  | plain {c : Char} (hopen : c ≠ '{') (hclose : c ≠ '}') : Writes [c] (.char c)
  | root : Writes (reference rootWord.toList) (.reference .rootPrefix)
  | number {digits : List Char} (hne : digits ≠ []) (hdigits : ∀ c ∈ digits, isBasicDigit c = true)
      (hmax : numberOf 10 digits ≤ 2 ^ 64 - 1) :
      Writes (reference digits) (.reference (.group (numberOf 10 digits)))
  | name {name : String} (hname : IsReferenceName name) :
      Writes (reference name.toList) (.reference (.named name))

/-- The text is a concatenation of pieces that write the tokens one by one. -/
def Spells (text : List Char) (tokens : List Token) : Prop :=
  ∃ pieces, text = pieces.flatten ∧ List.Forall₂ Writes pieces tokens

/-- Is the segment a literal? -/
def IsLiteral (segment : Segment) : Prop :=
  ∃ text, segment = .literal text

/-- The segments are the tokens one by one, but for neighbouring characters, which make up one
    literal; no literal is empty. -/
structure Joins (tokens : List Token) (segments : List Segment) : Prop where
  tokens_eq : segments.flatMap segmentTokens = tokens
  nonempty : .literal "" ∉ segments
  apart : segments.IsChain fun first second => ¬ (IsLiteral first ∧ IsLiteral second)

/-- The fault is about the brace at the start of the text, which has so many bytes before it. -/
inductive Blames (offset : Nat) : Fault → List Char → Prop where
  | unclosed {inner : List Char} (hfirst : inner.head? ≠ some '{') (hclose : '}' ∉ inner) :
      Blames offset (.unclosed offset) ('{' :: inner)
  | emptyReference (after : List Char) :
      Blames offset (.emptyReference offset) ('{' :: '}' :: after)
  | unmatched {after : List Char} (hfirst : after.head? ≠ some '}') :
      Blames offset (.unmatched offset) ('}' :: after)
  | indexOutOfRange {digits : List Char} (hdigits : ∀ c ∈ digits, isBasicDigit c = true)
      (hmax : 2 ^ 64 - 1 < numberOf 10 digits) (after : List Char) :
      Blames offset (.indexOutOfRange (.ofList digits)) (reference digits ++ after)
  | invalidReference {inner : List Char} (hfirst : inner.head? ≠ some '{') (hclose : '}' ∉ inner)
      {c : Char} (hmem : c ∈ inner) (hc : isNameChar c = false) (after : List Char) :
      Blames offset (.invalidReference (.ofList inner)) (reference inner ++ after)

/-! ## §2. The start of a text. -/

/-- A reference in braces is a token, or it is at fault. -/
theorem reference_writes_or_blames {inner : List Char} (hfirst : inner.head? ≠ some '{')
    (hclose : '}' ∉ inner) (after : List Char) :
    (∃ token, Writes (reference inner) token) ∨
      ∀ offset, ∃ fault, Blames offset fault (reference inner ++ after) := by
  by_cases hempty : inner = []
  · subst hempty
    exact .inr fun offset => ⟨_, .emptyReference after⟩
  by_cases hroot : inner = rootWord.toList
  · subst hroot
    exact .inl ⟨_, .root⟩
  by_cases hdigits : ∀ c ∈ inner, isBasicDigit c = true
  · by_cases hmax : numberOf 10 inner ≤ 2 ^ 64 - 1
    · exact .inl ⟨_, .number hempty hdigits hmax⟩
    · exact .inr fun offset => ⟨_, .indexOutOfRange hdigits (Nat.lt_of_not_le hmax) after⟩
  by_cases hnames : ∀ c ∈ inner, isNameChar c = true
  · have hname : IsReferenceName (String.ofList inner) := by
      refine ⟨?_, ?_, ?_, ?_⟩
      · simpa using hempty
      · simpa using hnames
      · simpa using hdigits
      · exact fun heq => hroot (heq ▸ String.toList_ofList.symm)
    have hwrites := Writes.name hname
    rw [String.toList_ofList] at hwrites
    exact .inl ⟨_, hwrites⟩
  · push Not at hnames
    obtain ⟨c, hmem, hc⟩ := hnames
    exact .inr fun offset => ⟨_, .invalidReference hfirst hclose hmem (by simpa using hc) after⟩

/-- **A text is at its end, or starts with a token, or with a brace that is at fault.** -/
theorem writes_or_blames (text : List Char) :
    text = [] ∨ (∃ piece token rest, Writes piece token ∧ text = piece ++ rest) ∨
      ∀ offset, ∃ fault, Blames offset fault text := by
  match text with
  | [] => exact .inl rfl
  | c :: rest =>
    refine .inr ?_
    by_cases hopen : c = '{'
    · subst hopen
      by_cases hfirst : rest.head? = some '{'
      · obtain ⟨after, rfl⟩ := List.head?_eq_some_iff.1 hfirst
        exact .inl ⟨_, _, after, .openBrace, rfl⟩
      by_cases hclose : '}' ∈ rest
      · -- the reference goes up to the first brace that can close it
        obtain ⟨inner, after, rfl, hinner⟩ := List.eq_append_cons_of_mem hclose
        have hfirst' : inner.head? ≠ some '{' := by
          intro hhead
          rw [List.head?_append, hhead] at hfirst
          exact hfirst rfl
        have hshape : '{' :: (inner ++ '}' :: after) = reference inner ++ after := by
          simp [reference]
        rw [hshape]
        rcases reference_writes_or_blames hfirst' hinner after with ⟨token, htoken⟩ | hblames
        · exact .inl ⟨_, token, after, htoken, rfl⟩
        · exact .inr hblames
      · exact .inr fun offset => ⟨_, .unclosed hfirst hclose⟩
    by_cases hclose : c = '}'
    · subst hclose
      by_cases hfirst : rest.head? = some '}'
      · obtain ⟨after, rfl⟩ := List.head?_eq_some_iff.1 hfirst
        exact .inl ⟨_, _, after, .closeBrace, rfl⟩
      · exact .inr fun offset => ⟨_, .unmatched hfirst⟩
    · exact .inl ⟨[c], _, rest, .plain hopen hclose, rfl⟩

/-! ## §3. What is cut off. -/

/-- The segment of a reference that writes a token. -/
theorem referenceSegment_digits {digits : List Char} (hne : digits ≠ [])
    (hdigits : ∀ c ∈ digits, isBasicDigit c = true) (offset : Nat) :
    referenceSegment offset digits
      = if numberOf 10 digits ≤ 2 ^ 64 - 1 then .ok (.group (numberOf 10 digits))
        else .error (.indexOutOfRange (.ofList digits)) := by
  have hall : digits.all isBasicDigit = true := List.all_eq_true.2 hdigits
  have hempty : digits.isEmpty = false := by simpa [List.isEmpty_eq_false_iff] using hne
  -- the word for the root prefix is not written in digits
  have hroot : String.ofList digits ≠ rootWord := by
    intro heq
    have hmem : 'r' ∈ digits := by
      rw [← String.toList_ofList (l := digits), heq]
      decide
    cases hdigits 'r' hmem
  simp only [referenceSegment, hempty, hroot, hall, Bool.false_eq_true, if_false, if_true]
  rfl

/-- **A token at the start of a text is cut off**, whatever follows it. -/
theorem tokensFrom_writes {piece : List Char} {token : Token} (h : Writes piece token)
    (offset : Nat) (rest : List Char) :
    tokensFrom offset none (piece ++ rest) = (do
      let tokens ← tokensFrom (offset + (String.ofList piece).utf8ByteSize) none rest
      return token :: tokens) := by
  cases h with
  | openBrace => rfl
  | closeBrace => rfl
  | @plain c hopen hclose =>
    have hsize : (String.ofList [c]).utf8ByteSize = c.utf8Size := by
      rw [String.ofList_cons, String.ofList_nil, String.append_empty, String.utf8ByteSize_singleton]
    rw [List.singleton_append, hsize, tokensFrom.eq_6 offset c rest (fun _ heq _ => hopen heq)
      fun _ heq _ => hclose heq, if_neg hopen, if_neg hclose]
  | root => rw [tokensFrom_reference (by decide) (by decide)]; rfl
  | number hne hdigits hmax =>
    obtain ⟨hfirst, hclose⟩ := braces_of_isNameChar fun c hc => isNameChar_of_isBasicDigit (hdigits c hc)
    rw [tokensFrom_reference hfirst hclose, referenceSegment_digits hne hdigits, if_pos hmax]
    rfl
  | @name name hname =>
    obtain ⟨hfirst, hclose⟩ := braces_of_isNameChar hname.2.1
    have hreadable : IsReadable (.named name) := hname
    have hsegment : referenceSegment offset name.toList = .ok (.named name) :=
      referenceSegment_innerText hreadable offset
    rw [tokensFrom_reference hfirst hclose, hsegment]
    rfl

/-- Without a brace that closes it, a reference takes in all the rest. -/
theorem tokensFrom_unclosed (opened : Nat) (text : List Char) :
    ∀ (offset : Nat) (before : List Char), '}' ∉ text →
    tokensFrom offset (some (opened, before)) text = .error (.unclosed opened) := by
  induction text with
  | nil => intro offset before _; rfl
  | cons c text ih =>
    intro offset before hclose
    have hc : c ≠ '}' := fun heq => hclose (heq ▸ .head _)
    rw [tokensFrom, if_neg hc]
    exact ih _ _ fun hmem => hclose (.tail _ hmem)

/-- **A brace that is at fault at the start of a text is reported.** -/
theorem tokensFrom_blames {offset : Nat} {fault : Fault} {text : List Char}
    (h : Blames offset fault text) : tokensFrom offset none text = .error fault := by
  cases h with
  | @unclosed inner hfirst hclose =>
    have hsingle : ∀ rest, inner ≠ '{' :: rest := fun rest heq => hfirst (heq ▸ rfl)
    rw [tokensFrom.eq_6 offset _ _ (fun rest _ heq => hsingle rest heq) (fun _ heq => by cases heq),
      if_pos rfl]
    exact tokensFrom_unclosed offset inner _ [] hclose
  | emptyReference after =>
    show tokensFrom offset none (reference [] ++ after) = _
    rw [tokensFrom_reference (by simp) (by simp)]
    rfl
  | @unmatched after hfirst =>
    have hsingle : ∀ rest, after ≠ '}' :: rest := fun rest heq => hfirst (heq ▸ rfl)
    rw [tokensFrom.eq_6 offset _ _ (fun _ heq => by cases heq) (fun rest _ heq => hsingle rest heq)]
    rfl
  | @indexOutOfRange digits hdigits hmax after =>
    obtain ⟨hfirst, hclose⟩ := braces_of_isNameChar fun c hc => isNameChar_of_isBasicDigit (hdigits c hc)
    have hne : digits ≠ [] := by
      intro heq
      subst heq
      exact absurd hmax (by decide)
    rw [tokensFrom_reference hfirst hclose, referenceSegment_digits hne hdigits,
      if_neg (Nat.not_le.2 hmax)]
    rfl
  | @invalidReference inner hfirst hclose c hmem hc after =>
    have hempty : inner.isEmpty = false := List.isEmpty_eq_false_iff.2 (List.ne_nil_of_mem hmem)
    have hnames : ¬ inner.all isNameChar = true := by
      intro hall
      rw [List.all_eq_true.1 hall c hmem] at hc
      cases hc
    have hdigits : ¬ inner.all isBasicDigit = true := by
      intro hall
      rw [isNameChar_of_isBasicDigit (List.all_eq_true.1 hall c hmem)] at hc
      cases hc
    have hroot : String.ofList inner ≠ rootWord := by
      intro heq
      have hchars : rootWord.toList.all isNameChar = true := rfl
      rw [← heq, String.toList_ofList] at hchars
      exact hnames hchars
    rw [tokensFrom_reference hfirst hclose]
    simp only [referenceSegment, hempty, hroot, hdigits, hnames, Bool.false_eq_true, if_false]
    rfl

/-! ## §4. Whole texts. -/

/-- Pieces that write tokens are cut off one after the other. -/
theorem tokensFrom_pieces {pieces : List (List Char)} {tokens : List Token}
    (h : List.Forall₂ Writes pieces tokens) : ∀ (offset : Nat) (rest : List Char),
    tokensFrom offset none (pieces.flatten ++ rest) = (do
      let others ← tokensFrom (offset + (String.ofList pieces.flatten).utf8ByteSize) none rest
      return tokens ++ others) := by
  induction h with
  | nil =>
    intro offset rest
    show tokensFrom offset none rest = (tokensFrom offset none rest).bind fun others => .ok others
    cases tokensFrom offset none rest <;> rfl
  | @cons piece token pieces tokens hpiece _ ih =>
    intro offset rest
    rw [List.flatten_cons, List.append_assoc, tokensFrom_writes hpiece, ih, String.ofList_append,
      String.utf8ByteSize_append, Nat.add_assoc]
    cases tokensFrom _ none rest <;> rfl

/-- Every text is a row of tokens up to its end or up to a brace that is at fault. -/
theorem exists_pieces (text : List Char) : ∃ pieces tokens rest,
    text = pieces.flatten ++ rest ∧ List.Forall₂ Writes pieces tokens ∧
      (rest = [] ∨ ∀ offset, ∃ fault, Blames offset fault rest) := by
  -- a piece that writes a token is not empty, so what is left of the text gets shorter
  have hpos : ∀ {piece token}, Writes piece token → 0 < piece.length := by
    intro piece token hwrites
    cases hwrites <;> simp [reference]
  induction hlength : text.length using Nat.strong_induction_on generalizing text with
  | _ length ih =>
    rcases writes_or_blames text with rfl | ⟨piece, token, rest, hwrites, rfl⟩ | hblames
    · exact ⟨[], [], [], rfl, .nil, .inl rfl⟩
    · have hshort : rest.length < length := by
        have := hpos hwrites
        rw [List.length_append] at hlength
        omega
      obtain ⟨pieces, tokens, left, rfl, hpieces, hleft⟩ := ih _ hshort rest rfl
      exact ⟨piece :: pieces, token :: tokens, left, by simp, .cons hwrites hpieces, hleft⟩
    · exact ⟨[], [], text, rfl, .nil, .inr hblames⟩

/-- **A text is cut into tokens exactly if it spells them**, wherever it stands. -/
theorem tokensFrom_eq_ok_iff {offset : Nat} {text : List Char} {found : List Token} :
    tokensFrom offset none text = .ok found ↔ Spells text found := by
  constructor
  · intro htokens
    obtain ⟨pieces, spelled, rest, rfl, hpieces, hrest⟩ := exists_pieces text
    rw [tokensFrom_pieces hpieces] at htokens
    rcases hrest with rfl | hblames
    · cases htokens
      refine ⟨pieces, List.append_nil _, ?_⟩
      rwa [List.append_nil]
    · obtain ⟨fault, hfault⟩ := hblames (offset + (String.ofList pieces.flatten).utf8ByteSize)
      rw [tokensFrom_blames hfault] at htokens
      cases htokens
  · intro hspells
    obtain ⟨pieces, rfl, hpieces⟩ := hspells
    have hcut := tokensFrom_pieces hpieces offset []
    rw [List.append_nil] at hcut
    rw [hcut]
    show Except.ok (found ++ []) = _
    rw [List.append_nil]

theorem tokens_eq_ok_iff {text : List Char} {found : List Token} :
    tokens text = .ok found ↔ Spells text found :=
  tokensFrom_eq_ok_iff

/-- After a text that spells tokens, the rest spells those that are left. -/
theorem Spells.append_iff {front rest : List Char} {tokens found : List Token}
    (h : Spells front tokens) :
    Spells (front ++ rest) found ↔ ∃ others, Spells rest others ∧ found = tokens ++ others := by
  obtain ⟨pieces, rfl, hpieces⟩ := h
  rw [← tokens_eq_ok_iff, Template.tokens, tokensFrom_pieces hpieces, bind_eq_ok_iff]
  simp only [tokensFrom_eq_ok_iff]
  show (∃ others, _ ∧ Except.ok (tokens ++ others) = .ok found) ↔ _
  simp only [Except.ok.injEq, eq_comm]

/-- **A fault is about a brace with a row of tokens before it.** -/
theorem blames_of_tokens {text : List Char} {fault : Fault} (h : tokens text = .error fault) :
    ∃ before rest spelled, text = before ++ rest ∧ Spells before spelled ∧
      Blames (String.ofList before).utf8ByteSize fault rest := by
  obtain ⟨pieces, spelled, rest, rfl, hpieces, hrest⟩ := exists_pieces text
  rw [tokens, tokensFrom_pieces hpieces, Nat.zero_add] at h
  rcases hrest with rfl | hblames
  · cases h
  · obtain ⟨other, hother⟩ := hblames (String.ofList pieces.flatten).utf8ByteSize
    rw [tokensFrom_blames hother] at h
    cases h
    exact ⟨_, rest, spelled, rfl, ⟨pieces, rfl, hpieces⟩, hother⟩

/-! ## §5. Joining characters to literals. -/

/-- A text is joined to a literal at the end of the segments, or it is a literal after them. -/
theorem appendText_cases (added : String) (segments : List Segment) :
    (∃ front last, segments = front ++ [.literal last] ∧
        appendText added segments = front ++ [.literal (last ++ added)]) ∨
      (∀ last ∈ segments.getLast?, ¬ IsLiteral last) ∧
        appendText added segments = segments ++ [.literal added] := by
  induction segments using appendText.induct with
  | case1 => exact .inr ⟨by simp, rfl⟩
  | case2 last => exact .inl ⟨[], last, rfl, rfl⟩
  | case3 segment rest hother ih =>
    rw [appendText.eq_3 added segment rest hother]
    rcases ih with ⟨front, last, rfl, happend⟩ | ⟨hlast, happend⟩
    · exact .inl ⟨segment :: front, last, rfl, by rw [happend]; rfl⟩
    · refine .inr ⟨?_, by rw [happend]; rfl⟩
      cases rest with
      | nil =>
        rintro last hmem ⟨text, rfl⟩
        cases hmem
        exact hother text rfl rfl
      | cons next rest => simpa using hlast

theorem segmentTokens_of_not_literal {segment : Segment} (h : ¬ IsLiteral segment) :
    segmentTokens segment = [.reference segment] := by
  cases segment with
  | literal text => exact absurd ⟨text, rfl⟩ h
  | group index => rfl
  | named name => rfl
  | rootPrefix => rfl

theorem isChain_concat {segments : List Segment} {segment : Segment}
    (h : segments.IsChain fun first second => ¬ (IsLiteral first ∧ IsLiteral second))
    (hlast : ∀ last ∈ segments.getLast?, ¬ (IsLiteral last ∧ IsLiteral segment)) :
    (segments ++ [segment]).IsChain fun first second => ¬ (IsLiteral first ∧ IsLiteral second) := by
  refine List.isChain_append.2 ⟨h, .singleton segment, fun last hmem next hnext => ?_⟩
  cases hnext
  exact hlast last hmem

/-- One more character keeps the tokens joined. -/
theorem Joins.text {tokens : List Token} {segments : List Segment} (h : Joins tokens segments)
    (c : Char) :
    Joins (tokens ++ [.char c]) (appendText (String.singleton c) segments) := by
  have htokens : (appendText (String.singleton c) segments).flatMap segmentTokens
      = tokens ++ [.char c] := by
    rw [tokens_appendText, h.tokens_eq]
    simp
  rcases appendText_cases (String.singleton c) segments with
    ⟨front, last, rfl, happend⟩ | ⟨hlast, happend⟩
  · rw [happend] at htokens ⊢
    obtain ⟨hchain, -, hends⟩ := List.isChain_append.1 h.apart
    refine ⟨htokens, ?_, isChain_concat hchain fun other hmem hboth => ?_⟩
    · have hfront : .literal "" ∉ front := fun hmem => h.nonempty (List.mem_append_left _ hmem)
      simp [hfront]
    · exact hends other hmem _ rfl ⟨hboth.1, last, rfl⟩
  · rw [happend] at htokens ⊢
    refine ⟨htokens, ?_, isChain_concat h.apart fun other hmem hboth => hlast other hmem hboth.1⟩
    simp [h.nonempty]

/-- One more reference keeps the tokens joined. -/
theorem Joins.push {tokens : List Token} {segments : List Segment} (h : Joins tokens segments)
    {segment : Segment} (hsegment : ¬ IsLiteral segment) :
    Joins (tokens ++ [.reference segment]) (segments ++ [segment]) := by
  refine ⟨?_, ?_, isChain_concat h.apart fun _ _ hboth => hsegment hboth.2⟩
  · rw [List.flatMap_append, List.flatMap_singleton, h.tokens_eq,
      segmentTokens_of_not_literal hsegment]
  · rintro hmem
    rcases List.mem_append.1 hmem with hmem | hmem
    · exact h.nonempty hmem
    · exact hsegment ⟨"", (List.mem_singleton.1 hmem).symm⟩

theorem joins_foldl_pushToken (tokens : List Token) : ∀ {before : List Token} {template : Template},
    Joins before template.segments →
    (∀ segment, Token.reference segment ∈ tokens → ¬ IsLiteral segment) →
    Joins (before ++ tokens) (tokens.foldl pushToken template).segments := by
  induction tokens with
  | nil =>
    intro before template h _
    rwa [List.append_nil]
  | cons token tokens ih =>
    intro before template h htokens
    have hrest : ∀ segment, Token.reference segment ∈ tokens → ¬ IsLiteral segment :=
      fun segment hmem => htokens segment (.tail _ hmem)
    rw [List.append_cons, List.foldl_cons]
    cases token with
    | char c =>
      refine ih ?_ hrest
      have hne : (String.singleton c).isEmpty = false := by simp
      rw [pushToken, Template.text, hne]
      exact h.text c
    | reference segment => exact ih (h.push (htokens segment (.head _))) hrest

/-- Segments that join tokens come back from them, after any segments that they may stand after. -/
theorem foldl_segmentTokens (segments : List Segment) : ∀ {template : Template},
    (template.segments ++ segments).IsChain (fun first second =>
      ¬ (IsLiteral first ∧ IsLiteral second)) →
    .literal "" ∉ segments →
    (segments.flatMap segmentTokens).foldl pushToken template
      = { segments := template.segments ++ segments } := by
  induction segments with
  | nil =>
    intro template _ _
    rw [List.append_nil]
    rfl
  | cons segment segments ih =>
    intro template hchain hnonempty
    have hrest : .literal "" ∉ segments := fun hmem => hnonempty (.tail _ hmem)
    have hpush : segmentTokens segment |>.foldl pushToken template
        |> (· = template.push segment) := by
      by_cases hliteral : IsLiteral segment
      · obtain ⟨text, rfl⟩ := hliteral
        have hne : ¬ text.isEmpty = true := by
          intro hempty
          exact hnonempty (String.isEmpty_iff.1 hempty ▸ .head _)
        rw [segmentTokens, foldl_chars, String.ofList_toList, Template.text, if_neg hne]
        -- the segments before a literal do not end in one
        rcases appendText_cases text template.segments with ⟨front, last, hfront, -⟩ | ⟨-, happend⟩
        · rw [hfront] at hchain
          have hends := (List.isChain_append.1 hchain).2.2
          exact absurd ⟨⟨last, rfl⟩, text, rfl⟩
            (hends (.literal last) (by simp) (.literal text) (by simp))
        · rw [happend]
          rfl
      · rw [segmentTokens_of_not_literal hliteral]
        rfl
    rw [List.flatMap_cons, List.foldl_append, hpush, ih _ hrest]
    · simp [Template.push]
    · simpa [Template.push] using hchain

/-- **The template of tokens is the one that joins them.** -/
theorem ofTokens_eq_iff {tokens : List Token} {template : Template}
    (h : ∀ segment, Token.reference segment ∈ tokens → ¬ IsLiteral segment) :
    ofTokens tokens = template ↔ Joins tokens template.segments := by
  constructor
  · rintro rfl
    have hempty : Joins [] empty.segments := ⟨rfl, by simp [empty], .nil⟩
    exact joins_foldl_pushToken tokens hempty h
  · intro hjoins
    have hchain : (empty.segments ++ template.segments).IsChain fun first second =>
        ¬ (IsLiteral first ∧ IsLiteral second) := hjoins.apart
    rw [ofTokens, ← hjoins.tokens_eq, foldl_segmentTokens _ hchain hjoins.nonempty]
    rfl

/-- The references that a text can spell are never literals. -/
theorem not_isLiteral_of_spells {text : List Char} {tokens : List Token} (h : Spells text tokens) :
    ∀ segment, .reference segment ∈ tokens → ¬ IsLiteral segment := by
  obtain ⟨pieces, -, hpieces⟩ := h
  induction hpieces with
  | nil => intro segment hmem; cases hmem
  | cons hwrites _ ih =>
    intro segment hmem hliteral
    rcases List.mem_cons.1 hmem with rfl | hmem
    · obtain ⟨text, rfl⟩ := hliteral
      cases hwrites
    · exact ih segment hmem hliteral

/-! ## §6. Faults with an offset. -/

/-- Two texts that are equal have the same word after their last blank. -/
theorem eq_of_append_blank {front other word word' : List Char} (hword : ' ' ∉ word)
    (hword' : ' ' ∉ word') (h : front ++ ' ' :: word = other ++ ' ' :: word') : word = word' := by
  have htake : ∀ {front word : List Char}, ' ' ∉ word →
      (front ++ ' ' :: word).reverse.takeWhile (· != ' ') = word.reverse := by
    intro front word hword
    have hall : ∀ c ∈ word.reverse, (c != ' ') = true := by
      intro c hmem
      have hne : c ≠ ' ' := fun heq => hword (heq ▸ List.mem_reverse.1 hmem)
      simpa using hne
    rw [List.reverse_append, List.reverse_cons, List.append_assoc,
      List.takeWhile_append_of_pos hall]
    simp
  have hreverse := congrArg (fun text => text.reverse.takeWhile (· != ' ')) h
  simp only [htake hword, htake hword'] at hreverse
  exact List.reverse_injective hreverse

theorem isBasicDigit_of_mem_repr {c : Char} {number : Nat} (h : c ∈ (Nat.repr number).toList) :
    isBasicDigit c = true := by
  rw [Nat.repr, String.toList_ofList] at h
  exact isBasicDigit_of_mem_toDigits h

/-- The number after the last blank of a text is written there once. -/
theorem eq_of_append_repr {front other : String} {number number' : Nat}
    (h : front ++ " " ++ Nat.repr number = other ++ " " ++ Nat.repr number') :
    number = number' := by
  have hblank : ∀ number, ' ' ∉ (Nat.repr number).toList :=
    fun number hmem => by cases isBasicDigit_of_mem_repr hmem
  have hchars := congrArg String.toList h
  have hspace : " ".toList = [' '] := rfl
  simp only [String.toList_append, hspace, List.append_assoc, List.singleton_append] at hchars
  have hdigits := congrArg (numberOf 10) (eq_of_append_blank (hblank _) (hblank _) hchars)
  simpa only [Nat.repr, String.toList_ofList, numberOf_toDigits] using hdigits

/-- A text that ends in a number ends in a digit. -/
theorem append_repr_ne {front other : String} {c : Char} (hc : isBasicDigit c = false)
    (number : Nat) : front ++ String.singleton c ≠ other ++ Nat.repr number := by
  intro heq
  have hne : (Nat.repr number).toList ≠ [] := by
    rw [Nat.repr, String.toList_ofList]
    exact Nat.toDigits_ne_nil
  have hlast := congrArg (fun text => text.toList.getLast?) heq
  simp only [String.toList_append, String.toList_singleton, List.getLast?_append,
    List.getLast?_singleton, Option.some_or, List.getLast?_eq_some_getLast hne,
    Option.some.injEq] at hlast
  rw [hlast, isBasicDigit_of_mem_repr (List.getLast_mem hne)] at hc
  cases hc

/-- **A message that ends in an offset is that of a fault with this offset.** -/
theorem offset_of_message {fault : Fault} {words : String} {offset : Nat}
    (h : fault.message = words ++ " at offset " ++ Nat.repr offset) :
    fault = .unclosed offset ∨ fault = .emptyReference offset ∨ fault = .unmatched offset := by
  -- one blank is set apart, before the offset
  have hblank : words ++ " at offset " = words ++ " at offset" ++ " " := by
    rw [String.append_assoc]
    exact congrArg _ (by decide +kernel)
  have hoffset : ∀ {front : String} {number : Nat},
      front ++ " " ++ Nat.repr number = words ++ " at offset " ++ Nat.repr offset →
      number = offset := fun heq => eq_of_append_repr (hblank ▸ heq)
  cases fault with
  | unclosed number =>
    have hfront : "unclosed '\x7b' at offset" ++ " " = "unclosed '\x7b' at offset " := by
      decide +kernel
    obtain rfl := hoffset ((congrArg (· ++ Nat.repr number) hfront).trans h)
    exact .inl rfl
  | emptyReference number =>
    have hfront : "empty placeholder at offset" ++ " " = "empty placeholder at offset " := by
      decide +kernel
    obtain rfl := hoffset ((congrArg (· ++ Nat.repr number) hfront).trans h)
    exact .inr (.inl rfl)
  | unmatched number =>
    have hfront : "unmatched '\x7d' at offset" ++ " " = "unmatched '\x7d' at offset " := by
      decide +kernel
    obtain rfl := hoffset ((congrArg (· ++ Nat.repr number) hfront).trans h)
    exact .inr (.inr rfl)
  | indexOutOfRange digits =>
    have hend : "' is out of rang" ++ String.singleton 'e' = "' is out of range" := by
      decide +kernel
    have hmessage := (congrArg ("group index '" ++ digits ++ ·) hend).trans h
    exact absurd (String.append_assoc.trans hmessage) (append_repr_ne (by decide) offset)
  | invalidReference inner =>
    have hend : "\x7d" ++ String.singleton '\'' = "\x7d'" := by decide +kernel
    have hmessage := (congrArg ("invalid placeholder '\x7b" ++ inner ++ ·) hend).trans h
    exact absurd (String.append_assoc.trans hmessage) (append_repr_ne (by decide) offset)

/-! ## §7. What is read. -/

theorem parse_eq_ok_iff {source : String} {template : Template} :
    parse source = .ok template ↔
      ∃ found, Spells source.toList found ∧ Joins found template.segments := by
  constructor
  · intro hparse
    obtain ⟨found, htokens, hresult⟩ := bind_eq_ok_iff.1 hparse
    have hspells := tokens_eq_ok_iff.1 htokens
    cases hresult
    exact ⟨found, hspells, (ofTokens_eq_iff (not_isLiteral_of_spells hspells)).1 rfl⟩
  · rintro ⟨found, hspells, hjoins⟩
    rw [parse, tokens_eq_ok_iff.2 hspells,
      ← (ofTokens_eq_iff (not_isLiteral_of_spells hspells)).2 hjoins]
    rfl

/-- A text that spells tokens is a template. -/
theorem exists_parse_of_spells {source : String} {found : List Token}
    (h : Spells source.toList found) : ∃ template, parse source = .ok template := by
  refine ⟨ofTokens found, parse_eq_ok_iff.2 ⟨found, h, ?_⟩⟩
  exact (ofTokens_eq_iff (not_isLiteral_of_spells h)).1 rfl

/-- **Main.**  A text is a template exactly if it is a row of tokens, and the template joins them.
    A fault whose message ends in an offset is about the brace with so many bytes before it, and
    what stands before that brace is a template. -/
theorem parse_iff_spells (source : String) :
    ((∃ template, parse source = .ok template) ↔ ∃ found, Spells source.toList found) ∧
    (∀ template, parse source = .ok template ↔
      ∃ found, Spells source.toList found ∧ Joins found template.segments) ∧
    ∀ fault words offset, parse source = .error fault →
      fault.message = words ++ " at offset " ++ Nat.repr offset →
      ∃ before rest, source = before ++ rest ∧ before.utf8ByteSize = offset ∧
        Blames offset fault rest.toList ∧ ∃ template, parse before = .ok template := by
  refine ⟨⟨?_, ?_⟩, fun template => parse_eq_ok_iff, ?_⟩
  · rintro ⟨template, hparse⟩
    obtain ⟨found, hspells, -⟩ := parse_eq_ok_iff.1 hparse
    exact ⟨found, hspells⟩
  · rintro ⟨found, hspells⟩
    exact exists_parse_of_spells hspells
  · intro fault words offset hparse hmessage
    have htokens : tokens source.toList = .error fault := by
      rw [parse] at hparse
      cases htokens : tokens source.toList with
      | ok found =>
        rw [htokens] at hparse
        cases hparse
      | error other =>
        rw [htokens] at hparse
        cases hparse
        rfl
    obtain ⟨before, rest, found, hsource, hspells, hblames⟩ := blames_of_tokens htokens
    -- of the faults, those with an offset have the one at which they were found
    have hoffset : (String.ofList before).utf8ByteSize = offset := by
      rcases offset_of_message hmessage with rfl | rfl | rfl <;> cases hblames <;> rfl
    refine ⟨.ofList before, .ofList rest, ?_, hoffset, ?_, ?_⟩
    · rw [← String.ofList_append, ← hsource, String.ofList_toList]
    · rw [← hoffset, String.toList_ofList]
      exact hblames
    · rw [← String.toList_ofList (l := before)] at hspells
      exact exists_parse_of_spells hspells

/-- Three braces open and four close; the last one closes nothing. -/
def loneBrace : String := "ä\x7b\x7b\x7broot\x7d\x7d\x7d\x7d"

/-- It has twelve bytes before it, and these are a template. -/
theorem parse_iff_spells_loneBrace :
    parse loneBrace = .error (.unmatched 12) ∧
      ∃ before rest, loneBrace = before ++ rest ∧ before.utf8ByteSize = 12 ∧
        Blames 12 (.unmatched 12) rest.toList ∧ ∃ template, parse before = .ok template := by
  have hparse : parse loneBrace = .error (.unmatched 12) := by decide +kernel
  exact ⟨hparse, (parse_iff_spells _).2.2 _ "unmatched '\x7d'" 12 hparse (by decide +kernel)⟩

end Template

end Reroute
