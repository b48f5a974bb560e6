/-
  Reroute.Proofs.Template.RoundTrip — printing a template and reading it back.

  A printed template is cut into the tokens it was printed from: a doubled brace is always one
  character of a literal, and a reference ends at the first brace after it
  (`cutsInto_printSegments`).  The tokens of a template that was built from left to right give
  back its literals as they were joined (`ofTokens_tokens`).

  So a template is read back as it was exactly if all names in it can be read as names
  (`parse_print_iff`); the names of a template that was read can.
-/
import Reroute.Proofs.Pattern.Numbering
import Reroute.Template.Parser

namespace Reroute

open Unicode (isBasicDigit)

namespace Template

/-! ## §1. Templates that are built, and names that can be read. -/

/-- The template comes about by the operations that build templates; a group number is at most
    the highest one. -/
inductive Built : Template → Prop where
  | literal (text : String) : Built (.literal text)
  | text {template : Template} (h : Built template) (text : String) : Built (template.text text)
  | group {template : Template} (h : Built template) {index : Nat} (hindex : index ≤ maxIndex) :
      Built (template.group index)
  | named {template : Template} (h : Built template) (name : String) : Built (template.named name)
  | rootPrefix {template : Template} (h : Built template) : Built template.rootPrefix

/-- In braces the name is a reference by name: it has a character, all of them can stand in a name
    and are not just digits, and it is not the word for the root prefix. -/
def IsReferenceName (name : String) : Prop :=
  name ≠ "" ∧ (∀ c ∈ name.toList, isNameChar c = true) ∧
    (∃ c ∈ name.toList, isBasicDigit c = false) ∧ name ≠ rootWord

/-- The segment is a reference that its text in braces is read as. -/
def IsReadable : Segment → Prop
  | .literal _ => False
  | .group index => index ≤ maxIndex
  | .named name => IsReferenceName name
  | .rootPrefix => True

/-- Every reference of the template is readable. -/
def Readable (template : Template) : Prop :=
  ∀ segment ∈ template.segments, IsReadable segment ∨ ∃ text, segment = .literal text

/-- The text of a reference without its braces. -/
def innerText : Segment → List Char
  | .literal _ => []
  | .group index => Nat.toDigits 10 index
  | .named name => name.toList
  | .rootPrefix => rootWord.toList

/-- The tokens that a segment is printed from. -/
def segmentTokens : Segment → List Token
  | .literal text => text.toList.map .char
  | segment => [.reference segment]

/-! ## §2. Building from tokens. -/

theorem appendText_appendText (first second : String) (segments : List Segment) :
    appendText second (appendText first segments) = appendText (first ++ second) segments := by
  induction segments using appendText.induct with
  | case1 => rfl
  | case2 last =>
    simp only [appendText]
    rw [String.append_assoc]
  | case3 segment rest hother ih =>
    -- a segment stays in front unless it is a literal at the end
    have hfront : ∀ text : String, appendText text (segment :: rest) =
        segment :: appendText text rest := fun text => appendText.eq_3 text segment rest hother
    have hrest : appendText first rest ≠ [] := by
      cases rest with
      | nil => simp [appendText]
      | cons next rest => unfold appendText; split <;> simp
    have hother' : ∀ last, segment = .literal last → appendText first rest = [] → False :=
      fun _ _ hnil => hrest hnil
    rw [hfront, hfront, appendText.eq_3 second segment _ hother', ih]

/-- Texts one after the other are one text. -/
theorem text_text (template : Template) (first second : String) :
    (template.text first).text second = template.text (first ++ second) := by
  by_cases hfirst : first = ""
  · subst hfirst
    rw [String.empty_append]
    rfl
  by_cases hsecond : second = ""
  · subst hsecond
    rw [String.append_empty]
    rfl
  have hboth : first ++ second ≠ "" := by simp [hfirst]
  simp only [text, String.isEmpty_iff, hfirst, hsecond, hboth, if_false, appendText_appendText]

theorem foldl_chars (chars : List Char) : ∀ template : Template,
    (chars.map Token.char).foldl pushToken template = template.text (String.ofList chars) := by
  induction chars with
  | nil => intro template; rfl
  | cons c chars ih =>
    intro template
    show (chars.map Token.char).foldl pushToken (template.text (String.singleton c)) = _
    rw [ih, text_text]
    congr 1
    apply String.toList_inj.1
    simp

/-- The tokens of the segments grow with the text, whether it is joined to a literal or not. -/
theorem tokens_appendText (added : String) (segments : List Segment) :
    (appendText added segments).flatMap segmentTokens =
      segments.flatMap segmentTokens ++ added.toList.map .char := by
  induction segments using appendText.induct with
  | case1 => simp [appendText, segmentTokens]
  | case2 last => simp [appendText, segmentTokens]
  | case3 segment rest hother ih =>
    rw [appendText.eq_3 added segment rest hother, List.flatMap_cons, ih, List.flatMap_cons,
      List.append_assoc]

theorem ofTokens_text {template : Template}
    (h : ofTokens (template.segments.flatMap segmentTokens) = template) (added : String) :
    ofTokens ((template.text added).segments.flatMap segmentTokens) = template.text added := by
  unfold text
  split
  · exact h
  · next hne =>
    rw [tokens_appendText, ofTokens, List.foldl_append]
    rw [ofTokens] at h
    rw [h, foldl_chars, String.ofList_toList, text, if_neg hne]

theorem ofTokens_push {template : Template}
    (h : ofTokens (template.segments.flatMap segmentTokens) = template) (segment : Segment)
    (hsegment : segmentTokens segment = [.reference segment]) :
    ofTokens ((template.push segment).segments.flatMap segmentTokens) = template.push segment := by
  rw [push, List.flatMap_append, List.flatMap_singleton, hsegment, ofTokens, List.foldl_append]
  rw [ofTokens] at h
  rw [h]
  rfl

/-- The tokens of a template that was built give it back. -/
theorem ofTokens_tokens {template : Template} (h : Built template) :
    ofTokens (template.segments.flatMap segmentTokens) = template := by
  induction h with
  | literal text =>
    have hempty : ofTokens (empty.segments.flatMap segmentTokens) = empty := rfl
    exact ofTokens_text hempty text
  | text _ added ih => exact ofTokens_text ih added
  | group _ hindex ih => exact ofTokens_push ih _ rfl
  | named _ name ih => exact ofTokens_push ih _ rfl
  | rootPrefix _ ih => exact ofTokens_push ih _ rfl

/-! ## §3. References read back. -/

theorem ne_brace_of_isNameChar {c : Char} (h : isNameChar c = true) : c ≠ '{' ∧ c ≠ '}' := by
  refine ⟨?_, ?_⟩
  · intro heq
    subst heq
    cases h
  · intro heq
    subst heq
    cases h

/-- A text with only characters of names neither doubles a brace before it nor has one that ends a
    reference. -/
theorem braces_of_isNameChar {inner : List Char} (h : ∀ c ∈ inner, isNameChar c = true) :
    inner.head? ≠ some '{' ∧ '}' ∉ inner :=
  ⟨fun hhead => (ne_brace_of_isNameChar (h _ (List.mem_of_mem_head? hhead))).1 rfl,
    fun hmem => (ne_brace_of_isNameChar (h _ hmem)).2 rfl⟩

theorem isBasicDigit_of_mem_toDigits {c : Char} {index : Nat} (h : c ∈ Nat.toDigits 10 index) :
    isBasicDigit c = true :=
  Nat.isDigit_of_mem_toDigits (by decide) (by decide) h

theorem isBasic_of_isBasicDigit {c : Char} (h : isBasicDigit c = true) :
    Unicode.isBasic c = true := by
  simp only [isBasicDigit, Bool.and_eq_true, decide_eq_true_eq] at h
  have hle : c.toNat ≤ '9'.toNat := h.2
  simp only [Unicode.isBasic, decide_eq_true_eq]
  exact Nat.lt_of_le_of_lt hle (by decide)

/-- Every digit is a character of names. -/
theorem isNameChar_of_isBasicDigit {c : Char} (h : isBasicDigit c = true) :
    isNameChar c = true := by
  simp [isNameChar, Unicode.isAlphanumeric, Unicode.isNumeric, isBasic_of_isBasicDigit h, h]

theorem digitValue_of_isBasicDigit {c : Char} (h : isBasicDigit c = true) :
    digitValue c = c.toNat - '0'.toNat := by
  simp only [isBasicDigit, Bool.and_eq_true, decide_eq_true_eq] at h
  rw [digitValue, if_pos h]

/-- The digits of a number write it. -/
theorem numberOf_toDigits (index : Nat) : numberOf 10 (Nat.toDigits 10 index) = index := by
  have hfold : ∀ (digits : List Char) (value : Nat), (∀ c ∈ digits, isBasicDigit c = true) →
      digits.foldl (fun value c => value * 10 + digitValue c) value =
        Nat.ofDigitChars 10 digits value := by
    intro digits
    induction digits with
    | nil => intro value _; rfl
    | cons c digits ih =>
      intro value hdigits
      rw [List.foldl_cons, ih _ fun d hd => hdigits d (.tail _ hd), Nat.ofDigitChars_cons,
        digitValue_of_isBasicDigit (hdigits c (.head _)), Nat.mul_comm]
  rw [numberOf, hfold _ 0 fun c hc => isBasicDigit_of_mem_toDigits hc]
  exact Nat.ofDigitChars_ten_toDigits

/-- The text of a reference is read as that reference. -/
theorem referenceSegment_innerText {segment : Segment} (h : IsReadable segment) (offset : Nat) :
    referenceSegment offset (innerText segment) = .ok segment := by
  cases segment with
  | literal text => cases h
  | group index =>
    have hdigits : (Nat.toDigits 10 index).all isBasicDigit = true :=
      List.all_eq_true.2 fun c hc => isBasicDigit_of_mem_toDigits hc
    have hempty : (Nat.toDigits 10 index).isEmpty = false := by
      simp [List.isEmpty_eq_false_iff, Nat.toDigits_ne_nil]
    -- the word for the root prefix does not start with a digit
    have hroot : String.ofList (Nat.toDigits 10 index) ≠ rootWord := by
      intro heq
      have hmem : 'r' ∈ Nat.toDigits 10 index := by
        rw [← String.toList_ofList (l := Nat.toDigits 10 index), heq]
        decide
      cases isBasicDigit_of_mem_toDigits hmem
    simp only [referenceSegment, innerText, hempty, hroot, hdigits, numberOf_toDigits,
      Bool.false_eq_true, if_false, if_true]
    exact if_pos h
  | named name =>
    obtain ⟨hne, hchars, ⟨c, hc, hdigit⟩, hroot⟩ := h
    have hempty : name.toList.isEmpty = false := by
      simpa [List.isEmpty_eq_false_iff] using hne
    have hdigits : ¬ name.toList.all isBasicDigit = true := by
      intro hall
      rw [List.all_eq_true.1 hall c hc] at hdigit
      cases hdigit
    have hnames : name.toList.all isNameChar = true := List.all_eq_true.2 hchars
    simp only [referenceSegment, innerText, hempty, String.ofList_toList, hroot, hdigits, hnames,
      Bool.false_eq_true, if_false, if_true]
  | rootPrefix => rfl

/-- The text of a reference has only characters of names. -/
theorem innerText_chars {segment : Segment} (h : IsReadable segment) :
    ∀ c ∈ innerText segment, isNameChar c = true := by
  cases segment with
  | literal text => cases h
  | group index =>
    exact fun c hc => isNameChar_of_isBasicDigit (isBasicDigit_of_mem_toDigits hc)
  | named name => exact h.2.1
  | rootPrefix => exact List.all_eq_true.1 rfl

/-! ## §4. Tokens of a printed template. -/

/-- The text is cut into the tokens, wherever it stands. -/
def CutsInto (text : List Char) (tokens : List Token) : Prop :=
  ∀ offset, tokensFrom offset none text = .ok tokens

theorem cutsInto_escapeChar {text : List Char} {tokens : List Token} (h : CutsInto text tokens)
    (c : Char) : CutsInto (escapeChar c ++ text) (.char c :: tokens) := by
  intro offset
  unfold escapeChar
  split
  · next hbrace =>
    -- the two braces are taken together, whatever follows them
    rcases hbrace with rfl | rfl
    · show tokensFrom offset none ('{' :: '{' :: text) = _
      rw [tokensFrom, h]
      rfl
    · show tokensFrom offset none ('}' :: '}' :: text) = _
      rw [tokensFrom, h]
      rfl
  · next hbrace =>
    have hopen : c ≠ '{' := fun heq => hbrace (.inl heq)
    have hclose : c ≠ '}' := fun heq => hbrace (.inr heq)
    show tokensFrom offset none (c :: text) = _
    rw [tokensFrom.eq_6 offset c text (fun _ heq _ => hopen heq) fun _ heq _ => hclose heq,
      if_neg hopen, if_neg hclose, h]
    rfl

theorem cutsInto_literal {text : List Char} {tokens : List Token} (h : CutsInto text tokens)
    (chars : List Char) :
    CutsInto (chars.flatMap escapeChar ++ text) (chars.map .char ++ tokens) := by
  induction chars with
  | nil => exact h
  | cons c chars ih =>
    rw [List.flatMap_cons, List.append_assoc]
    exact cutsInto_escapeChar ih c

/-- Within a reference everything up to the brace that closes it is its text. -/
theorem tokensFrom_inside (opened : Nat) (text : List Char) (inner : List Char) :
    ∀ (offset : Nat) (before : List Char), '}' ∉ inner →
    tokensFrom offset (some (opened, before)) (inner ++ '}' :: text) = (do
      let segment ← referenceSegment opened (before.reverse ++ inner)
      let tokens ← tokensFrom (offset + (String.ofList inner).utf8ByteSize + 1) none text
      return .reference segment :: tokens) := by
  induction inner with
  | nil =>
    intro offset before _
    rw [List.append_nil, List.nil_append, tokensFrom, if_pos rfl]
    rfl
  | cons c inner ih =>
    intro offset before hinner
    have hc : c ≠ '}' := fun heq => hinner (heq ▸ .head _)
    have hrest : '}' ∉ inner := fun hmem => hinner (.tail _ hmem)
    rw [List.cons_append, tokensFrom, if_neg hc, ih _ _ hrest,
      List.reverse_cons, List.append_assoc, String.ofList_cons, String.utf8ByteSize_append,
      String.utf8ByteSize_singleton, Nat.add_assoc offset]
    rfl

/-- A reference is cut off whole, unless a second brace follows the one that opens it. -/
theorem tokensFrom_reference {inner : List Char} (hfirst : inner.head? ≠ some '{')
    (hclose : '}' ∉ inner) (offset : Nat) (text : List Char) :
    tokensFrom offset none (reference inner ++ text) = (do
      let segment ← referenceSegment offset inner
      let tokens ← tokensFrom (offset + (String.ofList (reference inner)).utf8ByteSize) none text
      return .reference segment :: tokens) := by
  have hshape : reference inner ++ text = '{' :: (inner ++ '}' :: text) := by simp [reference]
  have hsingle : ∀ rest, inner ++ '}' :: text ≠ '{' :: rest := by
    intro rest heq
    cases inner with
    | nil => cases heq
    | cons c inner => exact hfirst (congrArg some (List.cons.inj heq).1)
  have hsize : offset + 1 + (String.ofList inner).utf8ByteSize + 1
      = offset + (String.ofList (reference inner)).utf8ByteSize := by
    have hopen : (String.singleton '{').utf8ByteSize = 1 := rfl
    have hclose : (String.singleton '}').utf8ByteSize = 1 := rfl
    simp only [reference, String.ofList_cons, String.ofList_append, String.utf8ByteSize_append,
      String.ofList_nil, String.append_empty]
    omega
  rw [hshape, tokensFrom.eq_6 offset _ _ (fun rest _ heq => hsingle rest heq)
    (fun _ heq => by cases heq), if_pos rfl, tokensFrom_inside offset text inner _ [] hclose, hsize]
  rfl

theorem cutsInto_reference {text : List Char} {tokens : List Token} (h : CutsInto text tokens)
    {segment : Segment} (hsegment : IsReadable segment) :
    CutsInto (reference (innerText segment) ++ text) (.reference segment :: tokens) := by
  intro offset
  obtain ⟨hfirst, hclose⟩ := braces_of_isNameChar (innerText_chars hsegment)
  rw [tokensFrom_reference hfirst hclose, referenceSegment_innerText hsegment, h]
  rfl

/-- A printed template is cut into the tokens of its segments. -/
theorem cutsInto_printSegments {segments : List Segment}
    (h : ∀ segment ∈ segments, IsReadable segment ∨ ∃ text, segment = .literal text) :
    CutsInto (segments.flatMap printSegment) (segments.flatMap segmentTokens) := by
  induction segments with
  | nil => intro offset; rfl
  | cons segment segments ih =>
    have hrest := ih fun other hother => h other (.tail _ hother)
    rw [List.flatMap_cons, List.flatMap_cons]
    rcases h segment (.head _) with hreadable | ⟨text, rfl⟩
    · cases segment with
      | literal text => cases hreadable
      | group index => exact cutsInto_reference hrest hreadable
      | named name => exact cutsInto_reference hrest hreadable
      | rootPrefix => exact cutsInto_reference hrest hreadable
    · exact cutsInto_literal hrest text.toList

/-- A template that was built from readable references is read back as it was. -/
theorem parse_print {template : Template} (h : Built template) (hreadable : Readable template) :
    parse template.print = .ok template := by
  have htokens := cutsInto_printSegments hreadable 0
  rw [parse, tokens, print, String.toList_ofList, htokens]
  show Except.ok (ofTokens (template.segments.flatMap segmentTokens)) = _
  rw [ofTokens_tokens h]

/-! ## §5. Templates that were read. -/

theorem isReadable_referenceSegment {offset : Nat} {inner : List Char} {segment : Segment}
    (h : referenceSegment offset inner = .ok segment) : IsReadable segment := by
  simp only [referenceSegment] at h
  -- the branches are those of the reader: nothing, the root prefix, a number, a name
  by_cases hempty : inner.isEmpty = true
  · rw [if_pos hempty] at h
    cases h
  rw [if_neg hempty] at h
  by_cases hroot : String.ofList inner = rootWord
  · rw [if_pos hroot] at h
    cases h
    trivial
  rw [if_neg hroot] at h
  by_cases hdigits : inner.all isBasicDigit = true
  · rw [if_pos hdigits] at h
    split at h
    · next hindex =>
      cases h
      exact hindex
    · cases h
  rw [if_neg hdigits] at h
  by_cases hnames : inner.all isNameChar = true
  · rw [if_pos hnames] at h
    cases h
    refine ⟨?_, ?_, ?_, hroot⟩
    · intro heq
      rw [← String.toList_inj, String.toList_ofList] at heq
      exact hempty (heq ▸ rfl)
    · rw [String.toList_ofList]
      exact List.all_eq_true.1 hnames
    · rw [String.toList_ofList]
      simpa [List.all_eq_true] using hdigits
  · rw [if_neg hnames] at h
    cases h

/-- The references among the tokens of a text are readable. -/
theorem isReadable_of_mem_tokensFrom (offset : Nat) (inside : Option (Nat × List Char))
    (text : List Char) : ∀ {tokens : List Token}, tokensFrom offset inside text = .ok tokens →
    ∀ segment, Token.reference segment ∈ tokens → IsReadable segment := by
  fun_induction tokensFrom offset inside text with
  | case1 =>
    intro tokens h segment hmem
    cases h
    cases hmem
  | case2 => intro tokens h; cases h
  | case3 offset opened inner rest ih =>
    intro tokens h segment hmem
    obtain ⟨first, hfirst, hrest⟩ := bind_eq_ok_iff.1 h
    obtain ⟨others, hothers, hresult⟩ := bind_eq_ok_iff.1 hrest
    cases hresult
    rcases List.mem_cons.1 hmem with heq | hmem
    · cases heq
      exact isReadable_referenceSegment hfirst
    · exact ih hothers segment hmem
  | case4 offset opened inner c rest _ ih => exact ih
  | case7 offset rest _ _ ih => exact ih
  | case8 => intro tokens h; cases h
  | case5 offset rest ih | case6 offset rest ih | case9 offset _ rest _ _ _ _ ih =>
    -- a character in front of the tokens is no reference
    intro tokens h segment hmem
    obtain ⟨others, hothers, hresult⟩ := bind_eq_ok_iff.1 h
    cases hresult
    rcases List.mem_cons.1 hmem with heq | hmem
    · cases heq
    · exact ih hothers segment hmem

/-- A text that is added leaves the references as they are. -/
theorem mem_text_iff {template : Template} {added : String} {segment : Segment}
    (hsegment : ∀ text, segment ≠ .literal text) :
    segment ∈ (template.text added).segments ↔ segment ∈ template.segments := by
  have happend : ∀ segments, segment ∈ appendText added segments ↔ segment ∈ segments := by
    intro segments
    induction segments using appendText.induct with
    | case1 => simp [appendText, hsegment]
    | case2 last => simp [appendText, hsegment]
    | case3 first rest hother ih =>
      rw [appendText.eq_3 added first rest hother, List.mem_cons, List.mem_cons, ih]
  unfold text
  split
  · exact Iff.rfl
  · exact happend _

theorem readable_text {template : Template} (h : Readable template) (added : String) :
    Readable (template.text added) := by
  intro segment hmem
  by_cases hliteral : ∃ text, segment = .literal text
  · exact .inr hliteral
  · exact h segment ((mem_text_iff fun text heq => hliteral ⟨text, heq⟩).1 hmem)

theorem readable_push {template : Template} (h : Readable template) {pushed : Segment}
    (hpushed : IsReadable pushed) : Readable (template.push pushed) := by
  intro segment hmem
  rcases List.mem_append.1 hmem with hmem | hmem
  · exact h segment hmem
  · exact .inl (List.mem_singleton.1 hmem ▸ hpushed)

theorem built_push {template : Template} (h : Built template) {segment : Segment}
    (hsegment : IsReadable segment) : Built (template.push segment) := by
  cases segment with
  | literal text => cases hsegment
  | group index => exact .group h hsegment
  | named name => exact .named h name
  | rootPrefix => exact .rootPrefix h

theorem built_foldl_pushToken (tokens : List Token) : ∀ {template : Template},
    Built template → Readable template →
    (∀ segment, Token.reference segment ∈ tokens → IsReadable segment) →
    Built (tokens.foldl pushToken template) ∧ Readable (tokens.foldl pushToken template) := by
  induction tokens with
  | nil => intro template h hreadable _; exact ⟨h, hreadable⟩
  | cons token tokens ih =>
    intro template h hreadable htokens
    have hrest : ∀ segment, Token.reference segment ∈ tokens → IsReadable segment :=
      fun segment hmem => htokens segment (.tail _ hmem)
    cases token with
    | char c => exact ih (.text h _) (readable_text hreadable _) hrest
    | reference segment =>
      have hsegment := htokens segment (.head _)
      exact ih (built_push h hsegment) (readable_push hreadable hsegment) hrest

/-- A template that was read is built from readable references. -/
theorem built_of_parse {source : String} {template : Template} (h : parse source = .ok template) :
    Built template ∧ Readable template := by
  obtain ⟨tokens, htokens, hresult⟩ := bind_eq_ok_iff.1 h
  cases hresult
  exact built_foldl_pushToken tokens (.literal "") (fun _ hmem => by cases hmem)
    (isReadable_of_mem_tokensFrom 0 none source.toList htokens)

/-! ## §6. There and back. -/

/-- The references of a template that was built are readable if its names can be read as names. -/
theorem readable_of_built {template : Template} (h : Built template)
    (hnames : ∀ name, Segment.named name ∈ template.segments → IsReferenceName name) :
    Readable template := by
  induction h with
  | literal text =>
    have hempty : Readable empty := fun _ hmem => by cases hmem
    exact readable_text hempty text
  | text _ added ih =>
    exact readable_text (ih fun name hname => hnames name ((mem_text_iff (by simp)).2 hname)) added
  | group _ hindex ih =>
    exact readable_push (ih fun name hname => hnames name (List.mem_append_left _ hname)) hindex
  | named _ name ih =>
    refine readable_push (ih fun name hname => hnames name (List.mem_append_left _ hname)) ?_
    exact hnames name (List.mem_append_right _ (.head _))
  | rootPrefix _ ih =>
    exact readable_push (ih fun name hname => hnames name (List.mem_append_left _ hname)) trivial

/-- **Main.**  A template that was built is read back as it was exactly if all of its names can be
    read as names; one that was read always is. -/
theorem parse_print_iff (template : Template) :
    (Built template → (parse template.print = .ok template ↔
      ∀ name, Segment.named name ∈ template.segments → IsReferenceName name)) ∧
    ∀ source, parse source = .ok template → parse template.print = .ok template := by
  refine ⟨fun h => ⟨fun hparse name hname => ?_, fun hnames => ?_⟩, fun source hparse => ?_⟩
  · -- what is read back has been read, so its names are readable
    rcases (built_of_parse hparse).2 _ hname with hreadable | ⟨text, heq⟩
    · exact hreadable
    · cases heq
  · exact parse_print h (readable_of_built h hnames)
  · obtain ⟨hbuilt, hreadable⟩ := built_of_parse hparse
    exact parse_print hbuilt hreadable

/-- Braces on both sides of references, the highest number, and a name that is not basic Latin. -/
def bracesAround : Template :=
  ((((literal "\x7b").group maxIndex).text "\x7d\x7b").named "größe_2").rootPrefix.text "\x7d"

/-- It is read back; a name of digits only would be read as a number. -/
theorem parse_print_bracesAround :
    (Built bracesAround ∧ parse bracesAround.print = .ok bracesAround) ∧
      Built (bracesAround.named "12") ∧
      parse (bracesAround.named "12").print ≠ .ok (bracesAround.named "12") := by
  have hbuilt : Built bracesAround :=
    .text (.rootPrefix (.named (.text (.group (.literal _) (Nat.le_refl _)) _) _)) _
  refine ⟨⟨hbuilt, ((parse_print_iff _).1 hbuilt).2 ?_⟩, hbuilt.named "12", ?_⟩
  · intro name hname
    have heq : name = "größe_2" := by
      simpa [bracesAround, literal, text, empty, group, named, rootPrefix, push, appendText]
        using hname
    subst heq
    have hchars : "größe_2".toList.all isNameChar = true := by decide +kernel
    exact ⟨by decide, List.all_eq_true.1 hchars, ⟨'g', .head _, rfl⟩, by decide⟩
  · intro hparse
    have hname := ((parse_print_iff _).1 (hbuilt.named "12")).1 hparse "12"
      (List.mem_append_right _ (.head _))
    obtain ⟨c, hc, hdigit⟩ := hname.2.2.1
    have hdigits : "12".toList.all isBasicDigit = true := rfl
    rw [List.all_eq_true.1 hdigits c hc] at hdigit
    cases hdigit

end Template

end Reroute
