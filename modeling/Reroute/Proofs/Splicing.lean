/-
  Reroute.Proofs.Splicing — what a registry does to a text, gap by gap.

  The matches of a rule cut a text into a gap, a match, a gap, and so on up to the last gap
  (`CutAt`).  Each of these parts is a slice between two character boundaries of the text, also if
  places are counted in bytes (`IsSlice`).  The turn of a rule copies the gaps and puts the
  expansions where the matches stood (`Splices`), and a registry is the turns of its rules one
  after the other, with one entry for each rule that has a match at its turn (`Cascade`).

    • matches that are found one after the other cut the text (`Iterates.exists_cutAt`),
    • so each rule takes its turn (`splices_replaceAll`) and all rules do (`cascade_substituteAll`),
    • and nothing but that result comes from a cascade (`Cascade.unique`).

  Main statement (`substitute_eq_iff_cascade`).
-/
import Reroute.Proofs.Loading
import Reroute.Proofs.Substitution

namespace Reroute

open Pattern (Match Span)

/-! ## §1. Slices of a text. -/

/-- The number of bytes before a place of a text. -/
def byteOffset (text : List Char) (place : Nat) : Nat :=
  (String.ofList (text.take place)).utf8ByteSize

/-- The bytes of the text from `start` to `stop` are those of the piece; the two are in order,
    within the text and on character boundaries. -/
structure IsSlice (text : String) (start stop : Nat) (piece : String) : Prop where
  le : start ≤ stop
  start_isValid : String.Pos.Raw.IsValid text ⟨start⟩
  stop_isValid : String.Pos.Raw.IsValid text ⟨stop⟩
  bytes_eq : text.toByteArray.extract start stop = piece.toByteArray

theorem isSlice_append (before piece after : String) :
    IsSlice (before ++ piece ++ after) before.utf8ByteSize
      (before.utf8ByteSize + piece.utf8ByteSize) piece where
  le := Nat.le_add_right _ _
  start_isValid := by
    apply String.Pos.Raw.isValid_iff_exists_append.2
    exact ⟨before, piece ++ after, String.append_assoc, rfl⟩
  stop_isValid := by
    apply String.Pos.Raw.isValid_iff_exists_append.2
    refine ⟨before ++ piece, after, rfl, ?_⟩
    show String.Pos.Raw.mk _ = ⟨(before ++ piece).utf8ByteSize⟩
    rw [String.utf8ByteSize_append]
  bytes_eq := by
    show (before ++ piece ++ after).toByteArray.extract (before.toByteArray.size + 0)
      (before.toByteArray.size + piece.toByteArray.size) = piece.toByteArray
    rw [String.append_assoc, String.toByteArray_append, ByteArray.extract_append_size_add,
      String.toByteArray_append]
    exact ByteArray.extract_append_eq_left rfl

/-- What a text has between two places. -/
structure SliceBetween (text : List Char) (i j : Nat) (piece : List Char) : Prop where
  le : i ≤ j
  le_length : j ≤ text.length
  isSlice : IsSlice (String.ofList text) (byteOffset text i) (byteOffset text j)
    (String.ofList piece)

theorem sliceBetween_slice {text : List Char} {i j : Nat} (hij : i ≤ j) (hj : j ≤ text.length) :
    SliceBetween text i j (Span.slice ⟨i, j⟩ text) where
  le := hij
  le_length := hj
  isSlice := by
    have htake : text.take j = text.take i ++ Span.slice ⟨i, j⟩ text := by
      rw [Span.slice, ← List.take_add, Nat.add_sub_cancel' hij]
    have htext : String.ofList text
        = String.ofList (text.take i) ++ String.ofList (Span.slice ⟨i, j⟩ text)
          ++ String.ofList (text.drop j) := by
      rw [← String.ofList_append, ← htake, ← String.ofList_append, List.take_append_drop]
    have hoffset : byteOffset text j
        = byteOffset text i + (String.ofList (Span.slice ⟨i, j⟩ text)).utf8ByteSize := by
      rw [byteOffset, htake, String.ofList_append, String.utf8ByteSize_append]
      rfl
    rw [hoffset, htext]
    exact isSlice_append _ _ _

/-- The ends of a slice say what it is. -/
theorem SliceBetween.unique {text piece piece' : List Char} {i j : Nat}
    (h : SliceBetween text i j piece) (h' : SliceBetween text i j piece') : piece = piece' := by
  apply String.ofList_injective
  exact String.toByteArray_inj.1 (h.isSlice.bytes_eq.symm.trans h'.isSlice.bytes_eq)

/-! ## §2. Cutting a text at matches. -/

/-- From the place on, the text is a gap, a match, a gap, and so on up to the last gap. -/
inductive CutAt (text : List Char) :
    (place : Nat) → List Match → (gaps : List (List Char)) → Prop where
  | last {place : Nat} {gap : List Char} (hgap : SliceBetween text place text.length gap) :
      CutAt text place [] [gap]
  | next {place : Nat} {m : Match} {others : List Match} {gap : List Char}
      {gaps : List (List Char)} (hgap : SliceBetween text place m.whole.start gap)
      (hmatch : SliceBetween text m.whole.start m.whole.stop (m.whole.slice text))
      (hrest : CutAt text m.whole.stop others gaps) :
      CutAt text place (m :: others) (gap :: gaps)

/-- A gap, a piece, a gap, and so on up to the last gap. -/
def weave : (gaps pieces : List (List Char)) → List Char
  | gap :: gaps, piece :: pieces => gap ++ piece ++ weave gaps pieces
  | gaps, _ => gaps.flatten

theorem CutAt.unique {text : List Char} {place : Nat} {found : List Match}
    {gaps gaps' : List (List Char)} (h : CutAt text place found gaps)
    (h' : CutAt text place found gaps') : gaps = gaps' := by
  induction h generalizing gaps' with
  | last hgap =>
    cases h' with
    | last hgap' => rw [hgap.unique hgap']
  | next hgap _ _ ih =>
    cases h' with
    | next hgap' _ hrest' => rw [hgap.unique hgap', ih hrest']

/-- **Matches that are found one after the other cut the text**, and to splice is to weave other
    pieces between the same gaps. -/
theorem Pattern.Iterates.exists_cutAt {pattern : Pattern} (hread : pattern.IsRead)
    {text : List Char} {place : Nat} {last : Option Nat} {found : List Match}
    (h : Iterates pattern text place last found) (hplace : place ≤ text.length) :
    ∃ gaps, CutAt text place found gaps ∧
      weave gaps (found.map fun m => m.whole.slice text) = text.drop place ∧
      ∀ expansion, splice expansion place (text.drop place) found
        = weave gaps (found.map expansion) := by
  induction h with
  | @done place last hend =>
    refine ⟨[Span.slice ⟨place, text.length⟩ text],
      .last (sliceBetween_slice hplace (Nat.le_refl _)), ?_⟩
    have hgap : Span.slice ⟨place, text.length⟩ text = text.drop place :=
      List.take_of_length_le (Nat.le_of_eq List.length_drop)
    simp [weave, splice, hgap]
  | @next place last m others hstart hstop hmatch hfresh hgap hrest ih =>
    have hle := Pattern.start_le_stop hread hmatch
    obtain ⟨gaps, hcut, htext, hsplice⟩ := ih hstop
    refine ⟨_, .next (sliceBetween_slice hstart (Nat.le_trans hle hstop))
      (sliceBetween_slice hle hstop) hcut, ?_, ?_⟩
    · -- the gap, the match and the rest put the text together again
      show Span.slice ⟨place, m.whole.start⟩ text ++ m.whole.slice text ++ _ = text.drop place
      have hdrop : ∀ {i j}, i ≤ j → Span.slice ⟨i, j⟩ text ++ text.drop j = text.drop i := by
        intro i j hij
        have hrest : text.drop j = (text.drop i).drop (j - i) := by
          rw [List.drop_drop, Nat.add_sub_cancel' hij]
        rw [Span.slice, hrest, List.take_append_drop]
      rw [htext, List.append_assoc, hdrop hle, hdrop hstart]
    · intro expansion
      have hdrop : (text.drop place).drop (m.whole.stop - place) = text.drop m.whole.stop := by
        rw [List.drop_drop, Nat.add_sub_cancel' (by omega)]
      rw [splice, hdrop, hsplice]
      rfl

/-! ## §3. The turn of a rule. -/

/-- The rule has so many matches in the text, which is cut at them into gaps and matches; out comes
    the text with the expansions between the same gaps. -/
structure Splices (context : Context) (rule : Rule) (text out : List Char) (count : Nat) : Prop where
  count_eq : (rule.allMatches text).length = count
  exists_cut : ∃ gaps, CutAt text 0 (rule.allMatches text) gaps ∧
    weave gaps ((rule.allMatches text).map fun m => m.whole.slice text) = text ∧
    weave gaps ((rule.allMatches text).map (rule.expansion context text)) = out

theorem Splices.unique {context : Context} {rule : Rule} {text out out' : List Char}
    {count count' : Nat} (h : Splices context rule text out count)
    (h' : Splices context rule text out' count') : out = out' ∧ count = count' := by
  obtain ⟨gaps, hcut, -, hout⟩ := h.exists_cut
  obtain ⟨gaps', hcut', -, hout'⟩ := h'.exists_cut
  refine ⟨?_, h.count_eq.symm.trans h'.count_eq⟩
  rw [← hout, ← hout', hcut.unique hcut']

/-- **Every rule takes its turn.** -/
theorem splices_replaceAll {rule : Rule} (hread : rule.pattern.IsRead) (context : Context)
    (text : List Char) :
    Splices context rule text (rule.replaceAll context text) (rule.allMatches text).length := by
  obtain ⟨gaps, hcut, htext, hsplice⟩ :=
    (Pattern.iterates_allMatches hread text).exists_cutAt hread (Nat.zero_le _)
  exact ⟨rfl, gaps, hcut, htext, (hsplice _).symm⟩

/-! ## §4. All rules. -/

/-- The rules take their turns one after the other.  A rule with a match leaves an entry, any other
    one leaves none. -/
inductive Cascade (context : Context) : List Rule → (text out : List Char) → List Change → Prop where
  | done {text : List Char} : Cascade context [] text text []
  | quiet {rule : Rule} {rules : List Rule} {text mid out : List Char} {changes : List Change}
      (hturn : Splices context rule text mid 0) (hrest : Cascade context rules mid out changes) :
      Cascade context (rule :: rules) text out changes
  | noted {rule : Rule} {rules : List Rule} {text mid out : List Char} {count : Nat}
      {changes : List Change} (hcount : 1 ≤ count) (hturn : Splices context rule text mid count)
      (hrest : Cascade context rules mid out changes) :
      Cascade context (rule :: rules) text out
        ({ description := rule.description, count } :: changes)

section Rules

variable {context : Context} {rules : List Rule} {text : List Char}

theorem Cascade.unique {out out' : List Char} {changes changes' : List Change}
    (h : Cascade context rules text out changes) (h' : Cascade context rules text out' changes') :
    out = out' ∧ changes = changes' := by
  -- a rule has a match or has none, so the two cascades take their turns alike
  induction h generalizing out' changes' with
  | done =>
    cases h'
    exact ⟨rfl, rfl⟩
  | quiet hturn _ ih =>
    cases h' with
    | quiet hturn' hrest' =>
      obtain ⟨rfl, -⟩ := hturn.unique hturn'
      exact ih hrest'
    | noted hcount hturn' =>
      obtain ⟨-, rfl⟩ := hturn.unique hturn'
      omega
  | noted hcount hturn _ ih =>
    cases h' with
    | quiet hturn' =>
      obtain ⟨-, rfl⟩ := hturn.unique hturn'
      omega
    | noted _ hturn' hrest' =>
      obtain ⟨rfl, rfl⟩ := hturn.unique hturn'
      obtain ⟨rfl, rfl⟩ := ih hrest'
      exact ⟨rfl, rfl⟩

/-- **The rules take their turns.** -/
theorem cascade_substituteAll (context : Context) (hread : ∀ rule ∈ rules, rule.pattern.IsRead)
    (text : List Char) :
    Cascade context rules text (substituteAll context rules text).1
      (substituteAll context rules text).2 := by
  induction rules generalizing text with
  | nil => exact .done
  | cons rule rules ih =>
    have hturn := splices_replaceAll (hread rule List.mem_cons_self) context text
    have hrest := ih (fun other hmem => hread other (List.mem_cons_of_mem rule hmem))
      (rule.replaceAll context text)
    rw [substituteAll_cons]
    unfold Rule.substitute
    cases hfound : rule.allMatches text with
    | nil =>
      rw [hfound] at hturn
      exact .quiet hturn hrest
    | cons first others =>
      rw [hfound] at hturn
      exact .noted (Nat.succ_le_succ (Nat.zero_le others.length)) hturn hrest

theorem substituteAll_eq_iff_cascade (hread : ∀ rule ∈ rules, rule.pattern.IsRead)
    {out : List Char} {changes : List Change} :
    substituteAll context rules text = (out, changes) ↔ Cascade context rules text out changes := by
  have hturns := cascade_substituteAll context hread text
  constructor
  · intro heq
    rwa [heq] at hturns
  · intro hcascade
    obtain ⟨hout, hchanges⟩ := hturns.unique hcascade
    exact Prod.ext hout hchanges

/-! ## §5. Rules without a match. -/

/-- The rules that have a match at their turn. -/
def matching (context : Context) : List Rule → (text : List Char) → List Rule
  | [], _ => []
  | rule :: rules, text =>
    let later := matching context rules (rule.replaceAll context text)
    if (rule.allMatches text).isEmpty then later else rule :: later

theorem matching_sublist (context : Context) (rules : List Rule) (text : List Char) :
    (matching context rules text).Sublist rules := by
  induction rules generalizing text with
  | nil => exact .slnil
  | cons rule rules ih =>
    rw [matching]
    split
    · exact (ih _).cons rule
    · exact (ih _).cons_cons rule

/-- A rule without a match at its turn can be left out. -/
theorem substituteAll_matching (context : Context) (rules : List Rule) (text : List Char) :
    substituteAll context (matching context rules text) text = substituteAll context rules text := by
  induction rules generalizing text with
  | nil => rfl
  | cons rule rules ih =>
    rw [matching]
    split
    · next hnone =>
      have hsame := Rule.substitute_of_no_match (List.isEmpty_iff.1 hnone) context
      rw [substituteAll_cons, ← Rule.substitute_fst, hsame]
      exact ih text
    · rw [substituteAll_cons, substituteAll_cons, ih]

/-- The entries are those of the rules that have a match at their turn. -/
theorem description_matching (context : Context) (rules : List Rule) (text : List Char) :
    (matching context rules text).map (·.description)
      = (substituteAll context rules text).2.map (·.description) := by
  induction rules generalizing text with
  | nil => rfl
  | cons rule rules ih =>
    rw [matching, substituteAll_cons]
    unfold Rule.substitute
    cases rule.allMatches text with
    | nil => exact ih _
    | cons first others => exact congrArg (rule.description :: ·) (ih _)

end Rules

/-! ## §6. Registries. -/

/-- The registry without the rules that have no match at their turn in the text. -/
def Registry.onlyMatching (registry : Registry) (context : Context) (content : String) :
    Registry :=
  { registry with rules := matching context registry.rules content.toList }

/-- **A registry is the cascade of the turns of its rules.**  What it makes of a text, and the
    entries it notes, are those of the cascade and nothing else.  The rules without an entry can be
    left out, and without any entry the text stays as it is. -/
theorem substitute_eq_iff_cascade {registry : Registry} (h : registry.IsLoaded) (context : Context)
    (content : String) :
    (∀ out changes, registry.substitute context content = (out, changes) ↔
      Cascade context registry.rules content.toList out.toList changes) ∧
    ((registry.onlyMatching context content).rules.Sublist registry.rules ∧
      (registry.onlyMatching context content).rules.map (·.description)
        = (registry.substitute context content).2.map (·.description) ∧
      (registry.onlyMatching context content).substitute context content
        = registry.substitute context content) ∧
    ((registry.substitute context content).2 = [] →
      (registry.substitute context content).1 = content) := by
  refine ⟨?_, ⟨matching_sublist _ _ _, description_matching _ _ _, ?_⟩,
    Registry.substitute_of_no_change⟩
  · intro out changes
    rw [← substituteAll_eq_iff_cascade fun rule hrule => h.isRead_of_mem hrule]
    unfold Registry.substitute
    constructor
    · intro heq
      obtain ⟨rfl, rfl⟩ := Prod.mk.inj heq
      rw [String.toList_ofList]
    · intro heq
      simp only [heq, String.ofList_toList]
  · unfold Registry.substitute Registry.onlyMatching
    rw [substituteAll_matching]

/-- Two rules that undo each other, and one between them that never has a match.  The matches of
    the first one adjoin, and there are characters of more than one byte around them. -/
def thereAndBack : List RuleSpec :=
  [{ pattern := "(a)b", replacement := "\x7b1\x7dä", description := "there" },
    { pattern := "nowhere", replacement := "", description := "never" },
    { pattern := "ä", replacement := "b", description := "back" }]

/-- The text comes back with two entries, and the rule between them can be left out. -/
theorem substitute_cascade_thereAndBack :
    ∃ registry : Registry, registry.IsLoaded ∧
      Cascade {} registry.rules "éababé".toList "éababé".toList [⟨"there", 2⟩, ⟨"back", 2⟩] ∧
      (registry.onlyMatching {} "éababé").rules.map (·.description) = ["there", "back"] ∧
      (registry.onlyMatching {} "éababé").substitute {} "éababé"
        = registry.substitute {} "éababé" := by
  have heval : ((Registry.ofSpecs "undone" thereAndBack).toOption.any fun registry =>
      decide (registry.substitute {} "éababé"
        = ("éababé", [⟨"there", 2⟩, ⟨"back", 2⟩]))) = true := by
    decide +kernel
  cases hload : Registry.ofSpecs "undone" thereAndBack with
  | error failure =>
    rw [hload] at heval
    cases heval
  | ok registry =>
    rw [hload] at heval
    have hresult := of_decide_eq_true heval
    have hloaded : registry.IsLoaded := ⟨"undone", .inr ⟨thereAndBack, hload⟩⟩
    obtain ⟨hcascade, ⟨-, hkept, hsame⟩, -⟩ := substitute_eq_iff_cascade hloaded {} "éababé"
    refine ⟨registry, hloaded, (hcascade _ _).1 hresult, ?_, hsame⟩
    rw [hkept, hresult]
    rfl

end Reroute
