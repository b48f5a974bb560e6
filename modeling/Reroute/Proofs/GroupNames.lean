/-
  Reroute.Proofs.GroupNames — which named groups a rules file can refer to.

  Two grammars meet in a reference by name: that of the names of capture groups, and that of the
  names in the braces of a template.  A group name starts with a letter or an underscore, so it is
  never read as a number, and after that it has letters, numbers and underscores, as a reference
  may.  Three more characters may stand in it, and these are all that tells the two grammars apart
  (`isReferenceName_iff`).

  Main statement (`ofSpecs_reference`).
-/
import Reroute.Proofs.FirstFlaw
import Reroute.Proofs.Template.Grammar

namespace Reroute

open Pattern (isGroupName isGroupNameStart isGroupNameChar)
open Template (isNameChar IsReferenceName)
open Unicode (isBasicDigit)

/-! ## §1. The two grammars of names. -/

/-- The characters that may stand in the name of a group and not in a reference. -/
def groupNameMarks : List Char := ['.', '[', ']']

theorem isNameChar_iff {c : Char} (h : isGroupNameChar c = true) :
    isNameChar c = true ↔ c ∉ groupNameMarks := by
  constructor
  · intro hname hmark
    simp only [groupNameMarks, List.mem_cons, List.not_mem_nil, or_false] at hmark
    rcases hmark with rfl | rfl | rfl <;> cases hname
  · intro hmark
    simp only [isGroupNameChar, Bool.or_eq_true, beq_iff_eq] at h
    rcases h with (((rfl | rfl) | rfl) | rfl) | h
    · rfl
    · exact absurd (by decide) hmark
    · exact absurd (by decide) hmark
    · exact absurd (by decide) hmark
    · simp [isNameChar, h]

theorem isGroupNameChar_of_start {c : Char} (h : isGroupNameStart c = true) :
    isGroupNameChar c = true := by
  simp only [isGroupNameStart, Bool.or_eq_true] at h
  rcases h with h | h
  · simp [isGroupNameChar, h]
  · simp [isGroupNameChar, Unicode.isAlphanumeric, h]

theorem isBasicDigit_of_start {c : Char} (h : isGroupNameStart c = true) :
    isBasicDigit c = false := by
  refine Bool.eq_false_iff.2 fun hdigit => ?_
  simp only [isGroupNameStart, Bool.or_eq_true, beq_iff_eq] at h
  rcases h with rfl | h
  · cases hdigit
  · -- a digit is a basic Latin character, and no letter among these
    rw [Unicode.isAlphabetic, if_pos (Template.isBasic_of_isBasicDigit hdigit)] at h
    simp only [isBasicDigit, Unicode.isBasicLetter, Bool.and_eq_true, Bool.or_eq_true,
      decide_eq_true_eq] at h hdigit
    have hle : c.toNat ≤ '9'.toNat := hdigit.2
    rcases h with h | h
    · exact absurd (Nat.le_trans h.1 hle) (by decide)
    · exact absurd (Nat.le_trans h.1 hle) (by decide)

/-- The first character of a group name is not a digit, and all of them are characters of group
    names. -/
theorem chars_of_isGroupName {name : List Char} (h : isGroupName name = true) :
    (∃ c ∈ name, isBasicDigit c = false) ∧ ∀ c ∈ name, isGroupNameChar c = true := by
  cases name with
  | nil => cases h
  | cons c rest =>
    obtain ⟨hstart, hrest⟩ := Bool.and_eq_true_iff.1 h
    refine ⟨⟨c, .head _, isBasicDigit_of_start hstart⟩, ?_⟩
    exact List.forall_mem_cons.2 ⟨isGroupNameChar_of_start hstart, List.all_eq_true.1 hrest⟩

/-- **A group name is a reference by name unless it has one of the marks**, the word for the root
    prefix apart. -/
theorem isReferenceName_iff {name : String} (h : isGroupName name.toList = true)
    (hroot : name ≠ Template.rootWord) :
    IsReferenceName name ↔ ∀ c ∈ name.toList, c ∉ groupNameMarks := by
  obtain ⟨⟨first, hfirst, hdigit⟩, hchars⟩ := chars_of_isGroupName h
  constructor
  · intro hname c hmem
    exact (isNameChar_iff (hchars c hmem)).1 (hname.2.1 c hmem)
  · intro hmarks
    refine ⟨?_, fun c hmem => (isNameChar_iff (hchars c hmem)).2 (hmarks c hmem),
      ⟨first, hfirst, hdigit⟩, hroot⟩
    rintro rfl
    cases hfirst

/-! ## §2. A reference on its own. -/

namespace Template

theorem toList_braces (name : String) :
    ("\x7b" ++ name ++ "\x7d").toList = reference name.toList := by
  simp [reference]

theorem parse_braces {name : String} (h : IsReferenceName name) :
    parse ("\x7b" ++ name ++ "\x7d") = .ok { segments := [.named name] } := by
  refine parse_eq_ok_iff.2 ⟨[.reference (.named name)], ?_, ?_⟩
  · refine ⟨[reference name.toList], ?_, .cons (.name h) .nil⟩
    rw [toList_braces, List.flatten_singleton]
  · exact ⟨rfl, by simp, .singleton _⟩

/-- A group name with a mark is refused, and the fault names it. -/
theorem parse_braces_eq_error {name : String} (h : isGroupName name.toList = true) {mark : Char}
    (hmem : mark ∈ name.toList) (hmark : mark ∈ groupNameMarks) :
    parse ("\x7b" ++ name ++ "\x7d") = .error (.invalidReference name) := by
  have hchars := (chars_of_isGroupName h).2
  have hname : isNameChar mark = false := by
    refine Bool.eq_false_iff.2 fun hname => ?_
    exact (isNameChar_iff (hchars mark hmem)).1 hname hmark
  -- there are no braces in a group name, so the reference is what stands between these two
  have hfirst : name.toList.head? ≠ some '{' := fun hhead =>
    absurd (hchars _ (List.mem_of_mem_head? hhead)) (by decide)
  have hclose : '}' ∉ name.toList := fun hmem => absurd (hchars _ hmem) (by decide)
  have hblames : Blames 0 (.invalidReference name) (reference name.toList) := by
    have hreference := @Blames.invalidReference 0 _ hfirst hclose mark hmem hname []
    rwa [List.append_nil, String.ofList_toList] at hreference
  rw [parse, toList_braces, tokens, tokensFrom_blames hblames]
  rfl

end Template

/-! ## §3. Rules that copy one group. -/

namespace Registry

theorem ofSpecs_singleton {name : String} {spec : RuleSpec} {template : Template} {rule : Rule}
    (htemplate : Template.parse spec.replacement = .ok template)
    (hload : (spec.withTemplate template).load 0 = .ok rule) :
    ofSpecs name [spec] = .ok { name, rules := [rule] } := by
  have hdef : spec.toDef 0 = .ok (spec.withTemplate template) :=
    RuleSpec.toDef_eq_ok_iff.2 ⟨template, htemplate, rfl⟩
  simp only [ofSpecs, ofDefs, loadFrom, hdef, hload, bind, Except.bind, pure, Except.pure]

variable {source group : String} {pattern : Pattern}

/-- **Main.**  A named group of a pattern that loads can be referred to from a rules file if its
    name has none of the marks: the rule that copies the group loads, and its template is that one
    reference.  If the name has a mark, the rule is refused for its template. -/
theorem ofSpecs_reference (hparse : Pattern.parse source = .ok pattern)
    (hprobes : pattern.matchesEmpty = false) (hroot : "root" ∉ pattern.groupNames)
    (hgroup : group ∈ pattern.groupNames) (name description : String) :
    ((∀ c ∈ group.toList, c ∉ groupNameMarks) →
      ofSpecs name [⟨source, "\x7b" ++ group ++ "\x7d", description⟩] =
        .ok { name, rules := [{ pattern, replacement := { segments := [.named group] },
                                description }] }) ∧
      ∀ mark ∈ group.toList, mark ∈ groupNameMarks →
        ofSpecs name [⟨source, "\x7b" ++ group ++ "\x7d", description⟩] =
          .error { cause := .invalidTemplate ⟨0, description, source⟩
                     (Template.Fault.invalidReference group).message } := by
  have hname : isGroupName group.toList = true := by
    obtain ⟨node, hnode, hresult⟩ := bind_eq_ok_iff.1 hparse
    cases hresult
    exact Pattern.wellNamed_parse hnode hgroup
  constructor
  · intro hmarks
    have hreference : IsReferenceName group := by
      refine (isReferenceName_iff hname ?_).2 hmarks
      rintro rfl
      exact hroot hgroup
    have hserves : pattern.Serves { segments := [.named group] } := by
      refine ⟨hroot, by simp, fun other hmem => ?_⟩
      cases List.mem_singleton.1 hmem
      exact hgroup
    refine ofSpecs_singleton (Template.parse_braces hreference) (RuleDef.load_eq_ok_iff.2 ?_)
    exact ⟨pattern, hparse, hprobes, Template.checkAgainst_eq_ok_iff.2 hserves, rfl⟩
  · intro mark hmem hmark
    have htemplate := Template.parse_braces_eq_error hname hmem hmark
    simp only [ofSpecs, loadFrom, RuleSpec.toDef, htemplate, bind, Except.bind]

/-! ## §4. Two patterns with named groups. -/

/-- Is the pattern read, without an empty match in the probes and with groups of these names? -/
def readsGroups (source : String) (names : List String) : Bool :=
  (Pattern.parse source).toOption.any fun pattern =>
    !pattern.matchesEmpty && decide (pattern.groupNames = names)

theorem exists_of_readsGroups {names : List String} (h : readsGroups source names = true) :
    ∃ pattern, Pattern.parse source = .ok pattern ∧ pattern.matchesEmpty = false ∧
      pattern.groupNames = names := by
  cases hparse : Pattern.parse source with
  | error fault =>
    rw [readsGroups, hparse] at h
    cases h
  | ok pattern =>
    simp only [readsGroups, hparse, Except.toOption, Option.any_some, Bool.and_eq_true,
      Bool.not_eq_true', decide_eq_true_eq] at h
    exact ⟨pattern, rfl, h⟩

/-- Digits in a group with a name that is not basic Latin, and letters in one with an underscore. -/
def sizeAndUnit : String := "(?P<größe_2>[0-9]+)(?<_>[a-z]+)"

/-- Both groups can be referred to. -/
theorem ofSpecs_reference_sizeAndUnit :
    ∃ pattern, Pattern.parse sizeAndUnit = .ok pattern ∧
      ofSpecs "sizes" [⟨sizeAndUnit, "\x7bgröße_2\x7d", "size"⟩] =
        .ok { name := "sizes"
              rules := [{ pattern, replacement := { segments := [.named "größe_2"] },
                          description := "size" }] } ∧
      ofSpecs "units" [⟨sizeAndUnit, "\x7b_\x7d", "unit"⟩] =
        .ok { name := "units"
              rules := [{ pattern, replacement := { segments := [.named "_"] },
                          description := "unit" }] } := by
  have hreads : readsGroups sizeAndUnit ["größe_2", "_"] = true := by decide +kernel
  obtain ⟨pattern, hparse, hprobes, hnames⟩ := exists_of_readsGroups hreads
  have hroot : "root" ∉ pattern.groupNames := by simp [hnames]
  have hsize : "größe_2" ∈ pattern.groupNames := by simp [hnames]
  have hunit : "_" ∈ pattern.groupNames := by simp [hnames]
  have hbraces : "\x7b" ++ "größe_2" ++ "\x7d" = "\x7bgröße_2\x7d" := by decide +kernel
  have hbraces' : "\x7b" ++ "_" ++ "\x7d" = "\x7b_\x7d" := by decide +kernel
  have hmarks : "größe_2".toList.all (· ∉ groupNameMarks) = true := by decide +kernel
  have hmarks' : "_".toList.all (· ∉ groupNameMarks) = true := by decide +kernel
  refine ⟨pattern, hparse, ?_, ?_⟩
  · rw [← hbraces]
    exact (ofSpecs_reference hparse hprobes hroot hsize "sizes" "size").1
      fun c hmem => of_decide_eq_true (List.all_eq_true.1 hmarks c hmem)
  · rw [← hbraces']
    exact (ofSpecs_reference hparse hprobes hroot hunit "units" "unit").1
      fun c hmem => of_decide_eq_true (List.all_eq_true.1 hmarks' c hmem)

/-- A letter in a group with a dot in its name. -/
def dottedGroup : String := "(?P<a.b>x)"

/-- The pattern passes all checks, and still no rule can refer to its group by name. -/
theorem ofSpecs_dottedGroup :
    (∃ pattern, Pattern.parse dottedGroup = .ok pattern ∧ pattern.matchesEmpty = false ∧
      "root" ∉ pattern.groupNames ∧ "a.b" ∈ pattern.groupNames) ∧
    ¬ ∃ registry, ofSpecs "dotted" [⟨dottedGroup, "\x7ba.b\x7d", "dotted"⟩] = .ok registry := by
  constructor
  · have hreads : readsGroups dottedGroup ["a.b"] = true := by decide +kernel
    obtain ⟨pattern, hparse, hprobes, hnames⟩ := exists_of_readsGroups hreads
    exact ⟨pattern, hparse, hprobes, by simp [hnames], by simp [hnames]⟩
  · rintro ⟨registry, hload⟩
    have htemplate : Template.parse "\x7ba.b\x7d" = .error (.invalidReference "a.b") := by
      decide +kernel
    simp only [ofSpecs, loadFrom, RuleSpec.toDef, htemplate, bind, Except.bind] at hload
    cases hload

end Registry

end Reroute
