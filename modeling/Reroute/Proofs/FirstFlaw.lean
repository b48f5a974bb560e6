/-
  Reroute.Proofs.FirstFlaw — which rules files load, and which flaw is reported.

  A rule is valid if its template is read, its pattern is read, the pattern has no empty match in
  the probes, and the references of the template are to groups of the pattern, none of which has the
  name of the root prefix (`RuleSpec.IsValid`).

  Loading goes over the list twice.  The first pass reads the templates only (`RuleSpec.toDef`); the
  second one makes the other checks, in a fixed order for each rule (`RuleDef.load`), so that the
  first check that fails says what the flaw is called (`RuleDef.HasFlaw`).  Either pass stops at the
  first rule that fails, and the failure names that rule (`Failure.Names`).

  Main statement (`ofSpecs_loads_or_names_first`).
-/
import Reroute.Proofs.Loading

namespace Reroute

/-! ## §1. The checks. -/

/-- The pattern has no empty match in any of the probes. -/
def Pattern.PassesProbes (pattern : Pattern) : Prop :=
  ∀ probe ∈ emptyMatchProbes, ∀ m ∈ pattern.allMatches probe.toList, m.isEmpty = false

theorem Pattern.matchesEmpty_eq_false_iff {pattern : Pattern} :
    pattern.matchesEmpty = false ↔ pattern.PassesProbes := by
  simp [Pattern.matchesEmpty, Pattern.PassesProbes]

/-- The references of the template are to groups of the pattern, and no group has the name of the
    root prefix. -/
structure Pattern.Serves (pattern : Pattern) (template : Template) : Prop where
  root_not_mem : "root" ∉ pattern.groupNames
  group_le : ∀ index, .group index ∈ template.segments → index ≤ pattern.groupCount
  name_mem : ∀ name, .named name ∈ template.segments → name ∈ pattern.groupNames

namespace Template

theorem checkSegment_eq_ok_iff {pattern : Pattern} {segment : Segment} :
    checkSegment pattern segment = .ok () ↔
      (∀ index, segment = .group index → index ≤ pattern.groupCount) ∧
        ∀ name, segment = .named name → name ∈ pattern.groupNames := by
  cases segment with
  | literal text => simp [checkSegment]
  | group index =>
    by_cases hle : index ≤ pattern.groupCount <;> simp [checkSegment, hle]
  | named name =>
    by_cases hmem : name ∈ pattern.groupNames <;> simp [checkSegment, hmem]
  | rootPrefix => simp [checkSegment]

theorem checkSegments_eq_ok_iff {pattern : Pattern} {segments : List Segment} :
    checkSegments pattern segments = .ok () ↔
      ∀ segment ∈ segments, checkSegment pattern segment = .ok () := by
  induction segments with
  | nil => simp [checkSegments]
  | cons segment rest ih =>
    rw [checkSegments, bind_eq_ok_iff, List.forall_mem_cons, ← ih]
    constructor
    · rintro ⟨⟨⟩, hfirst, hrest⟩
      exact ⟨hfirst, hrest⟩
    · rintro ⟨hfirst, hrest⟩
      exact ⟨(), hfirst, hrest⟩

/-- The check finds nothing exactly if the pattern serves the template. -/
theorem checkAgainst_eq_ok_iff {template : Template} {pattern : Pattern} :
    template.checkAgainst pattern = .ok () ↔ pattern.Serves template := by
  unfold checkAgainst
  by_cases hroot : pattern.groupNames.contains rootWord = true
  · rw [if_pos hroot]
    constructor
    · intro h
      cases h
    · intro hserves
      exact absurd (List.contains_iff_mem.1 hroot) hserves.root_not_mem
  · rw [if_neg hroot, checkSegments_eq_ok_iff]
    constructor
    · intro hall
      refine ⟨fun hmem => hroot (List.contains_iff_mem.2 hmem), ?_, ?_⟩
      · intro index hmem
        exact (checkSegment_eq_ok_iff.1 (hall _ hmem)).1 index rfl
      · intro name hmem
        exact (checkSegment_eq_ok_iff.1 (hall _ hmem)).2 name rfl
    · intro hserves segment hmem
      apply checkSegment_eq_ok_iff.2
      constructor
      · rintro index rfl
        exact hserves.group_le index hmem
      · rintro name rfl
        exact hserves.name_mem name hmem

end Template

/-! ## §2. Valid rules. -/

/-- The definition with the template that was read for the rule. -/
def RuleSpec.withTemplate (spec : RuleSpec) (template : Template) : RuleDef :=
  { pattern := spec.pattern, replacement := template, description := spec.description }

/-- The pattern is read, has no empty match in the probes and serves the template. -/
def RuleDef.IsValid (definition : RuleDef) : Prop :=
  ∃ pattern, Pattern.parse definition.pattern = .ok pattern ∧ pattern.PassesProbes ∧
    pattern.Serves definition.replacement

/-- The template of the rule is read. -/
def RuleSpec.HasTemplate (spec : RuleSpec) : Prop :=
  ∃ template, Template.parse spec.replacement = .ok template

/-- The template is read, and what is then defined is valid. -/
def RuleSpec.IsValid (spec : RuleSpec) : Prop :=
  ∃ template, Template.parse spec.replacement = .ok template ∧ (spec.withTemplate template).IsValid

theorem RuleSpec.toDef_eq_ok_iff {index : Nat} {spec : RuleSpec} {definition : RuleDef} :
    spec.toDef index = .ok definition ↔
      ∃ template, Template.parse spec.replacement = .ok template ∧
        definition = spec.withTemplate template := by
  unfold RuleSpec.toDef
  cases Template.parse spec.replacement with
  | error fault => simp
  | ok template =>
    simp only [Except.ok.injEq, exists_eq_left']
    exact eq_comm

theorem RuleDef.exists_load_iff {index : Nat} {definition : RuleDef} :
    (∃ rule, definition.load index = .ok rule) ↔ definition.IsValid := by
  simp only [RuleDef.load_eq_ok_iff, Pattern.matchesEmpty_eq_false_iff,
    Template.checkAgainst_eq_ok_iff]
  constructor
  · rintro ⟨rule, pattern, hparse, hprobes, hserves, -⟩
    exact ⟨pattern, hparse, hprobes, hserves⟩
  · rintro ⟨pattern, hparse, hprobes, hserves⟩
    exact ⟨_, pattern, hparse, hprobes, hserves, rfl⟩

/-! ## §3. Flaws and the failures that name them. -/

/-- The first check that the definition fails, by the code it is reported with. -/
inductive RuleDef.HasFlaw (definition : RuleDef) : (code : String) → Prop where
  | pattern {fault : Pattern.Fault} (hparse : Pattern.parse definition.pattern = .error fault) :
      HasFlaw definition "rule.invalid_pattern"
  | emptyMatch {pattern : Pattern} (hparse : Pattern.parse definition.pattern = .ok pattern)
      (hprobes : ¬ pattern.PassesProbes) : HasFlaw definition "rule.zero_width"
  | template {pattern : Pattern} (hparse : Pattern.parse definition.pattern = .ok pattern)
      (hprobes : pattern.PassesProbes) (hserves : ¬ pattern.Serves definition.replacement) :
      HasFlaw definition "rule.invalid_template"

/-- The failure has the code, and its details tell the rule and its position. -/
structure Failure.Names (failure : Failure) (index : Nat) (spec : RuleSpec) (code : String) :
    Prop where
  code_eq : failure.code.text = code
  index_eq : failure.details.get? "index" = some (.nat index)
  description_eq : failure.details.get? "description" = some (.str spec.description)
  pattern_eq : failure.details.get? "pattern" = some (.str spec.pattern)

/-- A failure about a rule names it, whatever the flaw is. -/
theorem Failure.names_of_details {failure : Failure} {index : Nat} {spec : RuleSpec}
    {problem : String} (h : failure.details
      = RulePosition.details ⟨index, spec.description, spec.pattern⟩ problem) :
    failure.Names index spec failure.code.text where
  code_eq := rfl
  index_eq := by rw [h]; rfl
  description_eq := by rw [h]; rfl
  pattern_eq := by rw [h]; rfl

/-- The first pass fails at a rule whose template is not read. -/
theorem RuleSpec.toDef_eq_error {index : Nat} {spec : RuleSpec} {failure : Failure}
    (h : spec.toDef index = .error failure) :
    ¬ spec.HasTemplate ∧ failure.Names index spec "rule.invalid_template" := by
  unfold RuleSpec.toDef at h
  cases hparse : Template.parse spec.replacement with
  | ok template =>
    rw [hparse] at h
    cases h
  | error fault =>
    rw [hparse] at h
    cases h
    refine ⟨?_, Failure.names_of_details rfl⟩
    rintro ⟨template, htemplate⟩
    rw [hparse] at htemplate
    cases htemplate

/-- The second pass fails at a rule with the flaw that comes first in the order of the checks. -/
theorem RuleSpec.load_eq_error {index : Nat} {spec : RuleSpec} {template : Template}
    {failure : Failure} (h : (spec.withTemplate template).load index = .error failure) :
    ∃ code, (spec.withTemplate template).HasFlaw code ∧ failure.Names index spec code := by
  unfold RuleDef.load at h
  cases hparse : Pattern.parse (spec.withTemplate template).pattern with
  | error fault =>
    rw [hparse] at h
    cases h
    exact ⟨_, .pattern hparse, Failure.names_of_details rfl⟩
  | ok pattern =>
    rw [hparse] at h
    by_cases hempty : pattern.matchesEmpty = true
    · simp only [hempty, if_true, Except.error.injEq] at h
      subst h
      refine ⟨_, .emptyMatch hparse fun hprobes => ?_, Failure.names_of_details rfl⟩
      rw [Pattern.matchesEmpty_eq_false_iff.2 hprobes] at hempty
      cases hempty
    · simp only [hempty, if_false, Bool.false_eq_true] at h
      have hprobes := Pattern.matchesEmpty_eq_false_iff.1 (by simpa using hempty)
      cases hcheck : (spec.withTemplate template).replacement.checkAgainst pattern with
      | ok _ =>
        rw [hcheck] at h
        cases h
      | error mismatch =>
        rw [hcheck] at h
        cases h
        refine ⟨_, .template hparse hprobes fun hserves => ?_, Failure.names_of_details rfl⟩
        rw [Template.checkAgainst_eq_ok_iff.2 hserves] at hcheck
        cases hcheck

theorem RuleDef.HasFlaw.not_isValid {definition : RuleDef} {code : String}
    (h : definition.HasFlaw code) : ¬ definition.IsValid := by
  rintro ⟨pattern, hparse, hprobes, hserves⟩
  cases h with
  | pattern hparse' =>
    rw [hparse] at hparse'
    cases hparse'
  | emptyMatch hparse' hnot =>
    rw [hparse] at hparse'
    cases hparse'
    exact hnot hprobes
  | template hparse' _ hnot =>
    rw [hparse] at hparse'
    cases hparse'
    exact hnot hserves

/-! ## §4. The two passes. -/

/-- The failure is about the first rule whose template is not read, whatever the patterns before it
    are; if all templates are read, it is about the first rule that is not valid. -/
inductive Failure.NamesFirst (failure : Failure) (specs : List RuleSpec) : Prop where
  | unread {k : Nat} {spec : RuleSpec} (hspec : specs[k]? = some spec) (hflaw : ¬ spec.HasTemplate)
      (hbefore : ∀ (j : Nat) (other : RuleSpec), j < k → specs[j]? = some other →
        other.HasTemplate)
      (hnames : failure.Names k spec "rule.invalid_template")
  | flawed {k : Nat} {spec : RuleSpec} {template : Template} {code : String}
      (hread : ∀ other ∈ specs, other.HasTemplate)
      (hspec : specs[k]? = some spec)
      (htemplate : Template.parse spec.replacement = .ok template)
      (hflaw : (spec.withTemplate template).HasFlaw code)
      (hbefore : ∀ (j : Nat) (other : RuleSpec), j < k → specs[j]? = some other → other.IsValid)
      (hnames : failure.Names k spec code)

/-- The registry has the name and, position by position, what the rules say. -/
structure Registry.IsOf (registry : Registry) (name : String) (specs : List RuleSpec) : Prop where
  name_eq : registry.name = name
  length_eq : specs.length = registry.rules.length
  rule_eq : ∀ (k : Nat) (spec : RuleSpec) (rule : Rule), specs[k]? = some spec →
    registry.rules[k]? = some rule →
      Pattern.parse spec.pattern = .ok rule.pattern ∧ rule.pattern.source = spec.pattern ∧
        Template.parse spec.replacement = .ok rule.replacement ∧
        rule.description = spec.description

/-- A failure is about a rule that is not valid. -/
theorem Failure.NamesFirst.exists_not_isValid {failure : Failure} {specs : List RuleSpec}
    (h : failure.NamesFirst specs) : ∃ spec ∈ specs, ¬ spec.IsValid := by
  cases h with
  | @unread k spec hspec hflaw _ _ =>
    refine ⟨spec, List.mem_of_getElem? hspec, ?_⟩
    rintro ⟨template, htemplate, -⟩
    exact hflaw ⟨template, htemplate⟩
  | @flawed k spec template code _ hspec htemplate hflaw _ _ =>
    refine ⟨spec, List.mem_of_getElem? hspec, ?_⟩
    rintro ⟨other, hother, hvalid⟩
    rw [htemplate] at hother
    cases hother
    exact hflaw.not_isValid hvalid

namespace Registry

variable {name : String} {specs : List RuleSpec}

/-- The first pass succeeds if all templates are read. -/
theorem toDefs_eq_ok_iff {definitions : List RuleDef} :
    loadFrom RuleSpec.toDef 0 specs = .ok definitions ↔
      specs.length = definitions.length ∧
        ∀ (k : Nat) (spec : RuleSpec) (definition : RuleDef), specs[k]? = some spec →
          definitions[k]? = some definition →
            ∃ template, Template.parse spec.replacement = .ok template ∧
              definition = spec.withTemplate template := by
  simp only [loadFrom_eq_ok_iff, RuleSpec.toDef_eq_ok_iff]

theorem exists_getElem?_of_length {α β : Type} {items : List α} {others : List β}
    (h : items.length = others.length) {k : Nat} {item : α} (hitem : items[k]? = some item) :
    ∃ other, others[k]? = some other := by
  have hlt := (List.getElem?_eq_some_iff.1 hitem).1
  exact ⟨_, List.getElem?_eq_getElem (h ▸ hlt)⟩

/-- A list that loads has valid rules only. -/
theorem isOf_of_ofSpecs {registry : Registry} (h : ofSpecs name specs = .ok registry) :
    registry.IsOf name specs ∧ ∀ spec ∈ specs, spec.IsValid := by
  obtain ⟨definitions, htemplates, hdefs⟩ := bind_eq_ok_iff.1 h
  obtain ⟨rules, hrules, hregistry⟩ := bind_eq_ok_iff.1 hdefs
  cases hregistry
  obtain ⟨hlength, hread⟩ := toDefs_eq_ok_iff.1 htemplates
  obtain ⟨hlength', hload⟩ := (loadFrom_eq_ok_iff definitions 0 rules).1 hrules
  -- position by position, a rule is what is loaded from its definition
  have hrule : ∀ (k : Nat) (spec : RuleSpec) (rule : Rule), specs[k]? = some spec →
      rules[k]? = some rule → ∃ template, Template.parse spec.replacement = .ok template ∧
        (spec.withTemplate template).load (0 + k) = .ok rule := by
    intro k spec rule hspec hrule
    obtain ⟨definition, hdefinition⟩ := exists_getElem?_of_length hlength hspec
    obtain ⟨template, htemplate, rfl⟩ := hread k spec definition hspec hdefinition
    exact ⟨template, htemplate, hload k _ rule hdefinition hrule⟩
  refine ⟨⟨rfl, hlength.trans hlength', ?_⟩, ?_⟩
  · intro k spec rule hspec hget
    obtain ⟨template, htemplate, hload⟩ := hrule k spec rule hspec hget
    obtain ⟨pattern, hparse, -, -, rfl⟩ := RuleDef.load_eq_ok_iff.1 hload
    exact ⟨hparse, Pattern.source_of_parse hparse, htemplate, rfl⟩
  · intro spec hmem
    obtain ⟨k, hspec⟩ := List.getElem?_of_mem hmem
    obtain ⟨rule, hget⟩ := exists_getElem?_of_length (hlength.trans hlength') hspec
    obtain ⟨template, htemplate, hload⟩ := hrule k spec rule hspec hget
    exact ⟨template, htemplate, RuleDef.exists_load_iff.1 ⟨rule, hload⟩⟩

/-- The second pass has valid definitions before the one it fails at. -/
theorem ofDefs_eq_error_iff {definitions : List RuleDef} {failure : Failure} :
    ofDefs name definitions = .error failure ↔
      ∃ (k : Nat) (definition : RuleDef), definitions[k]? = some definition ∧
        definition.load k = .error failure ∧
        ∀ (j : Nat) (other : RuleDef), j < k → definitions[j]? = some other → other.IsValid := by
  have hpass : ofDefs name definitions = .error failure ↔
      loadFrom RuleDef.load 0 definitions = .error failure := by
    unfold ofDefs
    cases loadFrom RuleDef.load 0 definitions with
    | ok rules => simp [bind, Except.bind, pure, Except.pure]
    | error other => simp [bind, Except.bind]
  simp only [hpass, loadFrom_eq_error_iff, RuleDef.exists_load_iff, Nat.zero_add]

theorem namesFirst_of_ofSpecs {failure : Failure} (h : ofSpecs name specs = .error failure) :
    failure.NamesFirst specs := by
  unfold ofSpecs at h
  cases htemplates : loadFrom RuleSpec.toDef 0 specs with
  | error other =>
    rw [htemplates] at h
    cases h
    obtain ⟨k, spec, hspec, hflaw, hbefore⟩ := (loadFrom_eq_error_iff specs 0).1 htemplates
    rw [Nat.zero_add] at hflaw
    obtain ⟨hunread, hnames⟩ := RuleSpec.toDef_eq_error hflaw
    refine .unread hspec hunread (fun j other hlt hother => ?_) hnames
    obtain ⟨definition, hdefinition⟩ := hbefore j other hlt hother
    obtain ⟨template, htemplate, -⟩ := RuleSpec.toDef_eq_ok_iff.1 hdefinition
    exact ⟨template, htemplate⟩
  | ok definitions =>
    rw [htemplates] at h
    obtain ⟨hlength, hread⟩ := toDefs_eq_ok_iff.1 htemplates
    obtain ⟨k, definition, hdefinition, hflaw, hbefore⟩ := ofDefs_eq_error_iff.1 h
    obtain ⟨spec, hspec⟩ := exists_getElem?_of_length hlength.symm hdefinition
    obtain ⟨template, htemplate, rfl⟩ := hread k spec definition hspec hdefinition
    obtain ⟨code, hcode, hnames⟩ := RuleSpec.load_eq_error hflaw
    -- the definition at a position is that of the rule there
    have hdef : ∀ (j : Nat) (other : RuleSpec), specs[j]? = some other →
        ∃ template, Template.parse other.replacement = .ok template ∧
          definitions[j]? = some (other.withTemplate template) := by
      intro j other hother
      obtain ⟨definition, hdefinition⟩ := exists_getElem?_of_length hlength hother
      obtain ⟨template, htemplate, rfl⟩ := hread j other definition hother hdefinition
      exact ⟨template, htemplate, hdefinition⟩
    refine .flawed ?_ hspec htemplate hcode ?_ hnames
    · intro other hmem
      obtain ⟨j, hother⟩ := List.getElem?_of_mem hmem
      obtain ⟨template, htemplate, -⟩ := hdef j other hother
      exact ⟨template, htemplate⟩
    · intro j other hlt hother
      obtain ⟨template, htemplate, hdefinition⟩ := hdef j other hother
      exact ⟨template, htemplate, hbefore j _ hlt hdefinition⟩

/-- A list of rules loads exactly if all of them are valid.  The registry then has them position by
    position; otherwise the failure is about the first rule to blame. -/
theorem ofSpecs_loads_or_names_first (name : String) (specs : List RuleSpec) :
    ((∃ registry, ofSpecs name specs = .ok registry) ↔ ∀ spec ∈ specs, spec.IsValid) ∧
      match ofSpecs name specs with
      | .ok registry => registry.IsOf name specs
      | .error failure => failure.NamesFirst specs := by
  cases h : ofSpecs name specs with
  | ok registry =>
    obtain ⟨hof, hvalid⟩ := isOf_of_ofSpecs h
    exact ⟨⟨fun _ => hvalid, fun _ => ⟨registry, rfl⟩⟩, hof⟩
  | error failure =>
    have hfirst := namesFirst_of_ofSpecs h
    refine ⟨⟨?_, fun hvalid => ?_⟩, hfirst⟩
    · rintro ⟨registry, hregistry⟩
      cases hregistry
    · obtain ⟨spec, hmem, hnot⟩ := hfirst.exists_not_isValid
      exact absurd (hvalid spec hmem) hnot

/-- The pattern of the first rule is not read either, and it is the second one that is named. -/
example : (match ofSpecs "both" [⟨"(", "a", "first"⟩, ⟨"b", "\x7b", "second"⟩] with
    | .ok _ => none
    | .error failure => some (failure.code, failure.details.get? "index")) =
      some (.invalidTemplate, some (.nat 1)) := by
  rfl

end Registry

end Reroute
