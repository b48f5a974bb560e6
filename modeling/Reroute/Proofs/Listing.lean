/-
  Reroute.Proofs.Listing — a listing of rules can be loaded again.

  A listing has the text of every pattern, the text of every template and every description.  Two
  facts bring the rules back from it: a pattern keeps the text that it was read from
  (`Pattern.source_of_parse`), and every template of a loaded rule is read back from its own text,
  be it the template of a rules file or of a preset (`exists_printable_of_load`).

  Main statement (`listing_loads_back`): loading the rules of a listing, under the name of the
  registry that is listed, gives that registry.
-/
import Reroute.Command
import Reroute.Proofs.Loading
import Reroute.Proofs.Template.RoundTrip

namespace Reroute

/-! ## §1. Texts of patterns and templates. -/

/-- A template of one text is read back, whatever braces the text has. -/
theorem Template.parse_print_literal (text : String) :
    Template.parse (Template.literal text).print = .ok (.literal text) := by
  have hempty : Template.Readable .empty := fun _ hmem => by cases hmem
  exact Template.parse_print (.literal text) (Template.readable_text hempty text)

/-- So is one of two texts with a readable reference between them. -/
theorem Template.parse_print_around {segment : Segment} (h : Template.IsReadable segment)
    (opening ending : String) :
    Template.parse (((Template.literal opening).push segment).text ending).print
      = .ok (((Template.literal opening).push segment).text ending) := by
  have hempty : Template.Readable .empty := fun _ hmem => by cases hmem
  have hopening : Template.Readable (.literal opening) := Template.readable_text hempty opening
  apply Template.parse_print
  · exact .text (Template.built_push (.literal opening) h) ending
  · exact Template.readable_text (Template.readable_push hopening h) ending

/-- The template of the definition is read back from its text. -/
def RuleDef.IsPrintable (definition : RuleDef) : Prop :=
  Template.parse definition.replacement.print = .ok definition.replacement

/-- A template that was read from a rules file is read back. -/
theorem RuleSpec.isPrintable_of_toDef {index : Nat} {spec : RuleSpec} {definition : RuleDef}
    (h : spec.toDef index = .ok definition) : definition.IsPrintable := by
  unfold RuleSpec.toDef at h
  cases hparse : Template.parse spec.replacement with
  | error fault => simp [hparse] at h
  | ok replacement =>
    rw [hparse] at h
    cases h
    obtain ⟨hbuilt, hreadable⟩ := Template.built_of_parse hparse
    exact Template.parse_print hbuilt hreadable

/-- So are all templates of a rules file. -/
theorem Registry.isPrintable_of_loadFrom {index : Nat} {specs : List RuleSpec}
    {definitions : List RuleDef} (h : loadFrom RuleSpec.toDef index specs = .ok definitions) :
    ∀ definition ∈ definitions, definition.IsPrintable := by
  obtain ⟨hlength, hall⟩ := (loadFrom_eq_ok_iff specs index definitions).1 h
  intro definition hmem
  obtain ⟨k, hget⟩ := List.getElem?_of_mem hmem
  have hlt : k < specs.length := hlength ▸ (List.getElem?_eq_some_iff.1 hget).1
  exact RuleSpec.isPrintable_of_toDef
    (hall k _ definition (List.getElem?_eq_getElem hlt) hget)

namespace Presets

/-- **Every template of a preset is read back**, although it was built and never read. -/
theorem isPrintable_of_mem_table {name : String} {definitions : List RuleDef}
    (h : (name, definitions) ∈ table) : ∀ definition ∈ definitions, definition.IsPrintable := by
  -- a move writes a text without references
  have hmoves : ∀ moves : List Move, ∀ definition ∈ moves.map Move.definition,
      definition.IsPrintable := by
    intro moves definition hmem
    obtain ⟨move, -, rfl⟩ := List.mem_map.1 hmem
    cases move with
    | relocate old new description => exact Template.parse_print_literal _
    | requote path description => exact Template.parse_print_literal _
  have hgroup : Template.IsReadable (.group 1) := by
    show 1 ≤ Template.maxIndex
    decide
  have hroot : Template.IsReadable .rootPrefix := trivial
  simp only [table, List.mem_cons, List.not_mem_nil, or_false, Prod.mk.injEq] at h
  rcases h with ⟨-, rfl⟩ | ⟨-, rfl⟩ | ⟨-, rfl⟩
  · exact hmoves featureFirstMoves
  · rw [planning, List.forall_mem_append, List.forall_mem_cons]
    exact ⟨hmoves planningMovesBefore, Template.parse_print_around hgroup _ _,
      hmoves planningMovesAfter⟩
  · intro definition hmem
    obtain rfl := List.mem_singleton.1 hmem
    exact Template.parse_print_around hroot _ _

end Presets

namespace Command

/-! ## §2. Loading what is listed. -/

/-- A listed rule as it would be written in a rules file. -/
def ListedRule.toSpec (rule : ListedRule) : RuleSpec :=
  { pattern := rule.pattern, replacement := rule.replacement, description := rule.description }

/-- **One rule**: what is listed of it is read as the definition that it was loaded from. -/
theorem toDef_listed {index : Nat} {definition : RuleDef} {rule : Rule}
    (hload : definition.load index = .ok rule) (hprint : definition.IsPrintable) :
    (ListedRule.of index rule).toSpec.toDef index = .ok definition := by
  obtain ⟨pattern, hparse, -, -, rfl⟩ := RuleDef.load_eq_ok_iff.1 hload
  have hspec : (ListedRule.of index (definition.toRule pattern)).toSpec
      = { pattern := definition.pattern, replacement := definition.replacement.print,
          description := definition.description } := by
    rw [← Pattern.source_of_parse hparse]
    rfl
  unfold RuleDef.IsPrintable at hprint
  rw [hspec, RuleSpec.toDef]
  simp only [hprint]

/-- **All rules**, each at its own position. -/
theorem loadFrom_listed {definitions : List RuleDef} :
    ∀ {index : Nat} {rules : List Rule},
      Registry.loadFrom RuleDef.load index definitions = .ok rules →
      (∀ definition ∈ definitions, definition.IsPrintable) →
      Registry.loadFrom RuleSpec.toDef index ((listFrom index rules).map ListedRule.toSpec)
        = .ok definitions := by
  induction definitions with
  | nil =>
    intro index rules hload _
    cases hload
    rfl
  | cons definition definitions ih =>
    intro index rules hload hprint
    obtain ⟨first, hfirst, hrest⟩ := bind_eq_ok_iff.1 hload
    obtain ⟨others, hothers, hrules⟩ := bind_eq_ok_iff.1 hrest
    cases hrules
    obtain ⟨hprintFirst, hprintRest⟩ := List.forall_mem_cons.1 hprint
    rw [listFrom, List.map_cons, Registry.loadFrom, toDef_listed hfirst hprintFirst]
    show Registry.loadFrom _ _ _ >>= _ = _
    rw [ih hothers hprintRest]
    rfl

/-- What a command loads comes from definitions with templates that are read back. -/
theorem exists_printable_of_load {env : Environment} {disk : Disk} {selection : Selection}
    {loaded : Loaded} (h : load env disk selection = .ok loaded) :
    ∃ definitions, Registry.ofDefs loaded.registry.name definitions = .ok loaded.registry ∧
      ∀ definition ∈ definitions, definition.IsPrintable := by
  obtain ⟨⟨registry, extensions, exclude⟩, hsource, hloaded⟩ := bind_eq_ok_iff.1 h
  cases hloaded
  show ∃ definitions, Registry.ofDefs registry.name definitions = .ok registry ∧ _
  unfold loadSource at hsource
  cases hrules : selection.rules with
  | some path =>
    -- the templates of a rules file were read, and so they are read back
    rw [hrules] at hsource
    obtain ⟨origin, -, hfile⟩ := bind_eq_ok_iff.1 hsource
    obtain ⟨file, -, hregistry⟩ := bind_eq_ok_iff.1 hfile
    obtain ⟨found, hspecs, hfound⟩ := bind_eq_ok_iff.1 hregistry
    cases hfound
    obtain ⟨definitions, htemplates, hdefs⟩ := bind_eq_ok_iff.1 hspecs
    refine ⟨definitions, ?_, Registry.isPrintable_of_loadFrom htemplates⟩
    rw [Registry.name_of_ofDefs hdefs]
    exact hdefs
  | none =>
    rw [hrules] at hsource
    obtain ⟨found, hpreset, hfound⟩ := bind_eq_ok_iff.1 hsource
    cases hfound
    unfold Presets.load at hpreset
    split at hpreset
    · next definitions hlookup =>
      obtain ⟨before, after, htable, -⟩ := List.lookup_eq_some_iff.1 hlookup
      have hmem : (selection.preset.getD Presets.defaultName, definitions) ∈ Presets.table := by
        rw [htable]
        exact List.mem_append_right before List.mem_cons_self
      refine ⟨definitions, ?_, Presets.isPrintable_of_mem_table hmem⟩
      rw [Registry.name_of_ofDefs hpreset]
      exact hpreset
    · cases hpreset

/-- **A listing loses nothing.**  Whenever a command loads rules, they can be listed, and the listed
    rules, written as they stand into a rules file, load as the very registry that was listed: the
    same patterns, templates and descriptions in the same order, and so the same changes of every
    text. -/
theorem listing_loads_back (env : Environment) (selection : Selection) (disk : Disk)
    (loaded : Loaded) (hload : load env disk selection = .ok loaded) :
    ∃ listing, rules env selection disk = .ok listing ∧
      listing.registry = loaded.registry.name ∧
      Registry.ofSpecs loaded.registry.name (listing.rules.map ListedRule.toSpec)
        = .ok loaded.registry := by
  obtain ⟨definitions, hdefs, hprint⟩ := exists_printable_of_load hload
  obtain ⟨found, hrules, hfound⟩ := bind_eq_ok_iff.1 hdefs
  have hfound : loaded.registry.rules = found :=
    congrArg Registry.rules (Except.ok.inj hfound).symm
  refine ⟨Listing.of loaded, ?_, rfl, ?_⟩
  · rw [rules, hload]
    rfl
  · show Registry.ofSpecs _ ((listFrom 0 loaded.registry.rules).map ListedRule.toSpec) = _
    rw [Registry.ofSpecs, hfound, loadFrom_listed hrules hprint]
    exact hdefs

/-- A rules file whose template has a brace, the root prefix and one group under its name and its
    number. -/
def bracedRules : Disk :=
  { tree := .dir [("rules.json", .file
      ("\x7b\"rules\": [\x7b\"pattern\": \"(?<n>a)b\", " ++
        "\"replacement\": \"\x7broot\x7d\x7b\x7b\x7bn\x7d\x7b1\x7d\", " ++
        "\"description\": \"move\"\x7d]\x7d").toUTF8)] }

/-- Its listing shows the brace doubled, and loads back. -/
theorem listing_loads_back_bracedRules :
    ∃ loaded listing, load {} bracedRules { rules := some "rules.json" } = .ok loaded ∧
      rules {} { rules := some "rules.json" } bracedRules = .ok listing ∧
      listing.rules
        = [⟨1, "move", "(?<n>a)b", "\x7broot\x7d\x7b\x7b\x7bn\x7d\x7b1\x7d"⟩] ∧
      Registry.ofSpecs loaded.registry.name (listing.rules.map ListedRule.toSpec)
        = .ok loaded.registry := by
  have hlisted : (rules {} { rules := some "rules.json" } bracedRules).toOption.map (·.rules)
      = some [⟨1, "move", "(?<n>a)b", "\x7broot\x7d\x7b\x7b\x7bn\x7d\x7b1\x7d"⟩] := by
    decide +kernel
  cases hload : load {} bracedRules { rules := some "rules.json" } with
  | error failure =>
    rw [rules, hload] at hlisted
    cases hlisted
  | ok loaded =>
    obtain ⟨listing, hlisting, -, hback⟩ := listing_loads_back _ _ _ loaded hload
    rw [hlisting] at hlisted
    exact ⟨loaded, listing, rfl, hlisting, Option.some.inj hlisted, hback⟩

end Command

end Reroute
