/-
  Reroute.Proofs.Loading — what loading a registry checks.

  A definition loads exactly if its pattern is read, yields no empty match on a probe and serves
  its template (`RuleDef.load_eq_ok_iff`).  A list loads exactly if every item of it does, and then
  position by position (`loadFrom_eq_ok_iff`); otherwise it fails with the first item that does
  (`loadFrom_eq_error_iff`).  So every rule of a registry has passed the checks of its definition
  (`loaded_of_mem`), in whatever form the rules were given (`IsLoaded.load_of_mem`).
-/
import Reroute.Proofs.Pattern.Matches
import Reroute.Registry

namespace Reroute

/-! ## §1. One definition. -/

/-- A pattern has the text that it was read from. -/
theorem Pattern.source_of_parse {source : String} {pattern : Pattern}
    (h : Pattern.parse source = .ok pattern) : pattern.source = source := by
  obtain ⟨node, -, hpattern⟩ := bind_eq_ok_iff.1 h
  cases hpattern
  rfl

/-- The rule that a definition with the given pattern becomes. -/
def RuleDef.toRule (definition : RuleDef) (pattern : Pattern) : Rule :=
  { pattern, replacement := definition.replacement, description := definition.description }

theorem RuleDef.load_eq_ok_iff {index : Nat} {definition : RuleDef} {rule : Rule} :
    definition.load index = .ok rule ↔ ∃ pattern, Pattern.parse definition.pattern = .ok pattern ∧
      pattern.matchesEmpty = false ∧ definition.replacement.checkAgainst pattern = .ok () ∧
      rule = definition.toRule pattern := by
  unfold RuleDef.load
  cases Pattern.parse definition.pattern with
  | error fault => simp
  | ok pattern =>
    simp only [Except.ok.injEq, exists_eq_left']
    cases pattern.matchesEmpty with
    | true => simp
    | false =>
      cases definition.replacement.checkAgainst pattern with
      | error mismatch => simp
      | ok _ =>
        simp only [Bool.false_eq_true, ↓reduceIte, Except.ok.injEq, true_and]
        exact eq_comm

/-! ## §2. Lists. -/

namespace Registry

/-- A list loads if every item does, each at its own position. -/
theorem loadFrom_eq_ok_iff {α β : Type} {load : Nat → α → Except Failure β} (items : List α) :
    ∀ (index : Nat) (results : List β), loadFrom load index items = .ok results ↔
      items.length = results.length ∧ ∀ k item result, items[k]? = some item →
        results[k]? = some result → load (index + k) item = .ok result := by
  induction items with
  | nil =>
    intro index results
    cases results <;> simp [loadFrom]
  | cons item items ih =>
    intro index results
    rw [loadFrom, bind_eq_ok_iff]
    constructor
    · intro hex
      obtain ⟨first, hfirst, hrest⟩ := hex
      obtain ⟨others, hothers, hresult⟩ := bind_eq_ok_iff.1 hrest
      cases hresult
      obtain ⟨hlength, hall⟩ := (ih (index + 1) others).1 hothers
      refine ⟨by simp [hlength], ?_⟩
      intro k item' result hitem hresult
      cases k with
      | zero =>
        cases hitem
        cases hresult
        exact hfirst
      | succ k =>
        have hload := hall k item' result hitem hresult
        rwa [Nat.add_assoc, Nat.add_comm 1 k] at hload
    · intro hex
      obtain ⟨hlength, hall⟩ := hex
      cases results with
      | nil => cases hlength
      | cons first others =>
        refine ⟨first, hall 0 item first rfl rfl, bind_eq_ok_iff.2 ⟨others, ?_, rfl⟩⟩
        refine (ih (index + 1) others).2 ⟨by simpa using hlength, ?_⟩
        intro k item' result hitem hresult
        have hload := hall (k + 1) item' result hitem hresult
        rwa [Nat.add_comm k 1, ← Nat.add_assoc] at hload

theorem loadFrom_cons_eq_error_iff {α β : Type} {load : Nat → α → Except Failure β}
    {failure : Failure} {first : α} {items : List α} {index : Nat} :
    loadFrom load index (first :: items) = .error failure ↔
      load index first = .error failure ∨
        (∃ result, load index first = .ok result) ∧
          loadFrom load (index + 1) items = .error failure := by
  rw [loadFrom]
  cases load index first with
  | error other => simp [bind, Except.bind]
  | ok result =>
    cases loadFrom load (index + 1) items with
    | error other => simp [bind, Except.bind]
    | ok others => simp [bind, Except.bind, pure, Except.pure]

/-- A list fails with the first of its items that does; all items before that one load. -/
theorem loadFrom_eq_error_iff {α β : Type} {load : Nat → α → Except Failure β} {failure : Failure}
    (items : List α) : ∀ index, loadFrom load index items = .error failure ↔
      ∃ k item, items[k]? = some item ∧ load (index + k) item = .error failure ∧
        ∀ j other, j < k → items[j]? = some other → ∃ result, load (index + j) other = .ok result := by
  induction items with
  | nil => intro index; simp [loadFrom]
  | cons first items ih =>
    intro index
    have hshift : ∀ k, index + 1 + k = index + (k + 1) := by omega
    rw [loadFrom_cons_eq_error_iff, ih (index + 1)]
    simp only [hshift]
    constructor
    · rintro (hfirst | ⟨hfirst, k, item, hitem, hload, hbefore⟩)
      · exact ⟨0, first, rfl, hfirst, fun j other hlt => absurd hlt (Nat.not_lt_zero j)⟩
      · refine ⟨k + 1, item, hitem, hload, fun j other hlt hother => ?_⟩
        cases j with
        | zero =>
          cases hother
          exact hfirst
        | succ j => exact hbefore j other (Nat.lt_of_succ_lt_succ hlt) hother
    · rintro ⟨k, item, hitem, hload, hbefore⟩
      cases k with
      | zero =>
        cases hitem
        exact .inl hload
      | succ k =>
        refine .inr ⟨hbefore 0 first (Nat.succ_pos k) rfl, k, item, hitem, hload, ?_⟩
        intro j other hlt hother
        exact hbefore (j + 1) other (Nat.succ_lt_succ hlt) hother

/-- A registry has the name that it is loaded under. -/
theorem name_of_ofDefs {name : String} {definitions : List RuleDef} {registry : Registry}
    (h : ofDefs name definitions = .ok registry) : registry.name = name := by
  obtain ⟨rules, -, hregistry⟩ := bind_eq_ok_iff.1 h
  cases hregistry
  rfl

/-- Every rule of a registry comes from a definition that has passed the checks. -/
theorem loaded_of_mem {name : String} {definitions : List RuleDef} {registry : Registry}
    (h : ofDefs name definitions = .ok registry) {rule : Rule} (hrule : rule ∈ registry.rules) :
    ∃ (index : Nat) (definition : RuleDef), definitions[index]? = some definition ∧
      definition.load index = .ok rule := by
  obtain ⟨rules, hrules, hresult⟩ := bind_eq_ok_iff.1 h
  cases hresult
  obtain ⟨hlength, hall⟩ := (loadFrom_eq_ok_iff definitions 0 rules).1 hrules
  obtain ⟨k, hget⟩ := List.getElem?_of_mem hrule
  have hlt : k < rules.length := (List.getElem?_eq_some_iff.1 hget).1
  obtain ⟨definition, hdefinition⟩ : ∃ definition, definitions[k]? = some definition :=
    ⟨_, List.getElem?_eq_getElem (hlength ▸ hlt)⟩
  have hload := hall k definition rule hdefinition hget
  rw [Nat.zero_add] at hload
  exact ⟨k, definition, hdefinition, hload⟩

/-- The same for rules as they are written in a rules file. -/
theorem ofDefs_of_ofSpecs {name : String} {specs : List RuleSpec} {registry : Registry}
    (h : ofSpecs name specs = .ok registry) :
    ∃ definitions, ofDefs name definitions = .ok registry := by
  obtain ⟨definitions, -, hload⟩ := bind_eq_ok_iff.1 h
  exact ⟨definitions, hload⟩

/-! ## §3. Loaded registries. -/

/-- The registry comes from the loader, be it from definitions or from a rules file. -/
def IsLoaded (registry : Registry) : Prop :=
  ∃ name, (∃ definitions, ofDefs name definitions = .ok registry) ∨
    ∃ specs, ofSpecs name specs = .ok registry

theorem IsLoaded.load_of_mem {registry : Registry} (h : registry.IsLoaded) {rule : Rule}
    (hrule : rule ∈ registry.rules) :
    ∃ (index : Nat) (definition : RuleDef), definition.load index = .ok rule := by
  obtain ⟨name, hload⟩ := h
  obtain ⟨definitions, hdefs⟩ : ∃ definitions, ofDefs name definitions = .ok registry := by
    rcases hload with hdefs | ⟨specs, hspecs⟩
    · exact hdefs
    · exact ofDefs_of_ofSpecs hspecs
  obtain ⟨index, definition, -, hrule⟩ := loaded_of_mem hdefs hrule
  exact ⟨index, definition, hrule⟩

/-- The pattern of a rule that is loaded was read. -/
theorem IsLoaded.isRead_of_mem {registry : Registry} (h : registry.IsLoaded) {rule : Rule}
    (hrule : rule ∈ registry.rules) : rule.pattern.IsRead := by
  obtain ⟨index, definition, hload⟩ := h.load_of_mem hrule
  obtain ⟨pattern, hparse, -, -, rfl⟩ := RuleDef.load_eq_ok_iff.1 hload
  exact Pattern.isRead_parse hparse

end Registry

end Reroute
