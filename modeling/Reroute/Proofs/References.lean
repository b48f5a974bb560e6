/-
  Reroute.Proofs.References — what the references of a loaded rule stand for.

  An expansion leaves out what it cannot resolve, without a word.  The check of a rule makes sure
  that this never happens: at every match, each reference of the template is to a group that the
  match knows of, and stands for the part of the text where the match last went through that group
  (`StandsFor`).  It stands for nothing exactly if the match did not go through the group, or took
  no character there the last time (`StandsFor.eq_nil_iff`); the latter does happen
  (`references_resolve_emptyPass`).

    • a number is that of a slot of every match (`Pattern.matchAt?_passes`),
    • a name is that of one group only (`exists_index_of_mem_groupNames`),
    • and `{root}` in a rules file is the root prefix, wherever in a template it stands
      (`expand_around_root`).

  Main statement (`references_resolve`).
-/
import Reroute.Proofs.EmptyMatches
import Reroute.Proofs.FirstFlaw
import Reroute.Proofs.Pattern.Passes
import Reroute.Proofs.Template.Grammar

namespace Reroute

open Pattern (Match Node Pass Span Trail lastPass?)

/-! ## §1. Numbers and names. -/

namespace Pattern

theorem le_lastGroup_of_mem {node : Node} {index : Nat} (h : index ∈ node.groupIndices) :
    index ≤ node.lastGroup := by
  induction node with
  | empty | set _ | look _ => cases h
  | group other name body ih =>
    rcases List.mem_cons.1 h with rfl | h
    · exact Nat.le_max_left _ _
    · exact Nat.le_trans (ih h) (Nat.le_max_right _ _)
  | cat first second ih ih' =>
    rcases List.mem_append.1 h with h | h
    · exact Nat.le_trans (ih h) (Nat.le_max_left _ _)
    · exact Nat.le_trans (ih' h) (Nat.le_max_right _ _)
  | alt first second ih ih' =>
    rcases List.mem_append.1 h with h | h
    · exact Nat.le_trans (ih h) (Nat.le_max_left _ _)
    · exact Nat.le_trans (ih' h) (Nat.le_max_right _ _)
  | rep body min max greedy ih => exact ih h

/-- A name that stands in a table once is looked up where it stands. -/
theorem lookup_eq_some_iff {entries : List (String × Nat)} {name : String} {index : Nat}
    (h : (entries.map (·.1)).count name ≤ 1) :
    entries.lookup name = some index ↔ (name, index) ∈ entries := by
  induction entries with
  | nil => simp
  | cons entry entries ih =>
    obtain ⟨other, k⟩ := entry
    rw [List.map_cons, List.count_cons] at h
    rw [List.lookup_cons, List.mem_cons]
    by_cases heq : name = other
    · subst heq
      -- the entry is the only one of the name
      have hnone : ∀ k, (name, k) ∉ entries := by
        intro k hmem
        have hpos : 0 < (entries.map (·.1)).count name :=
          List.count_pos_iff.2 (List.mem_map.2 ⟨_, hmem, rfl⟩)
        simp only [beq_self_eq_true, if_true] at h
        omega
      simp [hnone, eq_comm]
    · have hne : (name == other) = false := by simpa using heq
      rw [hne]
      simp only [Prod.mk.injEq, heq, false_and, false_or]
      exact ih (Nat.le_trans (Nat.le_add_right _ _) h)

/-- A group name is that of one group, and is looked up as that group. -/
theorem exists_index_of_mem_groupNames {pattern : Pattern} (hdistinct : pattern.node.Distinct)
    {name : String} (h : name ∈ pattern.groupNames) :
    ∃ index, pattern.groupIndex? name = some index ∧ index ≤ pattern.groupCount ∧
      ∀ other, (name, other) ∈ pattern.node.groupNames ↔ other = index := by
  obtain ⟨⟨known, index⟩, hmem, rfl⟩ := List.mem_map.1 h
  have honce := hdistinct.name_once known
  have hlookup : pattern.groupIndex? known = some index := (lookup_eq_some_iff honce).2 hmem
  refine ⟨index, hlookup, le_lastGroup_of_mem (mem_groupIndices_of_mem_groupNames hmem), ?_⟩
  intro other
  constructor
  · intro hother
    have hlookup' : pattern.groupIndex? known = some other := (lookup_eq_some_iff honce).2 hother
    rw [hlookup] at hlookup'
    exact (Option.some.inj hlookup').symm
  · rintro rfl
    exact hmem

theorem distinct_of_parse {source : String} {pattern : Pattern} (h : parse source = .ok pattern) :
    pattern.node.Distinct := by
  obtain ⟨node, hnode, hresult⟩ := bind_eq_ok_iff.1 h
  cases hresult
  exact distinct_parse hnode

end Pattern

/-! ## §2. Groups of a match. -/

/-- What a reference to a group stands for at a match with the given passes: the part of the text
    where the match went through the group for the last time, which lies within the match; or
    nothing, if the match did not go through the group at all.  A pass that takes no character is a
    pass all the same, and the empty text at its place is what the group has captured. -/
inductive StandsFor (text : List Char) (m : Match) (passes : List Pass) (index : Nat) :
    (expansion : List Char) → Prop where
  | captured {earlier later : List Pass} {span : Span} (hgroup : m.group? index = some span)
      (hpasses : passes = earlier ++ ⟨index, span⟩ :: later)
      (hlast : ∀ pass ∈ later, pass.index ≠ index)
      (hbounds : m.whole.start ≤ span.start ∧ span.start ≤ span.stop ∧
        span.stop ≤ m.whole.stop) :
      StandsFor text m passes index (span.slice text)
  | absent (hgroup : m.group? index = none) (hnone : ∀ pass ∈ passes, pass.index ≠ index) :
      StandsFor text m passes index []

/-- The match did not go through the group, or took no character there the last time. -/
inductive TookNothing (passes : List Pass) (index : Nat) : Prop where
  | absent (hnone : ∀ pass ∈ passes, pass.index ≠ index)
  | emptyPass {earlier later : List Pass} {place : Nat}
      (hpasses : passes = earlier ++ ⟨index, ⟨place, place⟩⟩ :: later)
      (hlast : ∀ pass ∈ later, pass.index ≠ index)

theorem slice_eq_nil_iff {span : Span} {text : List Char} (hle : span.start ≤ span.stop)
    (hstop : span.stop ≤ text.length) : span.slice text = [] ↔ span.start = span.stop := by
  unfold Span.slice
  rw [← List.length_eq_zero_iff, List.length_take, List.length_drop]
  omega

/-- **A reference stands for nothing exactly if its group took nothing.** -/
theorem StandsFor.eq_nil_iff {text : List Char} {m : Match} {passes : List Pass} {index : Nat}
    {expansion : List Char} (h : StandsFor text m passes index expansion)
    (hstop : m.whole.stop ≤ text.length) : expansion = [] ↔ TookNothing passes index := by
  cases h with
  | absent _ hnone => exact ⟨fun _ => .absent hnone, fun _ => rfl⟩
  | @captured earlier later span _ hpasses hlast hbounds =>
    rw [slice_eq_nil_iff hbounds.2.1 (Nat.le_trans hbounds.2.2 hstop)]
    constructor
    · intro heq
      have hspan : span = ⟨span.start, span.start⟩ := congrArg (Span.mk span.start) heq.symm
      rw [hspan] at hpasses
      exact .emptyPass hpasses hlast
    · intro htook
      cases htook with
      | absent hnone => exact absurd rfl (hnone ⟨index, span⟩ (by simp [hpasses]))
      | @emptyPass earlier' later' place hpasses' hlast' =>
        -- there is only one last pass through a group
        have hspan : lastPass? index (earlier ++ ⟨index, span⟩ :: later) = some span :=
          Pattern.lastPass?_of_split hlast earlier
        rw [← hpasses, hpasses', Pattern.lastPass?_of_split hlast', Option.some.injEq] at hspan
        rw [← hspan]

theorem StandsFor.last_of_group {text : List Char} {m : Match} {passes : List Pass} {index : Nat}
    {expansion : List Char} (h : StandsFor text m passes index expansion) {span : Span}
    (hgroup : m.group? index = some span) : ∃ earlier later,
      passes = earlier ++ ⟨index, span⟩ :: later ∧ ∀ pass ∈ later, pass.index ≠ index := by
  cases h with
  | captured hgroup' hpasses hlast _ =>
    rw [hgroup] at hgroup'
    cases hgroup'
    exact ⟨_, _, hpasses, hlast⟩
  | absent hgroup' _ =>
    rw [hgroup] at hgroup'
    cases hgroup'

theorem StandsFor.absent_of_group {text : List Char} {m : Match} {passes : List Pass} {index : Nat}
    {expansion : List Char} (h : StandsFor text m passes index expansion)
    (hgroup : m.group? index = none) : ∀ pass ∈ passes, pass.index ≠ index := by
  cases h with
  | captured hgroup' _ _ _ =>
    rw [hgroup] at hgroup'
    cases hgroup'
  | absent _ hnone => exact hnone

theorem standsFor_groupText {node : Node} {text : List Char} {m : Match} {passes : List Pass}
    {index : Nat} (hpasses : node.Passes text ⟨m.whole.start, []⟩ ⟨m.whole.stop, passes⟩)
    (hgroup : m.group? index = lastPass? index passes) :
    StandsFor text m passes index (Template.groupText text m index) := by
  unfold Template.groupText
  cases hlast : lastPass? index passes with
  | none =>
    rw [hlast] at hgroup
    rw [hgroup]
    exact .absent hgroup (Pattern.lastPass?_eq_none_iff.1 hlast)
  | some span =>
    rw [hlast] at hgroup
    rw [hgroup]
    obtain ⟨earlier, later, hsplit, hlater⟩ := Pattern.split_of_lastPass? hlast
    have hmem : ⟨index, span⟩ ∈ passes := by
      rw [hsplit]
      exact List.mem_append_right _ (.head _)
    exact .captured hgroup hsplit hlater (Node.Passes.of_mem hpasses hmem).2

/-! ## §3. The root prefix. -/

namespace Template

variable (context : Context) (pattern : Pattern) (text : List Char) (m : Match)

/-- The text that a token stands for at a match. -/
def expandToken : Token → List Char
  | .char c => [c]
  | .reference segment => expandSegment context pattern text m segment

/-- A template expands token by token. -/
theorem expand_of_joins {tokens : List Token} {template : Template}
    (h : Joins tokens template.segments) :
    template.expand context pattern text m
      = tokens.flatMap (expandToken context pattern text m) := by
  rw [← h.tokens_eq, List.flatMap_assoc, expand]
  congr 1
  funext segment
  cases segment with
  | literal literal =>
    show literal.toList = (literal.toList.map Token.char).flatMap _
    rw [List.flatMap_map]
    exact (List.flatMap_singleton' literal.toList).symm
  | group index => exact (List.append_nil _).symm
  | named name => exact (List.append_nil _).symm
  | rootPrefix => exact (List.append_nil _).symm

variable {context pattern text m}

/-- The placeholder of the root prefix after a template is the root prefix. -/
theorem expand_around_root {before after : String} {first whole : Template}
    (hfirst : parse before = .ok first)
    (hwhole : parse (before ++ "\x7broot\x7d" ++ after) = .ok whole) :
    ∃ second, parse after = .ok second ∧ ∀ context pattern text m,
      whole.expand context pattern text m = first.expand context pattern text m
        ++ context.rootPrefix.toList ++ second.expand context pattern text m := by
  obtain ⟨tokens, hspells, hjoins⟩ := parse_eq_ok_iff.1 hfirst
  obtain ⟨found, hfound, hjoins'⟩ := parse_eq_ok_iff.1 hwhole
  rw [String.toList_append, String.toList_append, List.append_assoc] at hfound
  -- the tokens before the placeholder, the placeholder, and the tokens after it
  obtain ⟨others, hothers, rfl⟩ := hspells.append_iff.1 hfound
  have hroot : Spells "\x7broot\x7d".toList [.reference .rootPrefix] :=
    ⟨["\x7broot\x7d".toList], by simp, .cons .root .nil⟩
  obtain ⟨rest, hrest, rfl⟩ := hroot.append_iff.1 hothers
  obtain ⟨second, hsecond⟩ := exists_parse_of_spells hrest
  obtain ⟨rest', hrest', hjoins''⟩ := parse_eq_ok_iff.1 hsecond
  obtain rfl : rest' = rest := by
    have htokens := tokens_eq_ok_iff.2 hrest
    rw [tokens_eq_ok_iff.2 hrest'] at htokens
    cases htokens
    rfl
  refine ⟨second, hsecond, fun context pattern text m => ?_⟩
  rw [expand_of_joins context pattern text m hjoins, expand_of_joins context pattern text m hjoins',
    expand_of_joins context pattern text m hjoins'', List.flatMap_append, List.flatMap_append,
    List.append_assoc]
  simp [expandToken, expandSegment]

end Template

/-! ## §4. Loaded rules. -/

/-- A loaded rule has passed the check of its references, and its groups are told apart. -/
theorem Registry.IsLoaded.serves_of_mem {registry : Registry} (h : registry.IsLoaded) {rule : Rule}
    (hrule : rule ∈ registry.rules) :
    rule.pattern.Serves rule.replacement ∧ rule.pattern.node.Distinct := by
  obtain ⟨index, definition, hload⟩ := h.load_of_mem hrule
  obtain ⟨pattern, hparse, -, hcheck, rfl⟩ := RuleDef.load_eq_ok_iff.1 hload
  exact ⟨Template.checkAgainst_eq_ok_iff.1 hcheck, Pattern.distinct_of_parse hparse⟩

/-- **No reference dangles.**  At every match of a loaded rule there are passes that the match goes
    through, and:

    • a reference by number is to a slot of the match, and stands for its group,
    • a reference by name is to the one group of that name, and stands for what its number does,
    • either stands for nothing exactly if the match did not go through the group, or took no
      character there the last time,
    • in a rules file, `{root}` after a template is the root prefix; the name is never that of a
      group, nor is it referred to as one. -/
theorem references_resolve {registry : Registry} (h : registry.IsLoaded) {rule : Rule}
    (hrule : rule ∈ registry.rules) (context : Context) (text : List Char) {m : Match}
    (hm : m ∈ rule.allMatches text) :
    (∃ passes, (Node.group 0 none rule.pattern.node).Passes text ⟨m.whole.start, []⟩
        ⟨m.whole.stop, passes⟩ ∧
      (∀ index, .group index ∈ rule.replacement.segments → index < m.groups.length ∧
        StandsFor text m passes index
          (Template.expandSegment context rule.pattern text m (.group index)) ∧
        (Template.expandSegment context rule.pattern text m (.group index) = [] ↔
          TookNothing passes index)) ∧
      ∀ name, .named name ∈ rule.replacement.segments → ∃ index, index < m.groups.length ∧
        (∀ other, (name, other) ∈ rule.pattern.node.groupNames ↔ other = index) ∧
        Template.expandSegment context rule.pattern text m (.named name)
          = Template.expandSegment context rule.pattern text m (.group index) ∧
        StandsFor text m passes index
          (Template.expandSegment context rule.pattern text m (.named name)) ∧
        (Template.expandSegment context rule.pattern text m (.named name) = [] ↔
          TookNothing passes index)) ∧
    "root" ∉ rule.pattern.groupNames ∧ .named "root" ∉ rule.replacement.segments ∧
    ∀ name specs (k : Nat) (spec : RuleSpec) before after first,
      Registry.ofSpecs name specs = .ok registry → specs[k]? = some spec →
      registry.rules[k]? = some rule → spec.replacement = before ++ "\x7broot\x7d" ++ after →
      Template.parse before = .ok first → ∃ second, Template.parse after = .ok second ∧
        rule.expansion context text m = first.expand context rule.pattern text m
          ++ context.rootPrefix.toList ++ second.expand context rule.pattern text m := by
  have hread := h.isRead_of_mem hrule
  obtain ⟨hserves, hdistinct⟩ := h.serves_of_mem hrule
  obtain ⟨hmatch, -, hstop, -⟩ := (Pattern.iterates_allMatches hread text).of_mem hread m hm
  obtain ⟨hlength, passes, hpasses, hgroups⟩ := Pattern.matchAt?_passes hread hdistinct hmatch
  have hslot : ∀ index, index ≤ rule.pattern.groupCount → index < m.groups.length ∧
      StandsFor text m passes index (Template.groupText text m index) ∧
      (Template.groupText text m index = [] ↔ TookNothing passes index) := by
    intro index hle
    have hstands := standsFor_groupText hpasses (hgroups index hle)
    exact ⟨by omega, hstands, hstands.eq_nil_iff hstop⟩
  refine ⟨⟨passes, hpasses, ?_, ?_⟩, hserves.root_not_mem, ?_, ?_⟩
  · intro index hmem
    exact hslot index (hserves.group_le index hmem)
  · intro name hmem
    obtain ⟨index, hindex, hle, hunique⟩ :=
      Pattern.exists_index_of_mem_groupNames hdistinct (hserves.name_mem name hmem)
    obtain ⟨hlt, hstands⟩ := hslot index hle
    have hexpand : Template.expandSegment context rule.pattern text m (.named name)
        = Template.groupText text m index := by
      simp only [Template.expandSegment, hindex]
    rw [hexpand]
    exact ⟨index, hlt, hunique, rfl, hstands⟩
  · exact fun hmem => hserves.root_not_mem (hserves.name_mem _ hmem)
  · intro name specs k spec before after first hspecs hspec hget hreplacement hfirst
    have hof := (Registry.isOf_of_ofSpecs hspecs).1
    obtain ⟨-, -, htemplate, -⟩ := hof.rule_eq k spec rule hspec hget
    rw [hreplacement] at htemplate
    obtain ⟨second, hsecond, hexpand⟩ := Template.expand_around_root hfirst htemplate
    exact ⟨second, hsecond, hexpand context rule.pattern text m⟩

/-- A repeated group with a named group in one of its alternatives, and a group that may be left
    out. -/
def lastRounds : RuleSpec :=
  { pattern := "((?P<last>a)|b)+(c)?",
    replacement := "\x7blast\x7d-\x7b1\x7d-\x7b3\x7d\x7broot\x7d",
    description := "last rounds" }

/-- In `bab` the first group stands for the third round and the named one for the second; the match
    does not go through the third group. -/
theorem references_resolve_lastRounds :
    ∃ registry rule m passes, Registry.ofSpecs "rounds" [lastRounds] = .ok registry ∧
      rule ∈ registry.rules ∧ m ∈ rule.allMatches ['b', 'a', 'b'] ∧
      (Node.group 0 none rule.pattern.node).Passes ['b', 'a', 'b'] ⟨0, []⟩ ⟨3, passes⟩ ∧
      (∃ earlier later, passes = earlier ++ ⟨1, ⟨2, 3⟩⟩ :: later ∧
        ∀ pass ∈ later, pass.index ≠ 1) ∧
      (∀ pass ∈ passes, pass.index ≠ 3) ∧
      rule.expansion ⟨"../"⟩ ['b', 'a', 'b'] m = "a-b-../".toList := by
  have heval : ((Registry.ofSpecs "rounds" [lastRounds]).toOption.any fun registry =>
      registry.rules.any fun rule => (rule.allMatches ['b', 'a', 'b']).any fun m =>
        decide (m.whole = ⟨0, 3⟩ ∧ m.group? 1 = some ⟨2, 3⟩ ∧ m.group? 3 = none ∧
          .group 1 ∈ rule.replacement.segments ∧ .group 3 ∈ rule.replacement.segments ∧
          rule.expansion ⟨"../"⟩ ['b', 'a', 'b'] m = "a-b-../".toList)) = true := by
    decide +kernel
  cases hload : Registry.ofSpecs "rounds" [lastRounds] with
  | error failure =>
    rw [hload] at heval
    cases heval
  | ok registry =>
    simp only [hload, Except.toOption, Option.any_some, List.any_eq_true,
      decide_eq_true_eq] at heval
    obtain ⟨rule, hrule, m, hm, hwhole, hfirst, hthird, hmem, hmem', hexpansion⟩ := heval
    obtain ⟨⟨passes, hpasses, hgroups, -⟩, -⟩ :=
      references_resolve ⟨"rounds", .inr ⟨[lastRounds], hload⟩⟩ hrule ⟨"../"⟩ ['b', 'a', 'b'] hm
    rw [hwhole] at hpasses
    refine ⟨registry, rule, m, passes, rfl, hrule, hm, hpasses, ?_, ?_, hexpansion⟩
    · exact (hgroups 1 hmem).2.1.last_of_group hfirst
    · exact (hgroups 3 hmem').2.1.absent_of_group hthird

/-- A group that can take no character. -/
def emptyPass : RuleSpec :=
  { pattern := "a(b*)c", replacement := "\x7b1\x7d", description := "empty pass" }

/-- In `ac` the reference to the first group stands for nothing, although the match goes through
    that group. -/
theorem references_resolve_emptyPass :
    ∃ registry rule m, Registry.ofSpecs "passes" [emptyPass] = .ok registry ∧
      rule ∈ registry.rules ∧ m ∈ rule.allMatches ['a', 'c'] ∧
      .group 1 ∈ rule.replacement.segments ∧ m.group? 1 = some ⟨1, 1⟩ ∧
      Template.expandSegment {} rule.pattern ['a', 'c'] m (.group 1) = [] := by
  have heval : ((Registry.ofSpecs "passes" [emptyPass]).toOption.any fun registry =>
      registry.rules.any fun rule => (rule.allMatches ['a', 'c']).any fun m =>
        decide (.group 1 ∈ rule.replacement.segments ∧ m.group? 1 = some ⟨1, 1⟩ ∧
          Template.expandSegment {} rule.pattern ['a', 'c'] m (.group 1) = [])) = true := by
    decide +kernel
  cases hload : Registry.ofSpecs "passes" [emptyPass] with
  | error failure =>
    rw [hload] at heval
    cases heval
  | ok registry =>
    simp only [hload, Except.toOption, Option.any_some, List.any_eq_true,
      decide_eq_true_eq] at heval
    obtain ⟨rule, hrule, m, hm, hmem, hgroup, hexpands⟩ := heval
    exact ⟨registry, rule, m, rfl, hrule, hm, hmem, hgroup, hexpands⟩

end Reroute
