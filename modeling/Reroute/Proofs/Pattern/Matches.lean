/-
  Reroute.Proofs.Pattern.Matches — which matches a pattern has in a text.

  `pattern.matchAt? text k` is the match that the pattern prefers among those that start at place
  `k`.  There is one exactly if the pattern spans some part of the text from `k` on, and then it is
  such a part (`matchAt?_isSome_iff`, `matchAt?_spans`).  A search from a place gives `matchAt?` of
  the first place where a match starts (`find?_cases`), and the matches in a text are as
  `Iterates` says: each is `matchAt?` of its start, none overlaps the one before it, and no place
  between them is passed over where a match starts, except one: the end of the match before, if the
  pattern prefers the empty match there (`iterates_allMatches`).
-/
import Reroute.Pattern.Basic
import Reroute.Proofs.Pattern.Leftmost
import Reroute.Proofs.Pattern.Numbering

namespace Reroute.Pattern

/-! ## §1. Patterns that are read. -/

/-- The program of the pattern is that of its structure, and its groups count from 1. -/
structure IsRead (pattern : Pattern) : Prop where
  program : pattern.program = pattern.node.program
  numbered : pattern.node.Numbered

theorem isRead_parse {source : String} {pattern : Pattern} (h : parse source = .ok pattern) :
    pattern.IsRead := by
  obtain ⟨node, hnode, hresult⟩ := bind_eq_ok_iff.1 h
  cases hresult
  exact ⟨rfl, numbered_parse hnode⟩

/-- A match of the pattern starts at the place. -/
def StartsAt (pattern : Pattern) (text : List Char) (k : Nat) : Prop :=
  ∃ j, pattern.node.Spans text k j

theorem IsRead.live_iff {pattern : Pattern} (h : pattern.IsRead) {text : List Char} {k : Nat} :
    Live pattern.program text k 0 ↔ pattern.StartsAt text k := by
  rw [h.program]
  constructor
  · intro hex
    obtain ⟨goal, j, hgoal, hreaches⟩ := hex
    obtain rfl := (program_accept_iff _ _).1 hgoal
    exact ⟨j, (reaches_accept_iff _ text k j).1 hreaches⟩
  · intro hex
    obtain ⟨j, hspans⟩ := hex
    exact ⟨_, j, (program_accept_iff _ _).2 rfl, (reaches_accept_iff _ text k j).2 hspans⟩

/-! ## §2. The match that starts at a place. -/

/-- The preferred match among those that start at the place. -/
def matchAt? (pattern : Pattern) (text : List Char) (k : Nat) : Option Match :=
  (follow pattern.program (text.drop k) k
    (frontAt pattern.program text pattern.blankSlots k [])).bind Match.ofSlots?

/-- The slots of a thread whose match started at the place. -/
def Started (start : Nat) (slots : Slots) : Prop :=
  ∃ stop rest, slots = some start :: stop :: rest

theorem started_blank (pattern : Pattern) (k : Nat) :
    Started k (Thread.fresh pattern.blankSlots k).slots :=
  ⟨none, List.replicate (2 * pattern.groupCount) none, rfl⟩

theorem Started.set {start slot : Nat} {slots : Slots} (h : Started start slots) (hslot : 2 ≤ slot)
    (place : Nat) : Started start (slots.set slot (some place)) := by
  obtain ⟨stop, rest, rfl⟩ := h
  obtain ⟨slot, rfl⟩ := Nat.exists_eq_add_of_le' hslot
  exact ⟨stop, rest.set slot (some place), rfl⟩

theorem Started.ofSlots? {start : Nat} {slots : Slots} (h : Started start slots) (stop : Nat) :
    ∃ m, Match.ofSlots? (slots.set 1 (some stop)) = some m ∧ m.whole = ⟨start, stop⟩ := by
  obtain ⟨_, rest, rfl⟩ := h
  exact ⟨_, rfl, rfl⟩

/-- The thread at place `i` has come from the start of the program at place `k`, and its slots say
    so. -/
def ComesFrom (pattern : Pattern) (text : List Char) (k i : Nat) (thread : Thread) : Prop :=
  Reaches places pattern.program text 0 k thread.address i ∧ Started k thread.slots

theorem ComesFrom.moves {pattern : Pattern} (h : pattern.IsRead) {text : List Char} {k : Nat}
    (i : Nat) (thread : Thread) (hthread : ComesFrom pattern text k i thread) (moved : Thread)
    (hmoved : moved ∈ thread.moves pattern.program i (before? text i) text[i]?) :
    ComesFrom pattern text k i moved := by
  refine ⟨hthread.1.trans (step_of_mem_moves hmoved).reaches, ?_⟩
  unfold Thread.moves at hmoved
  split at hmoved
  · next inst hinst =>
    obtain ⟨target, -, rfl⟩ := List.mem_map.1 hmoved
    cases inst with
    | save slot target =>
      -- groups count from 1, so a group's notes leave the first two slots alone
      rw [h.program] at hinst
      obtain ⟨index, hindex, hslot⟩ := program_save hinst
      have hpos := h.numbered index hindex
      exact hthread.2.set (by omega) i
    | _ => exact hthread.2
  · cases hmoved

theorem ComesFrom.take {pattern : Pattern} {text : List Char} {k : Nat} (i : Nat)
    (thread moved : Thread) (hthread : ComesFrom pattern text k i thread)
    (hslots : moved.slots = thread.slots)
    (hstep : Step places pattern.program text thread.address i moved.address (i + 1)) :
    ComesFrom pattern text k (i + 1) moved :=
  ⟨hthread.1.trans hstep.reaches, hslots ▸ hthread.2⟩

theorem comesFrom_frontAt {pattern : Pattern} (h : pattern.IsRead) {text : List Char} {k : Nat} :
    ∀ thread ∈ frontAt pattern.program text pattern.blankSlots k [],
      ComesFrom pattern text k k thread := by
  obtain ⟨_, hexpands⟩ := expands_expand pattern.program k (before? text k) text[k]?
    [Thread.fresh pattern.blankSlots k]
  refine fun thread hmem => (hexpands.forall_mem (ComesFrom.moves h k) ?_ thread hmem).1
  intro fresh hfresh
  obtain rfl := List.mem_singleton.1 hfresh
  exact ⟨.refl 0 k, started_blank pattern k⟩

/-- The winner of the threads that start at a place started there and ends where it says. -/
theorem follow_started {pattern : Pattern} (h : pattern.IsRead) {text : List Char} {k : Nat}
    {slots : Slots} (hslots : follow pattern.program (text.drop k) k
      (frontAt pattern.program text pattern.blankSlots k []) = some slots) :
    ∃ m, Match.ofSlots? slots = some m ∧ m.whole.start = k ∧
      pattern.node.Spans text k m.whole.stop := by
  obtain ⟨j, won, ⟨hreaches, hstarted⟩, haccepts, rfl⟩ :=
    follow_sound (ComesFrom.moves h) ComesFrom.take _ k _ slots rfl (comesFrom_frontAt h) hslots
  obtain ⟨m, hm, hwhole⟩ := hstarted.ofSlots? j
  refine ⟨m, hm, by rw [hwhole], ?_⟩
  rw [hwhole]
  -- it accepts, and the program accepts at one address only
  have hgoal : pattern.program[won.address]? = some .accept := by
    simpa [Thread.accepts] using haccepts
  rw [h.program] at hgoal hreaches
  rw [(program_accept_iff _ _).1 hgoal] at hreaches
  exact (reaches_accept_iff _ text k j).1 hreaches

section Places

variable {pattern : Pattern} {text : List Char} {k place : Nat} {m : Match}

/-- The match at a place starts there and is a part of the text that the pattern spans. -/
theorem matchAt?_spans (h : pattern.IsRead) (hm : pattern.matchAt? text k = some m) :
    m.whole.start = k ∧ pattern.node.Spans text k m.whole.stop := by
  obtain ⟨slots, hslots, hof⟩ := Option.bind_eq_some_iff.1 hm
  obtain ⟨m', hof', hstart, hspans⟩ := follow_started h hslots
  rw [hof] at hof'
  cases hof'
  exact ⟨hstart, hspans⟩

/-- A match is preferred at a place exactly if one starts there. -/
theorem matchAt?_isSome_iff (h : pattern.IsRead) :
    (pattern.matchAt? text k).isSome ↔ pattern.StartsAt text k := by
  constructor
  · intro hsome
    obtain ⟨m, hm⟩ := Option.isSome_iff_exists.1 hsome
    exact ⟨m.whole.stop, (matchAt?_spans h hm).2⟩
  · intro hstarts
    have hlive : ∃ thread ∈ frontAt pattern.program text pattern.blankSlots k [],
        Live pattern.program text k thread.address :=
      exists_live_expand ⟨Thread.fresh pattern.blankSlots k, .head _, h.live_iff.2 hstarts⟩
    have hsome := (follow_append (text.drop k) k
      (frontAt pattern.program text pattern.blankSlots k []) [] rfl
      (fun _ => stops_of_mem_frontAt) hlive).2
    obtain ⟨slots, hslots⟩ := Option.isSome_iff_exists.1 hsome
    obtain ⟨m, hm, -⟩ := follow_started h hslots
    rw [matchAt?, hslots]
    exact Option.isSome_iff_exists.2 ⟨m, hm⟩

/-! ## §3. Searching from a place. -/

/-- The place in the text with its surroundings. -/
def Cursor.ofPlace (text : List Char) (place : Nat) : Cursor :=
  { place, prev := before? text place, rest := text.drop place }

theorem advance_succ_ofPlace (hlt : place < text.length) (count : Nat) :
    (Cursor.ofPlace text place).advance (count + 1) =
      (Cursor.ofPlace text (place + 1)).advance count := by
  have hrest : (Cursor.ofPlace text place).rest = text[place] :: text.drop (place + 1) :=
    List.drop_eq_getElem_cons hlt
  have hprev : some text[place] = before? text (place + 1) :=
    (List.getElem?_eq_getElem hlt).symm
  rw [Cursor.advance, hrest]
  simp only [hprev]
  rfl

/-- Advancing goes on to the place so much further, and no further than to the end of the text. -/
theorem advance_ofPlace_min (count : Nat) : ∀ place, place ≤ text.length →
    (Cursor.ofPlace text place).advance count =
      .ofPlace text (min (place + count) text.length) := by
  induction count with
  | zero =>
    intro place hle
    rw [Nat.add_zero, Nat.min_eq_left hle]
    rfl
  | succ count ih =>
    intro place hle
    by_cases hlt : place < text.length
    · rw [advance_succ_ofPlace hlt, ih (place + 1) hlt, Nat.add_assoc, Nat.add_comm 1 count]
    · obtain rfl : place = text.length := by omega
      have hrest : (Cursor.ofPlace text text.length).rest = [] := List.drop_length
      rw [Cursor.advance, hrest, Nat.min_eq_right (Nat.le_add_right _ _)]

theorem advance_ofPlace (count place : Nat) (hle : place + count ≤ text.length) :
    (Cursor.ofPlace text place).advance count = .ofPlace text (place + count) := by
  rw [advance_ofPlace_min count place (by omega), Nat.min_eq_left hle]

/-- A property of places holds at a first place of a range or at none. -/
theorem exists_first_or_none (holds : Nat → Prop) (distance : Nat) : ∀ i,
    (∃ s, i ≤ s ∧ s ≤ i + distance ∧ holds s ∧ ∀ k, i ≤ k → k < s → ¬ holds k) ∨
      ∀ k, i ≤ k → k ≤ i + distance → ¬ holds k := by
  induction distance with
  | zero =>
    intro i
    by_cases hi : holds i
    · exact .inl ⟨i, Nat.le_refl i, Nat.le_refl i, hi, fun k hle hlt => by omega⟩
    · refine .inr fun k hle hle' => ?_
      obtain rfl : k = i := by omega
      exact hi
  | succ distance ih =>
    intro i
    by_cases hi : holds i
    · exact .inl ⟨i, Nat.le_refl i, by omega, hi, fun k hle hlt => by omega⟩
    · rcases ih (i + 1) with ⟨s, hle, hle', hs, hfirst⟩ | hnone
      · refine .inl ⟨s, by omega, by omega, hs, fun k hk hlt => ?_⟩
        by_cases heq : k = i
        · exact heq ▸ hi
        · exact hfirst k (by omega) hlt
      · refine .inr fun k hk hle => ?_
        by_cases heq : k = i
        · exact heq ▸ hi
        · exact hnone k (by omega) (by omega)

/-- A search from a place finds nothing, where no match starts from there on, or gives the match at
    the first place where one starts. -/
theorem find?_cases (h : pattern.IsRead) (hplace : place ≤ text.length) :
    (pattern.find? (.ofPlace text place) = none ∧
      ∀ k, place ≤ k → k ≤ text.length → ¬ pattern.StartsAt text k) ∨
    ∃ m, pattern.find? (.ofPlace text place) = some m ∧ place ≤ m.whole.start ∧
      m.whole.stop ≤ text.length ∧ pattern.matchAt? text m.whole.start = some m ∧
      ∀ k, place ≤ k → k < m.whole.start → ¬ pattern.StartsAt text k := by
  rcases exists_first_or_none (pattern.StartsAt text) (text.length - place) place with
    ⟨start, hle, hle', hstarts, hfirst⟩ | hnone
  · have hscan : scan pattern.program pattern.blankSlots (text.drop place) place
        (before? text place) [] = follow pattern.program (text.drop start) start
          (frontAt pattern.program text pattern.blankSlots start []) :=
      scan_first (by omega) (h.live_iff.2 hstarts) (start - place) place [] (by omega)
        (fun k hk hlt => fun hlive => hfirst k hk hlt (h.live_iff.1 hlive)) (by simp)
    have hfind : pattern.find? (.ofPlace text place) = pattern.matchAt? text start := by
      rw [find?, matchAt?, ← hscan]
      rfl
    obtain ⟨m, hm⟩ := Option.isSome_iff_exists.1 ((matchAt?_isSome_iff h).2 hstarts)
    obtain ⟨rfl, hspans⟩ := matchAt?_spans h hm
    exact .inr ⟨m, by rw [hfind, hm], hle, hspans.bounds.2 (by omega), hm, hfirst⟩
  · refine .inl ⟨?_, fun k hk hle => hnone k hk (by omega)⟩
    have hscan : scan pattern.program pattern.blankSlots (text.drop place) place
        (before? text place) [] = none :=
      scan_none (text.length - place) place [] (by omega)
        (fun k hk hle => fun hlive => hnone k hk (by omega) (h.live_iff.1 hlive)) (by simp)
    rw [find?]
    show (scan _ _ (text.drop place) place (before? text place) []).bind _ = none
    rw [hscan]
    rfl

/-! ## §4. All matches. -/

/-- The pattern prefers the empty match at the place. -/
def EmptyAt (pattern : Pattern) (text : List Char) (k : Nat) : Prop :=
  ∃ m, pattern.matchAt? text k = some m ∧ m.isEmpty = true

/-- The iteration passes the place over: no match starts there, or an empty one at the end of the
    match before. -/
def Skips (pattern : Pattern) (text : List Char) (last : Option Nat) (k : Nat) : Prop :=
  ¬ pattern.StartsAt text k ∨ (last = some k ∧ pattern.EmptyAt text k)

/-- The matches from a place on, where the match before ends at `last`. -/
inductive Iterates (pattern : Pattern) (text : List Char) :
    (place : Nat) → (last : Option Nat) → List Match → Prop where
  | done {place : Nat} {last : Option Nat}
      (hend : ∀ k, place ≤ k → k ≤ text.length → pattern.Skips text last k) :
      Iterates pattern text place last []
  | next {place : Nat} {last : Option Nat} {m : Match} {rest : List Match}
      (hstart : place ≤ m.whole.start) (hstop : m.whole.stop ≤ text.length)
      (hmatch : pattern.matchAt? text m.whole.start = some m)
      (hfresh : m.isEmpty = true → last ≠ some m.whole.stop)
      (hgap : ∀ k, place ≤ k → k < m.whole.start → pattern.Skips text last k)
      (hrest : Iterates pattern text m.whole.stop (some m.whole.stop) rest) :
      Iterates pattern text place last (m :: rest)

theorem isEmpty_iff : m.isEmpty = true ↔ m.whole.start = m.whole.stop :=
  beq_iff_eq

theorem start_le_stop (h : pattern.IsRead) (hm : pattern.matchAt? text k = some m) :
    m.whole.start ≤ m.whole.stop := by
  obtain ⟨rfl, hspans⟩ := matchAt?_spans h hm
  exact hspans.le

/-- What is found next is nothing, where all places are passed over, or the match at the first
    place that is not. -/
theorem findNext?_cases (h : pattern.IsRead) {last : Option Nat} (hplace : place ≤ text.length)
    (hlast : ∀ l, last = some l → l = place) :
    (pattern.findNext? (.ofPlace text place) last = none ∧
      ∀ k, place ≤ k → k ≤ text.length → pattern.Skips text last k) ∨
    ∃ m, pattern.findNext? (.ofPlace text place) last = some m ∧ place ≤ m.whole.start ∧
      m.whole.stop ≤ text.length ∧ pattern.matchAt? text m.whole.start = some m ∧
      (m.isEmpty = true → last ≠ some m.whole.stop) ∧
      ∀ k, place ≤ k → k < m.whole.start → pattern.Skips text last k := by
  unfold findNext?
  rcases find?_cases h hplace with ⟨hnone, hend⟩ | ⟨m, hfind, hstart, hstop, hm, hgap⟩
  · rw [hnone]
    exact .inl ⟨rfl, fun k hk hle => .inl (hend k hk hle)⟩
  · rw [hfind]
    simp only [Bool.and_eq_true, beq_iff_eq]
    by_cases hskip : m.isEmpty = true ∧ last = some m.whole.stop
    · rw [if_pos hskip]
      -- the match is the empty one at the place itself, so the search goes on after it
      have hhere : m.whole.start = place := (isEmpty_iff.1 hskip.1).trans (hlast _ hskip.2)
      have hskipped : pattern.Skips text last place := by
        refine .inr ⟨?_, m, hhere ▸ hm, hskip.1⟩
        rw [hskip.2, hlast _ hskip.2]
      have hpassed : ∀ k, place ≤ k → ¬ place + 1 ≤ k → pattern.Skips text last k := by
        intro k hk hlt
        obtain rfl : k = place := by omega
        exact hskipped
      by_cases hend : place = text.length
      · have hempty : (Cursor.ofPlace text place).rest.isEmpty = true := by
          simp [Cursor.ofPlace, hend]
        rw [if_pos hempty]
        exact .inl ⟨rfl, fun k hk hle => hpassed k hk (by omega)⟩
      · have hnonempty : ¬ (Cursor.ofPlace text place).rest.isEmpty = true := by
          simp only [Cursor.ofPlace, List.isEmpty_iff, List.drop_eq_nil_iff]
          omega
        rw [if_neg hnonempty, advance_ofPlace 1 place (by omega)]
        rcases find?_cases h (show place + 1 ≤ text.length by omega) with
          ⟨hnone, hend⟩ | ⟨m', hfind', hstart', hstop', hm', hgap'⟩
        · refine .inl ⟨hnone, fun k hk hle => ?_⟩
          by_cases hlater : place + 1 ≤ k
          · exact .inl (hend k hlater hle)
          · exact hpassed k hk hlater
        · have hle' := start_le_stop h hm'
          -- a match found after the skipped place ends beyond it, so it adjoins nothing
          refine .inr ⟨m', hfind', by omega, hstop', hm', fun _ heq => ?_, fun k hk hlt => ?_⟩
          · have hback := hlast _ heq
            omega
          · by_cases hlater : place + 1 ≤ k
            · exact .inl (hgap' k hlater hlt)
            · exact hpassed k hk hlater
    · rw [if_neg hskip]
      exact .inr ⟨m, rfl, hstart, hstop, hm, fun hempty heq => hskip ⟨hempty, heq⟩,
        fun k hk hlt => .inl (hgap k hk hlt)⟩

/-- The fuel is enough: every match but the first ends beyond the match before it. -/
theorem iterates_matchesFrom (h : pattern.IsRead) (fuel : Nat) : ∀ (place : Nat)
    (last : Option Nat), place ≤ text.length → (∀ l, last = some l → l = place) →
    (text.length + 2 ≤ fuel + place ∨ (last = some place ∧ text.length + 1 ≤ fuel + place)) →
    Iterates pattern text place last (pattern.matchesFrom fuel (.ofPlace text place) last) := by
  induction fuel with
  | zero =>
    intro place last hplace hlast hfuel
    omega
  | succ fuel ih =>
    intro place last hplace hlast hfuel
    rw [matchesFrom]
    rcases findNext?_cases h hplace hlast with
      ⟨hnone, hend⟩ | ⟨m, hfind, hstart, hstop, hm, hfresh, hgap⟩
    · rw [hnone]
      exact .done hend
    · rw [hfind]
      have hle := start_le_stop h hm
      have hadvance : (Cursor.ofPlace text place).advance (m.whole.stop - place) =
          .ofPlace text m.whole.stop := by
        rw [advance_ofPlace _ _ (by omega)]
        congr 1
        omega
      show Iterates pattern text place last (m :: pattern.matchesFrom fuel
        ((Cursor.ofPlace text place).advance (m.whole.stop - place)) (some m.whole.stop))
      rw [hadvance]
      refine .next hstart hstop hm hfresh hgap (ih _ _ hstop (by simp) (.inr ⟨rfl, ?_⟩))
      -- behind a match the next one is not the empty match at its end, so the place moves on
      rcases hfuel with hfuel | ⟨hlast', hfuel⟩
      · omega
      · have hbeyond : m.whole.stop ≠ place := by
          intro heq
          refine hfresh (isEmpty_iff.2 (by omega)) ?_
          rw [hlast', heq]
        omega

/-- **Main.**  The matches in a text are found from left to right, each the preferred one at its
    start, and only places where no match starts or an empty one adjoins are passed over. -/
theorem iterates_allMatches (h : pattern.IsRead) (text : List Char) :
    Iterates pattern text 0 none (pattern.allMatches text) := by
  have hstart : Cursor.start text = .ofPlace text 0 := rfl
  rw [allMatches, hstart]
  exact iterates_matchesFrom h _ 0 none (Nat.zero_le _) (by simp) (.inl (by omega))

end Places

end Reroute.Pattern
