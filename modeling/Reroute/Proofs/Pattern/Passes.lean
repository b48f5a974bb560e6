/-
  Reroute.Proofs.Pattern.Passes — what the groups of a match stand for.

  A match goes through some groups of its pattern, through a repeated group perhaps many times and
  through a group in another alternative not at all.  `node.Passes` follows the structure of the
  pattern as `Spans` does, and adds to a trail each pass through a group when the pass ends.

  The program notes the two ends of a pass at different times, with the passes through the groups
  within it in between.  No other group has the same number, so these leave its slots alone
  (`noteAll_set`), and in the end the slots are as if each pass had been noted at once, in the order
  of the trail (`tracks_carries`).  So each group of a match is the last pass of the match through
  it, and has no span only if there was no pass (`matchAt?_passes`).
-/
import Reroute.Proofs.Pattern.Matches

namespace Reroute.Pattern

/-! ## §1. Passes through groups. -/

/-- A pass of a match through a group. -/
structure Pass where
  index : Nat
  span : Span
deriving DecidableEq, Repr

/-- A place, with the passes on the way to it in the order in which they ended. -/
structure Trail where
  place : Nat
  passes : List Pass
deriving DecidableEq, Repr

/-- The pattern matches the part of the text between the places of the two trails, and the second
    trail has the passes of that match after those of the first. -/
def Node.Passes (text : List Char) : Node → (s t : Trail) → Prop
  | empty, s, t => s = t
  | set members, s, t =>
    ∃ c, text[s.place]? = some c ∧ members.mem c = true ∧ t = ⟨s.place + 1, s.passes⟩
  | look assertion, s, t => assertion.holds (before? text s.place) text[s.place]? = true ∧ s = t
  | group index _ body, s, t =>
    ∃ u, body.Passes text s u ∧ t = ⟨u.place, u.passes ++ [⟨index, ⟨s.place, u.place⟩⟩]⟩
  | cat first second, s, t => ∃ u, first.Passes text s u ∧ second.Passes text u t
  | alt first second, s, t => first.Passes text s t ∨ second.Passes text s t
  | rep body min max _, s, t =>
    ∃ n, min ≤ n ∧ (∀ bound, max = some bound → n ≤ min + (bound - min)) ∧
      Rounds (body.Passes text) n s t

/-- The second trail has passes after those of the first, all of them through the given groups and
    between the two places. -/
structure Trail.Extends (indices : List Nat) (s t : Trail) : Prop where
  le : s.place ≤ t.place
  passes : ∃ added, t.passes = s.passes ++ added ∧ ∀ pass ∈ added, pass.index ∈ indices ∧
    s.place ≤ pass.span.start ∧ pass.span.start ≤ pass.span.stop ∧ pass.span.stop ≤ t.place

namespace Trail.Extends

variable {indices indices' : List Nat} {s t u : Trail}

theorem refl (s : Trail) : s.Extends indices s :=
  ⟨Nat.le_refl _, [], by simp, by simp⟩

theorem mono (h : s.Extends indices t) (hsub : indices ⊆ indices') : s.Extends indices' t := by
  obtain ⟨hle, added, hadded, hpasses⟩ := h
  refine ⟨hle, added, hadded, fun pass hmem => ?_⟩
  obtain ⟨hindex, hbounds⟩ := hpasses pass hmem
  exact ⟨hsub hindex, hbounds⟩

theorem trans (h : s.Extends indices t) (h' : t.Extends indices u) : s.Extends indices u := by
  obtain ⟨hle, first, hfirst, hpasses⟩ := h
  obtain ⟨hle', second, hsecond, hpasses'⟩ := h'
  refine ⟨Nat.le_trans hle hle', first ++ second, ?_, fun pass hmem => ?_⟩
  · rw [hsecond, hfirst, List.append_assoc]
  · rcases List.mem_append.1 hmem with hmem | hmem
    · obtain ⟨hindex, hbounds⟩ := hpasses pass hmem
      exact ⟨hindex, by omega⟩
    · obtain ⟨hindex, hbounds⟩ := hpasses' pass hmem
      exact ⟨hindex, by omega⟩

/-- The pass of the whole way from `s` to `t` at the end. -/
theorem close (h : s.Extends indices t) {index : Nat} (hindex : index ∈ indices) :
    s.Extends indices ⟨t.place, t.passes ++ [⟨index, ⟨s.place, t.place⟩⟩]⟩ := by
  obtain ⟨hle, added, hadded, hpasses⟩ := h
  refine ⟨hle, added ++ [⟨index, ⟨s.place, t.place⟩⟩], ?_, fun pass hmem => ?_⟩
  · show t.passes ++ _ = _
    rw [hadded, List.append_assoc]
  · rcases List.mem_append.1 hmem with hmem | hmem
    · exact hpasses pass hmem
    · obtain rfl := List.mem_singleton.1 hmem
      exact ⟨hindex, Nat.le_refl _, hle, Nat.le_refl _⟩

theorem rounds {step : Trail → Trail → Prop} (hstep : ∀ s t, step s t → s.Extends indices t)
    {n : Nat} (h : Rounds step n s t) : s.Extends indices t := by
  induction n generalizing s with
  | zero =>
    obtain rfl : s = t := h
    exact refl s
  | succ n ih =>
    obtain ⟨u, hfirst, hrest⟩ := h
    exact (hstep s u hfirst).trans (ih hrest)

end Trail.Extends

/-- The passes of a match are through groups of the pattern, and within the match. -/
theorem Node.Passes.extends {text : List Char} {node : Node} {s t : Trail}
    (h : node.Passes text s t) : s.Extends node.groupIndices t := by
  induction node generalizing s t with
  | empty =>
    obtain rfl : s = t := h
    exact .refl s
  | set members =>
    obtain ⟨c, -, -, rfl⟩ := h
    exact ⟨Nat.le_succ _, [], by simp, by simp⟩
  | look assertion =>
    obtain ⟨-, rfl⟩ := h
    exact .refl s
  | group index name body ih =>
    obtain ⟨u, hbody, rfl⟩ := h
    have hinner := (ih hbody).mono (List.subset_cons_self index body.groupIndices)
    exact hinner.close (List.mem_cons_self ..)
  | cat first second ih ih' =>
    obtain ⟨u, hfirst, hsecond⟩ := h
    have hfirst' := (ih hfirst).mono (List.subset_append_left _ second.groupIndices)
    exact hfirst'.trans ((ih' hsecond).mono (List.subset_append_right _ _))
  | alt first second ih ih' =>
    rcases h with h | h
    · exact (ih h).mono (List.subset_append_left _ _)
    · exact (ih' h).mono (List.subset_append_right _ _)
  | rep body min max greedy ih =>
    obtain ⟨n, -, -, hrounds⟩ := h
    exact .rounds (fun s t hround => ih hround) hrounds

/-- The same for one of the passes that are added. -/
theorem Node.Passes.of_mem {text : List Char} {node : Node} {i j : Nat} {before added : List Pass}
    (h : node.Passes text ⟨i, before⟩ ⟨j, before ++ added⟩) {pass : Pass} (hmem : pass ∈ added) :
    pass.index ∈ node.groupIndices ∧
      i ≤ pass.span.start ∧ pass.span.start ≤ pass.span.stop ∧ pass.span.stop ≤ j := by
  obtain ⟨added', hadded, hpasses⟩ := h.extends.passes
  obtain rfl := List.append_cancel_left hadded
  exact hpasses pass hmem

/-! ## §2. Notes of passes. -/

/-- The slots with the two ends of a pass noted. -/
def notePass (slots : Slots) (pass : Pass) : Slots :=
  (slots.set (2 * pass.index) (some pass.span.start)).set (2 * pass.index + 1)
    (some pass.span.stop)

/-- The slots with all passes noted, one after the other. -/
def noteAll (slots : Slots) (passes : List Pass) : Slots :=
  passes.foldl notePass slots

theorem noteAll_append (slots : Slots) (passes others : List Pass) :
    noteAll slots (passes ++ others) = noteAll (noteAll slots passes) others :=
  List.foldl_append

/-- Passes through other groups leave the first slot of a group alone. -/
theorem noteAll_set {passes : List Pass} {index : Nat}
    (h : ∀ pass ∈ passes, pass.index ≠ index) (slots : Slots) (value : Option Nat) :
    noteAll (slots.set (2 * index) value) passes = (noteAll slots passes).set (2 * index) value := by
  induction passes generalizing slots with
  | nil => rfl
  | cons pass passes ih =>
    have hne := h pass (.head _)
    have hpass : notePass (slots.set (2 * index) value) pass =
        (notePass slots pass).set (2 * index) value := by
      unfold notePass
      rw [List.set_comm _ _ (show 2 * index ≠ 2 * pass.index by omega),
        List.set_comm _ _ (show 2 * index ≠ 2 * pass.index + 1 by omega)]
    show noteAll (notePass _ pass) passes = _
    rw [hpass]
    exact ih (fun other hmem => h other (.tail _ hmem)) _

/-- A place with the slots of the thread that came to it. -/
def noting : Carrier (Nat × Slots) where
  place := Prod.fst
  note slot s := (s.1, s.2.set slot (some s.1))
  advance s := (s.1 + 1, s.2)

/-- Where the one leads, the other does too, and the slots have the passes that are added. -/
def Tracks (leads : Nat × Slots → Nat × Slots → Prop) (passes : Trail → Trail → Prop) : Prop :=
  ∀ s t, leads s t → ∀ before, ∃ added, passes ⟨s.1, before⟩ ⟨t.1, before ++ added⟩ ∧
    t.2 = noteAll s.2 added

section Tracking

variable {leads leads' : Nat × Slots → Nat × Slots → Prop} {passes passes' : Trail → Trail → Prop}

theorem Tracks.seq (h : Tracks leads passes) (h' : Tracks leads' passes') :
    Tracks (fun s t => ∃ u, leads s u ∧ leads' u t) (fun s t => ∃ u, passes s u ∧ passes' u t) := by
  intro s t hex before
  obtain ⟨u, hsu, hut⟩ := hex
  obtain ⟨first, hfirst, hslots⟩ := h s u hsu before
  obtain ⟨second, hsecond, hslots'⟩ := h' u t hut (before ++ first)
  rw [List.append_assoc] at hsecond
  refine ⟨first ++ second, ⟨_, hfirst, hsecond⟩, ?_⟩
  rw [noteAll_append, ← hslots, hslots']

theorem Tracks.rounds (h : Tracks leads passes) (n : Nat) :
    Tracks (Rounds leads n) (Rounds passes n) := by
  induction n with
  | zero =>
    intro s t heq before
    obtain rfl : s = t := heq
    exact ⟨[], by rw [List.append_nil]; rfl, rfl⟩
  | succ n ih => exact h.seq ih

end Tracking

theorem once_append {first second : List Nat} (h : ∀ index, (first ++ second).count index ≤ 1) :
    (∀ index, first.count index ≤ 1) ∧ ∀ index, second.count index ≤ 1 := by
  simp only [List.count_append] at h
  exact ⟨fun index => Nat.le_trans (Nat.le_add_right _ _) (h index),
    fun index => Nat.le_trans (Nat.le_add_left _ _) (h index)⟩

/-- Whatever the pattern notes are its passes.  Its groups must have different numbers, for a group
    within a group of the same number would note its place over that of the outer one. -/
theorem tracks_carries (text : List Char) {node : Node}
    (h : ∀ index, node.groupIndices.count index ≤ 1) :
    Tracks (node.Carries noting text) (node.Passes text) := by
  induction node with
  | empty =>
    intro s t heq before
    obtain rfl : s = t := heq
    exact ⟨[], by rw [List.append_nil]; rfl, rfl⟩
  | set members =>
    intro s t hex before
    obtain ⟨c, hchar, hmem, rfl⟩ := hex
    exact ⟨[], ⟨c, hchar, hmem, by rw [List.append_nil]; rfl⟩, rfl⟩
  | look assertion =>
    intro s t hex before
    obtain ⟨hholds, rfl⟩ := hex
    exact ⟨[], ⟨hholds, by rw [List.append_nil]⟩, rfl⟩
  | group index name body ih =>
    intro s t hex before
    obtain ⟨u, hbody, rfl⟩ := hex
    have hcount : ∀ other,
        body.groupIndices.count other + (if index == other then 1 else 0) ≤ 1 := by
      intro other
      rw [← List.count_cons]
      exact h other
    obtain ⟨added, hpasses, hslots⟩ :=
      ih (fun other => Nat.le_trans (Nat.le_add_right _ _) (hcount other)) _ u hbody before
    -- the groups within the group have other numbers
    have hother : ∀ pass ∈ added, pass.index ≠ index := by
      intro pass hmem heq
      have hpos := List.count_pos_iff.2 (hpasses.of_mem hmem).1
      have hle := hcount pass.index
      simp only [heq, beq_self_eq_true, if_true] at hle hpos
      omega
    refine ⟨added ++ [⟨index, ⟨s.1, u.1⟩⟩], ⟨_, hpasses, ?_⟩, ?_⟩
    · rw [← List.append_assoc]
      rfl
    · have hnoted : u.2 = (noteAll s.2 added).set (2 * index) (some s.1) := by
        rw [hslots]
        exact noteAll_set hother _ _
      rw [noteAll_append]
      show u.2.set (2 * index + 1) (some u.1) = _
      rw [hnoted]
      rfl
  | cat first second ih ih' =>
    obtain ⟨hfirst, hsecond⟩ := once_append h
    exact (ih hfirst).seq (ih' hsecond)
  | alt first second ih ih' =>
    obtain ⟨hfirst, hsecond⟩ := once_append h
    intro s t hor before
    rcases hor with hst | hst
    · obtain ⟨added, hpasses, hslots⟩ := ih hfirst s t hst before
      exact ⟨added, .inl hpasses, hslots⟩
    · obtain ⟨added, hpasses, hslots⟩ := ih' hsecond s t hst before
      exact ⟨added, .inr hpasses, hslots⟩
  | rep body min max greedy ih =>
    intro s t hex before
    obtain ⟨n, hmin, hmax, hrounds⟩ := hex
    obtain ⟨added, hpasses, hslots⟩ := (ih h).rounds n s t hrounds before
    exact ⟨added, ⟨n, hmin, hmax, hpasses⟩, hslots⟩

/-! ## §3. Groups from slots. -/

/-- The span of the last pass through a group. -/
def lastPass? (index : Nat) : List Pass → Option Span
  | [] => none
  | pass :: rest =>
    (lastPass? index rest).or (if pass.index = index then some pass.span else none)

theorem lastPass?_eq_none_iff {index : Nat} {passes : List Pass} :
    lastPass? index passes = none ↔ ∀ pass ∈ passes, pass.index ≠ index := by
  induction passes with
  | nil => simp [lastPass?]
  | cons pass rest ih => simp [lastPass?, ih, and_comm]

theorem split_of_lastPass? {index : Nat} {passes : List Pass} {span : Span}
    (h : lastPass? index passes = some span) : ∃ earlier later,
      passes = earlier ++ ⟨index, span⟩ :: later ∧ ∀ pass ∈ later, pass.index ≠ index := by
  induction passes with
  | nil => cases h
  | cons pass rest ih =>
    rw [lastPass?, Option.or_eq_some_iff] at h
    rcases h with hrest | ⟨hnone, hpass⟩
    · obtain ⟨earlier, later, rfl, hlater⟩ := ih hrest
      exact ⟨pass :: earlier, later, rfl, hlater⟩
    · by_cases hindex : pass.index = index
      · rw [if_pos hindex] at hpass
        cases hpass
        subst hindex
        exact ⟨[], rest, rfl, lastPass?_eq_none_iff.1 hnone⟩
      · rw [if_neg hindex] at hpass
        cases hpass

theorem lastPass?_of_split {index : Nat} {span : Span} {later : List Pass}
    (h : ∀ pass ∈ later, pass.index ≠ index) (earlier : List Pass) :
    lastPass? index (earlier ++ ⟨index, span⟩ :: later) = some span := by
  induction earlier with
  | nil => simp [lastPass?, lastPass?_eq_none_iff.2 h]
  | cons pass rest ih =>
    show (lastPass? index (rest ++ _)).or _ = _
    rw [ih]
    rfl

theorem spansOf_notePass (slots : Slots) (pass : Pass) :
    spansOf (notePass slots pass) = (spansOf slots).set pass.index (some pass.span) := by
  obtain ⟨index, span⟩ := pass
  unfold notePass
  induction slots using spansOf.induct generalizing index with
  | case1 start stop rest ih =>
    cases index with
    | zero => rfl
    | succ index =>
      -- the pair in front is that of another group
      exact congrArg (List.cons _) (ih index)
  | case2 slots hshort =>
    -- fewer than two slots hold no group
    cases slots with
    | nil => rfl
    | cons slot slots =>
      cases slots with
      | cons other rest => exact absurd rfl (hshort slot other rest)
      | nil => cases index <;> rfl

theorem spansOf_noteAll (slots : Slots) (passes : List Pass) :
    spansOf (noteAll slots passes) =
      passes.foldl (fun spans pass => spans.set pass.index (some pass.span)) (spansOf slots) := by
  induction passes generalizing slots with
  | nil => rfl
  | cons pass passes ih =>
    show spansOf (noteAll (notePass slots pass) passes) = _
    rw [ih, spansOf_notePass]
    rfl

/-- Noting spans one after the other leaves the last one of each group. -/
theorem getElem?_foldl_set {index : Nat} (passes : List Pass) : ∀ {spans : List (Option Span)},
    index < spans.length →
    (passes.foldl (fun spans pass => spans.set pass.index (some pass.span)) spans)[index]?.join =
      (lastPass? index passes).or spans[index]?.join := by
  induction passes with
  | nil => intro spans _; rfl
  | cons pass passes ih =>
    intro spans hlt
    rw [List.foldl_cons, ih (by simpa using hlt), lastPass?, Option.or_assoc]
    congr 1
    rw [List.getElem?_set]
    by_cases heq : pass.index = index
    · simp [heq, hlt]
    · simp [heq]

theorem length_foldl_set (passes : List Pass) : ∀ spans : List (Option Span),
    (passes.foldl (fun spans pass => spans.set pass.index (some pass.span)) spans).length =
      spans.length := by
  induction passes with
  | nil => intro spans; rfl
  | cons pass passes ih =>
    intro spans
    rw [List.foldl_cons, ih, List.length_set]

theorem spansOf_blank (n : Nat) :
    spansOf (List.replicate (2 * n) none) = List.replicate n none := by
  induction n with
  | zero => rfl
  | succ n ih =>
    rw [Nat.mul_succ]
    show none :: spansOf (List.replicate (2 * n) none) = none :: List.replicate n none
    rw [ih]

/-! ## §4. The groups of a match. -/

theorem noting_after (s : Nat × Slots) (inst : Inst) :
    noting.after s inst = (s.1, inst.noted s.1 s.2) := by
  cases inst <;> rfl

section Threads

variable {pattern : Pattern} {text : List Char} {k : Nat}

/-- The thread at place `i` has come from the start of the program at place `k`, and its slots have
    been noted on the way. -/
def CameNoting (pattern : Pattern) (text : List Char) (k i : Nat) (thread : Thread) : Prop :=
  Reaches noting pattern.program text 0 (k, (Thread.fresh pattern.blankSlots k).slots)
    thread.address (i, thread.slots)

theorem CameNoting.moves (i : Nat) (thread : Thread) (h : CameNoting pattern text k i thread)
    (moved : Thread) (hmoved : moved ∈ thread.moves pattern.program i (before? text i) text[i]?) :
    CameNoting pattern text k i moved := by
  unfold Thread.moves at hmoved
  split at hmoved
  · next inst hinst =>
    obtain ⟨target, htarget, rfl⟩ := List.mem_map.1 hmoved
    exact h.trans (Step.move hinst htarget (noting_after _ inst).symm).reaches
  · cases hmoved

theorem CameNoting.take (i : Nat) (thread moved : Thread) (h : CameNoting pattern text k i thread)
    (hslots : moved.slots = thread.slots)
    (hstep : Step places pattern.program text thread.address i moved.address (i + 1)) :
    CameNoting pattern text k (i + 1) moved := by
  unfold CameNoting
  rw [hslots]
  generalize hnext : i + 1 = next at hstep
  cases hstep with
  | @move _ _ _ inst hinst hmove hafter =>
    -- a move stays at its place
    rw [places_after] at hafter
    omega
  | take hinst hchar hmem =>
    have htake : Step noting pattern.program text thread.address (i, thread.slots) moved.address
        (i + 1, thread.slots) :=
      .take hinst hchar hmem
    exact h.trans htake.reaches

theorem cameNoting_frontAt :
    ∀ thread ∈ frontAt pattern.program text pattern.blankSlots k [],
      CameNoting pattern text k k thread := by
  obtain ⟨_, hexpands⟩ := expands_expand pattern.program k (before? text k) text[k]?
    [Thread.fresh pattern.blankSlots k]
  refine fun thread hmem => (hexpands.forall_mem (CameNoting.moves k) ?_ thread hmem).1
  intro fresh hfresh
  obtain rfl := List.mem_singleton.1 hfresh
  exact .refl 0 _

/-- The winner of the threads that start at a place has the passes of a match in its slots, and the
    whole match beside them, as if it were a group with the number 0. -/
theorem follow_passes (hread : pattern.IsRead) (hdistinct : pattern.node.Distinct) {slots : Slots}
    (h : follow pattern.program (text.drop k) k
      (frontAt pattern.program text pattern.blankSlots k []) = some slots) :
    ∃ j passes, (Node.group 0 none pattern.node).Passes text ⟨k, []⟩ ⟨j, passes⟩ ∧
      lastPass? 0 passes = some ⟨k, j⟩ ∧ slots = noteAll pattern.blankSlots passes := by
  obtain ⟨j, won, hcame, haccepts, rfl⟩ :=
    follow_sound CameNoting.moves CameNoting.take _ k _ slots rfl cameNoting_frontAt h
  -- it accepts, so the pattern leads from its first slots to its last
  have hgoal : pattern.program[won.address]? = some .accept := by
    simpa [Thread.accepts] using haccepts
  unfold CameNoting at hcame
  rw [hread.program] at hgoal hcame
  rw [(program_accept_iff _ _).1 hgoal, reaches_accept_iff_carries] at hcame
  obtain ⟨added, hpasses, hnoted⟩ := tracks_carries text hdistinct.index_once _ _ hcame []
  refine ⟨j, added ++ [⟨0, ⟨k, j⟩⟩], ⟨_, hpasses, rfl⟩, lastPass?_of_split (by simp) added, ?_⟩
  -- groups count from 1, so the start of the match could as well be noted with its end
  have hother : ∀ pass ∈ added, pass.index ≠ 0 := by
    intro pass hmem
    exact Nat.ne_of_gt (hread.numbered _ (hpasses.of_mem hmem).1)
  have hstart : won.slots = (noteAll pattern.blankSlots added).set (2 * 0) (some k) := by
    rw [← noteAll_set hother]
    exact hnoted
  rw [hstart, noteAll_append]
  rfl

theorem groups_ofSlots? {slots : Slots} {m : Match} (h : Match.ofSlots? slots = some m) :
    m.groups = spansOf slots ∧ m.group? 0 = some m.whole := by
  unfold Match.ofSlots? at h
  split at h
  · next whole groups hspans =>
    cases h
    exact ⟨hspans.symm, rfl⟩
  · cases h

/-- **Main.**  The match goes through the pattern in some way, and each of its groups is the last
    pass through it on that way, the group of the whole match among them. -/
theorem matchAt?_passes (hread : pattern.IsRead) (hdistinct : pattern.node.Distinct) {m : Match}
    (h : pattern.matchAt? text k = some m) :
    m.groups.length = pattern.groupCount + 1 ∧
      ∃ passes, (Node.group 0 none pattern.node).Passes text ⟨m.whole.start, []⟩
          ⟨m.whole.stop, passes⟩ ∧
        ∀ index, index ≤ pattern.groupCount → m.group? index = lastPass? index passes := by
  obtain ⟨slots, hslots, hof⟩ := Option.bind_eq_some_iff.1 h
  obtain ⟨j, passes, hpasses, hwhole, rfl⟩ := follow_passes hread hdistinct hslots
  obtain ⟨hgroups, hzero⟩ := groups_ofSlots? hof
  rw [spansOf_noteAll, blankSlots, spansOf_blank] at hgroups
  have hlast : ∀ index, index ≤ pattern.groupCount → m.group? index = lastPass? index passes := by
    intro index hle
    have hlt : index < pattern.groupCount + 1 := by omega
    rw [Match.group?, hgroups, getElem?_foldl_set passes (by simpa using hlt)]
    simp [hlt]
  -- the last pass through the group 0 is the whole match
  have hspan : m.whole = ⟨k, j⟩ := by
    have heq := hlast 0 (Nat.zero_le _)
    rw [hzero, hwhole] at heq
    exact Option.some.inj heq
  rw [hspan]
  refine ⟨?_, passes, hpasses, hlast⟩
  rw [hgroups, length_foldl_set, List.length_replicate]

end Threads

end Reroute.Pattern
