/-
  Reroute.Proofs.Pattern.Leftmost — the search finds the match that starts first.

  A thread is *live* if the program can still accept from its address and place.  A front has a
  winner exactly if it has a live thread, and only the live threads decide who wins: a thread that
  was dropped for another one at its address is live with it or dead with it (`follow_filter`), and
  what stands behind a live thread never wins (`follow_append`).  So the search gives the preferred
  match at the first place where a match starts at all (`scan_eq_follow`, `scan_of_dead`).
-/
import Reroute.Proofs.Pattern.Closure

namespace Reroute.Pattern

section Search

variable {program : Program} {text : List Char}

/-! ## §1. Live threads. -/

/-- The program can still accept from the address and the place. -/
def Live (program : Program) (text : List Char) (i address : Nat) : Prop :=
  ∃ goal j, program[goal]? = some .accept ∧ Reaches places program text address i goal j

open Classical in
/-- Can the program still accept from the address and the place? -/
noncomputable def isLive (program : Program) (text : List Char) (i address : Nat) : Bool :=
  decide (Live program text i address)

theorem isLive_iff {i address : Nat} :
    isLive program text i address = true ↔ Live program text i address := by
  simp [isLive]

theorem isLive_eq_false_iff {i address : Nat} :
    isLive program text i address = false ↔ ¬ Live program text i address := by
  simp [isLive]

theorem live_of_step {i j address target : Nat}
    (hstep : Step places program text address i target j) (hlive : Live program text j target) :
    Live program text i address := by
  obtain ⟨goal, k, hgoal, hreach⟩ := hlive
  exact ⟨goal, k, hgoal, hstep.reaches.trans hreach⟩

theorem live_of_accepts {i : Nat} {thread : Thread} (h : thread.accepts program = true) :
    Live program text i thread.address :=
  ⟨thread.address, i, by simpa [Thread.accepts] using h, .refl _ _⟩

/-- A move of a thread is a step of the program. -/
theorem step_of_mem_moves {i : Nat} {thread moved : Thread}
    (hmem : moved ∈ thread.moves program i (before? text i) text[i]?) :
    Step places program text thread.address i moved.address i := by
  unfold Thread.moves at hmem
  cases hinst : program[thread.address]? with
  | none => simp [hinst] at hmem
  | some inst =>
    simp only [hinst, List.mem_map] at hmem
    obtain ⟨target, htarget, rfl⟩ := hmem
    exact .move hinst htarget (places_after i inst).symm

theorem mem_moves_of_inst {prev next : Option Char} {inst : Inst} {target : Nat} (i : Nat)
    (thread : Thread) (hinst : program[thread.address]? = some inst)
    (htarget : target ∈ inst.moves prev next) :
    ∃ moved ∈ thread.moves program i prev next, moved.address = target := by
  refine ⟨{ address := target, slots := inst.noted i thread.slots }, ?_, rfl⟩
  simp only [Thread.moves, hinst, List.mem_map]
  exact ⟨target, htarget, rfl⟩

/-- Dead threads move to dead ones only. -/
theorem dead_moves (i : Nat) (thread : Thread)
    (hdead : isLive program text i thread.address = false) (moved : Thread)
    (hmem : moved ∈ thread.moves program i (before? text i) text[i]?) :
    isLive program text i moved.address = false := by
  rw [isLive_eq_false_iff] at hdead ⊢
  exact fun hlive => hdead (live_of_step (step_of_mem_moves hmem) hlive)

/-- A live thread that stops accepts or can take the next character. -/
theorem live_stops {i : Nat} {thread : Thread} (hstops : thread.stops program = true)
    (hlive : Live program text i thread.address) :
    thread.accepts program = true ∨ ∃ members target c,
      program[thread.address]? = some (.consume members target) ∧ text[i]? = some c ∧
      members.mem c = true ∧ Live program text (i + 1) target := by
  obtain ⟨goal, j, hgoal, n, hrun⟩ := hlive
  -- the first step of the run to acceptance says which of the two it is
  cases hrun with
  | stay => exact .inl (by simp [Thread.accepts, hgoal])
  | step hstep hrest =>
    cases hstep with
    | @move _ _ _ inst hinst hmove _ =>
      rw [Thread.stops, hinst] at hstops
      cases inst with
      | accept => simp [Carrier.moves, Inst.moves] at hmove
      | consume members target => simp [Carrier.moves, Inst.moves] at hmove
      | jump | split | save | check => simp at hstops
    | take hinst hchar hmem =>
      exact .inr ⟨_, _, _, hinst, hchar, hmem, goal, j, hgoal, _, hrest⟩

/-- The expansion of a stack with a live thread has one. -/
theorem exists_live_expand {i : Nat} {stack : List Thread}
    (h : ∃ thread ∈ stack, Live program text i thread.address) :
    ∃ thread ∈ expand program i (before? text i) text[i]? stack,
      Live program text i thread.address := by
  obtain ⟨visited, hexpands⟩ := expands_expand program i (before? text i) text[i]? stack
  obtain ⟨-, hstack, hnew⟩ := hexpands.covers
  -- every visited live address leads to a live thread; the induction is on the run to acceptance
  have hvisited : ∀ n address goal j, address ∈ visited → program[goal]? = some .accept →
      Run places program text n address i goal j →
      ∃ thread ∈ expand program i (before? text i) text[i]? stack,
        Live program text i thread.address := by
    intro n
    induction n with
    | zero =>
      intro address goal j hmem hgoal hrun
      rcases hnew address hmem with hnone | ⟨thread, rfl, ⟨-, hout⟩ | ⟨hstops, -⟩⟩
      · cases hnone
      · exact ⟨thread, hout, goal, j, hgoal, 0, hrun⟩
      · -- an accepting thread stops, so it was put out
        cases hrun
        simp [Thread.stops, hgoal] at hstops
    | succ n ih =>
      intro address goal j hmem hgoal hrun
      rcases hnew address hmem with hnone | ⟨thread, rfl, ⟨-, hout⟩ | ⟨hstops, hmoves⟩⟩
      · cases hnone
      · exact ⟨thread, hout, goal, j, hgoal, n + 1, hrun⟩
      · cases hrun with
        | step hstep hrest =>
          cases hstep with
          | @move _ _ _ inst hinst hmove hafter =>
            -- the run goes on at an address that the thread moves to, and that is visited too
            rw [hafter, places_after] at hrest
            refine ih _ goal j ?_ hgoal hrest
            obtain ⟨moved, hmoved, rfl⟩ := mem_moves_of_inst i thread hinst hmove
            exact hmoves moved hmoved
          | take hinst => simp [Thread.stops, hinst] at hstops
  obtain ⟨thread, hmem, goal, j, hgoal, n, hrun⟩ := h
  exact hvisited n thread.address goal j (hstack thread hmem) hgoal hrun

/-! ## §2. Cutting and taking. -/

theorem cutAtAccept_append (front extra : List Thread) :
    cutAtAccept program (front ++ extra) =
      match (cutAtAccept program front).2 with
      | some won => ((cutAtAccept program front).1, some won)
      | none => (front ++ (cutAtAccept program extra).1, (cutAtAccept program extra).2) := by
  induction front with
  | nil => rfl
  | cons thread front ih =>
    rw [List.cons_append, cutAtAccept, cutAtAccept]
    cases haccepts : thread.accepts program with
    | true => rfl
    | false =>
      simp only [Bool.false_eq_true, ↓reduceIte]
      rw [ih]
      cases (cutAtAccept program front).2 <;> rfl

/-- If no thread accepts, nothing is cut off; otherwise an accepting thread of the front wins. -/
theorem cutAtAccept_spec (front : List Thread) :
    ((cutAtAccept program front).2 = none → (cutAtAccept program front).1 = front ∧
      ∀ thread ∈ front, thread.accepts program = false) ∧
    (∀ won, (cutAtAccept program front).2 = some won →
      won ∈ front ∧ won.accepts program = true) ∧
    (cutAtAccept program front).1 ⊆ front := by
  induction front with
  | nil => simp [cutAtAccept]
  | cons thread front ih =>
    obtain ⟨hnone, hsome, hsub⟩ := ih
    rw [cutAtAccept]
    cases haccepts : thread.accepts program with
    | true =>
      refine ⟨by simp, ?_, by simp⟩
      intro won heq
      cases heq
      exact ⟨.head _, haccepts⟩
    | false =>
      simp only [Bool.false_eq_true, ↓reduceIte]
      refine ⟨fun h => ?_, fun won h => ?_, ?_⟩
      · obtain ⟨hahead, hothers⟩ := hnone h
        refine ⟨by rw [hahead], ?_⟩
        intro other hmem
        rcases List.mem_cons.1 hmem with rfl | hmem
        · exact haccepts
        · exact hothers other hmem
      · exact ⟨.tail _ (hsome won h).1, (hsome won h).2⟩
      · exact List.cons_subset_cons thread hsub

/-- Dead threads do not change who is cut off, for accepting threads are live. -/
theorem cutAtAccept_filter (i : Nat) (front : List Thread) :
    cutAtAccept program (front.filter (isLive program text i ·.address)) =
      ((cutAtAccept program front).1.filter (isLive program text i ·.address),
        (cutAtAccept program front).2) := by
  induction front with
  | nil => rfl
  | cons thread front ih =>
    rw [cutAtAccept]
    cases haccepts : thread.accepts program with
    | true =>
      have hlive : isLive program text i thread.address = true :=
        isLive_iff.2 (live_of_accepts haccepts)
      simp only [List.filter_cons, hlive, ↓reduceIte, cutAtAccept, haccepts, List.filter_nil]
    | false =>
      simp only [Bool.false_eq_true, ↓reduceIte]
      cases hlive : isLive program text i thread.address with
      | true =>
        simp only [List.filter_cons, hlive, ↓reduceIte, cutAtAccept, haccepts,
          Bool.false_eq_true, ih]
      | false =>
        simp only [List.filter_cons, hlive, ↓reduceIte, Bool.false_eq_true, ih]

theorem takeChar_append (c : Char) (front extra : List Thread) :
    takeChar program c (front ++ extra) = takeChar program c front ++ takeChar program c extra :=
  List.filterMap_append

theorem mem_takeChar {c : Char} {front : List Thread} {moved : Thread} :
    moved ∈ takeChar program c front ↔ ∃ thread ∈ front, ∃ members,
      program[thread.address]? = some (.consume members moved.address) ∧
      members.mem c = true ∧ moved.slots = thread.slots := by
  unfold takeChar
  rw [List.mem_filterMap]
  constructor
  · intro hex
    obtain ⟨thread, hmem, htaken⟩ := hex
    refine ⟨thread, hmem, ?_⟩
    split at htaken
    · next members target hinst =>
      split at htaken
      · next hchar =>
        cases htaken
        exact ⟨members, hinst, hchar, rfl⟩
      · cases htaken
    · cases htaken
  · intro hex
    obtain ⟨thread, hmem, members, hinst, hchar, hslots⟩ := hex
    refine ⟨thread, hmem, ?_⟩
    rw [hinst]
    simp only [hchar, ↓reduceIte, ← hslots]

/-- A thread that takes the character takes a step of the program. -/
theorem step_of_mem_takeChar {i : Nat} {c : Char} {front : List Thread} {moved : Thread}
    (hchar : text[i]? = some c) (hmem : moved ∈ takeChar program c front) :
    ∃ thread ∈ front, moved.slots = thread.slots ∧
      Step places program text thread.address i moved.address (i + 1) := by
  obtain ⟨thread, hthread, members, hinst, hmem, hslots⟩ := mem_takeChar.1 hmem
  exact ⟨thread, hthread, hslots, .take hinst hchar hmem⟩

/-- Threads that are live after the character were so before. -/
theorem takeChar_filter {i : Nat} {c : Char} (hchar : text[i]? = some c) (front : List Thread) :
    (takeChar program c (front.filter (isLive program text i ·.address))).filter
        (isLive program text (i + 1) ·.address) =
      (takeChar program c front).filter (isLive program text (i + 1) ·.address) := by
  induction front with
  | nil => rfl
  | cons thread front ih =>
    have hcons : ∀ rest, takeChar program c (thread :: rest) =
        takeChar program c [thread] ++ takeChar program c rest :=
      fun rest => takeChar_append c [thread] rest
    cases hlive : isLive program text i thread.address with
    | true =>
      simp only [List.filter_cons, hlive, ↓reduceIte]
      rw [hcons (List.filter _ front), hcons front, List.filter_append, List.filter_append, ih]
    | false =>
      -- a dead thread that takes the character is dead behind it
      have hnone : (takeChar program c [thread]).filter (isLive program text (i + 1) ·.address) =
          [] := by
        refine List.filter_eq_nil_iff.2 fun moved hmem hmoved => ?_
        obtain ⟨other, hother, -, hstep⟩ := step_of_mem_takeChar hchar hmem
        obtain rfl := List.mem_singleton.1 hother
        exact isLive_eq_false_iff.1 hlive (live_of_step hstep (isLive_iff.1 hmoved))
      simp only [List.filter_cons, hlive, Bool.false_eq_true, ↓reduceIte]
      rw [hcons, List.filter_append, hnone, List.nil_append, ih]

/-! ## §3. Running a front. -/

theorem expand_nil (i : Nat) (prev next : Option Char) : expand program i prev next [] = [] := by
  simp [expand, expandWith]

/-- The slots of the accepting thread that cuts the front off, if there is one. -/
def wonNow (program : Program) (place : Nat) (front : List Thread) : Option Slots :=
  (cutAtAccept program front).2.map (·.slots.set 1 (some place))

theorem follow_nil (place : Nat) (front : List Thread) :
    follow program [] place front = wonNow program place front := by
  rw [follow]
  rfl

theorem follow_no_threads (rest : List Char) (place : Nat) : follow program rest place [] = none := by
  cases rest with
  | nil => rw [follow_nil]; rfl
  | cons c rest => rw [follow]; rfl

theorem follow_cons (c : Char) (rest : List Char) (place : Nat) (front : List Thread) :
    follow program (c :: rest) place front =
      (follow program rest (place + 1) (expand program (place + 1) (some c) rest.head?
        (takeChar program c (cutAtAccept program front).1)) <|> wonNow program place front) := by
  rw [follow, wonNow]
  obtain ⟨ahead, won⟩ := cutAtAccept program front
  simp only
  -- `follow` stops early when no thread is left, which is what a run of no threads comes to
  cases takeChar program c ahead with
  | nil =>
    rw [expand_nil, follow_no_threads]
    rfl
  | cons thread taken => rfl

/-- The text from a place on, one character further. -/
theorem drop_cons {c : Char} {rest : List Char} {i : Nat} (h : c :: rest = text.drop i) :
    text[i]? = some c ∧ rest = text.drop (i + 1) ∧ some c = before? text (i + 1) ∧
      rest.head? = text[i + 1]? := by
  have hget : text[i]? = some c := by
    rw [← List.head?_drop, ← h]
    rfl
  have hrest : rest = text.drop (i + 1) := by
    rw [← List.tail_drop, ← h]
    rfl
  refine ⟨hget, hrest, hget.symm, ?_⟩
  rw [hrest, List.head?_drop]

/-- Only the live threads of a front decide who wins. -/
theorem follow_filter (rest : List Char) : ∀ (i : Nat) (front : List Thread),
    rest = text.drop i →
    follow program rest i (front.filter (isLive program text i ·.address)) =
      follow program rest i front := by
  induction rest with
  | nil =>
    intro i front _
    rw [follow_nil, follow_nil, wonNow, wonNow, cutAtAccept_filter]
  | cons c rest ih =>
    intro i front hrest
    obtain ⟨hchar, hrest', hprev, hnext⟩ := drop_cons hrest
    rw [follow_cons, follow_cons, wonNow, wonNow, cutAtAccept_filter, hprev, hnext]
    -- the next fronts have the same live threads
    have hnext : ((expand program (i + 1) (before? text (i + 1)) text[i + 1]? (takeChar program c
          ((cutAtAccept program front).1.filter (isLive program text i ·.address)))).filter
            (isLive program text (i + 1) ·.address)) =
        ((expand program (i + 1) (before? text (i + 1)) text[i + 1]?
          (takeChar program c (cutAtAccept program front).1)).filter
            (isLive program text (i + 1) ·.address)) :=
      expand_filter program (i + 1) _ _ (dead_moves (i + 1)) (takeChar_filter hchar _)
    rw [← ih (i + 1) (expand _ _ _ _ _) hrest', hnext, ih (i + 1) _ hrest']

/-- Fronts with the same live threads have the same winner. -/
theorem follow_congr {i : Nat} {front front' : List Thread}
    (h : front.filter (isLive program text i ·.address) =
      front'.filter (isLive program text i ·.address)) :
    follow program (text.drop i) i front = follow program (text.drop i) i front' := by
  rw [← follow_filter _ i front rfl, h, follow_filter _ i front' rfl]

/-- A live thread that does not accept leads to a live thread of the next front. -/
theorem exists_live_next {i : Nat} {c : Char} {front : List Thread} (hchar : text[i]? = some c)
    (hstops : ∀ thread ∈ front, thread.stops program = true)
    (haccepts : ∀ thread ∈ front, thread.accepts program = false)
    (hlive : ∃ thread ∈ front, Live program text i thread.address) :
    ∃ thread ∈ takeChar program c front, Live program text (i + 1) thread.address := by
  obtain ⟨thread, hmem, hlive⟩ := hlive
  rcases live_stops (hstops thread hmem) hlive with haccept | ⟨members, target, d, hinst, hd, hin, hnext⟩
  · rw [haccepts thread hmem] at haccept
    cases haccept
  · rw [hchar] at hd
    cases hd
    exact ⟨⟨target, thread.slots⟩, mem_takeChar.2 ⟨thread, hmem, members, hinst, hin, rfl⟩, hnext⟩

/-- A live thread that does not accept needs a character. -/
theorem ne_nil_of_live {i : Nat} {front : List Thread}
    (hstops : ∀ thread ∈ front, thread.stops program = true)
    (haccepts : ∀ thread ∈ front, thread.accepts program = false)
    (hlive : ∃ thread ∈ front, Live program text i thread.address) : text.drop i ≠ [] := by
  obtain ⟨thread, hmem, hlive⟩ := hlive
  rcases live_stops (hstops thread hmem) hlive with haccept | ⟨members, target, d, hinst, hd, hin, hnext⟩
  · rw [haccepts thread hmem] at haccept
    cases haccept
  · intro hnil
    rw [← List.head?_drop, hnil] at hd
    cases hd

/-- What stands behind a live thread never wins, and a live thread does. -/
theorem follow_append (rest : List Char) : ∀ (i : Nat) (front extra : List Thread),
    rest = text.drop i → (∀ thread ∈ front, thread.stops program = true) →
    (∃ thread ∈ front, Live program text i thread.address) →
    follow program rest i (front ++ extra) = follow program rest i front ∧
      (follow program rest i front).isSome := by
  induction rest with
  | nil =>
    intro i front extra hrest hstops hlive
    rw [follow_nil, follow_nil, wonNow, wonNow, cutAtAccept_append]
    cases hwon : (cutAtAccept program front).2 with
    | some won => exact ⟨rfl, rfl⟩
    | none =>
      obtain ⟨-, haccepts⟩ := (cutAtAccept_spec front).1 hwon
      exact absurd hrest.symm (ne_nil_of_live hstops haccepts hlive)
  | cons c rest ih =>
    intro i front extra hrest hstops hlive
    obtain ⟨hchar, hrest', hprev, hnext⟩ := drop_cons hrest
    rw [follow_cons, follow_cons, wonNow, wonNow, cutAtAccept_append]
    cases hwon : (cutAtAccept program front).2 with
    -- an accepting thread of `front` cuts off all of `extra`
    | some won => exact ⟨rfl, by simp⟩
    | none =>
      obtain ⟨hahead, haccepts⟩ := (cutAtAccept_spec front).1 hwon
      rw [hahead, takeChar_append, hprev, hnext]
      obtain ⟨second, hsecond⟩ := expand_append program (i + 1) (before? text (i + 1)) text[i + 1]?
        (takeChar program c front) (takeChar program c (cutAtAccept program extra).1)
      rw [hsecond]
      -- nobody accepts, so the live thread takes the character and its successor is live
      have hlive' := exists_live_expand (exists_live_next hchar hstops haccepts hlive)
      obtain ⟨heq, hsome⟩ := ih (i + 1) _ second hrest'
        (fun thread => stops_of_mem_expand program _ _ _) hlive'
      rw [heq]
      -- a later winner comes before a present one
      obtain ⟨slots, hslots⟩ := Option.isSome_iff_exists.1 hsome
      rw [hslots]
      exact ⟨rfl, rfl⟩

/-- What holds of a front and is kept by moves and by taking characters holds of the thread that
    wins, where it accepts. -/
theorem follow_sound {holds : Nat → Thread → Prop}
    (hmoves : ∀ i thread, holds i thread →
      ∀ moved ∈ thread.moves program i (before? text i) text[i]?, holds i moved)
    (htake : ∀ i thread moved, holds i thread → moved.slots = thread.slots →
      Step places program text thread.address i moved.address (i + 1) → holds (i + 1) moved)
    (rest : List Char) : ∀ (i : Nat) (front : List Thread) (slots : Slots),
    rest = text.drop i → (∀ thread ∈ front, holds i thread) →
    follow program rest i front = some slots →
    ∃ j won, holds j won ∧ won.accepts program = true ∧ slots = won.slots.set 1 (some j) := by
  -- a winner of the present front
  have hnow : ∀ (i : Nat) (front : List Thread) (slots : Slots),
      (∀ thread ∈ front, holds i thread) → wonNow program i front = some slots →
      ∃ j won, holds j won ∧ won.accepts program = true ∧ slots = won.slots.set 1 (some j) := by
    intro i front slots hfront hslots
    obtain ⟨won, hwon, rfl⟩ := Option.map_eq_some_iff.1 hslots
    obtain ⟨hmem, haccepts⟩ := (cutAtAccept_spec front).2.1 won hwon
    exact ⟨i, won, hfront won hmem, haccepts, rfl⟩
  induction rest with
  | nil =>
    intro i front slots _ hfront hslots
    rw [follow_nil] at hslots
    exact hnow i front slots hfront hslots
  | cons c rest ih =>
    intro i front slots hrest hfront hslots
    obtain ⟨hchar, hrest', hprev, hnext⟩ := drop_cons hrest
    rw [follow_cons, hprev, hnext, Option.orElse_eq_orElse, Option.orElse_eq_or,
      Option.or_eq_some_iff] at hslots
    rcases hslots with hlater | ⟨-, hwon⟩
    · refine ih (i + 1) _ slots hrest' ?_ hlater
      obtain ⟨_, hexpands⟩ := expands_expand program (i + 1) (before? text (i + 1)) text[i + 1]?
        (takeChar program c (cutAtAccept program front).1)
      refine fun thread hmem => (hexpands.forall_mem (hmoves (i + 1)) ?_ thread hmem).1
      intro moved hmoved
      obtain ⟨thread, hthread, hslots, hstep⟩ := step_of_mem_takeChar hchar hmoved
      exact htake i thread moved (hfront thread ((cutAtAccept_spec front).2.2 hthread)) hslots hstep
    · exact hnow i front slots hfront hwon

/-! ## §4. Scanning a text. -/

variable {blank : Slots}

/-- The threads that stop at a place, given those that came to it and a fresh one. -/
def frontAt (program : Program) (text : List Char) (blank : Slots) (i : Nat)
    (taken : List Thread) : List Thread :=
  expand program i (before? text i) text[i]? (taken ++ [Thread.fresh blank i])

theorem stops_of_mem_frontAt {i : Nat} {taken : List Thread} {thread : Thread}
    (hmem : thread ∈ frontAt program text blank i taken) : thread.stops program = true :=
  stops_of_mem_expand program _ _ _ hmem

theorem scan_drop (i : Nat) (taken : List Thread) :
    scan program blank (text.drop i) i (before? text i) taken =
      match (cutAtAccept program (frontAt program text blank i taken)).2 with
      | some _ => follow program (text.drop i) i (frontAt program text blank i taken)
      | none =>
        match text.drop i with
        | [] => none
        | c :: rest => scan program blank rest (i + 1) (some c)
            (takeChar program c (frontAt program text blank i taken)) := by
  have hfront : frontAt program text blank i taken = expand program i (before? text i)
      (text.drop i).head? (taken ++ [Thread.fresh blank i]) := by
    unfold frontAt
    rw [List.head?_drop]
  rw [hfront]
  exact scan.eq_def program blank (text.drop i) i (before? text i) taken

/-- If a match starts at the place, or a thread that came to it is live, scanning is running. -/
theorem scan_eq_follow (rest : List Char) : ∀ (i : Nat) (taken : List Thread),
    rest = text.drop i →
    (∃ thread ∈ taken ++ [Thread.fresh blank i], Live program text i thread.address) →
    scan program blank rest i (before? text i) taken =
      follow program rest i (frontAt program text blank i taken) := by
  induction rest with
  | nil =>
    intro i taken hrest hlive
    rw [hrest, scan_drop]
    cases hwon : (cutAtAccept program (frontAt program text blank i taken)).2 with
    | some won => rfl
    | none =>
      obtain ⟨-, haccepts⟩ := (cutAtAccept_spec _).1 hwon
      exact absurd hrest.symm (ne_nil_of_live (fun _ => stops_of_mem_frontAt) haccepts
        (exists_live_expand hlive))
  | cons c rest ih =>
    intro i taken hrest hlive
    obtain ⟨hchar, hrest', hprev, hnext⟩ := drop_cons hrest
    rw [hrest, scan_drop, ← hrest]
    cases hwon : (cutAtAccept program (frontAt program text blank i taken)).2 with
    | some won => rfl
    | none =>
      show scan program blank rest (i + 1) (some c) _ = _
      obtain ⟨hahead, haccepts⟩ := (cutAtAccept_spec _).1 hwon
      have hnow : wonNow program i (frontAt program text blank i taken) = none := by
        rw [wonNow, hwon]
        rfl
      have hfront : ∃ thread ∈ frontAt program text blank i taken,
          Live program text i thread.address := exists_live_expand hlive
      -- the live thread goes on to the next place, before the fresh thread there
      obtain ⟨moved, hmoved, hmovedLive⟩ := exists_live_next hchar
        (fun _ => stops_of_mem_frontAt) haccepts hfront
      rw [hprev, ih (i + 1) _ hrest' ⟨moved, List.mem_append_left _ hmoved, hmovedLive⟩,
        follow_cons, hahead, hnow, Option.orElse_eq_orElse, Option.orElse_eq_or, Option.or_none, hprev,
        hnext, frontAt]
      obtain ⟨second, hsecond⟩ := expand_append program (i + 1) (before? text (i + 1)) text[i + 1]?
        (takeChar program c (frontAt program text blank i taken)) [Thread.fresh blank (i + 1)]
      rw [hsecond]
      -- so the fresh thread, which scanning adds and running does not, never wins
      exact (follow_append rest (i + 1) _ second hrest'
        (fun thread => stops_of_mem_expand program _ _ _)
        (exists_live_expand ⟨moved, hmoved, hmovedLive⟩)).1

/-- If nothing is live at the place, scanning goes on at the next one with dead threads. -/
theorem scan_of_dead {i : Nat} {taken : List Thread}
    (hdead : ∀ thread ∈ taken ++ [Thread.fresh blank i], ¬ Live program text i thread.address) :
    ∃ taken', (∀ thread ∈ taken', ¬ Live program text (i + 1) thread.address) ∧
      scan program blank (text.drop i) i (before? text i) taken =
        if i < text.length then
          scan program blank (text.drop (i + 1)) (i + 1) (before? text (i + 1)) taken'
        else none := by
  have hnone : (frontAt program text blank i taken).filter (isLive program text i ·.address) =
      [] := by
    have hstack : (taken ++ [Thread.fresh blank i]).filter (isLive program text i ·.address) =
        ([] : List Thread).filter (isLive program text i ·.address) :=
      List.filter_eq_nil_iff.2 fun thread hmem => by simpa [isLive_iff] using hdead thread hmem
    rw [frontAt, expand_filter program i _ _ (dead_moves i) hstack, expand_nil]
    rfl
  have hfront : ∀ thread ∈ frontAt program text blank i taken,
      ¬ Live program text i thread.address := by
    intro thread hmem hlive
    exact List.filter_eq_nil_iff.1 hnone thread hmem (isLive_iff.2 hlive)
  have hcut : (cutAtAccept program (frontAt program text blank i taken)).2 = none := by
    cases hwon : (cutAtAccept program (frontAt program text blank i taken)).2 with
    | none => rfl
    | some won =>
      obtain ⟨hmem, haccepts⟩ := (cutAtAccept_spec _).2.1 won hwon
      exact absurd (live_of_accepts haccepts) (hfront won hmem)
  rw [scan_drop, hcut]
  by_cases hlt : i < text.length
  · have hchar : text[i]? = some text[i] := List.getElem?_eq_getElem hlt
    have hprev : before? text (i + 1) = some text[i] := hchar
    rw [List.drop_eq_getElem_cons hlt, hprev]
    refine ⟨_, ?_, (if_pos hlt).symm⟩
    intro moved hmoved hlive
    obtain ⟨thread, hmem, -, hstep⟩ := step_of_mem_takeChar hchar hmoved
    exact hfront thread hmem (live_of_step hstep hlive)
  · rw [List.drop_eq_nil_of_le (by omega)]
    exact ⟨[], by simp, (if_neg hlt).symm⟩

theorem dead_with_fresh {i : Nat} {taken : List Thread}
    (htaken : ∀ thread ∈ taken, ¬ Live program text i thread.address)
    (hfresh : ¬ Live program text i 0) :
    ∀ thread ∈ taken ++ [Thread.fresh blank i], ¬ Live program text i thread.address := by
  intro thread hmem
  rcases List.mem_append.1 hmem with hmem | hmem
  · exact htaken thread hmem
  · obtain rfl := List.mem_singleton.1 hmem
    exact hfresh

/-- **Main.**  Scanning gives the winner among the threads of a match that starts at the first
    place where one starts at all. -/
theorem scan_first {start : Nat} (hstart : start ≤ text.length)
    (hlive : Live program text start 0) : ∀ (distance i : Nat) (taken : List Thread),
    i + distance = start → (∀ k, i ≤ k → k < start → ¬ Live program text k 0) →
    (∀ thread ∈ taken, ¬ Live program text i thread.address) →
    scan program blank (text.drop i) i (before? text i) taken =
      follow program (text.drop start) start (frontAt program text blank start []) := by
  intro distance
  induction distance with
  | zero =>
    intro i taken hdistance _ htaken
    obtain rfl : i = start := hdistance
    rw [scan_eq_follow _ i taken rfl ⟨_, List.mem_append_right _ (.head _), hlive⟩]
    -- the threads that came to the first place are dead, so only the fresh one counts
    refine follow_congr (expand_filter program i _ _ (dead_moves i) ?_)
    have hnone : taken.filter (isLive program text i ·.address) = [] :=
      List.filter_eq_nil_iff.2 fun thread hmem => by simpa [isLive_iff] using htaken thread hmem
    rw [List.filter_append, hnone, List.nil_append, List.nil_append]
  | succ distance ih =>
    intro i taken hdistance hbefore htaken
    obtain ⟨taken', htaken', hscan⟩ :=
      scan_of_dead (dead_with_fresh htaken (hbefore i (Nat.le_refl i) (by omega)))
    rw [hscan, if_pos (by omega)]
    exact ih (i + 1) taken' (by omega) (fun k hle hlt => hbefore k (by omega) hlt) htaken'

/-- Where no match starts, scanning finds none. -/
theorem scan_none : ∀ (distance i : Nat) (taken : List Thread), i + distance = text.length →
    (∀ k, i ≤ k → k ≤ text.length → ¬ Live program text k 0) →
    (∀ thread ∈ taken, ¬ Live program text i thread.address) →
    scan program blank (text.drop i) i (before? text i) taken = none := by
  intro distance
  induction distance with
  | zero =>
    intro i taken hdistance hnone htaken
    obtain ⟨_, -, hscan⟩ :=
      scan_of_dead (dead_with_fresh htaken (hnone i (Nat.le_refl i) (by omega)))
    rw [hscan, if_neg (by omega)]
  | succ distance ih =>
    intro i taken hdistance hnone htaken
    obtain ⟨taken', htaken', hscan⟩ :=
      scan_of_dead (dead_with_fresh htaken (hnone i (Nat.le_refl i) (by omega)))
    rw [hscan, if_pos (by omega)]
    exact ih (i + 1) taken' (by omega) (fun k hle hlt => hnone k (by omega) hlt) htaken'

end Search

end Reroute.Pattern
