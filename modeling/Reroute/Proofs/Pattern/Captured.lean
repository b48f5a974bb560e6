/-
  Reroute.Proofs.Pattern.Captured — what a greedy group between two fixed texts captures.

  The winner of a front is the winner of the first of its threads that has one
  (`follow_append_eq_or`).  So the winner can be computed thread by thread: a row of sets is walked
  through (`winner_row`), and a greedy loop prefers one more round to leaving, as long as that leads
  to acceptance (`winner_loop`).

  For a pattern of two rows of sets with a captured run of characters between them this says which
  match is preferred at a place: the one whose run is longest, with the place of the run in the
  slots of the group (`matchAt?_captured`).
-/
import Reroute.Proofs.Pattern.Matches
import Reroute.Proofs.Pattern.Words

namespace Reroute.Pattern

section Winners

variable {program : Program} {text : List Char}

/-! ## §1. Winners of single threads. -/

/-- Of two fronts, the first one wins if it has a winner. -/
theorem follow_append_eq_or {i : Nat} {front extra : List Thread}
    (hstops : ∀ thread ∈ front, thread.stops program = true) :
    follow program (text.drop i) i (front ++ extra) =
      (follow program (text.drop i) i front).or (follow program (text.drop i) i extra) := by
  by_cases hlive : ∃ thread ∈ front, Live program text i thread.address
  · obtain ⟨heq, hsome⟩ := follow_append (text.drop i) i front extra rfl hstops hlive
    obtain ⟨slots, hslots⟩ := Option.isSome_iff_exists.1 hsome
    rw [heq, hslots]
    rfl
  · -- without a live thread the first front has no winner, and makes no difference
    have hnone : front.filter (isLive program text i ·.address) = [] :=
      List.filter_eq_nil_iff.2 fun thread hmem hthread =>
        hlive ⟨thread, hmem, isLive_iff.1 hthread⟩
    have hdead : follow program (text.drop i) i front = none := by
      have hsame : front.filter (isLive program text i ·.address) =
          ([] : List Thread).filter (isLive program text i ·.address) := hnone
      rw [follow_congr hsame, follow_no_threads]
    rw [hdead, Option.none_or]
    exact follow_congr (by rw [List.filter_append, hnone, List.nil_append])

/-- The slots of the winner among the threads that a thread leads to. -/
def winner (program : Program) (text : List Char) (i : Nat) (thread : Thread) : Option Slots :=
  follow program (text.drop i) i (expand program i (before? text i) text[i]? [thread])

theorem expand_eq_of_expands {i : Nat} {prev next : Option Char} {stack out : List Thread}
    {visited : List Nat}
    (h : Expands (Thread.stops program) (Thread.moves program i prev next) [] stack out visited) :
    expand program i prev next stack = out := by
  obtain ⟨_, hexpands⟩ := expands_expand program i prev next stack
  exact (hexpands.unique h).1

theorem winner_of_stops {i : Nat} {thread : Thread} (h : thread.stops program = true) :
    winner program text i thread = follow program (text.drop i) i [thread] := by
  rw [winner, expand_eq_of_expands (.stop List.not_mem_nil h .done)]

section Instructions

variable {i address target : Nat} {members : CharSet} {slots : Slots}

theorem winner_accept (hinst : program[address]? = some .accept) :
    winner program text i ⟨address, slots⟩ = some (slots.set 1 (some i)) := by
  have haccepts : (Thread.mk address slots).accepts program = true := by
    simp [Thread.accepts, hinst]
  rw [winner_of_stops (by simp [Thread.stops, hinst])]
  have hnow : wonNow program i [⟨address, slots⟩] = some (slots.set 1 (some i)) := by
    simp [wonNow, cutAtAccept, haccepts]
  cases text.drop i with
  | nil => rw [follow_nil, hnow]
  | cons c rest =>
    -- an accepting thread leaves no thread that could win later
    have hahead : (cutAtAccept program [⟨address, slots⟩]).1 = [] := by
      simp [cutAtAccept, haccepts]
    rw [follow_cons, hnow, hahead]
    show (follow program rest (i + 1) (expand program (i + 1) (some c) rest.head? []) <|> _) = _
    rw [expand_nil, follow_no_threads]
    rfl

theorem follow_consume (hinst : program[address]? = some (.consume members target)) {c : Char}
    (hchar : text[i]? = some c) :
    follow program (text.drop i) i [⟨address, slots⟩] =
      if members.mem c then winner program text (i + 1) ⟨target, slots⟩ else none := by
  have haccepts : (Thread.mk address slots).accepts program = false := by
    simp [Thread.accepts, hinst]
  have hlt := (List.getElem?_eq_some_iff.1 hchar).1
  have hdrop : c :: text.drop (i + 1) = text.drop i := by
    rw [List.drop_eq_getElem_cons hlt]
    congr 1
    exact (Option.some.inj ((List.getElem?_eq_getElem hlt).symm.trans hchar)).symm
  obtain ⟨-, -, hprev, hnext⟩ := drop_cons hdrop
  have hnow : wonNow program i [⟨address, slots⟩] = none := by
    simp [wonNow, cutAtAccept, haccepts]
  have htaken : takeChar program c (cutAtAccept program [⟨address, slots⟩]).1 =
      if members.mem c then [⟨target, slots⟩] else [] := by
    simp only [cutAtAccept, haccepts, Bool.false_eq_true, if_false, takeChar, hinst,
      List.filterMap_cons, List.filterMap_nil]
    split <;> simp_all
  rw [← hdrop, follow_cons, hnow, htaken, hprev, hnext, Option.orElse_eq_orElse,
    Option.orElse_eq_or, Option.or_none]
  split
  · rfl
  · rw [expand_nil, follow_no_threads]

theorem follow_consume_end (hinst : program[address]? = some (.consume members target))
    (hend : text[i]? = none) : follow program (text.drop i) i [⟨address, slots⟩] = none := by
  have haccepts : (Thread.mk address slots).accepts program = false := by
    simp [Thread.accepts, hinst]
  rw [List.drop_eq_nil_of_le (List.getElem?_eq_none_iff.1 hend), follow_nil]
  simp [wonNow, cutAtAccept, haccepts]

theorem stops_consume (hinst : program[address]? = some (.consume members target)) :
    (Thread.mk address slots).stops program = true := by
  simp [Thread.stops, hinst]

/-- A thread at an instruction that consumes nothing gives its place to those it moves to. -/
theorem expands_moves {inst : Inst} {prev next : Option Char} {visited visited' : List Nat}
    {stack out : List Thread} (hinst : program[address]? = some inst)
    (hmoves : (Thread.mk address slots).stops program = false) (hfresh : address ∉ visited)
    (hrest : Expands (Thread.stops program) (Thread.moves program i prev next) (address :: visited)
      ((inst.moves prev next).map (⟨·, inst.noted i slots⟩) ++ stack) out visited') :
    Expands (Thread.stops program) (Thread.moves program i prev next) visited
      (⟨address, slots⟩ :: stack) out visited' := by
  refine .go hfresh hmoves ?_
  simp only [Thread.moves, hinst]
  exact hrest

end Instructions

/-! ## §2. Rows of sets. -/

/-- The program has an instruction for each set from the address on. -/
def RowAt (program : Program) (address : Nat) (sets : List CharSet) : Prop :=
  ∀ k members, sets[k]? = some members →
    program[address + k]? = some (.consume members (address + k + 1))

theorem RowAt.head {address : Nat} {members : CharSet} {sets : List CharSet}
    (h : RowAt program address (members :: sets)) :
    program[address]? = some (.consume members (address + 1)) :=
  h 0 members rfl

theorem RowAt.tail {address : Nat} {members : CharSet} {sets : List CharSet}
    (h : RowAt program address (members :: sets)) : RowAt program (address + 1) sets := by
  intro k other hk
  have hnext := h (k + 1) other hk
  rwa [Nat.add_comm k 1, ← Nat.add_assoc] at hnext

theorem Spells.length_eq {sets : List CharSet} {word : List Char} (h : Spells sets word) :
    word.length = sets.length := by
  induction sets generalizing word with
  | nil =>
    obtain rfl : word = [] := h
    rfl
  | cons members sets ih =>
    obtain ⟨c, rest, rfl, -, hrest⟩ := h
    rw [List.length_cons, List.length_cons, ih hrest]

/-- A row leads to its end if the text spells a word of it, and to no winner otherwise. -/
theorem winner_row (text : List Char) (slots : Slots) (sets : List CharSet) :
    ∀ {address : Nat} (i : Nat), RowAt program address sets →
    (∀ word, Spells sets word → word <+: text.drop i →
      winner program text i ⟨address, slots⟩ =
        winner program text (i + sets.length) ⟨address + sets.length, slots⟩) ∧
    ((∀ word, Spells sets word → ¬ word <+: text.drop i) →
      winner program text i ⟨address, slots⟩ = none) := by
  induction sets with
  | nil =>
    intro address i _
    exact ⟨fun _ _ _ => rfl, fun hnone => absurd List.nil_prefix (hnone [] rfl)⟩
  | cons members sets ih =>
    intro address i hrow
    rw [winner_of_stops (stops_consume hrow.head)]
    obtain ⟨hword, hnone⟩ := ih (i + 1) hrow.tail
    constructor
    · intro word hspells hstands
      obtain ⟨c, rest, rfl, hmem, hspells⟩ := hspells
      obtain ⟨hchar, hstands⟩ := cons_prefix_drop.1 hstands
      rw [follow_consume hrow.head hchar, if_pos hmem, hword rest hspells hstands]
      rw [List.length_cons, Nat.add_assoc i, Nat.add_comm 1, Nat.add_assoc address,
        Nat.add_comm 1]
    · intro hall
      cases hchar : text[i]? with
      | none => exact follow_consume_end hrow.head hchar
      | some c =>
        rw [follow_consume hrow.head hchar]
        split
        · next hmem =>
          refine hnone fun rest hspells hstands => ?_
          exact hall (c :: rest) ⟨c, rest, rfl, hmem, hspells⟩ (cons_prefix_drop.2 ⟨hchar, hstands⟩)
        · rfl

/-! ## §3. A captured run. -/

/-- A greedy run of characters of a set as group 1. -/
def capturedRun (members : CharSet) : Node :=
  .group 1 none (.rep (.set members) 0 none true)

/-- From the place on stand a run of characters of the set and a word of the closing row. -/
def IsRun (members : CharSet) (closing : List CharSet) (text : List Char) (i : Nat)
    (run last : List Char) : Prop :=
  (∀ c ∈ run, members.mem c = true) ∧ Spells closing last ∧ run ++ last <+: text.drop i

/-- The slots note where the longest such run ends, and the word after it; there are none if no
    such run stands at the place. -/
def NotesLongest (members : CharSet) (closing : List CharSet) (text : List Char) (i : Nat)
    (slots : Slots) : Option Slots → Prop
  | none => ∀ run last, ¬ IsRun members closing text i run last
  | some won => ∃ run last, IsRun members closing text i run last ∧
      won = (slots.set 3 (some (i + run.length))).set 1 (some (i + (run ++ last).length)) ∧
      ∀ run' last', IsRun members closing text i run' last' → run'.length ≤ run.length

section Runs

variable {members : CharSet} {closing : List CharSet} {i : Nat} {run last : List Char}

theorem isRun_nil : IsRun members closing text i [] last ↔
    Spells closing last ∧ last <+: text.drop i := by
  simp [IsRun]

theorem isRun_cons {c : Char} : IsRun members closing text i (c :: run) last ↔
    text[i]? = some c ∧ members.mem c = true ∧ IsRun members closing text (i + 1) run last := by
  simp only [IsRun, List.cons_append, cons_prefix_drop, List.forall_mem_cons]
  constructor
  · intro h
    exact ⟨h.2.2.1, h.1.1, h.1.2, h.2.1, h.2.2.2⟩
  · intro h
    exact ⟨⟨h.2.1, h.2.2.1⟩, h.2.2.2.1, h.1, h.2.2.2.2⟩

/-- A round more: the run is one character longer. -/
theorem NotesLongest.round {slots won : Slots} {c : Char} (hchar : text[i]? = some c)
    (hmem : members.mem c = true)
    (h : NotesLongest members closing text (i + 1) slots (some won)) :
    NotesLongest members closing text i slots (some won) := by
  obtain ⟨run, last, hrun, rfl, hlongest⟩ := h
  refine ⟨c :: run, last, isRun_cons.2 ⟨hchar, hmem, hrun⟩, ?_, fun run' last' hrun' => ?_⟩
  · rw [List.cons_append, List.length_cons, List.length_cons, Nat.add_assoc, Nat.add_comm 1,
      Nat.add_assoc i 1, Nat.add_comm 1]
  · cases run' with
    | nil => exact Nat.zero_le _
    | cons d run' => exact Nat.succ_le_succ (hlongest run' last' (isRun_cons.1 hrun').2.2)

/-- Who leaves the loop wins exactly if the closing row stands at the place. -/
theorem notesLongest_leave {address : Nat} (slots : Slots) (hrow : RowAt program address closing)
    (haccept : program[address + closing.length]? = some .accept)
    (hround : ∀ c run last, ¬ IsRun members closing text i (c :: run) last) :
    NotesLongest members closing text i slots
      (winner program text i ⟨address, slots.set 3 (some i)⟩) := by
  obtain ⟨hword, hnone⟩ := winner_row text (slots.set 3 (some i)) closing i hrow
  by_cases hex : ∃ last, Spells closing last ∧ last <+: text.drop i
  · obtain ⟨last, hspells, hstands⟩ := hex
    rw [hword last hspells hstands, winner_accept haccept, ← hspells.length_eq]
    refine ⟨[], last, isRun_nil.2 ⟨hspells, hstands⟩, rfl, fun run' last' hrun' => ?_⟩
    cases run' with
    | nil => exact Nat.le_refl 0
    | cons c run' => exact absurd hrun' (hround c run' last')
  · rw [hnone fun last hspells hstands => hex ⟨last, hspells, hstands⟩]
    intro run last hrun
    cases run with
    | nil => exact hex ⟨last, isRun_nil.1 hrun⟩
    | cons c run => exact hround c run last hrun

end Runs

section Loop

variable {base : Nat} {members : CharSet} {slots : Slots}
  (hcode : CodeAt program base ((capturedRun members).code base (base + 5)))
  (hexit : ∀ slots, (Thread.mk (base + 5) slots).stops program = true)

include hcode hexit

/-- A round is preferred to leaving the loop, and who leaves notes the end of the run. -/
theorem expands_branch (slots : Slots) (i : Nat) (prev next : Option Char) {visited : List Nat}
    (hvisited : ∀ address ∈ visited, address = base ∨ address = base + 1 ∨ address = base + 3) :
    ∃ visited', Expands (Thread.stops program) (Thread.moves program i prev next) visited
      [⟨base + 2, slots⟩, ⟨base + 4, slots⟩]
      [⟨base + 2, slots⟩, ⟨base + 5, slots.set 3 (some i)⟩] visited' := by
  have hbody : program[base + 2]? = some (.consume members (base + 3)) := hcode 2 _ rfl
  have hclose : program[base + 4]? = some (.save 3 (base + 5)) := hcode 4 _ rfl
  have hfresh : ∀ address, base + 3 < address ∨ address = base + 2 → address ∉ visited := by
    intro address haddress hmem
    have hold := hvisited address hmem
    omega
  have hleave : Expands (Thread.stops program) (Thread.moves program i prev next)
      ((base + 2) :: visited) [⟨base + 4, slots⟩] [⟨base + 5, slots.set 3 (some i)⟩]
      ((base + 5) :: (base + 4) :: (base + 2) :: visited) :=
    expands_moves hclose (by simp [Thread.stops, hclose]) (by simp [hfresh])
      (.stop (by simp [hfresh]) (hexit _) .done)
  exact ⟨_, .stop (hfresh (base + 2) (.inr rfl)) (stops_consume hbody) hleave⟩

/-- The thread that enters the group notes the start of the run. -/
theorem winner_enter {i : Nat} :
    winner program text i ⟨base, slots⟩ =
      follow program (text.drop i) i [⟨base + 2, slots.set 2 (some i)⟩,
        ⟨base + 5, (slots.set 2 (some i)).set 3 (some i)⟩] := by
  have hopen : program[base]? = some (.save 2 (base + 1)) := hcode 0 _ rfl
  have hbranch : program[base + 1]? = some (.split (base + 2) (base + 4)) := hcode 1 _ rfl
  have hvisited : ∀ address ∈ [base + 1, base],
      address = base ∨ address = base + 1 ∨ address = base + 3 := by
    simp
  obtain ⟨visited, hexpands⟩ := expands_branch hcode hexit (slots.set 2 (some i)) i
    (before? text i) text[i]? hvisited
  have hinside : Expands (Thread.stops program) (Thread.moves program i (before? text i) text[i]?)
      [base] [⟨base + 1, slots.set 2 (some i)⟩] _ visited :=
    expands_moves hbranch (by simp [Thread.stops, hbranch]) (by simp) hexpands
  rw [winner, expand_eq_of_expands
    (expands_moves hopen (by simp [Thread.stops, hopen]) List.not_mem_nil hinside)]

/-- The thread at the end of a round. -/
theorem winner_again {i : Nat} :
    winner program text i ⟨base + 3, slots⟩ =
      follow program (text.drop i) i [⟨base + 2, slots⟩, ⟨base + 5, slots.set 3 (some i)⟩] := by
  have hbranch : program[base + 3]? = some (.split (base + 2) (base + 4)) := hcode 3 _ rfl
  have hvisited : ∀ address ∈ [base + 3],
      address = base ∨ address = base + 1 ∨ address = base + 3 := by
    simp
  obtain ⟨visited, hexpands⟩ := expands_branch hcode hexit slots i (before? text i) text[i]?
    hvisited
  rw [winner, expand_eq_of_expands
    (expands_moves hbranch (by simp [Thread.stops, hbranch]) List.not_mem_nil hexpands)]

/-- One more round wins if it leads to acceptance, and leaving the loop otherwise. -/
theorem winner_loop {i : Nat} :
    follow program (text.drop i) i [⟨base + 2, slots⟩, ⟨base + 5, slots.set 3 (some i)⟩] =
      (match text[i]? with
        | some c => if members.mem c then follow program (text.drop (i + 1)) (i + 1)
            [⟨base + 2, slots⟩, ⟨base + 5, slots.set 3 (some (i + 1))⟩] else none
        | none => none).or
        (winner program text i ⟨base + 5, slots.set 3 (some i)⟩) := by
  have hbody : program[base + 2]? = some (.consume members (base + 3)) := hcode 2 _ rfl
  have hsplit : [⟨base + 2, slots⟩, ⟨base + 5, slots.set 3 (some i)⟩] =
      [Thread.mk (base + 2) slots] ++ [⟨base + 5, slots.set 3 (some i)⟩] := rfl
  rw [hsplit, follow_append_eq_or fun thread hmem => by
    rw [List.mem_singleton.1 hmem]; exact stops_consume hbody, winner_of_stops (hexit _)]
  congr 1
  cases hchar : text[i]? with
  | none => exact follow_consume_end hbody hchar
  | some c => rw [follow_consume hbody hchar, winner_again hcode hexit]

/-- The winner of the loop has the longest run after which the closing row stands. -/
theorem notesLongest_loop (text : List Char) (slots : Slots) {closing : List CharSet}
    (hrow : RowAt program (base + 5) closing)
    (haccept : program[base + 5 + closing.length]? = some .accept) (rest : List Char) :
    ∀ i, rest = text.drop i → NotesLongest members closing text i slots
      (follow program (text.drop i) i [⟨base + 2, slots⟩, ⟨base + 5, slots.set 3 (some i)⟩]) := by
  have hleave : ∀ i, (∀ c run last, ¬ IsRun members closing text i (c :: run) last) →
      NotesLongest members closing text i slots
        (winner program text i ⟨base + 5, slots.set 3 (some i)⟩) :=
    fun i => notesLongest_leave slots hrow haccept
  induction rest with
  | nil =>
    intro i hrest
    have hend : text[i]? = none := by
      rw [← List.head?_drop, ← hrest]
      rfl
    rw [winner_loop hcode hexit, hend, Option.none_or]
    refine hleave i fun c run last hrun => ?_
    rw [(isRun_cons.1 hrun).1] at hend
    cases hend
  | cons c rest ih =>
    intro i hrest
    obtain ⟨hchar, hrest', -, -⟩ := drop_cons hrest
    have hnext := ih (i + 1) hrest'
    rw [winner_loop hcode hexit, hchar]
    -- a run of one more character needs a character of the set and a run behind it
    by_cases hmem : members.mem c = true
    · simp only [if_pos hmem]
      cases hfollow : follow program (text.drop (i + 1)) (i + 1)
          [⟨base + 2, slots⟩, ⟨base + 5, slots.set 3 (some (i + 1))⟩] with
      | some won =>
        rw [hfollow] at hnext
        exact hnext.round hchar hmem
      | none =>
        rw [hfollow] at hnext
        rw [Option.none_or]
        exact hleave i fun d run last hrun => hnext run last (isRun_cons.1 hrun).2.2
    · simp only [if_neg hmem, Option.none_or]
      refine hleave i fun d run last hrun => ?_
      obtain ⟨hd, hmem', -⟩ := isRun_cons.1 hrun
      rw [hchar] at hd
      cases hd
      exact hmem hmem'

end Loop

end Winners

/-! ## §4. The layout of the pattern. -/

section Layout

variable {program : Program} {base exit : Nat}

theorem codeAt_seq_cons (node : Node) {nodes : List Node} (hnodes : nodes ≠ [])
    (h : CodeAt program base ((Node.seq (node :: nodes)).code base exit)) :
    CodeAt program base (node.code base (base + node.size)) ∧
      CodeAt program (base + node.size) ((Node.seq nodes).code (base + node.size) exit) := by
  obtain ⟨next, nodes, rfl⟩ := List.exists_cons_of_ne_nil hnodes
  have hcat : CodeAt program base (node.code base (base + node.size) ++
      (Node.seq (next :: nodes)).code (base + node.size) exit) := h
  have hsecond := hcat.right
  rw [length_code] at hsecond
  exact ⟨hcat.left, hsecond⟩

theorem RowAt.cons {members : CharSet} {sets : List CharSet}
    (hhead : program[base]? = some (.consume members (base + 1)))
    (htail : RowAt program (base + 1) sets) : RowAt program base (members :: sets) := by
  intro k other hk
  cases k with
  | zero =>
    cases hk
    exact hhead
  | succ k =>
    have hnext := htail k other hk
    rwa [Nat.add_assoc, Nat.add_comm 1 k] at hnext

/-- A row of sets before other nodes. -/
theorem rowAt_of_code {nodes : List Node} (hnodes : nodes ≠ []) (sets : List CharSet) :
    ∀ {base : Nat}, CodeAt program base ((Node.seq (sets.map .set ++ nodes)).code base exit) →
      RowAt program base sets ∧ CodeAt program (base + sets.length)
        ((Node.seq nodes).code (base + sets.length) exit) := by
  induction sets with
  | nil => intro base h; exact ⟨fun k members hk => (by cases hk), h⟩
  | cons members sets ih =>
    intro base h
    have hrest : sets.map Node.set ++ nodes ≠ [] := by simp [hnodes]
    obtain ⟨hfirst, hrest⟩ := codeAt_seq_cons (.set members) hrest h
    obtain ⟨hrow, hcode⟩ := ih hrest
    refine ⟨.cons hfirst.head hrow, ?_⟩
    rw [List.length_cons, Nat.add_comm sets.length, ← Nat.add_assoc]
    exact hcode

/-- A row of sets at the end. -/
theorem rowAt_of_last_code (sets : List CharSet) : ∀ {base : Nat}, sets ≠ [] →
    CodeAt program base ((Node.seq (sets.map .set)).code base (base + sets.length)) →
    RowAt program base sets := by
  induction sets with
  | nil => intro base hne; exact absurd rfl hne
  | cons members sets ih =>
    intro base _ h
    cases sets with
    | nil => exact .cons h.head fun k other hk => by cases hk
    | cons next sets =>
      have hrest : (next :: sets).map Node.set ≠ [] := by simp
      obtain ⟨hfirst, hrest⟩ := codeAt_seq_cons (.set members) hrest h
      refine .cons hfirst.head (ih (by simp) ?_)
      rw [List.length_cons, Nat.add_comm (next :: sets).length, ← Nat.add_assoc] at hrest
      exact hrest

theorem size_seq_cons (node : Node) {nodes : List Node} (hnodes : nodes ≠ []) :
    (Node.seq (node :: nodes)).size = node.size + (Node.seq nodes).size := by
  obtain ⟨next, nodes, rfl⟩ := List.exists_cons_of_ne_nil hnodes
  rfl

theorem size_sets {nodes : List Node} (hnodes : nodes ≠ []) (sets : List CharSet) :
    (Node.seq (sets.map .set ++ nodes)).size = sets.length + (Node.seq nodes).size := by
  induction sets with
  | nil => simp
  | cons members sets ih =>
    rw [List.map_cons, List.cons_append, size_seq_cons _ (by simp [hnodes]), ih, List.length_cons]
    show 1 + (sets.length + _) = _
    omega

theorem size_last_sets {sets : List CharSet} (h : sets ≠ []) :
    (Node.seq (sets.map .set)).size = sets.length := by
  induction sets with
  | nil => exact absurd rfl h
  | cons members sets ih =>
    cases sets with
    | nil => rfl
    | cons next sets =>
      rw [List.map_cons, size_seq_cons _ (by simp), ih (by simp), List.length_cons, Nat.add_comm]
      rfl

theorem codeAt_program (node : Node) : CodeAt node.program 0 (node.code 0 node.size) := by
  have hall : CodeAt node.program 0 (node.code 0 node.size ++ [Inst.accept]) := by
    intro k inst hk
    rw [Nat.zero_add, Node.program, List.getElem?_toArray]
    exact hk
  exact hall.left

end Layout

/-! ## §5. The preferred match. -/

/-- A captured run between two rows of sets. -/
def capturedBetween (opening : List CharSet) (members : CharSet) (closing : List CharSet) : Node :=
  .seq (opening.map .set ++ capturedRun members :: closing.map .set)

section Match

variable {opening closing : List CharSet} {members : CharSet} {text : List Char}

theorem isPlain_seq {nodes : List Node} (h : ∀ node ∈ nodes, node.isPlain = true) :
    (Node.seq nodes).isPlain = true := by
  induction nodes with
  | nil => rfl
  | cons node nodes ih =>
    have hfirst := h node (.head _)
    have hrest := ih fun other hother => h other (.tail _ hother)
    cases nodes with
    | nil => exact hfirst
    | cons next nodes =>
      show (node.isPlain && (Node.seq (next :: nodes)).isPlain) = true
      rw [hfirst, hrest]
      rfl

theorem isPlain_capturedBetween : (capturedBetween opening members closing).isPlain = true := by
  refine isPlain_seq fun node hnode => ?_
  rcases List.mem_append.1 hnode with hnode | hnode
  · obtain ⟨_, -, rfl⟩ := List.mem_map.1 hnode
    rfl
  · rcases List.mem_cons.1 hnode with rfl | hnode
    · rfl
    · obtain ⟨_, -, rfl⟩ := List.mem_map.1 hnode
      rfl

theorem accepts_capturedBetween {word : List Char} :
    (capturedBetween opening members closing).Accepts word ↔
      ∃ first run last, word = first ++ (run ++ last) ∧ Spells opening first ∧
        (∀ c ∈ run, members.mem c = true) ∧ Spells closing last := by
  rw [capturedBetween, accepts_seq_append]
  simp only [accepts_seq_cons, accepts_sets]
  have hrun : ∀ u, (capturedRun members).Accepts u ↔ ∀ c ∈ u, members.mem c = true := by
    intro u
    show (Node.rep (.set members) 0 none true).Accepts u ↔ _
    exact accepts_run
  simp only [hrun]
  constructor
  · intro hex
    obtain ⟨first, _, rfl, hfirst, run, last, rfl, hrun, hlast⟩ := hex
    exact ⟨first, run, last, rfl, hfirst, hrun, hlast⟩
  · intro hex
    obtain ⟨first, run, last, rfl, hfirst, hrun, hlast⟩ := hex
    exact ⟨first, run ++ last, rfl, hfirst, run, last, rfl, hrun, hlast⟩

theorem lastGroup_seq_cons (node : Node) (nodes : List Node) :
    (Node.seq (node :: nodes)).lastGroup = Nat.max node.lastGroup (Node.seq nodes).lastGroup := by
  cases nodes with
  | nil => exact (Nat.max_zero node.lastGroup).symm
  | cons next nodes => rfl

theorem lastGroup_sets (sets : List CharSet) (nodes : List Node) :
    (Node.seq (sets.map .set ++ nodes)).lastGroup = (Node.seq nodes).lastGroup := by
  induction sets with
  | nil => rfl
  | cons members sets ih =>
    rw [List.map_cons, List.cons_append, lastGroup_seq_cons, ih]
    exact Nat.zero_max _

theorem lastGroup_capturedBetween : (capturedBetween opening members closing).lastGroup = 1 := by
  have hclosing : (Node.seq (closing.map .set)).lastGroup = 0 := by
    rw [← List.append_nil (closing.map Node.set), lastGroup_sets]
    rfl
  rw [capturedBetween, lastGroup_sets, lastGroup_seq_cons, hclosing]
  rfl

/-- The program of the pattern: a row, the group, a row, acceptance. -/
theorem layout_capturedBetween (opening : List CharSet) (members : CharSet)
    (hclosing : closing ≠ []) :
    RowAt (capturedBetween opening members closing).program 0 opening ∧
      CodeAt (capturedBetween opening members closing).program opening.length
        ((capturedRun members).code opening.length (opening.length + 5)) ∧
      RowAt (capturedBetween opening members closing).program (opening.length + 5) closing ∧
      (capturedBetween opening members closing).program[opening.length + 5 + closing.length]? =
        some .accept := by
  have hmap : closing.map Node.set ≠ [] := by simp [hclosing]
  have hsize : (capturedBetween opening members closing).size =
      opening.length + 5 + closing.length := by
    rw [capturedBetween, size_sets (by simp), size_seq_cons _ hmap, size_last_sets hclosing,
      Nat.add_assoc]
    rfl
  have hcode := codeAt_program (capturedBetween opening members closing)
  rw [hsize] at hcode
  obtain ⟨hopening, hrest⟩ := rowAt_of_code (by simp) opening hcode
  rw [Nat.zero_add] at hrest
  obtain ⟨hgroup, hlast⟩ := codeAt_seq_cons _ hmap hrest
  exact ⟨hopening, hgroup, rowAt_of_last_code closing hclosing hlast,
    (program_accept_iff _ _).2 hsize.symm⟩

/-- **Main.**  The match that is preferred at a place has the longest run after which the closing
    row stands, and group 1 is that run. -/
theorem matchAt?_captured {pattern : Pattern} (hread : pattern.IsRead)
    (hnode : pattern.node = capturedBetween opening members closing) (hclosing : closing ≠ [])
    {k : Nat} {m : Match} (hm : pattern.matchAt? text k = some m) :
    ∃ first run last, Spells opening first ∧ first <+: text.drop k ∧
      IsRun members closing text (k + first.length) run last ∧
      m.whole = ⟨k, k + (first ++ (run ++ last)).length⟩ ∧
      m.group? 1 = some ⟨k + first.length, k + first.length + run.length⟩ ∧
      ∀ run' last', IsRun members closing text (k + first.length) run' last' →
        run'.length ≤ run.length := by
  obtain ⟨hopening, hgroup, hrow, haccept⟩ := layout_capturedBetween opening members hclosing
  rw [← hnode, ← hread.program] at hopening hgroup hrow haccept
  have hexit : ∀ slots, (Thread.mk (opening.length + 5) slots).stops pattern.program = true := by
    intro slots
    obtain ⟨members', closing', rfl⟩ := List.exists_cons_of_ne_nil hclosing
    exact stops_consume hrow.head
  have hblank : pattern.blankSlots = [none, none, none, none] := by
    rw [blankSlots, groupCount, hnode, lastGroup_capturedBetween]
    rfl
  obtain ⟨slots, hslots, hof⟩ := Option.bind_eq_some_iff.1 hm
  have hwinner : winner pattern.program text k ⟨0, pattern.blankSlots.set 0 (some k)⟩ =
      some slots := hslots
  -- the opening row is walked through
  obtain ⟨hword, hnone⟩ := winner_row text (pattern.blankSlots.set 0 (some k)) opening k hopening
  obtain ⟨first, hfirst, hstands⟩ : ∃ first, Spells opening first ∧ first <+: text.drop k := by
    refine Classical.byContradiction fun hex => ?_
    rw [hnone fun first hfirst hstands => hex ⟨first, hfirst, hstands⟩] at hwinner
    cases hwinner
  rw [hword first hfirst hstands, Nat.zero_add, winner_enter hgroup hexit, ← hfirst.length_eq]
    at hwinner
  -- and the loop takes the longest run
  rw [← hfirst.length_eq] at hgroup hexit hrow haccept
  have hlongest := notesLongest_loop hgroup hexit text
    ((pattern.blankSlots.set 0 (some k)).set 2 (some (k + first.length))) hrow haccept _
    (k + first.length) rfl
  rw [hwinner] at hlongest
  obtain ⟨run, last, hrun, rfl, hlongest⟩ := hlongest
  refine ⟨first, run, last, hfirst, hstands, hrun, ?_, ?_, hlongest⟩
  all_goals
    rw [hblank] at hof
    cases hof
  · have hlength : k + first.length + (run ++ last).length =
        k + (first ++ (run ++ last)).length := by
      simp only [List.length_append, Nat.add_assoc]
    rw [← hlength]
  · rfl

end Match

end Reroute.Pattern
