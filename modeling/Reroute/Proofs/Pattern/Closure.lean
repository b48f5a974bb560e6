/-
  Reroute.Proofs.Pattern.Closure — what the expansion of a stack of threads finds.

  `expand` is a depth-first walk on fuel with the visited addresses as bits of a number.
  `Expands` says the same without either, for any choice of where threads stop and how they move,
  and the fuel of `expand` is enough for it (`expands_expand`).  What the search needs follows by
  induction on this walk:

    • what holds of the stack and is kept by moves holds of the outcome (`Expands.forall_mem`),
    • no address that can be reached is left out (`Expands.covers`),
    • a stack expands from its top, whatever lies below (`expand_append`),
    • addresses that lead nowhere make no difference (`expand_filter`).
-/
import Reroute.Pattern.Search
import Reroute.Proofs.Pattern.Layout

namespace Reroute.Pattern

/-! ## §1. Threads that stop and threads that move. -/

/-- The slots after an instruction. -/
def Inst.noted (place : Nat) (slots : Slots) : Inst → Slots
  | save slot _ => slots.set slot (some place)
  | _ => slots

/-- Has the thread come to an instruction that consumes or accepts? -/
def Thread.stops (program : Program) (thread : Thread) : Bool :=
  match program[thread.address]? with
  | some .accept | some (.consume _ _) => true
  | _ => false

/-- The threads that follow without consuming anything, the preferred one first. -/
def Thread.moves (program : Program) (place : Nat) (prev next : Option Char) (thread : Thread) :
    List Thread :=
  match program[thread.address]? with
  | some inst =>
    (inst.moves prev next).map fun target =>
      { address := target, slots := inst.noted place thread.slots }
  | none => []

theorem Thread.length_moves_le (program : Program) (place : Nat) (prev next : Option Char)
    (thread : Thread) : (thread.moves program place prev next).length ≤ 2 := by
  unfold Thread.moves
  cases program[thread.address]? with
  | none => simp
  | some inst =>
    rw [List.length_map]
    cases inst <;> simp only [Inst.moves, List.length_cons, List.length_nil] <;> try omega
    split <;> simp

/-- An expansion takes the thread on top of the stack: it drops it at an address seen before, puts
    it out where it stops, and puts the threads that follow in its place where it moves. -/
theorem expandWith_cons (program : Program) (place : Nat) (prev next : Option Char)
    (fuel seen : Nat) (thread : Thread) (stack : List Thread) :
    expandWith program place prev next (fuel + 1) seen (thread :: stack) =
      if seen.testBit thread.address then expandWith program place prev next fuel seen stack
      else if thread.stops program then
        thread :: expandWith program place prev next fuel (seen ||| (1 <<< thread.address)) stack
      else
        expandWith program place prev next fuel (seen ||| (1 <<< thread.address))
          (thread.moves program place prev next ++ stack) := by
  rw [expandWith]
  split
  · rfl
  · unfold Thread.stops Thread.moves
    -- outside of the program a thread neither stops nor moves
    cases program[thread.address]? with
    | none => rfl
    | some inst =>
      cases inst with
      | check assertion target =>
        cases hholds : assertion.holds prev next <;> simp [Inst.moves, Inst.noted, hholds]
      | _ => rfl

/-! ## §2. Expansion without fuel. -/

/-- The expansion of a stack, given the addresses visited before: the threads it puts out, and the
    addresses visited after. -/
inductive Expands (stops : Thread → Bool) (moves : Thread → List Thread) :
    (visited : List Nat) → (stack out : List Thread) → (visited' : List Nat) → Prop where
  | done {visited : List Nat} : Expands stops moves visited [] [] visited
  | skip {visited visited' : List Nat} {thread : Thread} {stack out : List Thread}
      (hvisited : thread.address ∈ visited) (hrest : Expands stops moves visited stack out visited') :
      Expands stops moves visited (thread :: stack) out visited'
  | stop {visited visited' : List Nat} {thread : Thread} {stack out : List Thread}
      (hvisited : thread.address ∉ visited) (hstops : stops thread = true)
      (hrest : Expands stops moves (thread.address :: visited) stack out visited') :
      Expands stops moves visited (thread :: stack) (thread :: out) visited'
  | go {visited visited' : List Nat} {thread : Thread} {stack out : List Thread}
      (hvisited : thread.address ∉ visited) (hstops : stops thread = false)
      (hrest : Expands stops moves (thread.address :: visited) (moves thread ++ stack) out visited') :
      Expands stops moves visited (thread :: stack) out visited'

section Expansions

variable {stops : Thread → Bool} {moves : Thread → List Thread} {visited visited' : List Nat}
  {stack out : List Thread}

theorem Expands.unique {out' : List Thread} {visited'' : List Nat}
    (h : Expands stops moves visited stack out visited')
    (h' : Expands stops moves visited stack out' visited'') : out = out' ∧ visited' = visited'' := by
  -- the top of the stack alone says which rule applies
  induction h generalizing out' with
  | done =>
    cases h'
    exact ⟨rfl, rfl⟩
  | skip hvisited _ ih =>
    cases h' with
    | skip _ hrest => exact ih hrest
    | stop hvisited' => exact absurd hvisited hvisited'
    | go hvisited' => exact absurd hvisited hvisited'
  | stop hvisited hstops _ ih =>
    cases h' with
    | skip hvisited' => exact absurd hvisited' hvisited
    | stop _ _ hrest =>
      obtain ⟨hout, hend⟩ := ih hrest
      exact ⟨by rw [hout], hend⟩
    | go _ hstops' => simp [hstops] at hstops'
  | go hvisited hstops _ ih =>
    cases h' with
    | skip hvisited' => exact absurd hvisited' hvisited
    | stop _ hstops' => simp [hstops] at hstops'
    | go _ _ hrest => exact ih hrest

/-- What holds of the stack and is kept by moves holds of the threads put out, which all stop. -/
theorem Expands.forall_mem {holds : Thread → Prop}
    (h : Expands stops moves visited stack out visited')
    (hmoves : ∀ thread, holds thread → ∀ moved ∈ moves thread, holds moved)
    (hstack : ∀ thread ∈ stack, holds thread) :
    ∀ thread ∈ out, holds thread ∧ stops thread = true := by
  induction h with
  | done => intro thread hmem; cases hmem
  | skip _ _ ih => exact ih fun thread hmem => hstack thread (.tail _ hmem)
  | stop _ hstops _ ih =>
    intro thread hmem
    rcases List.mem_cons.1 hmem with rfl | hmem
    · exact ⟨hstack thread (.head _), hstops⟩
    · exact ih (fun thread hmem => hstack thread (.tail _ hmem)) thread hmem
  | go _ _ _ ih =>
    refine ih fun thread hmem => ?_
    rcases List.mem_append.1 hmem with hmem | hmem
    · exact hmoves _ (hstack _ (.head _)) thread hmem
    · exact hstack thread (.tail _ hmem)

/-- The visited addresses have those of the stack among them; an address visited anew either is
    that of a thread put out or all moves from it lead to visited addresses. -/
theorem Expands.covers (h : Expands stops moves visited stack out visited') :
    visited ⊆ visited' ∧ (∀ thread ∈ stack, thread.address ∈ visited') ∧
      ∀ address ∈ visited', address ∈ visited ∨ ∃ thread, thread.address = address ∧
        ((stops thread = true ∧ thread ∈ out) ∨
          (stops thread = false ∧ ∀ moved ∈ moves thread, moved.address ∈ visited')) := by
  induction h with
  | done => exact ⟨List.Subset.refl _, by simp, fun _ hmem => .inl hmem⟩
  | skip hvisited _ ih =>
    obtain ⟨hsub, hstack, hnew⟩ := ih
    refine ⟨hsub, ?_, hnew⟩
    intro thread hmem
    rcases List.mem_cons.1 hmem with rfl | hmem
    · exact hsub hvisited
    · exact hstack thread hmem
  | @stop _ _ top _ _ _ hstops _ ih =>
    obtain ⟨hsub, hstack, hnew⟩ := ih
    refine ⟨fun address hmem => hsub (.tail _ hmem), ?_, ?_⟩
    · intro thread hmem
      rcases List.mem_cons.1 hmem with rfl | hmem
      · exact hsub (.head _)
      · exact hstack thread hmem
    · intro address hmem
      -- the address on top is new by its own thread, all others by the rest of the walk
      rcases hnew address hmem with hold | ⟨thread, rfl, hout | hgo⟩
      · rcases List.mem_cons.1 hold with rfl | hold
        · exact .inr ⟨top, rfl, .inl ⟨hstops, .head _⟩⟩
        · exact .inl hold
      · exact .inr ⟨thread, rfl, .inl ⟨hout.1, .tail _ hout.2⟩⟩
      · exact .inr ⟨thread, rfl, .inr hgo⟩
  | @go _ _ top _ _ _ hstops _ ih =>
    obtain ⟨hsub, hstack, hnew⟩ := ih
    refine ⟨fun address hmem => hsub (.tail _ hmem), ?_, ?_⟩
    · intro thread hmem
      rcases List.mem_cons.1 hmem with rfl | hmem
      · exact hsub (.head _)
      · exact hstack thread (List.mem_append_right _ hmem)
    · intro address hmem
      rcases hnew address hmem with hold | hfound
      · rcases List.mem_cons.1 hold with rfl | hold
        · -- what the top moves to was put on the stack, and the stack is visited
          refine .inr ⟨top, rfl, .inr ⟨hstops, fun moved hmoved => ?_⟩⟩
          exact hstack moved (List.mem_append_left _ hmoved)
        · exact .inl hold
      · exact .inr hfound

/-- A stack expands from its top, whatever lies below. -/
theorem Expands.split {below : List Thread} (h : Expands stops moves visited stack out visited') :
    ∀ top, stack = top ++ below → ∃ first second mid, out = first ++ second ∧
      Expands stops moves visited top first mid := by
  induction h with
  | done =>
    intro top heq
    obtain ⟨rfl, rfl⟩ := List.append_eq_nil_iff.1 heq.symm
    exact ⟨[], [], _, rfl, .done⟩
  | skip hvisited hrest ih =>
    intro top heq
    rcases List.cons_eq_append_iff.1 heq with ⟨rfl, rfl⟩ | ⟨top, rfl, rfl⟩
    · exact ⟨[], _, _, rfl, .done⟩
    · obtain ⟨first, second, mid, rfl, hfirst⟩ := ih top rfl
      exact ⟨first, second, mid, rfl, .skip hvisited hfirst⟩
  | stop hvisited hstops hrest ih =>
    intro top heq
    rcases List.cons_eq_append_iff.1 heq with ⟨rfl, rfl⟩ | ⟨top, rfl, rfl⟩
    · exact ⟨[], _, _, rfl, .done⟩
    · obtain ⟨first, second, mid, rfl, hfirst⟩ := ih top rfl
      exact ⟨_ :: first, second, mid, rfl, .stop hvisited hstops hfirst⟩
  | go hvisited hstops hrest ih =>
    intro top heq
    rcases List.cons_eq_append_iff.1 heq with ⟨rfl, rfl⟩ | ⟨top, rfl, rfl⟩
    · exact ⟨[], _, _, rfl, .done⟩
    · -- the threads that follow go on top of the top, so `below` stays below
      obtain ⟨first, second, mid, rfl, hfirst⟩ := ih (moves _ ++ top) (by rw [List.append_assoc])
      exact ⟨first, second, mid, rfl, .go hvisited hstops hfirst⟩

/-- A walk that takes no notice of some addresses, from which only such addresses are reached. -/
theorem Expands.filter {live : Nat → Bool} (h : Expands stops moves visited stack out visited')
    (hdead : ∀ thread, live thread.address = false → ∀ moved ∈ moves thread,
      live moved.address = false) :
    Expands stops (fun thread => (moves thread).filter (live ·.address)) (visited.filter live)
      (stack.filter (live ·.address)) (out.filter (live ·.address)) (visited'.filter live) := by
  -- each rule is kept for a live thread and leaves no trace for a dead one
  induction h with
  | done => exact .done
  | @skip _ _ thread _ _ hvisited _ ih =>
    cases hlive : live thread.address with
    | true =>
      simp only [List.filter_cons, hlive, ↓reduceIte]
      exact .skip (List.mem_filter.2 ⟨hvisited, hlive⟩) ih
    | false =>
      simp only [List.filter_cons, hlive, Bool.false_eq_true, ↓reduceIte]
      exact ih
  | @stop _ _ thread _ _ hvisited hstops _ ih =>
    cases hlive : live thread.address with
    | true =>
      simp only [List.filter_cons, hlive, ↓reduceIte] at ih ⊢
      exact .stop (fun hmem => hvisited (List.mem_filter.1 hmem).1) hstops ih
    | false =>
      simp only [List.filter_cons, hlive, Bool.false_eq_true, ↓reduceIte] at ih ⊢
      exact ih
  | @go _ _ thread _ _ hvisited hstops _ ih =>
    rw [List.filter_append] at ih
    cases hlive : live thread.address with
    | true =>
      simp only [List.filter_cons, hlive, ↓reduceIte] at ih ⊢
      exact .go (fun hmem => hvisited (List.mem_filter.1 hmem).1) hstops ih
    | false =>
      -- a dead thread puts dead threads only on the stack
      have hnone : (moves thread).filter (live ·.address) = [] :=
        List.filter_eq_nil_iff.2 fun moved hmem => by simp [hdead thread hlive moved hmem]
      simp only [List.filter_cons, hlive, hnone, Bool.false_eq_true, ↓reduceIte] at ih ⊢
      exact ih

end Expansions

/-! ## §3. Enough fuel. -/

/-- The addresses of a program of the given size that are not visited. -/
def unvisited (size : Nat) (visited : List Nat) : List Nat :=
  (List.range size).filter (!visited.contains ·)

theorem unvisited_cons (size address : Nat) (visited : List Nat) :
    unvisited size (address :: visited) = (unvisited size visited).filter (· != address) := by
  rw [unvisited, unvisited, List.filter_filter]
  congr 1
  funext k
  rw [List.contains_cons, Bool.not_or]
  rfl

/-- A visit to an address of the program leaves one address less. -/
theorem length_unvisited_cons {size address : Nat} {visited : List Nat} (hlt : address < size)
    (hvisited : address ∉ visited) :
    (unvisited size (address :: visited)).length < (unvisited size visited).length := by
  rw [unvisited_cons]
  have hmem : address ∈ unvisited size visited := by
    simp [unvisited, hlt, hvisited]
  exact List.length_filter_lt_length_iff_exists.2 ⟨address, hmem, by simp⟩

theorem testBit_mark (seen address k : Nat) :
    (seen ||| (1 <<< address)).testBit k = (k == address || seen.testBit k) := by
  rw [Nat.testBit_or, Nat.one_shiftLeft, Nat.testBit_two_pow, Bool.or_comm]
  congr 1
  rw [Bool.eq_iff_iff, decide_eq_true_iff, beq_iff_eq, eq_comm]

/-- A step for each thread of the stack and two for each address that is not visited are enough. -/
theorem expands_expandWith (program : Program) (place : Nat) (prev next : Option Char) :
    ∀ (fuel seen : Nat) (visited : List Nat) (stack : List Thread),
      (∀ k, seen.testBit k = true ↔ k ∈ visited) →
      stack.length + 2 * (unvisited program.size visited).length ≤ fuel →
      ∃ visited', Expands (Thread.stops program) (Thread.moves program place prev next) visited
        stack (expandWith program place prev next fuel seen stack) visited' := by
  -- the invariant is that the bits of `seen` are the visited addresses
  intro fuel
  induction fuel with
  | zero =>
    intro seen visited stack _ hfuel
    obtain rfl := List.eq_nil_of_length_eq_zero (show stack.length = 0 by omega)
    exact ⟨visited, .done⟩
  | succ fuel ih =>
    intro seen visited stack hseen hfuel
    cases stack with
    | nil => exact ⟨visited, .done⟩
    | cons thread stack =>
      rw [List.length_cons] at hfuel
      rw [expandWith_cons]
      by_cases hbit : seen.testBit thread.address = true
      · rw [if_pos hbit]
        obtain ⟨visited', hrest⟩ := ih seen visited stack hseen (by omega)
        exact ⟨visited', .skip ((hseen _).1 hbit) hrest⟩
      · rw [if_neg hbit]
        have hvisited : thread.address ∉ visited := fun hmem => hbit ((hseen _).2 hmem)
        have hmark : ∀ k, (seen ||| (1 <<< thread.address)).testBit k = true ↔
            k ∈ thread.address :: visited := by
          intro k
          rw [testBit_mark, Bool.or_eq_true, beq_iff_eq, hseen, List.mem_cons]
        have hle : (unvisited program.size (thread.address :: visited)).length ≤
            (unvisited program.size visited).length := by
          rw [unvisited_cons]
          exact List.length_filter_le _ _
        by_cases hstops : thread.stops program = true
        · rw [if_pos hstops]
          obtain ⟨visited', hrest⟩ := ih _ _ stack hmark (by omega)
          exact ⟨visited', .stop hvisited hstops hrest⟩
        · rw [if_neg hstops]
          -- the threads that follow are paid for by the address, if it is one of the program
          have hmoves : (thread.moves program place prev next ++ stack).length +
              2 * (unvisited program.size (thread.address :: visited)).length ≤ fuel := by
            rw [List.length_append]
            by_cases hlt : thread.address < program.size
            · have hless := length_unvisited_cons hlt hvisited
              have htwo := thread.length_moves_le program place prev next
              omega
            · have hnone : thread.moves program place prev next = [] := by
                rw [Thread.moves, Array.getElem?_eq_none (by omega)]
              rw [hnone, List.length_nil]
              omega
          obtain ⟨visited', hrest⟩ := ih _ _ _ hmark hmoves
          exact ⟨visited', .go hvisited (Bool.not_eq_true _ ▸ hstops) hrest⟩

/-- The fuel of an expansion is enough. -/
theorem expands_expand (program : Program) (place : Nat) (prev next : Option Char)
    (stack : List Thread) :
    ∃ visited', Expands (Thread.stops program) (Thread.moves program place prev next) [] stack
      (expand program place prev next stack) visited' := by
  refine expands_expandWith program place prev next _ 0 [] stack (by simp) ?_
  have hall : (unvisited program.size []).length ≤ program.size := by
    have hle := List.length_filter_le (!([] : List Nat).contains ·) (List.range program.size)
    rwa [List.length_range] at hle
  omega

/-! ## §4. Expansions of stacks. -/

section Stacks

variable (program : Program) (place : Nat) (prev next : Option Char)

/-- A stack expands from its top, whatever lies below. -/
theorem expand_append (top below : List Thread) :
    ∃ second, expand program place prev next (top ++ below) =
      expand program place prev next top ++ second := by
  obtain ⟨_, hwhole⟩ := expands_expand program place prev next (top ++ below)
  obtain ⟨_, htop⟩ := expands_expand program place prev next top
  obtain ⟨first, second, mid, heq, hfirst⟩ := hwhole.split top rfl
  rw [(htop.unique hfirst).1]
  exact ⟨second, heq⟩

/-- Threads at addresses that lead nowhere make no difference to the others. -/
theorem expand_filter {live : Nat → Bool} {stack stack' : List Thread}
    (hdead : ∀ thread : Thread, live thread.address = false →
      ∀ moved ∈ thread.moves program place prev next, live moved.address = false)
    (hstack : stack.filter (live ·.address) = stack'.filter (live ·.address)) :
    (expand program place prev next stack).filter (live ·.address) =
      (expand program place prev next stack').filter (live ·.address) := by
  obtain ⟨_, h⟩ := expands_expand program place prev next stack
  obtain ⟨_, h'⟩ := expands_expand program place prev next stack'
  have hfilter := h.filter hdead
  rw [hstack] at hfilter
  exact (hfilter.unique (h'.filter hdead)).1

/-- The threads put out stop. -/
theorem stops_of_mem_expand {stack : List Thread} {thread : Thread}
    (hmem : thread ∈ expand program place prev next stack) : thread.stops program = true := by
  obtain ⟨_, h⟩ := expands_expand program place prev next stack
  have hall : ∀ thread ∈ expand program place prev next stack, True ∧ thread.stops program = true :=
    h.forall_mem (fun _ _ _ _ => trivial) fun _ _ => trivial
  exact (hall thread hmem).2

end Stacks

end Reroute.Pattern
