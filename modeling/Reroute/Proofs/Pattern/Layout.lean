/-
  Reroute.Proofs.Pattern.Layout — the program of a pattern does what the pattern means.

  A program runs from address to address and from state to state (`Step`, `Run`).  What a state is
  does not matter to the layout: a place alone, or a place with the notes that groups leave
  (`Carrier`).  A *block* is a piece of a program with one way in and one way out, described by the
  pairs of states between which it leads (`Block`).  Blocks are put together as patterns are: one
  after the other, side by side, optional, looping.  Every layout of `Node.code` is such a
  composition (`block_code`), so the whole program accepts between two states exactly if the pattern
  leads from the one to the other (`reaches_accept_iff_carries`), and between two places exactly if
  it spans them (`reaches_accept_iff`).
-/
import Reroute.Pattern.Program
import Reroute.Proofs.Pattern.Language

namespace Reroute.Pattern

/-! ## §1. What a run carries along. -/

/-- What a run carries along: its place, what a note in a slot changes, and what a character
    does. -/
structure Carrier (σ : Type) where
  place : σ → Nat
  note : (slot : Nat) → σ → σ
  advance : σ → σ

/-- The place alone. -/
def places : Carrier Nat where
  place := id
  note _ := id
  advance := (· + 1)

section Runs

variable {σ : Type} {carrier : Carrier σ} {program : Program} {text : List Char}

/-- What an instruction that takes no character leaves. -/
def Carrier.after (carrier : Carrier σ) (s : σ) : Inst → σ
  | .save slot _ => carrier.note slot s
  | _ => s

theorem places_after (i : Nat) (inst : Inst) : places.after i inst = i := by
  cases inst <;> rfl

/-- The pattern leads from the one state to the other.  This is `Spans` with the notes that the
    groups leave. -/
def Node.Carries (carrier : Carrier σ) (text : List Char) : Node → (s t : σ) → Prop
  | empty, s, t => s = t
  | set members, s, t =>
    ∃ c, text[carrier.place s]? = some c ∧ members.mem c = true ∧ t = carrier.advance s
  | look assertion, s, t =>
    assertion.holds (before? text (carrier.place s)) text[carrier.place s]? = true ∧ s = t
  | group index _ body, s, t =>
    ∃ u, body.Carries carrier text (carrier.note (2 * index) s) u ∧
      carrier.note (2 * index + 1) u = t
  | cat first second, s, t => ∃ u, first.Carries carrier text s u ∧ second.Carries carrier text u t
  | alt first second, s, t => first.Carries carrier text s t ∨ second.Carries carrier text s t
  | rep body min max _, s, t =>
    ∃ n, min ≤ n ∧ (∀ bound, max = some bound → n ≤ min + (bound - min)) ∧
      Rounds (body.Carries carrier text) n s t

/-- From place to place, a pattern leads as it spans. -/
theorem carries_places (text : List Char) (node : Node) :
    node.Carries places text = node.Spans text := by
  induction node with
  | empty | set members | look assertion => rfl
  | group index name body ih =>
    funext i j
    show (∃ k, body.Carries places text i k ∧ k = j) = body.Spans text i j
    simp only [ih, exists_eq_right]
  | cat first second ih ih' =>
    funext i j
    simp only [Node.Carries, Node.Spans, ih, ih']
  | alt first second ih ih' =>
    funext i j
    simp only [Node.Carries, Node.Spans, ih, ih']
  | rep body min max greedy ih =>
    funext i j
    simp only [Node.Carries, Node.Spans, ih]

/-! ## §2. Runs of a program. -/

/-- The addresses that an instruction leads to between the given characters without consuming
    anything, the preferred one first. -/
def Inst.moves (prev next : Option Char) : Inst → List Nat
  | accept | consume _ _ => []
  | jump target | save _ target => [target]
  | split first second => [first, second]
  | check assertion target => if assertion.holds prev next then [target] else []

/-- The addresses that an instruction leads to in a state without consuming anything. -/
def Carrier.moves (carrier : Carrier σ) (text : List Char) (s : σ) (inst : Inst) : List Nat :=
  inst.moves (before? text (carrier.place s)) text[carrier.place s]?

/-- One instruction, from an address and a state to the next. -/
inductive Step (carrier : Carrier σ) (program : Program) (text : List Char) :
    (a : Nat) → (s : σ) → (b : Nat) → (t : σ) → Prop where
  | move {a b : Nat} {s t : σ} {inst : Inst} (hinst : program[a]? = some inst)
      (hmove : b ∈ carrier.moves text s inst) (hafter : t = carrier.after s inst) :
      Step carrier program text a s b t
  | take {a target : Nat} {s : σ} {members : CharSet} {c : Char}
      (hinst : program[a]? = some (.consume members target))
      (hchar : text[carrier.place s]? = some c) (hmem : members.mem c = true) :
      Step carrier program text a s target (carrier.advance s)

/-- A number of instructions, one after the other. -/
inductive Run (carrier : Carrier σ) (program : Program) (text : List Char) :
    (n a : Nat) → (s : σ) → (b : Nat) → (t : σ) → Prop where
  | stay {a : Nat} {s : σ} : Run carrier program text 0 a s a s
  | step {n a b c : Nat} {s t u : σ} (hstep : Step carrier program text a s b t)
      (hrest : Run carrier program text n b t c u) : Run carrier program text (n + 1) a s c u

/-- Some number of instructions leads from the one address and state to the other. -/
def Reaches (carrier : Carrier σ) (program : Program) (text : List Char) (a : Nat) (s : σ) (b : Nat)
    (t : σ) : Prop :=
  ∃ n, Run carrier program text n a s b t

theorem Run.trans {m n a b c : Nat} {s t u : σ} (h : Run carrier program text m a s b t)
    (h' : Run carrier program text n b t c u) : Run carrier program text (m + n) a s c u := by
  induction h with
  | stay =>
    rw [Nat.zero_add]
    exact h'
  | step hstep _ ih =>
    rw [Nat.succ_add]
    exact .step hstep (ih h')

theorem Reaches.refl (a : Nat) (s : σ) : Reaches carrier program text a s a s := ⟨0, .stay⟩

theorem Reaches.trans {a b c : Nat} {s t u : σ} (h : Reaches carrier program text a s b t)
    (h' : Reaches carrier program text b t c u) : Reaches carrier program text a s c u := by
  obtain ⟨m, hm⟩ := h
  obtain ⟨n, hn⟩ := h'
  exact ⟨m + n, hm.trans hn⟩

theorem Step.reaches {a b : Nat} {s t : σ} (h : Step carrier program text a s b t) :
    Reaches carrier program text a s b t := ⟨1, .step h .stay⟩

/-- A run to another address has a first step. -/
theorem Run.first {n a c : Nat} {s z : σ} (h : Run carrier program text n a s c z) (hne : c ≠ a) :
    ∃ m b t, n = m + 1 ∧ Step carrier program text a s b t ∧
      Run carrier program text m b t c z := by
  cases h with
  | stay => exact absurd rfl hne
  | step hstep hrest => exact ⟨_, _, _, rfl, hstep, hrest⟩

/-- A step at an instruction that consumes nothing is one of its moves. -/
theorem Step.move_inv {a b : Nat} {s t : σ} {inst : Inst} (h : Step carrier program text a s b t)
    (hinst : program[a]? = some inst) (hmoves : ∀ members target, inst ≠ .consume members target) :
    t = carrier.after s inst ∧ b ∈ carrier.moves text s inst := by
  cases h with
  | move hinst' hmove hafter =>
    rw [hinst] at hinst'
    cases hinst'
    exact ⟨hafter, hmove⟩
  | take hinst' =>
    rw [hinst] at hinst'
    cases hinst'
    exact absurd rfl (hmoves _ _)

/-! ## §3. Blocks. -/

variable {leads leads' : σ → σ → Prop} {start mid exit lo hi : Nat}

/-- A piece of a program between the addresses `lo` and `hi` that is entered at `start` and left
    for `exit`, and that leads from state to state as `leads` says. -/
structure Block (carrier : Carrier σ) (program : Program) (text : List Char)
    (leads : σ → σ → Prop) (start exit lo hi : Nat) : Prop where
  complete : ∀ s t, leads s t → Reaches carrier program text start s exit t
  sound : ∀ n s c z, (c < lo ∨ hi ≤ c) → Run carrier program text n start s c z →
    ∃ t m, m ≤ n ∧ leads s t ∧ Run carrier program text m exit t c z

theorem Block.congr (h : Block carrier program text leads start exit lo hi)
    (hleads : ∀ s t, leads s t ↔ leads' s t) :
    Block carrier program text leads' start exit lo hi where
  complete s t hst := h.complete s t ((hleads s t).2 hst)
  sound n s c z hc hrun := by
    obtain ⟨t, m, hle, hst, hrest⟩ := h.sound n s c z hc hrun
    exact ⟨t, m, hle, (hleads s t).1 hst, hrest⟩

theorem Block.widen {lo' hi' : Nat} (h : Block carrier program text leads start exit lo hi)
    (hlo : lo' ≤ lo) (hhi : hi ≤ hi') : Block carrier program text leads start exit lo' hi' where
  complete := h.complete
  sound n s c z hc hrun := h.sound n s c z (by omega) hrun

/-- One block after the other. -/
theorem Block.seq (h : Block carrier program text leads start mid lo hi)
    (h' : Block carrier program text leads' mid exit lo hi) :
    Block carrier program text (fun s t => ∃ u, leads s u ∧ leads' u t) start exit lo hi where
  complete := by
    intro s t hex
    obtain ⟨u, hsu, hut⟩ := hex
    exact (h.complete s u hsu).trans (h'.complete u t hut)
  -- the run leaves the first block at its exit, which is where the second is entered
  sound n s c z hc hrun := by
    obtain ⟨u, m, hle, hsu, hrest⟩ := h.sound n s c z hc hrun
    obtain ⟨t, m', hle', hut, hrest'⟩ := h'.sound m u c z hc hrest
    exact ⟨t, m', by omega, ⟨u, hsu, hut⟩, hrest'⟩

/-- One instruction that goes on at the exit in the states where a condition holds. -/
theorem block_move {inst : Inst} {holds : σ → Prop} {base : Nat}
    (hinst : program[base]? = some inst)
    (hkind : ∀ members target, inst ≠ .consume members target)
    (hmoves : ∀ s b, b ∈ carrier.moves text s inst ↔ holds s ∧ b = exit) :
    Block carrier program text (fun s t => holds s ∧ carrier.after s inst = t) base exit base
      (base + 1) where
  complete := by
    intro s t hex
    obtain ⟨hs, rfl⟩ := hex
    exact (Step.move hinst ((hmoves s exit).2 ⟨hs, rfl⟩) rfl).reaches
  sound n s c z hc hrun := by
    obtain ⟨m, b, t, rfl, hstep, hrest⟩ := hrun.first (by omega)
    obtain ⟨rfl, hmem⟩ := hstep.move_inv hinst hkind
    obtain ⟨hholds, rfl⟩ := (hmoves s b).1 hmem
    exact ⟨_, m, Nat.le_succ m, ⟨hholds, rfl⟩, hrest⟩

/-- One instruction that goes on at the exit in every state. -/
theorem block_pass {inst : Inst} {base : Nat} (hinst : program[base]? = some inst)
    (hkind : ∀ members target, inst ≠ .consume members target)
    (hmoves : ∀ prev next, inst.moves prev next = [exit]) :
    Block carrier program text (fun s t => carrier.after s inst = t) base exit base (base + 1) := by
  have hblock : Block carrier program text (fun s t => True ∧ carrier.after s inst = t) base exit
      base (base + 1) :=
    block_move hinst hkind fun s b => by simp [Carrier.moves, hmoves]
  exact hblock.congr fun s t => by simp

/-- One instruction that takes a character. -/
theorem block_consume {members : CharSet} {base : Nat}
    (hinst : program[base]? = some (.consume members exit)) :
    Block carrier program text ((Node.set members).Carries carrier text) base exit base
      (base + 1) where
  complete := by
    intro s t hex
    obtain ⟨c, hchar, hmem, rfl⟩ := hex
    exact (Step.take hinst hchar hmem).reaches
  sound n s c z hc hrun := by
    obtain ⟨m, b, t, rfl, hstep, hrest⟩ := hrun.first (by omega)
    cases hstep with
    | move hinst' hmove =>
      rw [hinst] at hinst'
      cases hinst'
      simp [Carrier.moves, Inst.moves] at hmove
    | take hinst' hchar hmem =>
      rw [hinst] at hinst'
      cases hinst'
      exact ⟨_, m, Nat.le_succ m, ⟨_, hchar, hmem, rfl⟩, hrest⟩

/-- The branch leads to either of two addresses, and changes nothing. -/
theorem step_branch_iff {greedy : Bool} {base left right b : Nat} {s t : σ}
    (hinst : program[base]? = some (branch greedy left right)) :
    Step carrier program text base s b t ↔ t = s ∧ (b = left ∨ b = right) := by
  have hkind : ∀ members target, branch greedy left right ≠ .consume members target := by
    cases greedy <;> simp [branch]
  have hafter : carrier.after s (branch greedy left right) = s := by
    cases greedy <;> rfl
  have hmoves : b ∈ carrier.moves text s (branch greedy left right) ↔ b = left ∨ b = right := by
    cases greedy with
    | true => simp [Carrier.moves, branch, Inst.moves]
    | false => simp [Carrier.moves, branch, Inst.moves, or_comm]
  constructor
  · intro hstep
    obtain ⟨ht, hmem⟩ := hstep.move_inv hinst hkind
    exact ⟨ht.trans hafter, hmoves.1 hmem⟩
  · intro hex
    obtain ⟨rfl, hor⟩ := hex
    exact .move hinst (hmoves.2 hor) hafter.symm

/-- Two blocks side by side, with a branch that leads to either of them. -/
theorem block_choice {greedy : Bool} {left right base : Nat}
    (hinst : program[base]? = some (branch greedy left right))
    (hbase : lo ≤ base ∧ base < hi) (h : Block carrier program text leads left exit lo hi)
    (h' : Block carrier program text leads' right exit lo hi) :
    Block carrier program text (fun s t => leads s t ∨ leads' s t) base exit lo hi where
  complete := by
    intro s t hor
    rcases hor with hst | hst
    · exact ((step_branch_iff hinst).2 ⟨rfl, .inl rfl⟩).reaches.trans (h.complete s t hst)
    · exact ((step_branch_iff hinst).2 ⟨rfl, .inr rfl⟩).reaches.trans (h'.complete s t hst)
  sound n s c z hc hrun := by
    obtain ⟨m, b, t, rfl, hstep, hrest⟩ := hrun.first (by omega)
    obtain ⟨rfl, rfl | rfl⟩ := (step_branch_iff hinst).1 hstep
    · obtain ⟨u, m', hle, hleads, hexit⟩ := h.sound m t c z hc hrest
      exact ⟨u, m', by omega, .inl hleads, hexit⟩
    · obtain ⟨u, m', hle, hleads, hexit⟩ := h'.sound m t c z hc hrest
      exact ⟨u, m', by omega, .inr hleads, hexit⟩

/-- Nothing at all. -/
theorem block_nothing (base lo hi : Nat) :
    Block carrier program text (fun s t => s = t) base base lo hi where
  complete := by
    intro s t heq
    subst heq
    exact .refl base s
  sound n s c z _ hrun := ⟨s, n, Nat.le_refl n, rfl, hrun⟩

/-! ## §4. Loops. -/

/-- A body and a branch after it that leads back to the body or to the exit. -/
theorem block_loop {greedy : Bool} {body loop : Nat}
    (hinst : program[loop]? = some (branch greedy body exit)) (hloop : lo ≤ loop ∧ loop < hi)
    (hbody : Block carrier program text leads body loop lo hi) :
    Block carrier program text (fun s t => ∃ n, Rounds leads n s t) loop exit lo hi where
  complete := by
    intro s t hex
    obtain ⟨n, hrounds⟩ := hex
    induction n generalizing s with
    | zero =>
      obtain rfl : s = t := hrounds
      exact ((step_branch_iff hinst).2 ⟨rfl, .inr rfl⟩).reaches
    | succ n ih =>
      obtain ⟨u, hround, hrest⟩ := hrounds
      have hback : Reaches carrier program text loop s body s :=
        ((step_branch_iff hinst).2 ⟨rfl, .inl rfl⟩).reaches
      exact hback.trans ((hbody.complete s u hround).trans (ih u hrest))
  sound := by
    -- every round takes the step back to the body, so that the rest of the run is shorter
    intro n
    induction n using Nat.strongRecOn with
    | ind n ih =>
      intro s c z hc hrun
      obtain ⟨m, b, t, rfl, hstep, hrest⟩ := hrun.first (by omega)
      obtain ⟨rfl, rfl | rfl⟩ := (step_branch_iff hinst).1 hstep
      · obtain ⟨u, m', hle, hround, hagain⟩ := hbody.sound m t c z hc hrest
        obtain ⟨v, m'', hle', ⟨rounds, hrounds⟩, hexit⟩ := ih m' (by omega) u c z hc hagain
        exact ⟨v, m'', by omega, ⟨rounds + 1, u, hround, hrounds⟩, hexit⟩
      · exact ⟨t, m, Nat.le_succ m, ⟨0, rfl⟩, hrest⟩

/-! ## §5. Code within a program. -/

/-- The program has the code at the address. -/
def CodeAt (program : Program) (base : Nat) (code : List Inst) : Prop :=
  ∀ k inst, code[k]? = some inst → program[base + k]? = some inst

theorem CodeAt.left {base : Nat} {code code' : List Inst} (h : CodeAt program base (code ++ code')) :
    CodeAt program base code := by
  intro k inst hk
  have hlt := (List.getElem?_eq_some_iff.1 hk).1
  exact h k inst (by rwa [List.getElem?_append_left hlt])

theorem CodeAt.right {base : Nat} {code code' : List Inst} (h : CodeAt program base (code ++ code')) :
    CodeAt program (base + code.length) code' := by
  intro k inst hk
  rw [Nat.add_assoc]
  refine h (code.length + k) inst ?_
  rwa [List.getElem?_append_right (Nat.le_add_right _ _), Nat.add_sub_cancel_left]

theorem CodeAt.head {base : Nat} {inst : Inst} {code : List Inst}
    (h : CodeAt program base (inst :: code)) : program[base]? = some inst :=
  h 0 inst rfl

theorem CodeAt.tail {base : Nat} {inst : Inst} {code : List Inst}
    (h : CodeAt program base (inst :: code)) : CodeAt program (base + 1) code := by
  have h' : CodeAt program base ([inst] ++ code) := h
  exact h'.right

theorem length_copies {code : (base exit : Nat) → List Inst} {size : Nat}
    (hlength : ∀ base exit, (code base exit).length = size) :
    ∀ count base, (copies code size count base).length = count * size := by
  intro count
  induction count with
  | zero => intro base; rw [Nat.zero_mul]; rfl
  | succ count ih =>
    intro base
    rw [copies, List.length_append, hlength, ih, Nat.succ_mul, Nat.add_comm]

theorem length_optionalCopies {code : (base exit : Nat) → List Inst} {size : Nat}
    (hlength : ∀ base exit, (code base exit).length = size) (greedy : Bool) (exit : Nat) :
    ∀ count base, (optionalCopies code size greedy exit count base).length = count * (1 + size) := by
  intro count
  induction count with
  | zero => intro base; rw [Nat.zero_mul]; rfl
  | succ count ih =>
    intro base
    rw [optionalCopies, List.length_cons, List.length_append, hlength, ih, Nat.succ_mul]
    omega

/-- Copies of a code that is a block make as many rounds. -/
theorem block_copies {code : (base exit : Nat) → List Inst} {size : Nat}
    (hlength : ∀ base exit, (code base exit).length = size)
    (hcode : ∀ base exit, CodeAt program base (code base exit) →
      Block carrier program text leads base exit base (base + size)) :
    ∀ count base, CodeAt program base (copies code size count base) →
      Block carrier program text (Rounds leads count) base (base + count * size) base
        (base + count * size) := by
  intro count
  induction count with
  | zero =>
    intro base _
    rw [Nat.zero_mul]
    exact block_nothing base base (base + 0)
  | succ count ih =>
    intro base hat
    rw [copies] at hat
    have hfirst := hcode base (base + size) hat.left
    have hat' := hat.right
    rw [hlength] at hat'
    have hrest := ih (base + size) hat'
    have hend : base + size + count * size = base + (count + 1) * size := by
      rw [Nat.succ_mul]
      omega
    rw [hend] at hrest
    have hsize : base + size ≤ base + (count + 1) * size := hend ▸ Nat.le_add_right _ _
    exact (hfirst.widen (Nat.le_refl base) hsize).seq
      (hrest.widen (Nat.le_add_right base size) (Nat.le_refl _))

/-- Optional copies of a code that is a block make at most as many rounds. -/
theorem block_optionalCopies {code : (base exit : Nat) → List Inst} {size : Nat}
    (hlength : ∀ base exit, (code base exit).length = size)
    (hcode : ∀ base exit, CodeAt program base (code base exit) →
      Block carrier program text leads base exit base (base + size)) (greedy : Bool) :
    ∀ count base, CodeAt program base (optionalCopies code size greedy exit count base) →
      program[base + count * (1 + size)]? = some (.jump exit) →
      Block carrier program text (fun s t => ∃ n, n ≤ count ∧ Rounds leads n s t) base exit base
        (base + count * (1 + size) + 1) := by
  -- the induction is on the copies; a copy is entered by choice, and the exit stays open throughout
  intro count
  induction count with
  | zero =>
    intro base _ hjump
    rw [Nat.zero_mul] at hjump ⊢
    have hpass : Block carrier program text (fun s t => s = t) base exit base (base + 1) :=
      block_pass hjump (by simp) fun _ _ => rfl
    refine hpass.congr fun s t => ⟨fun h => ⟨0, Nat.le_refl 0, h⟩, ?_⟩
    intro hex
    obtain ⟨n, hn, hrounds⟩ := hex
    obtain rfl := Nat.le_zero.1 hn
    exact hrounds
  | succ count ih =>
    intro base hat hjump
    rw [optionalCopies] at hat
    have hfirst := hcode (base + 1) (base + 1 + size) hat.tail.left
    have hat' := hat.tail.right
    rw [hlength] at hat'
    have hend : base + 1 + size + count * (1 + size) = base + (count + 1) * (1 + size) := by
      rw [Nat.succ_mul]
      omega
    have hrest := ih (base + 1 + size) hat' (by rw [hend]; exact hjump)
    rw [hend] at hrest
    have hsize : base + 1 + size ≤ base + (count + 1) * (1 + size) + 1 := by omega
    have hround := (hfirst.widen (Nat.le_succ base) hsize).seq
      (hrest.widen (by omega) (Nat.le_refl _))
    have hchoice := block_choice hat.head ⟨Nat.le_refl base, by omega⟩ hround
      (block_nothing exit base (base + (count + 1) * (1 + size) + 1))
    refine hchoice.congr fun s t => ⟨?_, ?_⟩
    · intro hor
      rcases hor with ⟨u, hfirst, n, hn, hrounds⟩ | rfl
      · exact ⟨n + 1, Nat.succ_le_succ hn, u, hfirst, hrounds⟩
      · exact ⟨0, Nat.zero_le _, rfl⟩
    · intro hex
      obtain ⟨n, hn, hrounds⟩ := hex
      cases n with
      | zero => exact .inr hrounds
      | succ n =>
        obtain ⟨u, hfirst, hrest⟩ := hrounds
        exact .inl ⟨u, hfirst, n, Nat.le_of_succ_le_succ hn, hrest⟩

/-! ## §6. The length of a pattern's code. -/

theorem length_code (node : Node) : ∀ base exit, (node.code base exit).length = node.size := by
  induction node with
  | empty => intro base exit; rfl
  | set members => intro base exit; rfl
  | look assertion => intro base exit; rfl
  | group index name body ih =>
    intro base exit
    simp only [Node.code, Node.size, List.length_cons, List.length_append, List.length_nil, ih]
  | cat first second ih ih' =>
    intro base exit
    simp only [Node.code, Node.size, List.length_append, ih, ih']
  | alt first second ih ih' =>
    intro base exit
    simp only [Node.code, Node.size, List.length_cons, List.length_append, ih, ih']
    omega
  | rep body min max greedy ih =>
    intro base exit
    cases max with
    | some max =>
      simp only [Node.code, Node.size, List.length_append, length_copies ih,
        length_optionalCopies ih, List.length_cons, List.length_nil]
    | none =>
      cases min with
      | zero =>
        simp only [Node.code, Node.size, List.length_cons, List.length_append, List.length_nil, ih]
      | succ min =>
        simp only [Node.code, Node.size, List.length_append, length_copies ih, ih,
          List.length_cons, List.length_nil]

/-! ## §7. Repetitions.

    The layouts of a repetition differ with its bounds, so each has its own lemma, about a body
    whose code is a block wherever it stands. -/

section Repetitions

variable {body : Node} {greedy : Bool} {min max base : Nat}
  (hcode : ∀ base exit, CodeAt program base (body.code base exit) →
    Block carrier program text (body.Carries carrier text) base exit base (base + body.size))

include hcode

/-- Between two bounds: the copies that must be, then the copies that may be. -/
theorem block_between
    (hat : CodeAt program base ((Node.rep body min (some max) greedy).code base exit)) :
    Block carrier program text ((Node.rep body min (some max) greedy).Carries carrier text) base exit
      base (base + (Node.rep body min (some max) greedy).size) := by
  simp only [Node.code, List.append_assoc] at hat
  have hcopies := block_copies (length_code body) hcode min base hat.left
  -- the layout has three parts: copies, optional copies, and the jump that ends them
  have hat' := hat.right
  rw [length_copies (length_code body)] at hat'
  have hjump := hat'.right
  rw [length_optionalCopies (length_code body)] at hjump
  have hoptional := block_optionalCopies (length_code body) hcode greedy (max - min)
    (base + min * body.size) hat'.left hjump.head
  have hsize : base + min * body.size + (max - min) * (1 + body.size) + 1 =
      base + (Node.rep body min (some max) greedy).size := by
    simp only [Node.size]
    omega
  rw [hsize] at hoptional
  have hall := (hcopies.widen (Nat.le_refl base) (by omega)).seq
    (hoptional.widen (by omega) (Nat.le_refl _))
  refine hall.congr fun s t => ⟨?_, ?_⟩
  · intro hex
    obtain ⟨u, hmust, n, hn, hmay⟩ := hex
    refine ⟨min + n, Nat.le_add_right _ _, ?_, hmust.append hmay⟩
    intro bound heq
    cases heq
    show min + n ≤ min + (max - min)
    omega
  · intro hex
    obtain ⟨n, hmin, hmax, hrounds⟩ := hex
    -- a maximum below the minimum counts as the minimum
    have hle : n ≤ min + (max - min) := hmax max rfl
    obtain ⟨extra, rfl⟩ := Nat.exists_eq_add_of_le hmin
    obtain ⟨u, hmust, hmay⟩ := hrounds.split
    exact ⟨u, hmust, extra, by omega, hmay⟩

/-- Any number: a choice in front, so that the body may be left out, and a loop behind. -/
theorem block_any (hat : CodeAt program base ((Node.rep body 0 none greedy).code base exit)) :
    Block carrier program text ((Node.rep body 0 none greedy).Carries carrier text) base exit base
      (base + (Node.rep body 0 none greedy).size) := by
  have hbody := hcode (base + 1) (base + 1 + body.size) hat.tail.left
  have hat' := hat.tail.right
  rw [length_code] at hat'
  have hsize : base + (Node.rep body 0 none greedy).size = base + 1 + body.size + 1 := by
    simp only [Node.size]
    omega
  rw [hsize]
  have hbody' := hbody.widen (Nat.le_succ base) (Nat.le_succ _)
  have hloop := block_loop hat'.head ⟨by omega, by omega⟩ hbody'
  have hall := block_choice hat.head ⟨Nat.le_refl base, by omega⟩ (hbody'.seq hloop)
    (block_nothing exit base (base + 1 + body.size + 1))
  refine hall.congr fun s t => ⟨?_, ?_⟩
  · intro hor
    rcases hor with ⟨u, hround, n, hrounds⟩ | rfl
    · exact ⟨n + 1, Nat.zero_le _, by simp, u, hround, hrounds⟩
    · exact ⟨0, Nat.le_refl 0, by simp, rfl⟩
  · intro hex
    obtain ⟨n, -, -, hrounds⟩ := hex
    cases n with
    | zero => exact .inr hrounds
    | succ n =>
      obtain ⟨u, hround, hrest⟩ := hrounds
      exact .inl ⟨u, hround, n, hrest⟩

/-- At least one more than a number: that many copies, then a body with a loop behind. -/
theorem block_atLeast
    (hat : CodeAt program base ((Node.rep body (min + 1) none greedy).code base exit)) :
    Block carrier program text ((Node.rep body (min + 1) none greedy).Carries carrier text) base exit
      base (base + (Node.rep body (min + 1) none greedy).size) := by
  simp only [Node.code, List.append_assoc] at hat
  -- the last of the copies that must be is the body of the loop
  have hcopies := block_copies (length_code body) hcode min base hat.left
  have hat' := hat.right
  rw [length_copies (length_code body)] at hat'
  have hbody := hcode (base + min * body.size) (base + min * body.size + body.size) hat'.left
  have hloop := hat'.right
  rw [length_code] at hloop
  have hsize : base + (Node.rep body (min + 1) none greedy).size =
      base + min * body.size + body.size + 1 := by
    simp only [Node.size]
    omega
  rw [hsize]
  have hbody' := hbody.widen (Nat.le_add_right base _) (Nat.le_succ _)
  have hrounds := block_loop hloop.head ⟨by omega, by omega⟩ hbody'
  have hall := (hcopies.widen (Nat.le_refl base) (by omega)).seq (hbody'.seq hrounds)
  refine hall.congr fun s t => ⟨?_, ?_⟩
  · intro hex
    obtain ⟨u, hmust, v, hround, n, hmay⟩ := hex
    refine ⟨min + (n + 1), by omega, by simp, hmust.append ⟨v, hround, hmay⟩⟩
  · intro hex
    obtain ⟨n, hmin, -, hrounds⟩ := hex
    obtain ⟨extra, rfl⟩ : ∃ extra, n = min + (extra + 1) := ⟨n - (min + 1), by omega⟩
    obtain ⟨u, hmust, v, hround, hmay⟩ := hrounds.split
    exact ⟨u, hmust, v, hround, extra, hmay⟩

end Repetitions

/-! ## §8. The code of a pattern. -/

/-- The code of a pattern leads from state to state as the pattern does. -/
theorem block_code (node : Node) : ∀ base exit, CodeAt program base (node.code base exit) →
    Block carrier program text (node.Carries carrier text) base exit base (base + node.size) := by
  induction node with
  | empty =>
    intro base exit hat
    exact block_pass hat.head (by simp) fun _ _ => rfl
  | set members =>
    intro base exit hat
    exact block_consume hat.head
  | look assertion =>
    intro base exit hat
    -- an assertion is a move that is open in some states only
    refine block_move hat.head (by simp) fun s b => ?_
    cases hholds : assertion.holds (before? text (carrier.place s)) text[carrier.place s]? <;>
      simp [Carrier.moves, Inst.moves, hholds]
  | group index name body ih =>
    intro base exit hat
    have hopen : Block carrier program text (fun s t => carrier.note (2 * index) s = t) base
        (base + 1) base (base + 1) :=
      block_pass hat.head (by simp) fun _ _ => rfl
    have hbody := ih (base + 1) (base + 1 + body.size) hat.tail.left
    have hat' := hat.tail.right
    rw [length_code] at hat'
    have hclose : Block carrier program text (fun s t => carrier.note (2 * index + 1) s = t)
        (base + 1 + body.size) exit (base + 1 + body.size) (base + 1 + body.size + 1) :=
      block_pass hat'.head (by simp) fun _ _ => rfl
    have hend : base + 1 + body.size + 1 = base + (Node.group index name body).size := by
      simp only [Node.size]
      omega
    rw [hend] at hclose
    -- the body stands between the two notes of the group
    have hall := (hopen.widen (Nat.le_refl base) (by omega)).seq
      ((hbody.widen (Nat.le_succ base) (by omega)).seq (hclose.widen (by omega) (Nat.le_refl _)))
    refine hall.congr fun s t => ⟨?_, ?_⟩
    · intro hex
      obtain ⟨_, rfl, u, hbody, hnote⟩ := hex
      exact ⟨u, hbody, hnote⟩
    · intro hex
      obtain ⟨u, hbody, hnote⟩ := hex
      exact ⟨_, rfl, u, hbody, hnote⟩
  | cat first second ih ih' =>
    intro base exit hat
    have hfirst := ih base (base + first.size) hat.left
    have hat' := hat.right
    rw [length_code] at hat'
    have hsecond := ih' (base + first.size) exit hat'
    rw [Nat.add_assoc] at hsecond
    exact (hfirst.widen (Nat.le_refl base) (by simp only [Node.size]; omega)).seq
      (hsecond.widen (Nat.le_add_right _ _) (Nat.le_refl _))
  | alt first second ih ih' =>
    intro base exit hat
    have hfirst := ih (base + 1) exit hat.tail.left
    have hat' := hat.tail.right
    rw [length_code] at hat'
    have hsecond := ih' (base + 1 + first.size) exit hat'
    have hsize : (Node.alt first second).size = 1 + first.size + second.size := rfl
    -- the first of the two is preferred, as in a greedy branch
    have hinst : program[base]? = some (branch true (base + 1) (base + 1 + first.size)) := hat.head
    exact block_choice hinst ⟨Nat.le_refl base, by omega⟩ (hfirst.widen (by omega) (by omega))
      (hsecond.widen (by omega) (by omega))
  | rep body min max greedy ih =>
    intro base exit hat
    cases max with
    | some max => exact block_between ih hat
    | none =>
      cases min with
      | zero => exact block_any ih hat
      | succ min => exact block_atLeast ih hat

end Runs

/-! ## §9. The program of a pattern. -/

/-- What holds of the instructions of a code holds of those of its copies. -/
theorem forall_mem_copies {holds : Inst → Prop} {code : (base exit : Nat) → List Inst} {size : Nat}
    (hcode : ∀ base exit, ∀ inst ∈ code base exit, holds inst) :
    ∀ count base, ∀ inst ∈ copies code size count base, holds inst := by
  intro count
  induction count with
  | zero => intro base inst hmem; cases hmem
  | succ count ih =>
    intro base inst hmem
    rcases List.mem_append.1 hmem with hmem | hmem
    · exact hcode _ _ inst hmem
    · exact ih _ inst hmem

theorem forall_mem_optionalCopies {holds : Inst → Prop} {code : (base exit : Nat) → List Inst}
    {size : Nat} (hcode : ∀ base exit, ∀ inst ∈ code base exit, holds inst)
    (hbranch : ∀ greedy body exit, holds (branch greedy body exit)) (greedy : Bool) (exit : Nat) :
    ∀ count base, ∀ inst ∈ optionalCopies code size greedy exit count base, holds inst := by
  intro count
  induction count with
  | zero => intro base inst hmem; cases hmem
  | succ count ih =>
    intro base inst hmem
    simp only [optionalCopies, List.mem_cons, List.mem_append] at hmem
    rcases hmem with rfl | hmem | hmem
    · exact hbranch _ _ _
    · exact hcode _ _ inst hmem
    · exact ih _ inst hmem

/-- What holds of every instruction of a code: instructions that neither accept nor note a place
    may stand in any code, and only places of the pattern's own groups are noted. -/
theorem forall_mem_code {holds : Inst → Prop} (hjump : ∀ target, holds (.jump target))
    (hsplit : ∀ first second, holds (.split first second))
    (hconsume : ∀ members target, holds (.consume members target))
    (hcheck : ∀ assertion target, holds (.check assertion target)) (node : Node)
    (hsave : ∀ index ∈ node.groupIndices, ∀ target,
      holds (.save (2 * index) target) ∧ holds (.save (2 * index + 1) target)) :
    ∀ base exit, ∀ inst ∈ node.code base exit, holds inst := by
  -- greed only changes which of the two ways is preferred
  have hbranch : ∀ greedy body exit, holds (branch greedy body exit) := by
    intro greedy body exit
    cases greedy with
    | true => exact hsplit body exit
    | false => exact hsplit exit body
  induction node with
  | empty =>
    intro base exit inst hmem
    obtain rfl := List.mem_singleton.1 hmem
    exact hjump exit
  | set members =>
    intro base exit inst hmem
    obtain rfl := List.mem_singleton.1 hmem
    exact hconsume members exit
  | look assertion =>
    intro base exit inst hmem
    obtain rfl := List.mem_singleton.1 hmem
    exact hcheck assertion exit
  | group index name body ih =>
    intro base exit inst hmem
    simp only [Node.code, List.mem_cons, List.mem_append, List.not_mem_nil, or_false] at hmem
    rcases hmem with rfl | hmem | rfl
    · exact (hsave index (.head _) _).1
    · exact ih (fun other hother => hsave other (.tail _ hother)) _ _ inst hmem
    · exact (hsave index (.head _) _).2
  | cat first second ih ih' =>
    intro base exit inst hmem
    rcases List.mem_append.1 hmem with hmem | hmem
    · exact ih (fun other hother => hsave other (List.mem_append_left _ hother)) _ _ inst hmem
    · exact ih' (fun other hother => hsave other (List.mem_append_right _ hother)) _ _ inst hmem
  | alt first second ih ih' =>
    intro base exit inst hmem
    simp only [Node.code, List.mem_cons, List.mem_append] at hmem
    rcases hmem with rfl | hmem | hmem
    · exact hsplit _ _
    · exact ih (fun other hother => hsave other (List.mem_append_left _ hother)) _ _ inst hmem
    · exact ih' (fun other hother => hsave other (List.mem_append_right _ hother)) _ _ inst hmem
  | rep body min max greedy ih =>
    intro base exit inst hmem
    have hbody := ih hsave
    cases max with
    | some max =>
      simp only [Node.code, List.mem_append, List.mem_singleton] at hmem
      rcases hmem with (hmem | hmem) | rfl
      · exact forall_mem_copies hbody _ _ inst hmem
      · exact forall_mem_optionalCopies hbody hbranch _ _ _ _ inst hmem
      · exact hjump exit
    | none =>
      cases min with
      | zero =>
        simp only [Node.code, List.mem_cons, List.mem_append, List.not_mem_nil, or_false] at hmem
        rcases hmem with rfl | hmem | rfl
        · exact hbranch _ _ _
        · exact hbody _ _ inst hmem
        · exact hbranch _ _ _
      | succ min =>
        simp only [Node.code, List.mem_append, List.mem_singleton] at hmem
        rcases hmem with (hmem | hmem) | rfl
        · exact forall_mem_copies hbody _ _ inst hmem
        · exact hbody _ _ inst hmem
        · exact hbranch _ _ _

/-- A program accepts at its last address only. -/
theorem program_accept_iff (node : Node) (address : Nat) :
    node.program[address]? = some .accept ↔ address = node.size := by
  rw [Node.program, List.getElem?_toArray, List.getElem?_append, length_code]
  -- below the size stands the code of the pattern, at the size the accepting instruction
  by_cases hlt : address < node.size
  · rw [if_pos hlt]
    refine ⟨fun h => ?_, fun h => by omega⟩
    have hother : ∀ inst ∈ node.code 0 node.size, inst ≠ .accept :=
      forall_mem_code (by simp) (by simp) (by simp) (by simp) node (by simp) 0 node.size
    exact absurd rfl (hother _ (List.mem_of_getElem? h))
  · rw [if_neg hlt, List.getElem?_singleton]
    by_cases heq : address - node.size = 0
    · rw [if_pos heq]
      exact ⟨fun _ => by omega, fun _ => rfl⟩
    · rw [if_neg heq]
      exact ⟨fun h => by simp at h, fun h => by omega⟩

/-- Only places of the pattern's own groups are noted. -/
theorem program_save {node : Node} {address slot target : Nat}
    (h : node.program[address]? = some (.save slot target)) :
    ∃ index ∈ node.groupIndices, slot = 2 * index ∨ slot = 2 * index + 1 := by
  rw [Node.program, List.getElem?_toArray] at h
  have hcode : ∀ inst ∈ node.code 0 node.size, ∀ slot target, inst = .save slot target →
      ∃ index ∈ node.groupIndices, slot = 2 * index ∨ slot = 2 * index + 1 := by
    refine forall_mem_code (by simp) (by simp) (by simp) (by simp) node ?_ 0 node.size
    intro index hindex target
    refine ⟨?_, ?_⟩
    · intro slot target' heq
      cases heq
      exact ⟨index, hindex, .inl rfl⟩
    · intro slot target' heq
      cases heq
      exact ⟨index, hindex, .inr rfl⟩
  rcases List.mem_append.1 (List.mem_of_getElem? h) with hmem | hmem
  · exact hcode _ hmem slot target rfl
  · cases List.mem_singleton.1 hmem

/-- **Main.**  The program of a pattern leads from its start to acceptance between exactly the
    states between which the pattern leads. -/
theorem reaches_accept_iff_carries {σ : Type} (carrier : Carrier σ) (node : Node)
    (text : List Char) (s t : σ) :
    Reaches carrier node.program text 0 s node.size t ↔ node.Carries carrier text s t := by
  have hat : CodeAt node.program 0 (node.code 0 node.size ++ [Inst.accept]) := by
    intro k inst hk
    rw [Nat.zero_add, Node.program, List.getElem?_toArray]
    exact hk
  have hblock : Block carrier node.program text (node.Carries carrier text) 0 node.size 0
      (0 + node.size) :=
    block_code node 0 node.size hat.left
  rw [Nat.zero_add] at hblock
  refine ⟨?_, hblock.complete s t⟩
  intro hex
  obtain ⟨n, hrun⟩ := hex
  obtain ⟨u, m, -, hleads, hrest⟩ := hblock.sound n s node.size t (.inr (Nat.le_refl _)) hrun
  -- there is no way on from the accepting instruction
  have haccept := (program_accept_iff node node.size).2 rfl
  cases hrest with
  | stay => exact hleads
  | step hstep _ =>
    obtain ⟨-, hmem⟩ := hstep.move_inv haccept (by simp)
    simp [Carrier.moves, Inst.moves] at hmem

/-- Between places, these are the ones that the pattern spans. -/
theorem reaches_accept_iff (node : Node) (text : List Char) (i j : Nat) :
    Reaches places node.program text 0 i node.size j ↔ node.Spans text i j := by
  rw [reaches_accept_iff_carries, carries_places]

end Reroute.Pattern
