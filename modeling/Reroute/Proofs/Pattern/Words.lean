/-
  Reroute.Proofs.Pattern.Words — the words of a pattern.

  A pattern without assertions does not look beyond what it takes, so it has a set of words of its
  own (`Node.Accepts`), and it spans a part of a text exactly if that part is one of its words
  (`spans_iff_accepts`).  For rows of sets, of runs and of groups the words are read off the row
  (`accepts_seq_append`, `accepts_literal`, `accepts_seq_run`).
-/
import Reroute.Proofs.Pattern.Literal

namespace Reroute.Pattern

/-! ## §1. Words. -/

/-- The word is one that the pattern matches as a whole.  Assertions, which are about the text
    around a word, have none. -/
def Node.Accepts : Node → List Char → Prop
  | empty, word => word = []
  | set members, word => ∃ c, word = [c] ∧ members.mem c = true
  | look _, _ => False
  | group _ _ body, word => body.Accepts word
  | cat first second, word => ∃ u v, word = u ++ v ∧ first.Accepts u ∧ second.Accepts v
  | alt first second, word => first.Accepts word ∨ second.Accepts word
  | rep body min max _, word =>
    ∃ words : List (List Char), word = words.flatten ∧ min ≤ words.length ∧
      (∀ bound, max = some bound → words.length ≤ min + (bound - min)) ∧
      ∀ part ∈ words, body.Accepts part

section Spans

variable {text : List Char}

theorem append_prefix_drop {u v : List Char} {i : Nat} :
    u ++ v <+: text.drop i ↔ u <+: text.drop i ∧ v <+: text.drop (i + u.length) := by
  rw [← List.drop_drop]
  constructor
  · intro hex
    obtain ⟨rest, hrest⟩ := hex
    rw [← hrest, List.append_assoc, List.drop_left]
    exact ⟨List.prefix_append _ _, List.prefix_append _ _⟩
  · intro hex
    obtain ⟨⟨rest, hrest⟩, hv⟩ := hex
    rw [← hrest, List.drop_left] at hv
    rw [← hrest]
    exact (List.prefix_append_right_inj u).2 hv

/-- Rounds of a step that spans words span the words one after the other. -/
theorem rounds_iff_flatten {step : Nat → Nat → Prop} {accepts : List Char → Prop}
    (hstep : ∀ i j, step i j ↔ ∃ word, accepts word ∧ word <+: text.drop i ∧ j = i + word.length)
    (n : Nat) : ∀ {i j : Nat}, Rounds step n i j ↔
      ∃ words : List (List Char), words.length = n ∧ (∀ part ∈ words, accepts part) ∧
        words.flatten <+: text.drop i ∧ j = i + words.flatten.length := by
  induction n with
  | zero =>
    intro i j
    constructor
    · intro h
      obtain rfl : i = j := h
      exact ⟨[], rfl, by simp, List.nil_prefix, rfl⟩
    · intro hex
      obtain ⟨words, hlength, -, -, rfl⟩ := hex
      obtain rfl := List.eq_nil_of_length_eq_zero hlength
      rfl
  | succ n ih =>
    intro i j
    constructor
    · intro hex
      obtain ⟨k, hfirst, hrest⟩ := hex
      obtain ⟨word, hword, hstands, rfl⟩ := (hstep i k).1 hfirst
      obtain ⟨words, rfl, hwords, hstands', rfl⟩ := ih.1 hrest
      refine ⟨word :: words, rfl, ?_, ?_, ?_⟩
      · intro part hpart
        rcases List.mem_cons.1 hpart with rfl | hpart
        · exact hword
        · exact hwords part hpart
      · rw [List.flatten_cons]
        exact append_prefix_drop.2 ⟨hstands, hstands'⟩
      · rw [List.flatten_cons, List.length_append, Nat.add_assoc]
    · intro hex
      obtain ⟨words, hlength, hwords, hstands, rfl⟩ := hex
      obtain ⟨word, words, rfl⟩ := List.exists_cons_of_length_eq_add_one hlength
      rw [List.flatten_cons] at hstands ⊢
      obtain ⟨hfirst, hrest⟩ := append_prefix_drop.1 hstands
      refine ⟨i + word.length, (hstep i _).2 ⟨word, hwords word (.head _), hfirst, rfl⟩, ?_⟩
      refine ih.2 ⟨words, by simpa using hlength, fun part hpart => hwords part (.tail _ hpart),
        hrest, ?_⟩
      rw [List.length_append, Nat.add_assoc]

/-- **Main.**  A pattern without assertions spans the places of its words. -/
theorem spans_iff_accepts {node : Node} (h : node.isPlain = true) : ∀ {i j : Nat},
    node.Spans text i j ↔
      ∃ word, node.Accepts word ∧ word <+: text.drop i ∧ j = i + word.length := by
  induction node with
  | empty =>
    intro i j
    constructor
    · intro h
      obtain rfl : i = j := h
      exact ⟨[], rfl, List.nil_prefix, rfl⟩
    · intro hex
      obtain ⟨_, rfl, -, rfl⟩ := hex
      rfl
  | set members =>
    intro i j
    constructor
    · intro hex
      obtain ⟨c, hchar, hmem, rfl⟩ := hex
      exact ⟨[c], ⟨c, rfl, hmem⟩, cons_prefix_drop.2 ⟨hchar, List.nil_prefix⟩, rfl⟩
    · intro hex
      obtain ⟨_, ⟨c, rfl, hmem⟩, hstands, rfl⟩ := hex
      exact ⟨c, (cons_prefix_drop.1 hstands).1, hmem, rfl⟩
  | look assertion => simp [Node.isPlain] at h
  | group index name body ih => exact ih h
  | cat first second ih ih' =>
    simp only [Node.isPlain, Bool.and_eq_true] at h
    intro i j
    constructor
    · intro hex
      obtain ⟨k, hfirst, hsecond⟩ := hex
      obtain ⟨u, hu, hstands, rfl⟩ := (ih h.1).1 hfirst
      obtain ⟨v, hv, hstands', rfl⟩ := (ih' h.2).1 hsecond
      refine ⟨u ++ v, ⟨u, v, rfl, hu, hv⟩, append_prefix_drop.2 ⟨hstands, hstands'⟩, ?_⟩
      rw [List.length_append, Nat.add_assoc]
    · intro hex
      obtain ⟨_, ⟨u, v, rfl, hu, hv⟩, hstands, rfl⟩ := hex
      obtain ⟨hfirst, hsecond⟩ := append_prefix_drop.1 hstands
      refine ⟨i + u.length, (ih h.1).2 ⟨u, hu, hfirst, rfl⟩, (ih' h.2).2 ⟨v, hv, hsecond, ?_⟩⟩
      rw [List.length_append, Nat.add_assoc]
  | alt first second ih ih' =>
    simp only [Node.isPlain, Bool.and_eq_true] at h
    intro i j
    have hor : (Node.alt first second).Spans text i j ↔
        first.Spans text i j ∨ second.Spans text i j := Iff.rfl
    rw [hor, ih h.1, ih' h.2]
    constructor
    · intro hor
      rcases hor with ⟨word, hword, hplace⟩ | ⟨word, hword, hplace⟩
      · exact ⟨word, .inl hword, hplace⟩
      · exact ⟨word, .inr hword, hplace⟩
    · intro hex
      obtain ⟨word, hword | hword, hplace⟩ := hex
      · exact .inl ⟨word, hword, hplace⟩
      · exact .inr ⟨word, hword, hplace⟩
  | rep body min max greedy ih =>
    intro i j
    have hrounds : ∀ n, Rounds (body.Spans text) n i j ↔ _ :=
      fun n => rounds_iff_flatten (fun i j => ih h) n
    constructor
    · intro hex
      obtain ⟨n, hmin, hmax, hround⟩ := hex
      obtain ⟨words, rfl, hwords, hplace⟩ := (hrounds n).1 hround
      exact ⟨words.flatten, ⟨words, rfl, hmin, hmax, hwords⟩, hplace⟩
    · intro hex
      obtain ⟨_, ⟨words, rfl, hmin, hmax, hwords⟩, hplace⟩ := hex
      exact ⟨words.length, hmin, hmax, (hrounds _).2 ⟨words, rfl, hwords, hplace⟩⟩

end Spans

/-! ## §2. Rows. -/

section Rows

variable {word : List Char}

theorem accepts_seq_cons {node : Node} {nodes : List Node} :
    (Node.seq (node :: nodes)).Accepts word ↔
      ∃ u v, word = u ++ v ∧ node.Accepts u ∧ (Node.seq nodes).Accepts v := by
  cases nodes with
  | nil =>
    constructor
    · intro h
      exact ⟨word, [], (List.append_nil word).symm, h, rfl⟩
    · intro hex
      obtain ⟨u, _, rfl, hu, rfl⟩ := hex
      rwa [List.append_nil]
  | cons next nodes => exact Iff.rfl

theorem accepts_seq_append {nodes nodes' : List Node} : ∀ {word : List Char},
    (Node.seq (nodes ++ nodes')).Accepts word ↔
      ∃ u v, word = u ++ v ∧ (Node.seq nodes).Accepts u ∧ (Node.seq nodes').Accepts v := by
  induction nodes with
  | nil =>
    intro word
    constructor
    · intro h
      exact ⟨[], word, rfl, rfl, h⟩
    · intro hex
      obtain ⟨_, v, rfl, rfl, hv⟩ := hex
      exact hv
  | cons node nodes ih =>
    intro word
    rw [List.cons_append, accepts_seq_cons]
    simp only [ih, accepts_seq_cons]
    constructor
    · intro hex
      obtain ⟨u, _, rfl, hu, v, w, rfl, hv, hw⟩ := hex
      exact ⟨u ++ v, w, (List.append_assoc u v w).symm, ⟨u, v, rfl, hu, hv⟩, hw⟩
    · intro hex
      obtain ⟨_, w, rfl, ⟨u, v, rfl, hu, hv⟩, hw⟩ := hex
      exact ⟨u, v ++ w, List.append_assoc u v w, hu, v, w, rfl, hv, hw⟩

theorem accepts_sets {sets : List CharSet} : ∀ {word : List Char},
    (Node.seq (sets.map .set)).Accepts word ↔ Spells sets word := by
  induction sets with
  | nil => intro word; exact Iff.rfl
  | cons members sets ih =>
    intro word
    rw [List.map_cons, accepts_seq_cons]
    constructor
    · intro hex
      obtain ⟨_, v, rfl, ⟨c, rfl, hmem⟩, hv⟩ := hex
      exact ⟨c, v, rfl, hmem, ih.1 hv⟩
    · intro hex
      obtain ⟨c, v, rfl, hmem, hv⟩ := hex
      exact ⟨[c], v, rfl, ⟨c, rfl, hmem⟩, ih.2 hv⟩

/-- A run of characters of a set, however long. -/
theorem accepts_run {members : CharSet} {greedy : Bool} :
    (Node.rep (.set members) 0 none greedy).Accepts word ↔ ∀ c ∈ word, members.mem c = true := by
  constructor
  · intro hex c hc
    obtain ⟨words, rfl, -, -, hwords⟩ := hex
    obtain ⟨part, hpart, hc⟩ := List.mem_flatten.1 hc
    obtain ⟨d, rfl, hmem⟩ := hwords part hpart
    rwa [List.mem_singleton.1 hc]
  · intro hmem
    refine ⟨word.map ([·]), ?_, Nat.zero_le _, by simp, ?_⟩
    · induction word with
      | nil => rfl
      | cons c word ih =>
        rw [List.map_cons, List.flatten_cons, ← ih fun d hd => hmem d (.tail _ hd)]
        rfl
    · intro part hpart
      obtain ⟨c, hc, rfl⟩ := List.mem_map.1 hpart
      exact ⟨c, rfl, hmem c hc⟩

/-- Fixed characters before other nodes. -/
theorem accepts_literal {chars : List Char} {nodes : List Node} :
    (Node.seq ((chars.map .single).map .set ++ nodes)).Accepts word ↔
      ∃ rest, word = chars ++ rest ∧ (Node.seq nodes).Accepts rest := by
  rw [accepts_seq_append]
  simp only [accepts_sets, spells_singles]
  constructor
  · intro hex
    obtain ⟨_, rest, rfl, rfl, hrest⟩ := hex
    exact ⟨rest, rfl, hrest⟩
  · intro hex
    obtain ⟨rest, rfl, hrest⟩ := hex
    exact ⟨chars, rest, rfl, rfl, hrest⟩

/-- A run before other nodes. -/
theorem accepts_seq_run {members : CharSet} {greedy : Bool} {nodes : List Node} :
    (Node.seq (.rep (.set members) 0 none greedy :: nodes)).Accepts word ↔
      ∃ run rest, word = run ++ rest ∧ (∀ c ∈ run, members.mem c = true) ∧
        (Node.seq nodes).Accepts rest := by
  rw [accepts_seq_cons]
  simp only [accepts_run]

/-- A set before other nodes. -/
theorem accepts_seq_set {members : CharSet} {nodes : List Node} :
    (Node.seq (.set members :: nodes)).Accepts word ↔
      ∃ c rest, word = c :: rest ∧ members.mem c = true ∧ (Node.seq nodes).Accepts rest := by
  rw [accepts_seq_cons]
  constructor
  · intro hex
    obtain ⟨_, rest, rfl, ⟨c, rfl, hmem⟩, hrest⟩ := hex
    exact ⟨c, rest, rfl, hmem, hrest⟩
  · intro hex
    obtain ⟨c, rest, rfl, hmem, hrest⟩ := hex
    exact ⟨[c], rest, rfl, ⟨c, rfl, hmem⟩, hrest⟩

end Rows

end Reroute.Pattern
