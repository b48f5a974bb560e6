/-
  Reroute.Proofs.Pattern.Literal — patterns that spell their matches character by character.

  A pattern may be a row of character sets and nothing else.  It then spans exactly the words with
  one character of each set (`spans_sets`).  Such patterns are written by escaping every character
  that has a meaning of its own: reading what is written gives back one set for each character
  (`reads_escaped`), and what is read one after the other stands one after the other
  (`Reads.append`, `parse_of_reads`).
-/
import Reroute.Pattern.Basic
import Reroute.Proofs.Pattern.Language

namespace Reroute

theorem CharSet.mem_single {c d : Char} : (CharSet.single c).mem d = true ↔ d = c := by
  show (decide (c ≤ d) && decide (d ≤ c)) = true ↔ d = c
  rw [Bool.and_eq_true, decide_eq_true_iff, decide_eq_true_iff]
  exact ⟨fun h => Char.le_antisymm h.2 h.1, fun h => h ▸ ⟨Char.le_refl d, Char.le_refl d⟩⟩

namespace Pattern

/-! ## §1. Spelled words. -/

/-- The word has one character of each set, in order. -/
def Spells : List CharSet → List Char → Prop
  | [], word => word = []
  | members :: sets, word => ∃ c rest, word = c :: rest ∧ members.mem c = true ∧ Spells sets rest

theorem spells_append {sets sets' : List CharSet} {word : List Char} :
    Spells (sets ++ sets') word ↔
      ∃ first second, word = first ++ second ∧ Spells sets first ∧ Spells sets' second := by
  induction sets generalizing word with
  | nil =>
    constructor
    · intro h
      exact ⟨[], word, rfl, rfl, h⟩
    · intro hex
      obtain ⟨first, second, rfl, rfl, h⟩ := hex
      exact h
  | cons members sets ih =>
    constructor
    · intro hex
      obtain ⟨c, rest, rfl, hmem, h⟩ := hex
      obtain ⟨first, second, rfl, hfirst, hsecond⟩ := ih.1 h
      exact ⟨c :: first, second, rfl, ⟨c, first, rfl, hmem, hfirst⟩, hsecond⟩
    · intro hex
      obtain ⟨_, second, rfl, ⟨c, first, rfl, hmem, hfirst⟩, hsecond⟩ := hex
      exact ⟨c, first ++ second, rfl, hmem, ih.2 ⟨first, second, rfl, hfirst, hsecond⟩⟩

theorem spells_singles {chars word : List Char} :
    Spells (chars.map .single) word ↔ word = chars := by
  induction chars generalizing word with
  | nil => exact Iff.rfl
  | cons c chars ih =>
    constructor
    · intro hex
      obtain ⟨d, rest, rfl, hmem, h⟩ := hex
      rw [CharSet.mem_single.1 hmem, ih.1 h]
    · intro heq
      subst heq
      exact ⟨c, chars, rfl, CharSet.mem_single.2 rfl, ih.2 rfl⟩

theorem spans_seq_cons {node : Node} {nodes : List Node} {text : List Char} {i j : Nat} :
    (Node.seq (node :: nodes)).Spans text i j ↔
      ∃ k, node.Spans text i k ∧ (Node.seq nodes).Spans text k j := by
  cases nodes with
  | nil =>
    show node.Spans text i j ↔ ∃ k, node.Spans text i k ∧ k = j
    simp
  | cons next nodes => exact Iff.rfl

theorem cons_prefix_drop {text word : List Char} {c : Char} {i : Nat} :
    c :: word <+: text.drop i ↔ text[i]? = some c ∧ word <+: text.drop (i + 1) := by
  rw [← List.head?_drop, ← List.tail_drop]
  cases text.drop i with
  | nil => simp
  | cons d rest => simp [List.cons_prefix_cons, eq_comm]

/-- A row of sets spans the words that it spells. -/
theorem spans_sets {text : List Char} (sets : List CharSet) : ∀ {i j : Nat},
    (Node.seq (sets.map .set)).Spans text i j ↔
      ∃ word, Spells sets word ∧ word <+: text.drop i ∧ j = i + word.length := by
  induction sets with
  | nil =>
    intro i j
    constructor
    · intro h
      obtain rfl : i = j := h
      exact ⟨[], rfl, List.nil_prefix, rfl⟩
    · intro hex
      obtain ⟨_, rfl, -, rfl⟩ := hex
      rfl
  | cons members sets ih =>
    intro i j
    rw [List.map_cons, spans_seq_cons]
    constructor
    · intro hex
      obtain ⟨_, ⟨c, hchar, hmem, rfl⟩, hrest⟩ := hex
      obtain ⟨word, hspells, hword, rfl⟩ := ih.1 hrest
      refine ⟨c :: word, ⟨c, word, rfl, hmem, hspells⟩, cons_prefix_drop.2 ⟨hchar, hword⟩, ?_⟩
      rw [List.length_cons]
      omega
    · intro hex
      obtain ⟨_, ⟨c, word, rfl, hmem, hspells⟩, hword, rfl⟩ := hex
      obtain ⟨hchar, hword⟩ := cons_prefix_drop.1 hword
      refine ⟨i + 1, ⟨c, hchar, hmem, rfl⟩, ih.2 ⟨word, hspells, hword, ?_⟩⟩
      rw [List.length_cons]
      omega

/-! ## §2. Reading rows of sets. -/

/-- The state of reading after a row of parts. -/
def Reading.after (parts : List Part) : Reading :=
  { Reading.start with level := { Level.opening none with items := (parts.map some).reverse } }

theorem push_after (parts : List Part) (part : Part) :
    (Reading.after parts).push part = .after (parts ++ [part]) := by
  simp [Reading.after, Reading.push, Level.push]

/-- The parts are the sets, and a row of them is within the limit of nesting. -/
def AreSets (parts : List Part) (sets : List CharSet) : Prop :=
  parts.map Part.node = sets.map .set ∧ ∀ part ∈ parts, part.depth < maxNesting

/-- The text is read as the row of sets, whatever stands before and after it. -/
def Reads (text : List Char) (sets : List CharSet) : Prop :=
  ∃ parts, AreSets parts sets ∧ ∀ before fuel rest, ∃ extra,
    Reading.run (text.length + fuel) (.after before) (text ++ rest) =
      Reading.run (extra + fuel) (.after (before ++ parts)) rest

theorem reads_nil : Reads [] [] := by
  refine ⟨[], ⟨rfl, by simp⟩, fun before fuel rest => ⟨0, ?_⟩⟩
  rw [List.append_nil]
  rfl

theorem Reads.append {text text' : List Char} {sets sets' : List CharSet} (h : Reads text sets)
    (h' : Reads text' sets') : Reads (text ++ text') (sets ++ sets') := by
  obtain ⟨parts, ⟨hnodes, hdepth⟩, hreads⟩ := h
  obtain ⟨parts', ⟨hnodes', hdepth'⟩, hreads'⟩ := h'
  refine ⟨parts ++ parts', ⟨?_, ?_⟩, fun before fuel rest => ?_⟩
  · rw [List.map_append, List.map_append, hnodes, hnodes']
  · intro part hmem
    exact (List.mem_append.1 hmem).elim (hdepth part) (hdepth' part)
  · obtain ⟨extra, hfirst⟩ := hreads before (text'.length + fuel) (text' ++ rest)
    obtain ⟨extra', hsecond⟩ := hreads' (before ++ parts) (extra + fuel) rest
    refine ⟨extra' + extra, ?_⟩
    rw [List.length_append, Nat.add_assoc, List.append_assoc, hfirst, Nat.add_left_comm, hsecond,
      List.append_assoc, Nat.add_assoc]

/-- A text that one step reads as a set. -/
theorem reads_of_step {c : Char} {text : List Char} {members : CharSet} {depth : Nat}
    (hdepth : depth < maxNesting)
    (h : ∀ before rest, (Reading.after before).step c (text ++ rest) =
      .ok ((Reading.after before).push { node := .set members, depth }, rest)) :
    Reads (c :: text) [members] := by
  refine ⟨[{ node := .set members, depth }], ⟨rfl, by simpa using hdepth⟩, ?_⟩
  intro before fuel rest
  refine ⟨text.length, ?_⟩
  -- without the flag for blanks nothing is skipped between characters
  have hskip : (Reading.after before).flags.skip (c :: (text ++ rest)) = c :: (text ++ rest) := rfl
  rw [List.length_cons, Nat.add_right_comm, Reading.run, List.cons_append, hskip]
  simp only [h, push_after]
  rfl

/-- A character without a meaning of its own stands for itself. -/
theorem reads_plain {c : Char} (h : Escape.isMeta c = false) : Reads [c] [.single c] := by
  refine reads_of_step (Nat.succ_pos _) fun before rest => ?_
  unfold Reading.step
  -- every character that the step treats apart has a meaning of its own
  split
  case h_13 => rfl
  all_goals cases h

/-- A character that has one stands for itself after a backslash. -/
theorem reads_meta {c : Char} (h : Escape.isMeta c = true) : Reads ['\\', c] [.single c] := by
  refine reads_of_step (Nat.succ_pos _) fun before rest => ?_
  -- an escaped digit would be a reference, but no digit has a meaning of its own
  have hdigit : Unicode.isBasicDigit c = false := by
    simp only [Escape.isMeta, List.contains_iff_mem, List.mem_cons, List.not_mem_nil, or_false] at h
    rcases h with rfl | rfl | rfl | rfl | rfl | rfl | rfl | rfl | rfl | rfl | rfl | rfl | rfl |
      rfl | rfl | rfl | rfl | rfl
    all_goals rfl
  have hread : Escape.read (Reading.after before).flags (c :: rest) = .ok (.char c false, rest) := by
    have hstands : Escape.standsForItself c = true := by
      rw [Escape.standsForItself, h]
      rfl
    unfold Escape.read
    simp only [hdigit, hstands, Bool.false_eq_true, ↓reduceIte]
  rw [List.singleton_append, Reading.step, hread]
  rfl

/-- The text with a backslash before every character that has a meaning of its own. -/
def escaped (chars : List Char) : List Char :=
  chars.flatMap fun c => if Escape.isMeta c then ['\\', c] else [c]

theorem reads_escaped (chars : List Char) : Reads (escaped chars) (chars.map .single) := by
  induction chars with
  | nil => exact reads_nil
  | cons c chars ih =>
    have hfirst : Reads (if Escape.isMeta c then ['\\', c] else [c]) [.single c] := by
      cases hmeta : Escape.isMeta c with
      | true => exact reads_meta hmeta
      | false => exact reads_plain hmeta
    exact hfirst.append ih

theorem foldr_max_lt {depths : List Nat} {limit : Nat} (h : ∀ depth ∈ depths, depth < limit)
    (hpos : 0 < limit) : depths.foldr Nat.max 0 < limit := by
  induction depths with
  | nil => exact hpos
  | cons depth depths ih =>
    exact Nat.max_lt.2 ⟨h depth List.mem_cons_self, ih fun d hd => h d (List.mem_cons_of_mem _ hd)⟩

/-- A row nests at most one level deeper than its parts. -/
theorem rowDepth_le {depths : List Nat} {limit : Nat} (h : ∀ depth ∈ depths, depth < limit) :
    rowDepth depths ≤ limit := by
  match depths with
  | [] => exact Nat.zero_le _
  | [depth] => exact Nat.le_of_lt (h depth List.mem_cons_self)
  | first :: second :: rest =>
    exact foldr_max_lt h (Nat.lt_of_le_of_lt (Nat.zero_le _) (h first List.mem_cons_self))

/-- A text that is read as a row of sets is the pattern of that row. -/
theorem parse_of_reads {text : List Char} {sets : List CharSet} (h : Reads text sets) :
    Node.parse text = .ok (Node.seq (sets.map .set)) := by
  obtain ⟨parts, ⟨hnodes, hdepth⟩, hreads⟩ := h
  obtain ⟨extra, hrun⟩ := hreads [] 1 []
  rw [List.append_nil, List.nil_append] at hrun
  have hstart : Reading.start = .after [] := rfl
  -- the parts are the items of the only alternative
  have hcurrent : (Reading.after parts).level.current.node = Node.seq (sets.map .set) := by
    show Node.seq ((parts.map some).reverse.reverse.filterMap (·.map Part.node)) = _
    rw [List.reverse_reverse, List.filterMap_map, ← hnodes]
    exact congrArg Node.seq (congrFun List.filterMap_eq_map parts)
  have hlimit : (Reading.after parts).level.depth ≤ maxNesting := by
    show rowDepth ((parts.map some).reverse.map _) ≤ maxNesting
    refine rowDepth_le fun depth hmem => ?_
    rw [← List.map_reverse, List.map_map] at hmem
    obtain ⟨part, hpart, rfl⟩ := List.mem_map.1 hmem
    exact hdepth part (List.mem_reverse.1 hpart)
  rw [Node.parse, hstart, hrun, Reading.run]
  show (if maxNesting < (Reading.after parts).level.depth then _
    else Except.ok (Reading.after parts).level.current.node) = _
  rw [if_neg (Nat.not_lt.2 hlimit), hcurrent]

end Pattern

end Reroute
