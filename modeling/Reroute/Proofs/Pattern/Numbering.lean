/-
  Reroute.Proofs.Pattern.Numbering — capture groups have numbers and names of their own.

  Slots 0 and 1 of a thread hold the ends of the whole match, and no other two groups may share
  slots.  So the reader counts groups from 1 on, and no two groups of a pattern have the same number
  or the same name.

  All of this follows from what one step of the reader does: the groups on the open levels stay, or
  some are lost (a repetition of no rounds has no groups), and at most one group is added, with the
  next number and with a well-formed name that no group had before (`Reading.Adds`, `adds_step`).

  Main statements (`numbered_parse`, `distinct_parse`, `wellNamed_parse`).
-/
import Reroute.Pattern.Parser
import Reroute.Proofs.Pattern.Language

namespace Reroute

/-- A computation succeeds if its parts do. -/
theorem bind_eq_ok_iff {ε α β : Type} {first : Except ε α} {next : α → Except ε β} {result : β} :
    first >>= next = .ok result ↔ ∃ value, first = .ok value ∧ next value = .ok result := by
  cases first with
  | error fault => simp [bind, Except.bind]
  | ok value => simp [bind, Except.bind]

namespace Pattern

/-! ## §1. The groups of a node. -/

/-- The capture groups with their numbers and names, from left to right. -/
def Node.groups : Node → List (Nat × Option String)
  | empty | set _ | look _ => []
  | group index name body => (index, name) :: body.groups
  | cat first second | alt first second => first.groups ++ second.groups
  | rep body _ _ _ => body.groups

theorem groupIndices_eq_map_groups (node : Node) :
    node.groupIndices = node.groups.map (·.1) := by
  induction node with
  | empty | set _ | look _ => rfl
  | group index name body ih => simp [Node.groupIndices, Node.groups, ih]
  | cat first second ih ih' => simp [Node.groupIndices, Node.groups, ih, ih']
  | alt first second ih ih' => simp [Node.groupIndices, Node.groups, ih, ih']
  | rep body min max greedy ih => exact ih

theorem groupNames_eq_filterMap_groups (node : Node) :
    node.groupNames = node.groups.filterMap fun group => group.2.map (·, group.1) := by
  induction node with
  | empty | set _ | look _ => rfl
  | group index name body ih => cases name <;> simp [Node.groupNames, Node.groups, ih]
  | cat first second ih ih' => simp [Node.groupNames, Node.groups, ih, ih']
  | alt first second ih ih' => simp [Node.groupNames, Node.groups, ih, ih']
  | rep body min max greedy ih => exact ih

/-- A named group has a number. -/
theorem mem_groupIndices_of_mem_groupNames {node : Node} {name : String} {index : Nat}
    (h : (name, index) ∈ node.groupNames) : index ∈ node.groupIndices := by
  rw [groupNames_eq_filterMap_groups] at h
  obtain ⟨group, hmem, heq⟩ := List.mem_filterMap.1 h
  obtain ⟨known, -, hpair⟩ := Option.map_eq_some_iff.1 heq
  cases hpair
  rw [groupIndices_eq_map_groups]
  exact List.mem_map.2 ⟨group, hmem, rfl⟩

theorem groups_seq (nodes : List Node) : (Node.seq nodes).groups = nodes.flatMap Node.groups := by
  induction nodes with
  | nil => rfl
  | cons node rest ih =>
    cases rest with
    | nil => simp [Node.seq]
    | cons next rest =>
      show node.groups ++ (Node.seq (next :: rest)).groups = _
      rw [ih, ← List.flatMap_cons]

theorem groups_oneOf (nodes : List Node) :
    (Node.oneOf nodes).groups = nodes.flatMap Node.groups := by
  induction nodes with
  | nil => rfl
  | cons node rest ih =>
    cases rest with
    | nil => simp [Node.oneOf]
    | cons next rest =>
      show node.groups ++ (Node.oneOf (next :: rest)).groups = _
      rw [ih, ← List.flatMap_cons]

theorem groups_atom {flags : Flags} {atom : Atom} {node : Node}
    (h : atom.node flags = .ok node) : node.groups = [] := by
  unfold Atom.node at h
  split at h
  · split at h
    · cases h
    · cases h; rfl
  · cases h; rfl
  · cases h; rfl

theorem groups_dotNode {flags : Flags} {node : Node} (h : dotNode flags = .ok node) :
    node.groups = [] := by
  unfold dotNode at h
  split at h
  · cases h
  · split at h
    · cases h; rfl
    · split at h
      · cases h; rfl
      · cases h; rfl

/-! ## §2. The groups of an open level. -/

/-- The groups are among the others: whatever is counted, there are no more of them. -/
def Within (groups others : List (Nat × Option String)) : Prop :=
  ∀ counted, groups.countP counted ≤ others.countP counted

theorem Within.refl (groups : List (Nat × Option String)) : Within groups groups :=
  fun _ => Nat.le_refl _

theorem Within.append {first first' second second' : List (Nat × Option String)}
    (h : Within first first') (h' : Within second second') :
    Within (first ++ second) (first' ++ second') := by
  intro counted
  rw [List.countP_append, List.countP_append]
  exact Nat.add_le_add (h counted) (h' counted)

theorem Within.mem {groups others : List (Nat × Option String)} (h : Within groups others)
    {group : Nat × Option String} (hmem : group ∈ groups) : group ∈ others := by
  have hpos : 0 < groups.countP (· == group) := List.countP_pos_iff.2 ⟨group, hmem, by simp⟩
  obtain ⟨other, hother, heq⟩ := List.countP_pos_iff.1 (Nat.lt_of_lt_of_le hpos (h _))
  rwa [← eq_of_beq heq]

theorem within_repeated (node : Node) (min : Nat) (max : Option Nat) (greedy : Bool) :
    Within (node.repeated min max greedy).groups node.groups := by
  unfold Node.repeated
  split
  · intro counted
    exact Nat.zero_le _
  · exact .refl _

namespace Level

/-- The groups read so far on a level, and the group that it is. -/
def groups (level : Level) : List (Nat × Option String) :=
  level.capture.toList ++
    (level.current.node.groups ++ level.alternatives.flatMap (·.node.groups))

theorem groups_current_cons (level : Level) (item : Option Part) (items : List (Option Part)) :
    ({ level with items := item :: items } : Level).current.node.groups =
      ({ level with items } : Level).current.node.groups ++
        item.toList.flatMap (·.node.groups) := by
  simp only [current, groups_seq, List.reverse_cons, List.filterMap_append, List.flatMap_append]
  cases item <;> rfl

theorem countP_push (level : Level) (part : Part) (counted : Nat × Option String → Bool) :
    (level.push part).groups.countP counted =
      level.groups.countP counted + part.node.groups.countP counted := by
  have hcurrent : (level.push part).current.node.groups =
      level.current.node.groups ++ part.node.groups := by
    have hcons := groups_current_cons level (some part) level.items
    rwa [Option.toList_some, List.flatMap_singleton] at hcons
  unfold groups
  rw [hcurrent]
  simp only [push, List.countP_append]
  omega

/-- The start of the next alternative moves the current one. -/
theorem groups_nextAlternative (level : Level) : level.nextAlternative.groups = level.groups := by
  simp [groups, nextAlternative, current, Node.seq, Node.groups]

/-- A level has the groups of the node that it becomes. -/
theorem countP_node (level : Level) (counted : Nat × Option String → Bool) :
    level.node.groups.countP counted = level.groups.countP counted := by
  have hbody : (Node.oneOf
      ((level.current :: level.alternatives).reverse.map Part.node)).groups.countP counted =
        (level.current.node.groups ++
          level.alternatives.flatMap (·.node.groups)).countP counted := by
    have hperm := (level.current :: level.alternatives).reverse_perm
    rw [groups_oneOf, List.flatMap_map]
    exact (hperm.flatMap_right (·.node.groups)).countP_eq counted
  unfold node groups
  cases level.capture with
  | none => exact hbody
  | some capture =>
    show List.countP counted (capture :: _) = List.countP counted (capture :: _)
    rw [List.countP_cons, List.countP_cons, hbody]
    rfl

theorem within_repeatLast {level level' : Level} {min : Nat} {max : Option Nat} {greedy : Bool}
    (h : level.repeatLast min max greedy = .ok level') : Within level'.groups level.groups := by
  unfold repeatLast at h
  split at h
  · next part items hitems =>
    cases h
    have hlevel : level.current.node.groups =
        ({ level with items } : Level).current.node.groups ++ part.node.groups := by
      have hcons := groups_current_cons level (some part) items
      rw [← hitems] at hcons
      simpa using hcons
    unfold groups
    rw [hlevel, groups_current_cons]
    refine (Within.refl _).append (.append (.append (.refl _) ?_) (.refl _))
    simpa using within_repeated part.node min max greedy
  · cases h

end Level

/-! ## §3. One step of the reader. -/

namespace Reading

variable {state state' : Reading} {rest rest' : List Char}

/-- The groups on all open levels. -/
def groups (state : Reading) : List (Nat × Option String) :=
  state.level.groups ++ state.outer.flatMap (·.1.groups)

/-- What a step may do to the groups: it adds none, or one with the next number whose name, if it
    has one, is well-formed and new. -/
inductive Adds (state state' : Reading) : Prop where
  | nothing (hgroups : Within state'.groups state.groups)
      (hcaptures : state'.captures = state.captures) (hnames : state'.names = state.names)
  | group {name : Option String}
      (hgroups : Within state'.groups ((state.captures + 1, name) :: state.groups))
      (hcaptures : state'.captures = state.captures + 1)
      (hnames : state'.names = name.toList ++ state.names)
      (hnew : ∀ known ∈ state.names, name ≠ some known)
      (hwell : ∀ given, name = some given → isGroupName given.toList = true)

theorem adds_push {part : Part} (h : part.node.groups = []) : state.Adds (state.push part) := by
  refine .nothing (fun counted => ?_) rfl rfl
  simp only [groups, push, List.countP_append, Level.countP_push, h, List.countP_nil]
  exact Nat.le_refl _

/-- A change of the level alone. -/
theorem adds_level {level : Level} (h : Within level.groups state.level.groups) :
    state.Adds { state with level } :=
  .nothing (h.append (.refl _)) rfl rfl

theorem adds_openGroup (flags : Flags) : state.Adds (state.openGroup none flags) := by
  refine .nothing (fun counted => ?_) rfl rfl
  simp [groups, openGroup, Level.groups, Level.opening, Level.current, Node.seq, Node.groups]

theorem adds_openCapture {name : Option String} (hnew : ∀ known ∈ state.names, name ≠ some known)
    (hwell : ∀ given, name = some given → isGroupName given.toList = true) :
    state.Adds (state.openCapture name) := by
  refine .group (fun counted => ?_) rfl rfl hnew hwell
  simp [groups, openCapture, openGroup, Level.groups, Level.opening, Level.current, Node.seq,
    Node.groups]

theorem adds_closeGroup (h : state.closeGroup = .ok state') : state.Adds state' := by
  unfold closeGroup at h
  split at h
  · next level flags outer houter =>
    cases h
    refine .nothing (fun counted => ?_) rfl rfl
    -- the level that is closed becomes an item of the level around it
    simp only [groups, List.countP_append, Level.countP_push, Level.countP_node, houter,
      List.flatMap_cons]
    omega
  · cases h

theorem adds_setFlags (flags : Flags) : state.Adds (state.setFlags flags) := by
  refine .nothing ?_ rfl rfl
  unfold groups setFlags Level.groups
  rw [Level.groups_current_cons]
  simpa using Within.refl _

/-- A name that is read before the angle bracket is well-formed. -/
theorem isGroupName_of_readGroupName {name : String} (h : readGroupName rest = .ok (name, rest')) :
    isGroupName name.toList = true := by
  unfold readGroupName at h
  split at h
  · split at h
    · next hname =>
      cases h
      rwa [String.toList_ofList]
    · cases h
  · cases h

theorem adds_readGroup (h : state.readGroup rest = .ok (state', rest')) : state.Adds state' := by
  -- a named group is opened as a capture, whichever way its name is written
  have hnamed : ∀ name after, isGroupName name.toList = true →
      (if state.names.contains name then .error (.repeatedGroupName name)
        else pure (state.openCapture (some name), after) : Except Fault (Reading × List Char)) =
          .ok (state', rest') → state.Adds state' := by
    intro name after hname hopen
    split at hopen
    · cases hopen
    · next hcontains =>
      cases hopen
      refine adds_openCapture ?_ ?_
      · rintro known hknown heq
        cases heq
        exact hcontains (List.contains_iff_mem.2 hknown)
      · rintro given heq
        cases heq
        exact hname
  unfold readGroup at h
  simp only at h
  split at h
  · cases h
  · cases h
  · cases h
  · cases h
  · obtain ⟨⟨name, after⟩, hname, hopen⟩ := bind_eq_ok_iff.1 h
    exact hnamed name after (isGroupName_of_readGroupName hname) hopen
  · obtain ⟨⟨name, after⟩, hname, hopen⟩ := bind_eq_ok_iff.1 h
    exact hnamed name after (isGroupName_of_readGroupName hname) hopen
  · obtain ⟨⟨settings, after⟩, -, hset⟩ := bind_eq_ok_iff.1 h
    simp only at hset
    split at hset
    · split at hset
      · cases hset
      · cases hset
        exact adds_setFlags _
    · cases hset
      exact adds_openGroup _
    · cases hset
  · cases h
    exact adds_openCapture (by simp) (by simp)

theorem adds_readRepeat {min : Nat} {max : Option Nat}
    (h : state.readRepeat min max rest = .ok (state', rest')) : state.Adds state' := by
  unfold readRepeat at h
  obtain ⟨level, hrepeat, hresult⟩ := bind_eq_ok_iff.1 h
  cases hresult
  exact adds_level (Level.within_repeatLast hrepeat)

/-- One step adds at most one group. -/
theorem adds_step {c : Char} (h : state.step c rest = .ok (state', rest')) : state.Adds state' := by
  -- the cases stand in the order in which the step tells its characters apart
  unfold step at h
  split at h
  · exact adds_readGroup h
  · obtain ⟨closed, hclose, hresult⟩ := bind_eq_ok_iff.1 h
    cases hresult
    exact adds_closeGroup hclose
  · cases h
    apply adds_level
    rw [Level.groups_nextAlternative]
    exact .refl _
  · obtain ⟨⟨read, after⟩, -, hresult⟩ := bind_eq_ok_iff.1 h
    cases hresult
    exact adds_push rfl
  · exact adds_readRepeat h
  · exact adds_readRepeat h
  · exact adds_readRepeat h
  · obtain ⟨⟨min, max, after⟩, -, hrepeat⟩ := bind_eq_ok_iff.1 h
    exact adds_readRepeat hrepeat
  · obtain ⟨⟨atom, after⟩, -, hatom⟩ := bind_eq_ok_iff.1 h
    obtain ⟨node, hnode, hresult⟩ := bind_eq_ok_iff.1 hatom
    cases hresult
    exact adds_push (groups_atom hnode)
  · obtain ⟨node, hnode, hresult⟩ := bind_eq_ok_iff.1 h
    cases hresult
    exact adds_push (groups_dotNode hnode)
  · cases h
    exact adds_push rfl
  · cases h
    exact adds_push rfl
  · obtain ⟨node, hnode, hresult⟩ := bind_eq_ok_iff.1 h
    cases hresult
    exact adds_push (groups_atom hnode)

/-! ## §4. The whole text. -/

/-- The numbers of the groups are from 1 to the number of groups opened so far, their names are
    those noted, and no two groups have the same number or the same name. -/
structure Distinct (state : Reading) : Prop where
  bounds : ∀ group ∈ state.groups, 0 < group.1 ∧ group.1 ≤ state.captures
  name_mem : ∀ group ∈ state.groups, ∀ name, group.2 = some name → name ∈ state.names
  index_once : ∀ index, state.groups.countP (·.1 == index) ≤ 1
  name_once : ∀ name, state.groups.countP (·.2 == some name) ≤ 1

theorem distinct_start : start.Distinct := by
  have hnone : start.groups = [] := rfl
  refine ⟨?_, ?_, ?_, ?_⟩ <;> simp [hnone]

/-- What a step adds is told apart from what was there. -/
theorem Distinct.adds (h : state.Distinct) (hadds : state.Adds state') : state'.Distinct := by
  cases hadds with
  | nothing hgroups hcaptures hnames =>
    refine ⟨?_, ?_, fun index => ?_, fun name => ?_⟩
    · rw [hcaptures]
      exact fun group hmem => h.bounds group (hgroups.mem hmem)
    · rw [hnames]
      exact fun group hmem => h.name_mem group (hgroups.mem hmem)
    · exact Nat.le_trans (hgroups _) (h.index_once index)
    · exact Nat.le_trans (hgroups _) (h.name_once name)
  | @group name hgroups hcaptures hnames hnew _ =>
    refine ⟨fun group hmem => ?_, fun group hmem known hknown => ?_, fun index => ?_,
      fun known => ?_⟩
    · rw [hcaptures]
      rcases List.mem_cons.1 (hgroups.mem hmem) with rfl | hold
      · exact ⟨Nat.succ_pos _, Nat.le_refl _⟩
      · obtain ⟨hpos, hle⟩ := h.bounds group hold
        exact ⟨hpos, Nat.le_succ_of_le hle⟩
    · rw [hnames, List.mem_append]
      rcases List.mem_cons.1 (hgroups.mem hmem) with rfl | hold
      · exact .inl (by simpa using hknown)
      · exact .inr (h.name_mem group hold known hknown)
    · refine Nat.le_trans (hgroups _) ?_
      rw [List.countP_cons]
      have honce := h.index_once index
      split
      · next heq =>
        -- the number is the next one, so no group has it yet
        have hnone : state.groups.countP (·.1 == index) = 0 := by
          refine List.countP_eq_zero.2 fun group hmem hindex => ?_
          have hle := (h.bounds group hmem).2
          simp only [beq_iff_eq] at heq hindex
          omega
        omega
      · omega
    · refine Nat.le_trans (hgroups _) ?_
      rw [List.countP_cons]
      have honce := h.name_once known
      split
      · next heq =>
        have hnone : state.groups.countP (·.2 == some known) = 0 := by
          refine List.countP_eq_zero.2 fun group hmem hname => ?_
          have hmem' := h.name_mem group hmem known (eq_of_beq hname)
          exact hnew known hmem' (eq_of_beq heq)
        omega
      · omega

/-- The groups that have a name have a well-formed one. -/
def WellNamed (state : Reading) : Prop :=
  ∀ group ∈ state.groups, ∀ name, group.2 = some name → isGroupName name.toList = true

theorem WellNamed.adds (h : state.WellNamed) (hadds : state.Adds state') : state'.WellNamed := by
  intro group hmem name hname
  cases hadds with
  | nothing hgroups _ _ => exact h group (hgroups.mem hmem) name hname
  | group hgroups _ _ _ hwell =>
    rcases List.mem_cons.1 (hgroups.mem hmem) with rfl | hold
    · exact hwell name hname
    · exact h group hold name hname

/-- What is kept whenever groups are added holds at the end if it holds at the start. -/
theorem run_invariant {holds : Reading → Prop}
    (hadds : ∀ state state', holds state → state.Adds state' → holds state') (h : holds state)
    {fuel : Nat} (hrun : Reading.run fuel state rest = .ok state') : holds state' := by
  induction fuel generalizing state rest with
  | zero =>
    cases hrun
    exact h
  | succ fuel ih =>
    rw [Reading.run] at hrun
    split at hrun
    · cases hrun
      exact h
    · obtain ⟨⟨next, after⟩, hstep, hrest⟩ := bind_eq_ok_iff.1 hrun
      exact ih (hadds _ _ h (adds_step hstep)) hrest

end Reading

/-- The number of every capture group is positive. -/
def Node.Numbered (node : Node) : Prop :=
  ∀ index ∈ node.groupIndices, 0 < index

/-- No two capture groups have the same number or the same name. -/
structure Node.Distinct (node : Node) : Prop where
  index_once : ∀ index, node.groupIndices.count index ≤ 1
  name_once : ∀ name, (node.groupNames.map (·.1)).count name ≤ 1

/-- A pattern that is read has its groups on the level of the whole text. -/
theorem exists_reading_of_parse {text : List Char} {node : Node} (h : Node.parse text = .ok node) :
    ∃ state : Reading, state.Distinct ∧ state.WellNamed ∧ Within node.groups state.groups := by
  obtain ⟨state, hrun, hresult⟩ := bind_eq_ok_iff.1 h
  have hnode : state.level.node = node := by
    split at hresult
    · cases hresult
    · split at hresult
      · cases hresult
      · exact Except.ok.inj hresult
  subst hnode
  have hdistinct := Reading.run_invariant (fun _ _ => .adds) Reading.distinct_start hrun
  have hwell : Reading.start.WellNamed := fun group hmem => by cases hmem
  refine ⟨state, hdistinct, Reading.run_invariant (fun _ _ => .adds) hwell hrun,
    fun counted => ?_⟩
  rw [Level.countP_node, Reading.groups, List.countP_append]
  exact Nat.le_add_right _ _

/-- **Main.**  The capture groups of a pattern that is read have positive numbers. -/
theorem numbered_parse {text : List Char} {node : Node} (h : Node.parse text = .ok node) :
    node.Numbered := by
  obtain ⟨state, hdistinct, -, hwithin⟩ := exists_reading_of_parse h
  intro index hmem
  rw [groupIndices_eq_map_groups] at hmem
  obtain ⟨group, hgroup, rfl⟩ := List.mem_map.1 hmem
  exact (hdistinct.bounds group (hwithin.mem hgroup)).1

/-- **Main.**  The capture groups of a pattern that is read have each its own number and name. -/
theorem distinct_parse {text : List Char} {node : Node} (h : Node.parse text = .ok node) :
    node.Distinct := by
  obtain ⟨state, hdistinct, -, hwithin⟩ := exists_reading_of_parse h
  refine ⟨fun index => ?_, fun name => ?_⟩
  · rw [groupIndices_eq_map_groups, List.count, List.countP_map]
    exact Nat.le_trans (hwithin _) (hdistinct.index_once index)
  · have hcount : (node.groupNames.map (·.1)).count name =
        node.groups.countP (·.2 == some name) := by
      rw [groupNames_eq_filterMap_groups, List.count, List.countP_map, List.countP_filterMap]
      refine List.countP_congr fun group _ => ?_
      cases group.2 <;> simp
    rw [hcount]
    exact Nat.le_trans (hwithin _) (hdistinct.name_once name)

/-- **Main.**  The names of the capture groups of a pattern that is read are well-formed. -/
theorem wellNamed_parse {text : List Char} {node : Node} (h : Node.parse text = .ok node)
    {name : String} (hname : name ∈ node.groupNames.map (·.1)) :
    isGroupName name.toList = true := by
  obtain ⟨state, -, hwell, hwithin⟩ := exists_reading_of_parse h
  obtain ⟨⟨_, index⟩, hmem, rfl⟩ := List.mem_map.1 hname
  rw [groupNames_eq_filterMap_groups] at hmem
  obtain ⟨group, hgroup, hpair⟩ := List.mem_filterMap.1 hmem
  obtain ⟨given, hgiven, heq⟩ := Option.map_eq_some_iff.1 hpair
  cases heq
  exact hwell group (hwithin.mem hgroup) _ hgiven

end Pattern

end Reroute
