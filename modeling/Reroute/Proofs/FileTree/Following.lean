/-
  Reroute.Proofs.FileTree.Following — paths that go on from a directory.

  A walk that reaches a directory goes on from there with the names after it, and with the links
  that are left (`walkLinks_append`).  More links never change a walk that did not run out of them
  (`walkLinks_of_le`), and an empty name before another one never changes a walk at all
  (`walkLinks_blank`).

  Main statement (`resolve_joinAll_eq`): whichever path is taken to a directory, the names joined to
  it lead to the same place.
-/
import Reroute.Proofs.FileTree.Shape
import Reroute.Proofs.Paths

namespace Reroute.FileTree

/-! ## §1. Walks with more links. -/

/-- The second way to follow names does what the first does, where that does not run out of links. -/
def Extends (follow follow' : List String → Location → Except FileFault Place) : Prop :=
  ∀ names location, follow names location ≠ .error .tooManyLinks →
    follow' names location = follow names location

theorem walk_extends (tree : FileTree) (access : Access)
    {follow follow' : List String → Location → Except FileFault Place}
    (h : Extends follow follow') : Extends (walk tree access follow) (walk tree access follow') := by
  intro names
  induction names with
  | nil => intro location _; rfl
  | cons name rest ih =>
    intro location hdone
    rw [walk] at hdone
    rw [walk, walk]
    -- at every name but a link, the walk ends or goes on without `follow`
    by_cases hdot : name = "" ∨ name = "."
    · rw [if_pos hdot] at hdone
      rw [if_pos hdot, if_pos hdot, ih location hdone]
    rw [if_neg hdot] at hdone
    rw [if_neg hdot, if_neg hdot]
    by_cases hup : name = ".."
    · rw [if_pos hup] at hdone
      rw [if_pos hup, if_pos hup, ih location.dropLast hdone]
    rw [if_neg hup] at hdone
    rw [if_neg hup, if_neg hup]
    by_cases hslashes : access = .write ∧ rest ≠ [] ∧ rest.all (· == "")
    · rw [if_pos hslashes, if_pos hslashes]
    rw [if_neg hslashes] at hdone
    rw [if_neg hslashes, if_neg hslashes]
    by_cases hlong : maxName < name.utf8ByteSize
    · rw [if_pos hlong, if_pos hlong]
    rw [if_neg hlong] at hdone
    rw [if_neg hlong, if_neg hlong]
    cases hget : tree.get? (location ++ [name]) with
    | none => rfl
    | some node =>
      rw [hget] at hdone
      cases node with
      | file content => rfl
      | dir entries => exact ih (location ++ [name]) hdone
      | link target =>
        by_cases htarget : target = ""
        · simp only [if_pos htarget]
        · simp only [if_neg htarget] at hdone ⊢
          exact h _ _ hdone

theorem walkLinks_succ (tree : FileTree) (access : Access) (links : Nat) :
    Extends (walkLinks tree access links) (walkLinks tree access (links + 1)) := by
  induction links with
  | zero => exact walk_extends tree access fun _ _ hdone => absurd rfl hdone
  | succ links ih => exact walk_extends tree access ih

/-- **More links change no walk that does not run out of them.** -/
theorem walkLinks_of_le {tree : FileTree} {access : Access} {links more : Nat}
    (h : links ≤ more) : Extends (walkLinks tree access links) (walkLinks tree access more) := by
  induction h with
  | refl => exact fun _ _ _ => rfl
  | step _ ih =>
    intro names location hdone
    have heq := ih names location hdone
    rw [← heq] at hdone ⊢
    exact walkLinks_succ tree access _ names location hdone

/-! ## §2. Walks that go on from a directory. -/

/-- Where `follow` leads names to a directory, more names are followed from there, with some of the
    links. -/
def GoesOn (tree : FileTree) (links : Nat)
    (follow : List String → Location → Except FileFault Place) : Prop :=
  ∀ names location reached, IsDirAt tree reached → follow names location = .ok (.found reached) →
    ∃ left ≤ links, ∀ rest,
      follow (names ++ rest) location = walkLinks tree .read left rest reached

section

variable {tree : FileTree} {follow : List String → Location → Except FileFault Place}
  {name : String} {rest : List String} {location : Location}

/-- The name of a directory leads into it whatever names come after it. -/
theorem walk_down {entries : List (String × FileTree)} (hname : LooksUp .read name rest)
    (hget : tree.get? (location ++ [name]) = some (.dir entries)) (others : List String) :
    walk tree .read follow (name :: others) location
      = walk tree .read follow others (location ++ [name]) := by
  rw [walk, if_neg hname.notDot, if_neg hname.notUp, if_neg (by simp), if_neg hname.short, hget]

/-- The name of a link leads to its target whatever names come after it. -/
theorem walk_link {target : String} (hname : LooksUp .read name rest)
    (hget : tree.get? (location ++ [name]) = some (.link target)) (htarget : target ≠ "")
    (others : List String) :
    walk tree .read follow (name :: others) location
      = follow (namesOf target ++ others) (if isAbsolute target then [] else location) := by
  rw [walk, if_neg hname.notDot, if_neg hname.notUp, if_neg (by simp), if_neg hname.short, hget]
  exact if_neg htarget

end

theorem walk_goesOn {tree : FileTree} {links : Nat}
    {follow : List String → Location → Except FileFault Place}
    (hwalk : walkLinks tree .read links = walk tree .read follow)
    (hfollow : GoesOn tree links follow) : GoesOn tree links (walk tree .read follow) := by
  intro names
  induction names with
  | nil =>
    intro location reached _ hreached
    cases hreached
    exact ⟨links, Nat.le_refl _, fun rest => by rw [hwalk]; rfl⟩
  | cons name names ih =>
    intro location reached hdir hreached
    cases walk_cons_iff.1 hreached with
    | stay hname hrest =>
      obtain ⟨left, hle, heq⟩ := ih location reached hdir hrest
      refine ⟨left, hle, fun rest => ?_⟩
      rw [List.cons_append, walk, if_pos hname, heq]
    | up hname hrest =>
      obtain ⟨left, hle, heq⟩ := ih location.dropLast reached hdir hrest
      refine ⟨left, hle, fun rest => ?_⟩
      rw [List.cons_append, walk, if_neg (by simp [hname]), if_pos hname, heq]
    | file hname hget hnil hreached =>
      -- a file is no directory
      subst hreached
      obtain ⟨entries, hget'⟩ := hdir
      rw [hget] at hget'
      cases hget'
    | down hname hget hrest =>
      obtain ⟨left, hle, heq⟩ := ih (location ++ [name]) reached hdir hrest
      refine ⟨left, hle, fun rest => ?_⟩
      rw [List.cons_append, walk_down hname hget, heq]
    | link hname hget htarget hrest =>
      -- the names after the link are followed after those of its target
      obtain ⟨left, hle, heq⟩ := hfollow _ _ reached hdir hrest
      refine ⟨left, hle, fun rest => ?_⟩
      rw [List.cons_append, walk_link hname hget htarget, ← List.append_assoc, heq]

/-- **A walk that reaches a directory goes on from there**, with the links that are left. -/
theorem walkLinks_append (tree : FileTree) (links : Nat) :
    GoesOn tree links (walkLinks tree .read links) := by
  induction links with
  | zero =>
    refine walk_goesOn rfl fun _ _ _ _ hreached => ?_
    cases hreached
  | succ links ih =>
    refine walk_goesOn rfl fun names location reached hdir hreached => ?_
    obtain ⟨left, hle, heq⟩ := ih names location reached hdir hreached
    exact ⟨left, Nat.le_succ_of_le hle, heq⟩

/-! ## §3. Empty names. -/

/-- An empty name before others changes nothing. -/
def SkipsBlanks (follow : List String → Location → Except FileFault Place) : Prop :=
  ∀ names rest location, rest ≠ [] →
    follow (names ++ "" :: rest) location = follow (names ++ rest) location

theorem walk_skipsBlanks (tree : FileTree)
    {follow : List String → Location → Except FileFault Place} (hfollow : SkipsBlanks follow) :
    SkipsBlanks (walk tree .read follow) := by
  intro names
  induction names with
  | nil =>
    intro rest location _
    rw [List.nil_append, walk, if_pos (.inl rfl), List.nil_append]
  | cons name names ih =>
    intro rest location hrest
    -- names come after this one in both walks, so that it has to lead to a directory
    have hlink : ∀ target location, follow (namesOf target ++ (names ++ "" :: rest)) location
        = follow (namesOf target ++ (names ++ rest)) location := by
      intro target location
      rw [← List.append_assoc, hfollow _ _ _ hrest, List.append_assoc]
    simp [walk, ih _ _ hrest, hlink, hrest]

theorem walkLinks_blank (tree : FileTree) (links : Nat) :
    SkipsBlanks (walkLinks tree .read links) := by
  induction links with
  | zero => exact walk_skipsBlanks tree fun _ _ _ _ => rfl
  | succ links ih => exact walk_skipsBlanks tree ih

/-! ## §4. Names joined to a path. -/

section

variable {directory name : String} {names : List String}

/-- The name joined to a path follows the names of the path, of which an empty one at the end is
    left out. -/
theorem namesOf_join (hdir : directory ≠ "") (hname : Path.isName name = true) :
    ∃ front, (namesOf directory = front ∨ namesOf directory = front ++ [""]) ∧
      namesOf (Path.join directory name) = front ++ [name] := by
  obtain ⟨start, hstart, hjoin⟩ := Path.toList_join hdir name
  refine ⟨(start.splitOn '/').map String.ofList, ?_, ?_⟩
  · unfold namesOf
    rw [splitAtChar_eq_splitOn]
    rcases hstart with hstart | hstart
    · exact .inl (by rw [hstart])
    · refine .inr ?_
      rw [hstart, List.splitOn_append_cons_self, List.splitOn_nil, List.map_append]
      rfl
  · unfold namesOf
    rw [hjoin, splitAtChar_eq_splitOn, List.splitOn_append_cons_self,
      List.splitOn_eq_singleton (Path.isName_iff.1 hname).2.2.2, List.map_append, List.map_singleton,
      String.ofList_toList]

theorem isAbsolute_join (hdir : directory ≠ "") (name : String) :
    isAbsolute (Path.join directory name) = isAbsolute directory := by
  obtain ⟨start, hstart, hjoin⟩ := Path.toList_join hdir name
  unfold isAbsolute
  rw [hjoin]
  rcases hstart with hstart | hstart
  · rw [hstart]
    cases start with
    | nil => exact absurd (String.toList_injective hstart) hdir
    | cons c others => rfl
  · rw [hstart]
    cases start <;> rfl

theorem nul_mem_join (hdir : directory ≠ "") (name : String) :
    '\x00' ∈ (Path.join directory name).toList ↔
      '\x00' ∈ directory.toList ∨ '\x00' ∈ name.toList := by
  obtain ⟨start, hstart, hjoin⟩ := Path.toList_join hdir name
  rw [hjoin]
  rcases hstart with hstart | hstart <;> simp [hstart]

theorem namesOf_joinAll (hdir : directory ≠ "") (hnames : ∀ name ∈ names, Path.isName name = true)
    (hne : names ≠ []) :
    ∃ front, (namesOf directory = front ∨ namesOf directory = front ++ [""]) ∧
      namesOf (Path.joinAll directory names) = front ++ names := by
  induction names generalizing directory with
  | nil => exact absurd rfl hne
  | cons name rest ih =>
    obtain ⟨hname, hrest⟩ := List.forall_mem_cons.1 hnames
    obtain ⟨front, hfront, hjoin⟩ := namesOf_join hdir hname
    refine ⟨front, hfront, ?_⟩
    show namesOf (Path.joinAll (Path.join directory name) rest) = _
    by_cases hnil : rest = []
    · subst hnil
      exact hjoin
    · obtain ⟨front', hfront' | hfront', hall⟩ := ih (Path.join_ne_empty hdir) hrest hnil
      · rw [hall, ← hfront', hjoin, List.append_assoc]
        rfl
      · -- the path ends in a name, not in a slash
        rw [hjoin] at hfront'
        have hempty := (List.append_inj' hfront' rfl).2
        exact absurd (List.head_eq_of_cons_eq hempty) (Path.isName_iff.1 hname).1

theorem isAbsolute_joinAll (hdir : directory ≠ "") (names : List String) :
    isAbsolute (Path.joinAll directory names) = isAbsolute directory := by
  induction names generalizing directory with
  | nil => rfl
  | cons name rest ih => exact (ih (Path.join_ne_empty hdir)).trans (isAbsolute_join hdir name)

theorem nul_mem_joinAll (hdir : directory ≠ "") (names : List String) :
    '\x00' ∈ (Path.joinAll directory names).toList ↔
      '\x00' ∈ directory.toList ∨ ∃ name ∈ names, '\x00' ∈ name.toList := by
  induction names generalizing directory with
  | nil => simp [Path.joinAll]
  | cons name rest ih =>
    show '\x00' ∈ (Path.joinAll (Path.join directory name) rest).toList ↔ _
    rw [ih (Path.join_ne_empty hdir), nul_mem_join hdir]
    simp [or_assoc]

theorem joinAll_ne_empty (hdir : directory ≠ "") (names : List String) :
    Path.joinAll directory names ≠ "" := by
  induction names generalizing directory with
  | nil => exact hdir
  | cons name rest ih => exact ih (Path.join_ne_empty hdir)

/-- A walk over the names of a joined path is one over the names of the path and then those joined
    to it. -/
theorem walkLinks_joinAll (hdir : directory ≠ "")
    (hnames : ∀ name ∈ names, Path.isName name = true) (hne : names ≠ []) (tree : FileTree)
    (links : Nat) (location : Location) :
    walkLinks tree .read links (namesOf (Path.joinAll directory names)) location
      = walkLinks tree .read links (namesOf directory ++ names) location := by
  obtain ⟨front, hfront | hfront, hall⟩ := namesOf_joinAll hdir hnames hne
  · rw [hall, hfront]
  · rw [hall, hfront, List.append_assoc]
    exact (walkLinks_blank tree links front names location hne).symm

end

/-! ## §5. Where names below a directory lead. -/

section

variable {tree : FileTree} {cwd reached : Location} {root other : String}

theorem walkLinks_of_resolve {access : Access} {path : String} {place : Place}
    (h : tree.resolve cwd access path = .ok place) :
    '\x00' ∉ path.toList ∧ path ≠ "" ∧
      walkLinks tree access maxLinks (namesOf path) (if isAbsolute path then [] else cwd)
        = .ok place := by
  obtain ⟨⟨hnul, hempty, -⟩, hwalk⟩ := resolve_eq_ok_iff.1 h
  exact ⟨hnul, hempty, hwalk⟩

/-- **Names joined to the path of a directory are followed from that directory**, with the links
    that the path has left over. -/
theorem resolve_joinAll (hroot : tree.resolve cwd .read root = .ok (.found reached))
    (hdir : IsDirAt tree reached) :
    ∃ left, ∀ names, (∀ name ∈ names, Path.isName name = true) → names ≠ [] →
      (Path.joinAll root names).utf8ByteSize ≤ maxPath →
      tree.resolve cwd .read (Path.joinAll root names)
        = if ∃ name ∈ names, '\x00' ∈ name.toList then .error .nulCharacter
          else walkLinks tree .read left names reached := by
  obtain ⟨hnul, hempty, hwalk⟩ := walkLinks_of_resolve hroot
  obtain ⟨left, -, heq⟩ := walkLinks_append tree maxLinks _ _ reached hdir hwalk
  refine ⟨left, fun names hnames hne hshort => ?_⟩
  have hpath : ¬ (Path.joinAll root names).isEmpty = true := by
    simpa using joinAll_ne_empty hempty names
  unfold resolve
  rw [if_neg hpath, if_neg (Nat.not_lt.2 hshort), isAbsolute_joinAll hempty,
    walkLinks_joinAll hempty hnames hne, heq]
  simp only [nul_mem_joinAll hempty, hnul, false_or]

/-- **Whichever path is taken to a directory, the names joined to it lead to the same place**, if no
    limit is reached on the way. -/
theorem resolve_joinAll_eq (hroot : tree.resolve cwd .read root = .ok (.found reached))
    (hother : tree.resolve cwd .read other = .ok (.found reached)) (hdir : IsDirAt tree reached)
    {names : List String} (hnames : ∀ name ∈ names, Path.isName name = true) (hne : names ≠ [])
    (hshort : (Path.joinAll root names).utf8ByteSize ≤ maxPath)
    (hshort' : (Path.joinAll other names).utf8ByteSize ≤ maxPath)
    (hlinks : tree.resolve cwd .read (Path.joinAll root names) ≠ .error .tooManyLinks)
    (hlinks' : tree.resolve cwd .read (Path.joinAll other names) ≠ .error .tooManyLinks) :
    tree.resolve cwd .read (Path.joinAll root names)
      = tree.resolve cwd .read (Path.joinAll other names) := by
  obtain ⟨left, hleft⟩ := resolve_joinAll hroot hdir
  obtain ⟨left', hleft'⟩ := resolve_joinAll hother hdir
  rw [hleft names hnames hne hshort] at hlinks ⊢
  rw [hleft' names hnames hne hshort'] at hlinks' ⊢
  by_cases hnul : ∃ name ∈ names, '\x00' ∈ name.toList
  · rw [if_pos hnul, if_pos hnul]
  rw [if_neg hnul] at hlinks hlinks'
  rw [if_neg hnul, if_neg hnul]
  rcases Nat.le_total left left' with hle | hle
  · exact (walkLinks_of_le hle names reached hlinks).symm
  · exact walkLinks_of_le hle names reached hlinks'

end

end Reroute.FileTree
