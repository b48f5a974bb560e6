/-
  Reroute.Proofs.DiscoveredFiles — a discovery returns exactly the candidates.

  What makes a file a candidate is said of the names that lead to it from the root, without the
  walk: which directories are on the way and what they list, which of them are passed over, what the
  globs exclude and how the name of the file ends (`IsReached`, `IsCandidate`).  The walk finds at
  some names what its last step finds there, provided that it reaches these names (`finds_iff`).

  Main statement (`discover_finds_candidates`): the files of a discovery are the candidates in the
  byte order of their names, each of them once; a directory that cannot be listed to its end is one
  issue, with the fault that the system reports; and neither depends on the order in which
  directories list their entries.  The walk is a recursion over the tree that follows no link, so
  that it ends whatever links there are.
-/
import Mathlib.Data.List.TakeDrop
import Mathlib.Data.List.TakeWhile
import Reroute.Proofs.Candidates
import Reroute.Proofs.Text.ByteOrder

namespace Reroute

namespace Discovery

open FileTree

/-! ## §1. Candidates. -/

/-- The listing of a directory ends early, with a fault and after some names.  The directory has the
    given path and lies at the names `before` below the root. -/
inductive EndsEarly (faults : Faults) (path : String) (before : List String) :
    FileFault → List String → Prop where
  /-- The path is longer than the system takes it. -/
  | tooLong (hlong : maxPath < path.utf8ByteSize) : EndsEarly faults path before .nameTooLong []
  /-- The system reports a fault, at once or on the way. -/
  | interrupted (hshort : path.utf8ByteSize ≤ maxPath) {stop : Interruption}
      (hstop : faults.listing before = some stop) :
      EndsEarly faults path before stop.fault stop.listed

/-- The entry at the names is looked at.  The names count from a directory, `tree`, with the given
    path, which lies at `before` below the root; that is nowhere for the root itself. -/
structure IsReached (exclude : List String) (faults : Faults) (path : String)
    (before : List String) (tree : FileTree) (names : List String) : Prop where
  /-- On the way are only directories, not links to any, and they are told to be directories. -/
  directory : ∀ i, 0 < i → i < names.length → tree.IsDirAt (names.take i) ∧
    faults.kindless (before ++ names.take i) = false
  /-- Every directory on the way, the first one too, lists the next name. -/
  listed : ∀ i name, names[i]? = some name → ∀ fault listed,
    EndsEarly faults (Path.joinAll path (names.take i)) (before ++ names.take i) fault listed →
    name ∈ listed
  notSkipped : ∀ name ∈ names.dropLast, name ∉ skippedDirectories
  notBuild : before = [] → ∀ name ∈ names.dropLast.head?, name ∉ skippedAtRoot
  /-- No glob matches the path, relative to the root, of the entry or of a directory on the way. -/
  notExcluded : ∀ i, 0 < i → i ≤ names.length → ∀ glob ∈ exclude,
    Glob.isMatch glob ("/".intercalate (before ++ names.take i)) = false

/-- The names lead from the root to a file, or a link, whose name has the extension, and this is one
    of the given extensions without the dots at its start.  An entry of unknown kind counts as a
    file. -/
structure IsCandidate (extensions exclude : List String) (faults : Faults) (root : String)
    (tree : FileTree) (names : List String) (extension : String) : Prop where
  reached : IsReached exclude faults root [] tree names
  leaf : ∃ node, tree.get? names = some node ∧
    (node.isDir = false ∨ faults.kindless names = true)
  /-- The extension stands after the last dot of the name, and that is not its first character. -/
  ending : ∃ name ∈ names.getLast?, ∃ stem, stem ≠ [] ∧
    name.toList = stem ++ '.' :: extension.toList ∧ '.' ∉ extension.toList
  chosen : ∃ given ∈ extensions, ∃ dots,
    given.toList = List.replicate dots '.' ++ extension.toList

/-- The names lead from the root to a directory, or are none and stand for the root itself, whose
    listing ends early with the fault and after the names `listed`. -/
structure IsUnlisted (exclude : List String) (faults : Faults) (root : String) (tree : FileTree)
    (names : List String) (fault : FileFault) (listed : List String) : Prop where
  reached : IsReached exclude faults root [] tree names
  isDir : tree.IsDirAt names
  known : names ≠ [] → faults.kindless names = false
  notSkipped : ∀ name ∈ names.getLast?, name ∉ skippedDirectories
  notBuild : ∀ name, names = [name] → name ∉ skippedAtRoot
  endsEarly : EndsEarly faults (Path.joinAll root names) names fault listed

/-! ## §2. The walk reaches names. -/

theorem interruption?_eq_some_iff {faults : Faults} {path : String} {before : List String}
    {stop : Interruption} :
    interruption? faults path before = some stop ↔
      EndsEarly faults path before stop.fault stop.listed := by
  unfold interruption?
  constructor
  · intro hstop
    split at hstop
    · next hlong =>
      cases hstop
      exact .tooLong hlong
    · next hshort => exact .interrupted (Nat.le_of_not_lt hshort) hstop
  · intro hends
    obtain ⟨fault, listed⟩ := stop
    cases hends with
    | tooLong hlong => rw [if_pos hlong]
    | interrupted hshort hstop => rw [if_neg (Nat.not_lt.2 hshort), hstop]

theorem lists_iff {faults : Faults} {path : String} {before : List String} {name : String} :
    lists faults path before name = true ↔
      ∀ fault listed, EndsEarly faults path before fault listed → name ∈ listed := by
  unfold lists
  constructor
  · intro hlists fault listed hends
    have hstop : interruption? faults path before = some ⟨fault, listed⟩ :=
      interruption?_eq_some_iff.2 hends
    rw [hstop] at hlists
    simpa using hlists
  · intro hall
    cases hstop : interruption? faults path before with
    | none => rfl
    | some stop => simpa using hall _ _ (interruption?_eq_some_iff.1 hstop)

theorem excludes_eq_false_iff {options : Options} {names : List String} :
    options.excludes names = false ↔
      ∀ glob ∈ options.exclude, Glob.isMatch glob ("/".intercalate names) = false := by
  simp [Options.excludes]

theorem isSkipped_eq_false_iff {before : List String} {name : String} :
    isSkipped before name = false ↔
      name ∉ skippedDirectories ∧ (before = [] → name ∉ skippedAtRoot) := by
  simp [isSkipped]

theorem isDirAt_cons {entries : List (String × FileTree)} {name : String} {names : List String} :
    (FileTree.dir entries).IsDirAt (name :: names) ↔
      ∃ tree, entries.lookup name = some tree ∧ tree.IsDirAt names := by
  constructor
  · rintro ⟨inner, hget⟩
    obtain ⟨tree, hlookup, hrest⟩ := Option.bind_eq_some_iff.1 hget
    exact ⟨tree, hlookup, inner, hrest⟩
  · rintro ⟨tree, hlookup, inner, hrest⟩
    exact ⟨inner, Option.bind_eq_some_iff.2 ⟨tree, hlookup, hrest⟩⟩

/-- The walk is at the root, or wherever it starts. -/
theorem isReached_nil {exclude : List String} {faults : Faults} {path : String}
    {before : List String} {tree : FileTree} :
    IsReached exclude faults path before tree [] where
  directory i _ hlt := absurd hlt (Nat.not_lt_zero i)
  listed i name hget := by simp at hget
  notSkipped := by simp
  notBuild := by simp
  notExcluded i hpos hle := absurd hle (Nat.not_le.2 hpos)

section

variable {options : Options} {faults : Faults} {path : String} {before : List String}

theorem isReached_singleton {tree : FileTree} {name : String} :
    IsReached options.exclude faults path before tree [name] ↔
      lists faults path before name = true ∧ options.excludes (before ++ [name]) = false := by
  rw [lists_iff, excludes_eq_false_iff]
  constructor
  · intro h
    have hlisted := h.listed 0 name rfl
    rw [List.take_zero, List.append_nil] at hlisted
    exact ⟨hlisted, h.notExcluded 1 (by simp) (by simp)⟩
  · rintro ⟨hlisted, hincluded⟩
    refine ⟨fun i hpos hlt => ?_, fun i other hget => ?_, by simp, by simp, fun i hpos hle => ?_⟩
    · simp only [List.length_singleton] at hlt
      omega
    · obtain ⟨rfl, rfl⟩ : i = 0 ∧ name = other := by
        cases i with
        | zero => simpa using hget
        | succ i => simp at hget
      rw [List.take_zero, List.append_nil]
      exact hlisted
    · have hone : i = 1 := by
        simp only [List.length_singleton] at hle
        omega
      subst hone
      exact hincluded

/-- **The walk reaches names beyond an entry through the directory that the entry is.** -/
theorem isReached_cons {entries : List (String × FileTree)} {name next : String}
    {below : List String} :
    IsReached options.exclude faults path before (.dir entries) (name :: next :: below) ↔
      lists faults path before name = true ∧ options.excludes (before ++ [name]) = false ∧
      faults.kindless (before ++ [name]) = false ∧ isSkipped before name = false ∧
      ∃ inner, entries.lookup name = some (.dir inner) ∧
        IsReached options.exclude faults (Path.join path name) (before ++ [name]) (.dir inner)
          (next :: below) := by
  rw [lists_iff, excludes_eq_false_iff, isSkipped_eq_false_iff]
  constructor
  · intro h
    obtain ⟨hdir, hknown⟩ := h.directory 1 (by simp) (by simp)
    obtain ⟨tree, hlookup, inner, hinner⟩ := isDirAt_cons.1 hdir
    cases hinner
    have hlisted := h.listed 0 name rfl
    rw [List.take_zero, List.append_nil] at hlisted
    refine ⟨hlisted, h.notExcluded 1 (by simp) (by simp), hknown,
      ⟨h.notSkipped name (by simp), ?_⟩, inner, hlookup, ?_⟩
    · exact fun hroot => h.notBuild hroot name (by simp)
    · -- the place of a directory is counted from this one on
      refine ⟨fun i hpos hlt => ?_, fun i other hget => ?_, fun other hmem => ?_, by simp,
        fun i hpos hle => ?_⟩
      · obtain ⟨hdir, hknown⟩ := h.directory (i + 1) (by omega) (by simpa using hlt)
        rw [List.take_succ_cons] at hdir hknown
        obtain ⟨tree, hlookup', hbelow⟩ := isDirAt_cons.1 hdir
        rw [hlookup, Option.some.injEq] at hlookup'
        rw [List.append_cons] at hknown
        exact ⟨hlookup' ▸ hbelow, hknown⟩
      · have hlisted' := h.listed (i + 1) other (by simpa using hget)
        rwa [List.take_succ_cons, List.append_cons] at hlisted'
      · exact h.notSkipped other (by simpa using Or.inr hmem)
      · have hincluded := h.notExcluded (i + 1) (by omega) (by simpa using hle)
        rwa [List.take_succ_cons, List.append_cons] at hincluded
  · rintro ⟨hlisted, hincluded, hknown, ⟨hskipped, hbuild⟩, inner, hlookup, h⟩
    refine ⟨fun i hpos hlt => ?_, fun i other hget => ?_, fun other hmem => ?_,
      fun hroot other hmem => ?_, fun i hpos hle => ?_⟩
    · match i, hpos with
      | 1, _ => exact ⟨isDirAt_cons.2 ⟨_, hlookup, inner, rfl⟩, hknown⟩
      | i + 2, _ =>
        obtain ⟨hdir, hknown'⟩ := h.directory (i + 1) (by omega) (by simpa using hlt)
        rw [List.take_succ_cons, List.append_cons]
        exact ⟨isDirAt_cons.2 ⟨_, hlookup, hdir⟩, hknown'⟩
    · cases i with
      | zero =>
        cases hget
        rw [List.take_zero, List.append_nil]
        exact hlisted
      | succ i =>
        rw [List.take_succ_cons, List.append_cons]
        exact h.listed i other (by simpa using hget)
    · rw [List.dropLast_cons_cons, List.mem_cons] at hmem
      rcases hmem with rfl | hmem
      · exact hskipped
      · exact h.notSkipped other hmem
    · rw [List.dropLast_cons_cons, List.head?_cons, Option.mem_def, Option.some.injEq] at hmem
      exact hmem ▸ hbuild hroot
    · match i, hpos with
      | 1, _ => exact hincluded
      | i + 2, _ =>
        have hincluded' := h.notExcluded (i + 1) (by omega) (by simpa using hle)
        rwa [List.take_succ_cons, List.append_cons]

end

/-- **The walk finds at the names what its last step finds there**, if it reaches them. -/
theorem finds_iff {options : Options} {faults : Faults} {finding : Finding}
    (below : List String) :
    ∀ {path : String} {before : List String} {entries : List (String × FileTree)} {name : String},
    (∃ tree, entries.lookup name = some tree ∧ lists faults path before name = true ∧
        options.excludes (before ++ [name]) = false ∧
        FindsAt options faults path before name tree below finding) ↔
      IsReached options.exclude faults path before (.dir entries) (name :: below) ∧
        ∃ front last node, name :: below = front ++ [last] ∧
          (FileTree.dir entries).get? (name :: below) = some node ∧
          FindsAt options faults (Path.joinAll path front) (before ++ front) last node []
            finding := by
  induction below with
  | nil =>
    intro path before entries name
    rw [isReached_singleton]
    constructor
    · rintro ⟨tree, hlookup, hlisted, hincluded, hfinds⟩
      refine ⟨⟨hlisted, hincluded⟩, [], name, tree, rfl, by simp [get?, hlookup], ?_⟩
      rwa [List.append_nil]
    · rintro ⟨⟨hlisted, hincluded⟩, front, last, node, heq, hget, hfinds⟩
      obtain ⟨rfl, rfl⟩ : front = [] ∧ last = name := by
        simpa [List.cons_eq_append_iff] using heq
      rw [List.append_nil] at hfinds
      exact ⟨node, by simpa [get?] using hget, hlisted, hincluded, hfinds⟩
  | cons next below ih =>
    intro path before entries name
    rw [isReached_cons]
    constructor
    · rintro ⟨tree, hlookup, hlisted, hincluded, hfinds⟩
      cases hfinds with
      | @inside _ _ _ _ inner _ _ _ hknown hkept hlookup' hlisted' hincluded' hfinds =>
        obtain ⟨hreached, front, last, node, heq, hget, hlast⟩ :=
          ih.1 ⟨_, hlookup', hlisted', hincluded', hfinds⟩
        refine ⟨⟨hlisted, hincluded, hknown, hkept, inner, hlookup, hreached⟩, name :: front, last,
          node, by rw [heq]; rfl, ?_, ?_⟩
        · rw [get?, hlookup]
          exact hget
        · rwa [List.append_cons]
    · rintro ⟨⟨hlisted, hincluded, hknown, hkept, inner, hlookup, hreached⟩, front, last, node,
        heq, hget, hlast⟩
      obtain ⟨front', rfl, heq'⟩ : ∃ front', front = name :: front' ∧
          next :: below = front' ++ [last] := by
        cases front with
        | nil => simp at heq
        | cons first front' =>
          obtain ⟨rfl, hrest⟩ := List.cons.inj heq
          exact ⟨front', rfl, hrest⟩
      rw [get?, hlookup] at hget
      rw [List.append_cons] at hlast
      obtain ⟨tree, hlookup', hlisted', hincluded', hfinds⟩ :=
        ih.2 ⟨hreached, front', last, node, heq', hget, hlast⟩
      exact ⟨_, hlookup, hlisted, hincluded,
        .inside hknown hkept hlookup' hlisted' hincluded' hfinds⟩

/-! ## §3. Extensions. -/

theorem dropWhile_dots {given rest : List Char} (h : '.' ∉ rest) :
    given.dropWhile (· == '.') = rest ↔ ∃ dots, given = List.replicate dots '.' ++ rest := by
  constructor
  · rintro rfl
    have hdots : given.takeWhile (· == '.')
        = List.replicate (given.takeWhile (· == '.')).length '.' := by
      refine List.eq_replicate_iff.2 ⟨rfl, fun c hmem => ?_⟩
      simpa using List.all_eq_true.1 List.all_takeWhile c hmem
    exact ⟨_, by rw [← hdots, List.takeWhile_append_dropWhile]⟩
  · rintro ⟨dots, rfl⟩
    rw [List.dropWhile_append_of_pos (by simp)]
    cases rest with
    | nil => rfl
    | cons c rest =>
      have hc : c ≠ '.' := fun heq => h (heq ▸ .head _)
      rw [List.dropWhile_cons_of_neg (by simpa using hc)]

theorem span_dot {last : List Char} (h : '.' ∉ last) (front : List Char) :
    (last ++ '.' :: front).span (· != '.') = (last, '.' :: front) := by
  have hall : ∀ c ∈ last, (c != '.') = true := by
    intro c hmem
    have hc : c ≠ '.' := fun heq => h (heq ▸ hmem)
    simpa using hc
  rw [List.span_eq_takeWhile_dropWhile, List.takeWhile_append_of_pos hall,
    List.dropWhile_append_of_pos hall]
  simp

/-- The extension of a name is what stands after its last dot, unless that is its first
    character. -/
theorem nameExtension?_eq_some_iff {name extension : String} :
    Path.nameExtension? name = some extension ↔
      ∃ stem, stem ≠ [] ∧ name.toList = stem ++ '.' :: extension.toList ∧
        '.' ∉ extension.toList := by
  -- read backwards, the last dot is the first one
  have hsplit : ∀ {stem last : List Char}, '.' ∉ last → name.toList = stem ++ '.' :: last →
      Path.nameExtension? name = if stem = [] then none else some (.ofList last) := by
    intro stem last hlast hname
    have hreverse : name.toList.reverse = last.reverse ++ '.' :: stem.reverse := by simp [hname]
    rw [Path.nameExtension?, hreverse, span_dot (by simpa using hlast)]
    rcases List.eq_nil_or_concat stem with rfl | ⟨front, c, rfl⟩ <;> simp
  constructor
  · intro hextension
    by_cases hdot : '.' ∈ name.toList.reverse
    · obtain ⟨last, front, hreverse, hlast⟩ := List.eq_append_cons_of_mem hdot
      have hname : name.toList = front.reverse ++ '.' :: last.reverse := by
        rw [← List.reverse_reverse name.toList, hreverse]
        simp
      rw [hsplit (by simpa using hlast) hname] at hextension
      split at hextension
      · cases hextension
      · next hstem =>
        cases hextension
        exact ⟨front.reverse, hstem, by simpa using hname, by simpa using hlast⟩
    · have hall : ∀ c ∈ name.toList.reverse, (c != '.') = true := by
        intro c hmem
        have hc : c ≠ '.' := fun heq => hdot (heq ▸ hmem)
        simpa using hc
      rw [Path.nameExtension?, List.span_eq_takeWhile_dropWhile, List.dropWhile_eq_nil_iff.2 hall]
        at hextension
      cases hextension
  · rintro ⟨stem, hstem, hname, hlast⟩
    rw [hsplit hlast hname, if_neg hstem, String.ofList_toList]

/-- **A name is accepted for an extension that is chosen and not empty.** -/
theorem accepts_iff {extensions exclude : List String} {name : String} :
    (Options.of extensions exclude).accepts name = true ↔
      ∃ extension, extension ≠ "" ∧
        (∃ stem, stem ≠ [] ∧ name.toList = stem ++ '.' :: extension.toList ∧
          '.' ∉ extension.toList) ∧
        ∃ given ∈ extensions, ∃ dots,
          given.toList = List.replicate dots '.' ++ extension.toList := by
  have hchosen : ∀ {extension : String}, '.' ∉ extension.toList →
      ((Options.of extensions exclude).extensions.contains extension = true ↔
        extension ≠ "" ∧ ∃ given ∈ extensions, ∃ dots,
          given.toList = List.replicate dots '.' ++ extension.toList) := by
    intro extension hdot
    have hbare : ∀ given, bareExtension given = extension ↔
        ∃ dots, given.toList = List.replicate dots '.' ++ extension.toList := by
      intro given
      rw [← dropWhile_dots hdot, bareExtension, ← String.toList_inj, String.toList_ofList]
    simp only [Options.of, List.contains_iff_mem, List.mem_filter, List.mem_map, hbare]
    simp [and_comm]
  rw [Options.accepts]
  constructor
  · intro haccepts
    split at haccepts
    · next extension hextension =>
      have hname := nameExtension?_eq_some_iff.1 hextension
      obtain ⟨hne, hgiven⟩ := (hchosen hname.choose_spec.2.2).1 haccepts
      exact ⟨extension, hne, hname, hgiven⟩
    · cases haccepts
  · rintro ⟨extension, hne, hname, hgiven⟩
    rw [nameExtension?_eq_some_iff.2 hname]
    exact (hchosen hname.choose_spec.2.2).2 ⟨hne, hgiven⟩

end Discovery

/-! ## §4. Listing a tree in another order. -/

namespace FileTree

/-- The second tree is the first with the entries of directories, anywhere in it, listed in another
    order. -/
inductive Relisted : FileTree → FileTree → Prop where
  | refl (tree : FileTree) : Relisted tree tree
  | perm {entries entries' : List (String × FileTree)} (h : entries.Perm entries') :
      Relisted (.dir entries) (.dir entries')
  | entry (front back : List (String × FileTree)) (name : String) {tree tree' : FileTree}
      (h : Relisted tree tree') :
      Relisted (.dir (front ++ (name, tree) :: back)) (.dir (front ++ (name, tree') :: back))
  | trans {tree middle other : FileTree} (h : Relisted tree middle) (h' : Relisted middle other) :
      Relisted tree other

/-- The trees have nodes at the same locations, and directories at the same ones. -/
def SameNodes (tree other : FileTree) : Prop :=
  ∀ location, (tree.get? location).map isDir = (other.get? location).map isDir

theorem entriesWellNamed_iff {entries : List (String × FileTree)} :
    entriesWellNamed entries = true ↔
      ∀ entry ∈ entries, Path.isName entry.1 = true ∧ entry.2.wellNamed = true := by
  induction entries with
  | nil => simp [entriesWellNamed]
  | cons entry rest ih =>
    obtain ⟨name, tree⟩ := entry
    simp only [entriesWellNamed, Bool.and_eq_true, ih, List.forall_mem_cons]

theorem wellNamed_dir_iff {entries : List (String × FileTree)} :
    (FileTree.dir entries).wellNamed = true ↔ (entries.map (·.1)).Nodup ∧
      ∀ entry ∈ entries, Path.isName entry.1 = true ∧ entry.2.wellNamed = true := by
  rw [wellNamed, Bool.and_eq_true, decide_eq_true_eq, entriesWellNamed_iff]

/-- Where names differ, an entry is found at its name. -/
theorem lookup_eq_some_iff {α : Type} {entries : List (String × α)}
    (hnodup : (entries.map (·.1)).Nodup) {name : String} {value : α} :
    entries.lookup name = some value ↔ (name, value) ∈ entries := by
  induction entries with
  | nil => simp
  | cons entry rest ih =>
    obtain ⟨first, other⟩ := entry
    obtain ⟨hnotin, hrest⟩ := List.nodup_cons.1 hnodup
    rw [lookup_entry, List.mem_cons, Prod.mk.injEq]
    split
    · next heq =>
      subst heq
      have hnone : (name, value) ∉ rest := fun hmem => hnotin (List.mem_map.2 ⟨_, hmem, rfl⟩)
      simp [hnone, eq_comm]
    · next hne => simp [hne, ih hrest]

/-- **Listing a tree in another order keeps its nodes.** -/
theorem Relisted.sameNodes {tree other : FileTree} (h : Relisted tree other)
    (hnamed : tree.wellNamed = true) : other.wellNamed = true ∧ SameNodes tree other := by
  induction h with
  | refl tree => exact ⟨hnamed, fun _ => rfl⟩
  | @perm entries entries' hperm =>
    obtain ⟨hnodup, hentries⟩ := wellNamed_dir_iff.1 hnamed
    have hnodup' : (entries'.map (·.1)).Nodup := (hperm.map _).nodup_iff.1 hnodup
    have hentries' : ∀ entry ∈ entries', _ := fun entry hmem =>
      hentries entry (hperm.mem_iff.2 hmem)
    refine ⟨wellNamed_dir_iff.2 ⟨hnodup', hentries'⟩, ?_⟩
    have hlookup : ∀ name, entries.lookup name = entries'.lookup name := by
      intro name
      refine Option.ext fun tree => ?_
      rw [lookup_eq_some_iff hnodup, lookup_eq_some_iff hnodup', hperm.mem_iff]
    intro location
    cases location with
    | nil => rfl
    | cons name rest => rw [get?, get?, hlookup]
  | entry front back name h ih =>
    obtain ⟨hnodup, hentries⟩ := wellNamed_dir_iff.1 hnamed
    have htree := hentries _ (List.mem_append_right front List.mem_cons_self)
    obtain ⟨hnamed', hsame⟩ := ih htree.2
    refine ⟨wellNamed_dir_iff.2 ⟨by simpa using hnodup, ?_⟩, ?_⟩
    · intro entry hmem
      rcases List.mem_append.1 hmem with hmem | hmem
      · exact hentries entry (List.mem_append_left _ hmem)
      · rcases List.mem_cons.1 hmem with rfl | hmem
        · exact ⟨htree.1, hnamed'⟩
        · exact hentries entry (List.mem_append_right _ (.tail _ hmem))
    · intro location
      cases location with
      | nil => rfl
      | cons first rest =>
        rw [get?, get?, List.lookup_append, List.lookup_append, lookup_entry, lookup_entry]
        cases front.lookup first with
        | some node => rfl
        | none =>
          by_cases hfirst : first = name
          · simpa [hfirst] using hsame rest
          · simp [hfirst]
  | trans h h' ih ih' =>
    obtain ⟨hmiddle, hsame⟩ := ih hnamed
    obtain ⟨hother, hsame'⟩ := ih' hmiddle
    exact ⟨hother, fun location => (hsame location).trans (hsame' location)⟩

theorem SameNodes.isDirAt_iff {tree other : FileTree} (h : SameNodes tree other)
    (location : Location) : tree.IsDirAt location ↔ other.IsDirAt location := by
  have hdir : ∀ tree : FileTree, tree.IsDirAt location ↔
      (tree.get? location).map isDir = some true := by
    intro tree
    unfold IsDirAt
    cases tree.get? location with
    | none => simp
    | some node => cases node <;> simp [isDir]
  rw [hdir, hdir, h]

theorem SameNodes.leaf_iff {tree other : FileTree} (h : SameNodes tree other)
    (location : Location) (counts : Bool → Prop) :
    (∃ node, tree.get? location = some node ∧ counts node.isDir) ↔
      ∃ node, other.get? location = some node ∧ counts node.isDir := by
  have hleaf : ∀ tree : FileTree, (∃ node, tree.get? location = some node ∧ counts node.isDir) ↔
      ∃ kind, (tree.get? location).map isDir = some kind ∧ counts kind := by
    intro tree
    cases tree.get? location <;> simp
  rw [hleaf, hleaf, h]

end FileTree

namespace Discovery

open FileTree

theorem IsReached.of_sameNodes {exclude : List String} {faults : Faults} {path : String}
    {before names : List String} {tree other : FileTree}
    (h : IsReached exclude faults path before tree names) (hsame : SameNodes tree other) :
    IsReached exclude faults path before other names where
  directory := fun i hpos hlt =>
    ⟨(hsame.isDirAt_iff _).1 (h.directory i hpos hlt).1, (h.directory i hpos hlt).2⟩
  listed := h.listed
  notSkipped := h.notSkipped
  notBuild := h.notBuild
  notExcluded := h.notExcluded

theorem IsCandidate.of_sameNodes {extensions exclude : List String} {faults : Faults}
    {root extension : String} {names : List String} {tree other : FileTree}
    (h : IsCandidate extensions exclude faults root tree names extension)
    (hsame : SameNodes tree other) :
    IsCandidate extensions exclude faults root other names extension where
  reached := h.reached.of_sameNodes hsame
  leaf := (hsame.leaf_iff names fun kind => kind = false ∨ faults.kindless names = true).1 h.leaf
  ending := h.ending
  chosen := h.chosen

theorem IsUnlisted.of_sameNodes {exclude : List String} {faults : Faults} {root : String}
    {names listed : List String} {fault : FileFault} {tree other : FileTree}
    (h : IsUnlisted exclude faults root tree names fault listed) (hsame : SameNodes tree other) :
    IsUnlisted exclude faults root other names fault listed where
  reached := h.reached.of_sameNodes hsame
  isDir := (hsame.isDirAt_iff names).1 h.isDir
  known := h.known
  notSkipped := h.notSkipped
  notBuild := h.notBuild
  endsEarly := h.endsEarly

/-! ## §5. A discovery finds the candidates. -/

/-- The issue of a directory whose listing ends early. -/
def issueAt (names : List String) (fault : FileFault) : Issue :=
  { path := "/".intercalate names, reason := fault.message }

theorem stops_iff {faults : Faults} {path : String} {names : List String} {issue : Issue} :
    Stops faults path names (.issue issue) ↔
      ∃ fault listed, EndsEarly faults path names fault listed ∧ issue = issueAt names fault := by
  unfold Stops
  constructor
  · rintro ⟨stop, hstop, hissue⟩
    exact ⟨_, _, interruption?_eq_some_iff.1 hstop, Finding.issue.inj hissue⟩
  · rintro ⟨fault, listed, hends, rfl⟩
    exact ⟨⟨fault, listed⟩, interruption?_eq_some_iff.2 hends, rfl⟩

theorem joinAll_concat (path : String) (front : List String) (last : String) :
    Path.joinAll path (front ++ [last]) = Path.join (Path.joinAll path front) last :=
  List.foldl_concat ..

section

variable {root : String} {faults : Faults} {entries : List (String × FileTree)}

/-- **What is found below a root is how its own listing ends early, and what the last step of the
    walk finds at names that it reaches.** -/
theorem mem_findIn_root_iff (hnamed : (FileTree.dir entries).wellNamed = true) {options : Options}
    {finding : Finding} :
    finding ∈ findIn options faults root [] entries ↔
      Stops faults root [] finding ∨
      ∃ front last node, IsReached options.exclude faults root [] (.dir entries) (front ++ [last]) ∧
        (FileTree.dir entries).get? (front ++ [last]) = some node ∧
        FindsAt options faults (Path.joinAll root front) front last node [] finding := by
  simp only [wellNamed, Bool.and_eq_true, decide_eq_true_eq] at hnamed
  rw [mem_findIn_iff options faults root [] entries hnamed.1 hnamed.2]
  refine or_congr_right ?_
  constructor
  · rintro ⟨name, tree, below, hfinds⟩
    obtain ⟨hreached, front, last, node, heq, hget, hlast⟩ := (finds_iff below).1 ⟨tree, hfinds⟩
    exact ⟨front, last, node, heq ▸ hreached, heq ▸ hget, hlast⟩
  · rintro ⟨front, last, node, hreached, hget, hlast⟩
    obtain ⟨name, below, heq⟩ : ∃ name below, front ++ [last] = name :: below :=
      List.exists_cons_of_ne_nil (by simp)
    obtain ⟨tree, hfinds⟩ := (finds_iff below).2
      ⟨heq ▸ hreached, front, last, node, heq.symm, heq ▸ hget, hlast⟩
    exact ⟨name, tree, below, hfinds⟩

/-- A file is found at the names of a candidate. -/
theorem file_mem_iff (hnamed : (FileTree.dir entries).wellNamed = true)
    {extensions exclude names : List String} :
    .file { path := Path.joinAll root names, names }
        ∈ findIn (.of extensions exclude) faults root [] entries ↔
      ∃ extension, extension ≠ "" ∧
        IsCandidate extensions exclude faults root (.dir entries) names extension := by
  rw [mem_findIn_root_iff hnamed]
  constructor
  · rintro (⟨stop, -, hstop⟩ | ⟨front, last, node, hreached, hget, hlast⟩)
    · cases hstop
    have hnames : names = front ++ [last] := congrArg Candidate.names hlast.file_eq
    subst hnames
    generalize hfinding : Finding.file _ = finding at hlast
    cases hlast with
    | stopped _ _ hstops =>
      obtain ⟨stop, -, rfl⟩ := hstops
      cases hfinding
    | leaf hleaf haccepts =>
      obtain ⟨extension, hne, hending, hchosen⟩ := accepts_iff.1 haccepts
      exact ⟨extension, hne, hreached, ⟨node, hget, hleaf⟩, ⟨last, by simp, hending⟩, hchosen⟩
  · rintro ⟨extension, hne, hreached, ⟨node, hget, hleaf⟩, ⟨last, hlast, hending⟩, hchosen⟩
    obtain ⟨front, rfl⟩ := List.getLast?_eq_some_iff.1 hlast
    refine .inr ⟨front, last, node, hreached, hget, ?_⟩
    rw [joinAll_concat]
    exact .leaf hleaf (accepts_iff.2 ⟨extension, hne, hending, hchosen⟩)

/-- An issue is found at the names of a directory whose listing ends early. -/
theorem issue_mem_iff (hnamed : (FileTree.dir entries).wellNamed = true)
    {options : Options} {issue : Issue} :
    .issue issue ∈ findIn options faults root [] entries ↔
      ∃ names fault listed,
        IsUnlisted options.exclude faults root (.dir entries) names fault listed ∧
          issue = issueAt names fault := by
  rw [mem_findIn_root_iff hnamed, stops_iff]
  constructor
  · rintro (⟨fault, listed, hends, rfl⟩ | ⟨front, last, node, hreached, hget, hlast⟩)
    · exact ⟨[], fault, listed, ⟨isReached_nil, ⟨_, rfl⟩, fun h => absurd rfl h, by simp, by simp,
        hends⟩, rfl⟩
    generalize hfinding : Finding.issue issue = finding at hlast
    cases hlast with
    | leaf => cases hfinding
    | stopped hknown hkept hstops =>
      obtain ⟨hskipped, hbuild⟩ := isSkipped_eq_false_iff.1 hkept
      subst hfinding
      obtain ⟨fault, listed, hends, rfl⟩ := stops_iff.1 hstops
      refine ⟨front ++ [last], fault, listed, ⟨hreached, ⟨_, hget⟩, fun _ => hknown,
        by simpa using hskipped, ?_, ?_⟩, rfl⟩
      · intro name heq
        obtain ⟨rfl, rfl⟩ : front = [] ∧ last = name := by
          simpa [List.append_eq_cons_iff] using heq
        exact hbuild rfl
      · rwa [joinAll_concat]
  · rintro ⟨names, fault, listed, ⟨hreached, ⟨inner, hget⟩, hknown, hskipped, hbuild, hends⟩, rfl⟩
    rcases List.eq_nil_or_concat' names with rfl | ⟨front, last, rfl⟩
    · exact .inl ⟨fault, listed, hends, rfl⟩
    refine .inr ⟨front, last, _, hreached, hget,
      .stopped (hknown (by simp)) (isSkipped_eq_false_iff.2 ⟨?_, ?_⟩) ?_⟩
    · exact hskipped last (by simp)
    · rintro rfl
      exact hbuild last rfl
    · rw [joinAll_concat] at hends
      exact stops_iff.2 ⟨fault, listed, hends, rfl⟩

/-- **A file is found in a directory only through the names that the directory lists.**  Where it
    cannot be listed at all, nothing in it is a candidate. -/
theorem IsUnlisted.mem_listed {extensions exclude names below listed : List String}
    {extension : String} {fault : FileFault} {tree : FileTree}
    (h : IsUnlisted exclude faults root tree names fault listed)
    (hcandidate : IsCandidate extensions exclude faults root tree (names ++ below) extension) :
    ∃ next ∈ below.head?, next ∈ listed := by
  cases below with
  | nil =>
    -- the directory itself is no candidate, for it is told to be a directory
    obtain ⟨inner, hdir⟩ := h.isDir
    obtain ⟨node, hget, hleaf⟩ := hcandidate.leaf
    obtain ⟨last, hlast, -⟩ := hcandidate.ending
    rw [List.append_nil] at hget hleaf hlast
    have hne : names ≠ [] := by
      rintro rfl
      cases hlast
    rw [hdir, Option.some.injEq] at hget
    subst hget
    rw [h.known hne] at hleaf
    rcases hleaf with hleaf | hleaf <;> cases hleaf
  | cons next below =>
    have hlists := hcandidate.reached.listed names.length next (by simp)
    rw [List.take_left, List.nil_append] at hlists
    exact ⟨next, rfl, hlists fault listed h.endsEarly⟩

variable {disk : Disk} {location : Location}

/-- Every directory whose listing ends early is one issue, and there are no others. -/
theorem discover_issues (hroot : disk.find root = .ok (location, .dir entries))
    (hnamed : (FileTree.dir entries).wellNamed = true) (options : Options) :
    ((disk.discover root options).issues.map (·.path)).Nodup ∧
      ∀ issue, issue ∈ (disk.discover root options).issues ↔
        ∃ names fault listed,
          IsUnlisted options.exclude (disk.faults.below location) root (.dir entries) names fault
            listed ∧ issue = issueAt names fault := by
  have hissues : (disk.discover root options).issues
      = (findIn options (disk.faults.below location) root [] entries).filterMap (·.issue?) := by
    rw [← findings_of_find hroot options]
    rfl
  rw [hissues]
  refine ⟨?_, fun issue => ?_⟩
  · simp only [wellNamed, Bool.and_eq_true, decide_eq_true_eq] at hnamed
    have hplaces := findIn_nodup options (disk.faults.below location) root [] (by simp) entries
      hnamed.1 hnamed.2
    have hissue := ((map_file_sublist
      (findIn options (disk.faults.below location) root [] entries)).2.map (·.place)).nodup hplaces
    rwa [List.map_map] at hissue
  · rw [mem_issues_iff, issue_mem_iff hnamed]

/-- **A discovery returns exactly the candidates**, in the byte order of the names that lead to them
    and each of them once.  A directory that cannot be listed, or not to its end, is one issue with
    the fault that the system reports; a file is found in it only through the names that it lists,
    and nothing else is an issue.  Listing the entries of directories in another order changes no
    file and at most the order of the issues. -/
theorem discover_finds_candidates (hroot : disk.find root = .ok (location, .dir entries))
    (hnamed : (FileTree.dir entries).wellNamed = true) (extensions exclude : List String) :
    let faults := disk.faults.below location
    (∃ rows : List (List String),
      (disk.discover root (.of extensions exclude)).files = rows.map (Path.joinAll root) ∧
      rows.Pairwise (fun names others => names.map bytesOf < others.map bytesOf) ∧
      (∀ names, names ∈ rows ↔ ∃ extension, extension ≠ "" ∧
        IsCandidate extensions exclude faults root (.dir entries) names extension) ∧
      ∀ names fault listed, IsUnlisted exclude faults root (.dir entries) names fault listed →
        ∀ below, names ++ below ∈ rows → ∃ next ∈ below.head?, next ∈ listed) ∧
    (disk.discover root (.of extensions exclude)).files.Nodup ∧
    ((disk.discover root (.of extensions exclude)).issues.map (·.path)).Nodup ∧
    (∀ issue, issue ∈ (disk.discover root (.of extensions exclude)).issues ↔
      ∃ names fault listed, IsUnlisted exclude faults root (.dir entries) names fault listed ∧
        issue = issueAt names fault) ∧
    ∀ (other : Disk) (location' : Location) (entries' : List (String × FileTree)),
      other.find root = .ok (location', .dir entries') → other.faults.below location' = faults →
      Relisted (.dir entries) (.dir entries') →
      (other.discover root (.of extensions exclude)).files
          = (disk.discover root (.of extensions exclude)).files ∧
        (other.discover root (.of extensions exclude)).issues.Perm
          (disk.discover root (.of extensions exclude)).issues := by
  intro faults
  obtain ⟨rows, hfiles, hsorted, hmem⟩ := discover_rows hroot hnamed (.of extensions exclude)
  obtain ⟨hissues, hissue⟩ := discover_issues hroot hnamed (.of extensions exclude)
  simp only [file_mem_iff hnamed] at hmem
  refine ⟨⟨rows, hfiles, hsorted.imp lt_iff_map_bytesOf_lt.1, hmem, ?_⟩,
    (relativeTo_nodup hroot hnamed _).of_map, hissues, hissue, ?_⟩
  · intro names fault listed hunlisted below hbelow
    obtain ⟨extension, -, hcandidate⟩ := (hmem _).1 hbelow
    exact hunlisted.mem_listed hcandidate
  · intro other location' entries' hroot' hfaults hrelisted
    obtain ⟨hnamed', hsame⟩ := hrelisted.sameNodes hnamed
    have hsame' : SameNodes (.dir entries') (.dir entries) := fun location => (hsame location).symm
    obtain ⟨rows', hfiles', hsorted', hmem'⟩ :=
      discover_rows hroot' hnamed' (.of extensions exclude)
    obtain ⟨hissues', hissue'⟩ := discover_issues hroot' hnamed' (.of extensions exclude)
    simp only [file_mem_iff hnamed', hfaults] at hmem' hissue'
    constructor
    · -- a strictly increasing row is told by its members
      have hperm : rows'.Perm rows := by
        refine (List.perm_ext_iff_of_nodup hsorted'.nodup hsorted.nodup).2 fun names => ?_
        rw [hmem, hmem']
        exact exists_congr fun _ => and_congr_right fun _ =>
          ⟨(·.of_sameNodes hsame'), (·.of_sameNodes hsame)⟩
      rw [hfiles, hfiles', hperm.eq_of_pairwise
        (fun _ _ _ _ hlt hgt => absurd hgt (List.lt_asymm hlt)) hsorted' hsorted]
    · refine (List.perm_ext_iff_of_nodup (hissues'.of_map) (hissues.of_map)).2 fun issue => ?_
      rw [hissue, hissue']
      exact exists_congr fun _ => exists_congr fun _ => exists_congr fun _ =>
        and_congr_left fun _ => ⟨(·.of_sameNodes hsame'), (·.of_sameNodes hsame)⟩

end

/-- A directory with links in a circle, a directory that is closed, and a build directory that is
    not right below the root. -/
def circle : List (String × FileTree) :=
  [("b.ts", .link "app"), ("closed", .dir [("c.ts", .file "x".toUTF8)]),
    ("app", .dir [("up", .link ".."), ("dist", .dir [("z.ts", .file "x".toUTF8)])])]

/-- A disk on which one directory cannot be listed. -/
def closedDisk (entries : List (String × FileTree)) : Disk where
  tree := .dir [("src", .dir entries)]
  faults := { listing := fun location =>
    if location = ["src", "closed"] then some { fault := .system "Permission denied" } else none }

/-- Where the system reports no fault, only a path that is too long ends a listing early. -/
theorem not_endsEarly {faults : Faults} {path : String} {before listed : List String}
    {fault : FileFault} (hshort : path.utf8ByteSize ≤ maxPath)
    (hnone : faults.listing before = none) : ¬ EndsEarly faults path before fault listed := by
  intro hends
  cases hends with
  | tooLong hlong => exact absurd hshort (Nat.not_le.2 hlong)
  | interrupted _ hstop => exact absurd (hnone.symm.trans hstop) (by simp)

/-- The file in the build directory is found, whichever entry is listed first, and the closed
    directory is an issue. -/
theorem discover_finds_candidates_circle :
    "src/app/dist/z.ts" ∈ ((closedDisk circle).discover "src" (.of [".ts"] [])).files ∧
      ⟨"closed", "Permission denied"⟩
        ∈ ((closedDisk circle).discover "src" (.of [".ts"] [])).issues ∧
      ((closedDisk circle.reverse).discover "src" (.of [".ts"] [])).files
        = ((closedDisk circle).discover "src" (.of [".ts"] [])).files := by
  obtain ⟨⟨rows, hfiles, -, hmem, -⟩, -, -, hissue, hrelisted⟩ :=
    discover_finds_candidates
      (show (closedDisk circle).find "src" = .ok (["src"], .dir circle) from rfl)
      (by decide) [".ts"] []
  refine ⟨?_, (hissue _).2 ⟨["closed"], .system "Permission denied", [], ?_, by decide⟩, ?_⟩
  · rw [hfiles]
    refine List.mem_map.2 ⟨["app", "dist", "z.ts"], (hmem _).2 ⟨"ts", by decide, ?_⟩, by decide⟩
    refine ⟨⟨fun i hpos hlt => ?_, fun i name hget fault listed hends => ?_, by decide, by decide,
      by simp⟩, ⟨_, rfl, .inl rfl⟩, ⟨"z.ts", by decide, ['z'], by decide⟩, ".ts", by simp, 1,
      by decide⟩
    · match i, hpos with
      | 1, _ => exact ⟨⟨_, rfl⟩, rfl⟩
      | 2, _ => exact ⟨⟨_, rfl⟩, rfl⟩
      | i + 3, _ => exact absurd hlt (by simp)
    · match i, hget with
      | 0, _ => exact absurd hends (not_endsEarly (by decide) (by decide))
      | 1, _ => exact absurd hends (not_endsEarly (by decide) (by decide))
      | 2, _ => exact absurd hends (not_endsEarly (by decide) (by decide))
  · have hreached : IsReached (Options.of [".ts"] []).exclude
        ((closedDisk circle).faults.below ["src"]) "src" [] (.dir circle) ["closed"] :=
      isReached_singleton.2 ⟨by decide, by decide⟩
    have hstop : ((closedDisk circle).faults.below ["src"]).listing ["closed"]
        = some ⟨.system "Permission denied", []⟩ := rfl
    refine ⟨hreached, ⟨_, rfl⟩, fun _ => rfl, by decide, ?_, .interrupted (by decide) hstop⟩
    rintro name ⟨⟩
    decide
  · exact (hrelisted (closedDisk circle.reverse) _ _ rfl rfl
      (.perm (List.reverse_perm _).symm)).1

/-- An extension of dots only chooses no file, although a name can end in a dot. -/
theorem discover_dot :
    IsCandidate ["."] [] {} "src" (.dir [("a.", .file "x".toUTF8)]) ["a."] "" ∧
      (Disk.discover { tree := .dir [("src", .dir [("a.", .file "x".toUTF8)])] } "src"
        (.of ["."] [])).files = [] := by
  constructor
  · have hreached : IsReached (Options.of ["."] []).exclude {} "src" []
        (.dir [("a.", .file "x".toUTF8)]) ["a."] := isReached_singleton.2 ⟨by decide, by decide⟩
    exact ⟨hreached, ⟨_, rfl, .inl rfl⟩, ⟨"a.", by decide, ['a'], by decide⟩, ".", by simp, 1,
      by decide⟩
  · have hfound : (findings { tree := .dir [("src", .dir [("a.", .file "x".toUTF8)])] } "src"
        (.of ["."] [])).filterMap (·.candidate?) = [] := by decide +kernel
    show (sortCandidates _).map _ = _
    rw [hfound, sortCandidates, List.mergeSort_nil]
    rfl

end Discovery

end Reroute
