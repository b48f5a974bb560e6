/-
  Reroute.Proofs.Candidates — what a discovery finds, and where.

  A file system gives every entry of a directory a plain name that no other entry there has
  (`FileTree.wellNamed`).  Then the order in which directories list their entries does not matter
  for what is found: it is what the entries that are listed lead to, and how listings end early
  (`mem_findIn_iff`).

  Every finding lies at the names on the way to it and no two lie at the same ones
  (`findIn_nodup`), so no two rows of a report are about the same path (`shown_nodup`); the files
  stand in the order of these names (`discover_rows`).
-/
import Mathlib.Data.List.Nodup
import Reroute.Discovery
import Reroute.Proofs.Paths
import Reroute.Proofs.FileTree.Reading

namespace Reroute

/-! ## §1. Well-named trees. -/

namespace FileTree

mutual

/-- Have all entries of every directory plain names, and different ones? -/
def wellNamed : FileTree → Bool
  | dir entries => decide (entries.map (·.1)).Nodup && entriesWellNamed entries
  | file _ | link _ => true

/-- Have all entries plain names, and are the trees below them well-named? -/
def entriesWellNamed : List (String × FileTree) → Bool
  | [] => true
  | (name, tree) :: rest => Path.isName name && tree.wellNamed && entriesWellNamed rest

end

theorem mem_of_lookup {α : Type} {entries : List (String × α)} {name : String} {value : α}
    (h : entries.lookup name = some value) : name ∈ entries.map (·.1) := by
  induction entries with
  | nil => simp at h
  | cons entry rest ih =>
    obtain ⟨first, other⟩ := entry
    rw [lookup_entry] at h
    split at h
    · next heq => simp [heq]
    · exact List.mem_cons_of_mem first (ih h)

theorem wellNamed_of_lookup {entries : List (String × FileTree)} {name : String} {tree : FileTree}
    (h : entriesWellNamed entries = true) (hlookup : entries.lookup name = some tree) :
    Path.isName name = true ∧ tree.wellNamed = true := by
  induction entries with
  | nil => simp at hlookup
  | cons entry rest ih =>
    obtain ⟨first, node⟩ := entry
    simp only [entriesWellNamed, Bool.and_eq_true] at h
    rw [lookup_entry] at hlookup
    split at hlookup
    · next heq =>
      cases hlookup
      exact heq ▸ h.1
    · exact ih h.2 hlookup

/-- What a well-named tree has at a location is well-named, and the location has plain names. -/
theorem wellNamed_of_get? {tree node : FileTree} {location : Location}
    (h : tree.wellNamed = true) (hget : tree.get? location = some node) :
    node.wellNamed = true ∧ ∀ name ∈ location, Path.isName name = true := by
  induction location generalizing tree with
  | nil =>
    cases hget
    exact ⟨h, by simp⟩
  | cons name rest ih =>
    cases tree with
    | file content => simp [get?] at hget
    | link target => simp [get?] at hget
    | dir entries =>
      rw [get?] at hget
      obtain ⟨child, hlookup, hrest⟩ := Option.bind_eq_some_iff.1 hget
      simp only [wellNamed, Bool.and_eq_true] at h
      obtain ⟨hname, hchild⟩ := wellNamed_of_lookup h.2 hlookup
      obtain ⟨hnode, hnames⟩ := ih hchild hrest
      exact ⟨hnode, List.forall_mem_cons.2 ⟨hname, hnames⟩⟩

end FileTree

namespace Discovery

open FileTree

/-! ## §2. What is found at an entry. -/

/-- The finding is that the listing of a directory ends early.  The directory has the given path and
    lies at the names `before` below the root. -/
def Stops (faults : Faults) (path : String) (before : List String) (finding : Finding) : Prop :=
  ∃ stop, interruption? faults path before = some stop ∧ finding = unlisted before stop.fault

/-- What is found at an entry of a directory or, at the names `below`, under that entry.  The
    directory has the given path and lies at the names `before` below the root. -/
inductive FindsAt (options : Options) (faults : Faults) : (path : String) →
    (before : List String) → (name : String) → FileTree → (below : List String) → Finding →
    Prop where
  | leaf {path : String} {before : List String} {name : String} {tree : FileTree}
      (hleaf : tree.isDir = false ∨ faults.kindless (before ++ [name]) = true)
      (haccepts : options.accepts name = true) :
      FindsAt options faults path before name tree []
        (.file { path := Path.join path name, names := before ++ [name] })
  | stopped {path : String} {before : List String} {name : String}
      {entries : List (String × FileTree)} {finding : Finding}
      (hknown : faults.kindless (before ++ [name]) = false)
      (hkept : isSkipped before name = false)
      (hstops : Stops faults (Path.join path name) (before ++ [name]) finding) :
      FindsAt options faults path before name (.dir entries) [] finding
  | inside {path : String} {before : List String} {name next : String}
      {entries : List (String × FileTree)} {tree : FileTree} {below : List String}
      {finding : Finding} (hknown : faults.kindless (before ++ [name]) = false)
      (hkept : isSkipped before name = false)
      (hlookup : entries.lookup next = some tree)
      (hlisted : lists faults (Path.join path name) (before ++ [name]) next = true)
      (hincluded : options.excludes (before ++ [name] ++ [next]) = false)
      (h : FindsAt options faults (Path.join path name) (before ++ [name]) next tree below
        finding) :
      FindsAt options faults path before name (.dir entries) (next :: below) finding

theorem mem_findLeaf_iff {options : Options} {path : String} {before : List String}
    {name : String} {finding : Finding} :
    finding ∈ findLeaf options path before name ↔ options.accepts name = true ∧
      finding = .file { path := Path.join path name, names := before ++ [name] } := by
  unfold findLeaf
  by_cases haccepts : options.accepts name = true <;> simp [haccepts]

/-- At an entry that is no directory, or is not told to be one, the walk finds the entry itself. -/
theorem mem_leaf_iff (options : Options) {faults : Faults} (path : String) {before : List String}
    {name : String} {tree : FileTree}
    (hleaf : tree.isDir = false ∨ faults.kindless (before ++ [name]) = true) {finding : Finding} :
    finding ∈ findLeaf options path before name ↔
      ∃ below, FindsAt options faults path before name tree below finding := by
  rw [mem_findLeaf_iff]
  constructor
  · rintro ⟨haccepts, rfl⟩
    exact ⟨[], .leaf hleaf haccepts⟩
  · rintro ⟨below, hfinds⟩
    cases hfinds with
    | leaf _ haccepts => exact ⟨haccepts, rfl⟩
    | stopped hknown => simp [hknown, isDir] at hleaf
    | inside hknown => simp [hknown, isDir] at hleaf

theorem mem_stops_iff {faults : Faults} {path : String} {before : List String}
    {finding : Finding} :
    finding ∈ (interruption? faults path before).toList.map (fun stop => unlisted before stop.fault)
      ↔ Stops faults path before finding := by
  unfold Stops
  cases interruption? faults path before with
  | none => simp
  | some stop => simp

mutual

/-- **The walk finds at an entry what the entry and the entries under it lead to.** -/
theorem mem_findAt_iff (options : Options) (faults : Faults) (path : String)
    (before : List String) (name : String) :
    (tree : FileTree) → tree.wellNamed = true → ∀ finding,
    (finding ∈ findAt options faults path before name tree ↔
      ∃ below, FindsAt options faults path before name tree below finding)
  | .dir entries, htree, finding => by
    simp only [wellNamed, Bool.and_eq_true, decide_eq_true_eq] at htree
    have hinside := mem_findIn_iff options faults (Path.join path name) (before ++ [name]) entries
      htree.1 htree.2 finding
    rw [findAt]
    by_cases hkindless : faults.kindless (before ++ [name]) = true
    · rw [if_pos hkindless]
      exact mem_leaf_iff options path (.inr hkindless)
    have hknown : faults.kindless (before ++ [name]) = false := by simpa using hkindless
    rw [if_neg hkindless]
    by_cases hskipped : isSkipped before name = true
    · rw [if_pos hskipped]
      constructor
      · intro hmem
        cases hmem
      · rintro ⟨below, hfinds⟩
        cases hfinds with
        | leaf hleaf => simp [hknown, isDir] at hleaf
        | stopped _ hkept => simp [hkept] at hskipped
        | inside _ hkept => simp [hkept] at hskipped
    have hkept : isSkipped before name = false := by simpa using hskipped
    rw [if_neg hskipped, hinside]
    constructor
    · rintro (hstops | ⟨next, tree, below, hlookup, hlisted, hincluded, hfinds⟩)
      · exact ⟨[], .stopped hknown hkept hstops⟩
      · exact ⟨next :: below, .inside hknown hkept hlookup hlisted hincluded hfinds⟩
    · rintro ⟨below, hfinds⟩
      cases hfinds with
      | leaf hleaf => simp [hknown, isDir] at hleaf
      | stopped _ _ hstops => exact .inl hstops
      | inside _ _ hlookup hlisted hincluded hfinds =>
        exact .inr ⟨_, _, _, hlookup, hlisted, hincluded, hfinds⟩
  | .file content, _, _ => mem_leaf_iff options path (.inl rfl)
  | .link target, _, _ => mem_leaf_iff options path (.inl rfl)

/-- **The walk finds in a directory what the entries that it lists lead to**, in whatever order they
    are listed, **and how its listing ends early.** -/
theorem mem_findIn_iff (options : Options) (faults : Faults) (path : String)
    (before : List String) :
    (entries : List (String × FileTree)) → (entries.map (·.1)).Nodup →
    entriesWellNamed entries = true → ∀ finding,
    (finding ∈ findIn options faults path before entries ↔
      Stops faults path before finding ∨
      ∃ name tree below, entries.lookup name = some tree ∧
        lists faults path before name = true ∧ options.excludes (before ++ [name]) = false ∧
        FindsAt options faults path before name tree below finding)
  | [], _, _, finding => by
    rw [findIn, mem_stops_iff]
    simp
  | (name, tree) :: rest, hnodup, hentries, finding => by
    simp only [entriesWellNamed, Bool.and_eq_true] at hentries
    obtain ⟨hnotin, hrest⟩ := List.nodup_cons.1 hnodup
    have hfirst := mem_findAt_iff options faults path before name tree hentries.1.2 finding
    have hothers := mem_findIn_iff options faults path before rest hrest hentries.2 finding
    rw [findIn, List.mem_append, hothers]
    constructor
    · rintro (hmem | hstops | ⟨other, node, below, hlookup, hfinds⟩)
      · split at hmem
        · next hlooked =>
          rw [Bool.and_eq_true, Bool.not_eq_true'] at hlooked
          obtain ⟨below, hfinds⟩ := hfirst.1 hmem
          exact .inr ⟨name, tree, below, by rw [lookup_entry, if_pos rfl], hlooked.1, hlooked.2,
            hfinds⟩
        · cases hmem
      · exact .inl hstops
      · -- no later entry has the name of this one
        have hne : other ≠ name := fun heq => hnotin (heq ▸ mem_of_lookup hlookup)
        exact .inr ⟨other, node, below, by rw [lookup_entry, if_neg hne, hlookup], hfinds⟩
    · rintro (hstops | ⟨other, node, below, hlookup, hlisted, hincluded, hfinds⟩)
      · exact .inr (.inl hstops)
      rw [lookup_entry] at hlookup
      split at hlookup
      · next heq =>
        subst heq
        cases hlookup
        refine .inl ?_
        rw [if_pos (by simp [hlisted, hincluded])]
        exact hfirst.2 ⟨below, hfinds⟩
      · exact .inr (.inr ⟨other, node, below, hlookup, hlisted, hincluded, hfinds⟩)

end

/-! ## §3. No two findings lie at the same names. -/

/-- The path of a finding relative to the root. -/
def Finding.place : Finding → String
  | file found => "/".intercalate found.names
  | issue found => found.path

theorem Stops.place_eq {faults : Faults} {path : String} {before : List String}
    {finding : Finding} (h : Stops faults path before finding) :
    finding.place = "/".intercalate before := by
  obtain ⟨stop, -, rfl⟩ := h
  rfl

theorem FindsAt.place_eq {options : Options} {faults : Faults} {path name : String}
    {before below : List String} {tree : FileTree} {finding : Finding}
    (h : FindsAt options faults path before name tree below finding) :
    finding.place = "/".intercalate (before ++ name :: below) := by
  induction h with
  | leaf => rfl
  | stopped _ _ hstops => exact hstops.place_eq
  | inside _ _ _ _ _ _ ih => rw [ih, List.append_assoc]; rfl

/-- A candidate lies at the path of the directory joined with the names on the way to it. -/
theorem FindsAt.file_eq {options : Options} {faults : Faults} {path name : String}
    {before below : List String} {tree : FileTree} {found : Candidate}
    (h : FindsAt options faults path before name tree below (.file found)) :
    found = { path := Path.joinAll path (name :: below), names := before ++ name :: below } := by
  generalize hfinding : Finding.file found = finding at h
  induction h with
  | leaf => cases hfinding; rfl
  | stopped _ _ hstops =>
    obtain ⟨stop, -, rfl⟩ := hstops
    cases hfinding
  | inside _ _ _ _ _ _ ih => rw [ih hfinding, List.append_assoc]; rfl

/-- The names under the entry lead to a node. -/
theorem FindsAt.exists_node {options : Options} {faults : Faults} {path name : String}
    {before below : List String} {tree : FileTree} {finding : Finding}
    (h : FindsAt options faults path before name tree below finding) :
    ∃ node, tree.get? below = some node := by
  induction h with
  | leaf => exact ⟨_, rfl⟩
  | stopped => exact ⟨_, rfl⟩
  | inside _ _ hlookup _ _ _ ih =>
    obtain ⟨node, hnode⟩ := ih
    exact ⟨node, by rw [get?, hlookup]; exact hnode⟩

/-- What is found at an entry of a well-named directory lies at plain names. -/
theorem FindsAt.isName {options : Options} {faults : Faults} {path name : String}
    {before below : List String} {entries : List (String × FileTree)} {tree : FileTree}
    {finding : Finding} (h : FindsAt options faults path before name tree below finding)
    (hnamed : entriesWellNamed entries = true) (hlookup : entries.lookup name = some tree) :
    ∀ other ∈ name :: below, Path.isName other = true := by
  obtain ⟨hname, htree⟩ := wellNamed_of_lookup hnamed hlookup
  obtain ⟨node, hget⟩ := h.exists_node
  exact List.forall_mem_cons.2 ⟨hname, (wellNamed_of_get? htree hget).2⟩

theorem findLeaf_nodup (options : Options) (path : String) (before : List String) (name : String) :
    ((findLeaf options path before name).map (·.place)).Nodup := by
  unfold findLeaf
  split <;> simp

mutual

theorem findAt_nodup (options : Options) (faults : Faults) (path : String) (before : List String)
    (name : String) (hbefore : ∀ other ∈ before, Path.isName other = true)
    (hname : Path.isName name = true) :
    (tree : FileTree) → tree.wellNamed = true →
    ((findAt options faults path before name tree).map (·.place)).Nodup
  | .dir entries, htree => by
    simp only [wellNamed, Bool.and_eq_true, decide_eq_true_eq] at htree
    have hnames : ∀ other ∈ before ++ [name], Path.isName other = true := by
      simpa [or_imp, forall_and] using ⟨hbefore, hname⟩
    rw [findAt]
    split
    · exact findLeaf_nodup options path before name
    · split
      · simp
      · exact findIn_nodup options faults _ _ hnames entries htree.1 htree.2
  | .file _, _ => findLeaf_nodup options path before name
  | .link _, _ => findLeaf_nodup options path before name

/-- What is found at one entry and at the entries after it parts at the name of the entry, and the
    end of the listing is found at the directory itself. -/
theorem findIn_nodup (options : Options) (faults : Faults) (path : String) (before : List String)
    (hbefore : ∀ other ∈ before, Path.isName other = true) :
    (entries : List (String × FileTree)) → (entries.map (·.1)).Nodup →
    entriesWellNamed entries = true →
    ((findIn options faults path before entries).map (·.place)).Nodup
  | [], _, _ => by
    rw [findIn]
    cases interruption? faults path before <;> simp
  | (name, tree) :: rest, hnodup, hentries => by
    have hentry : ((name, tree) :: rest).lookup name = some tree := by
      rw [lookup_entry, if_pos rfl]
    have hfirstName := fun finding below
        (hfinds : FindsAt options faults path before name tree below finding) =>
      hfinds.isName hentries hentry
    simp only [entriesWellNamed, Bool.and_eq_true] at hentries
    obtain ⟨⟨hname, htree⟩, hrestNamed⟩ := hentries
    obtain ⟨hnotin, hrest⟩ := List.nodup_cons.1 hnodup
    rw [findIn, List.map_append]
    refine List.nodup_append.2
      ⟨?_, findIn_nodup options faults path before hbefore rest hrest hrestNamed, ?_⟩
    · split
      · exact findAt_nodup options faults path before name hbefore hname tree htree
      · simp
    · intro first hfirst other hother heq
      obtain ⟨finding, hfinding, rfl⟩ := List.mem_map.1 hfirst
      obtain ⟨later, hlater, rfl⟩ := List.mem_map.1 hother
      have hmem : finding ∈ findAt options faults path before name tree := by
        split at hfinding
        · exact hfinding
        · cases hfinding
      obtain ⟨below, hfinds⟩ :=
        (mem_findAt_iff options faults path before name tree htree finding).1 hmem
      -- both places are rows of plain names that start with `before`
      have hrow : ∀ {names : List String}, (∀ other ∈ names, Path.isName other = true) →
          ∀ other ∈ before ++ names, Path.isName other = true := by
        intro names hnames
        simpa [or_imp, forall_and] using ⟨hbefore, hnames⟩
      have hfirstRow := hrow (hfirstName finding below hfinds)
      rw [hfinds.place_eq] at heq
      rcases (mem_findIn_iff options faults path before rest hrest hrestNamed later).1 hlater with
        hstops | ⟨next, node, below', hlookup, -, -, hfinds'⟩
      · rw [hstops.place_eq] at heq
        have hrows := Path.intercalate_inj hfirstRow hbefore heq
        simp at hrows
      · rw [hfinds'.place_eq] at heq
        have hrows := Path.intercalate_inj hfirstRow (hrow (hfinds'.isName hrestNamed hlookup)) heq
        rw [List.append_cancel_left_eq, List.cons.injEq] at hrows
        exact hnotin (hrows.1 ▸ mem_of_lookup hlookup)

end

/-! ## §4. The files of a discovery. -/

/-- The order of the candidates is the lexicographic one of their names. -/
theorem noLater_iff {names others : List String} :
    noLater names others = true ↔ ¬ others < names := by
  induction names generalizing others with
  | nil => simp [noLater]
  | cons name names ih =>
    cases others with
    | nil => simp [noLater]
    | cons other others =>
      rw [noLater, Bool.or_eq_true, Bool.and_eq_true, ih, decide_eq_true_eq, beq_iff_eq,
        List.cons_lt_cons_iff]
      constructor
      · rintro (hlt | ⟨rfl, hrest⟩) (hgt | ⟨heq, hrest'⟩)
        · exact String.lt_asymm hlt hgt
        · exact String.lt_irrefl name (heq ▸ hlt)
        · exact String.lt_irrefl name hgt
        · exact hrest hrest'
      · intro h
        by_cases hlt : name < other
        · exact .inl hlt
        · have heq : name = other :=
            String.le_antisymm (String.not_lt.1 fun hgt => h (.inl hgt)) (String.not_lt.1 hlt)
          exact .inr ⟨heq, fun hrest => h (.inr ⟨heq.symm, hrest⟩)⟩

theorem sortCandidates_sorted (candidates : List Candidate) :
    (sortCandidates candidates).Pairwise fun a b => ¬ b.names < a.names := by
  have htrans : ∀ a b c : Candidate, noLater a.names b.names = true →
      noLater b.names c.names = true → noLater a.names c.names = true := by
    intro a b c hab hbc
    rw [noLater_iff, List.not_lt] at hab hbc ⊢
    exact List.le_trans hab hbc
  have htotal : ∀ a b : Candidate, (noLater a.names b.names || noLater b.names a.names) = true := by
    intro a b
    rw [Bool.or_eq_true, noLater_iff, noLater_iff, List.not_lt, List.not_lt]
    exact List.le_total a.names b.names
  exact (List.pairwise_mergeSort htrans htotal candidates).imp noLater_iff.1

theorem mem_candidates_iff {findings : List Finding} {found : Candidate} :
    found ∈ findings.filterMap (·.candidate?) ↔ .file found ∈ findings := by
  rw [List.mem_filterMap]
  constructor
  · rintro ⟨finding, hmem, hcandidate⟩
    cases finding with
    | file other =>
      cases hcandidate
      exact hmem
    | issue other => cases hcandidate
  · exact fun hmem => ⟨_, hmem, rfl⟩

theorem mem_issues_iff {findings : List Finding} {found : Issue} :
    found ∈ findings.filterMap (·.issue?) ↔ .issue found ∈ findings := by
  rw [List.mem_filterMap]
  constructor
  · rintro ⟨finding, hmem, hissue⟩
    cases finding with
    | issue other =>
      cases hissue
      exact hmem
    | file other => cases hissue
  · exact fun hmem => ⟨_, hmem, rfl⟩

/-- Candidates and issues stand in the order of the findings. -/
theorem map_file_sublist (findings : List Finding) :
    ((findings.filterMap (·.candidate?)).map Finding.file).Sublist findings ∧
      ((findings.filterMap (·.issue?)).map Finding.issue).Sublist findings := by
  induction findings with
  | nil => exact ⟨.slnil, .slnil⟩
  | cons finding findings ih =>
    cases finding with
    | file found => exact ⟨ih.1.cons_cons _, ih.2.cons _⟩
    | issue found => exact ⟨ih.1.cons _, ih.2.cons_cons _⟩

theorem findings_of_find {disk : Disk} {root : String} {location : Location}
    {entries : List (String × FileTree)} (hroot : disk.find root = .ok (location, .dir entries))
    (options : Options) :
    findings disk root options = findIn options (disk.faults.below location) root [] entries := by
  simp [findings, Disk.entries, hroot, bind, Except.bind]

/-- The path of a root is not the empty one. -/
theorem root_ne_empty {disk : Disk} {root : String} {found : Location × FileTree}
    (hroot : disk.find root = .ok found) : root ≠ "" := by
  intro heq
  subst heq
  simp [Disk.find, Disk.resolve, FileTree.resolve, bind, Except.bind] at hroot

/-- What a path leads to in a well-named tree is well-named. -/
theorem wellNamed_of_find {disk : Disk} {path : String} {location : Location} {node : FileTree}
    (hnamed : disk.tree.wellNamed = true) (hfind : disk.find path = .ok (location, node)) :
    node.wellNamed = true :=
  (wellNamed_of_get? hnamed (Disk.find_eq_ok_iff.1 hfind).2).1

section

variable {disk : Disk} {root : String} {location : Location} {entries : List (String × FileTree)}

/-- **The files below a root are the candidates at their names, in the order of these names.** -/
theorem discover_rows (hroot : disk.find root = .ok (location, .dir entries))
    (hnamed : (FileTree.dir entries).wellNamed = true) (options : Options) :
    ∃ rows : List (List String),
      (disk.discover root options).files = rows.map (Path.joinAll root) ∧
      rows.Pairwise (· < ·) ∧
      ∀ names, names ∈ rows ↔ .file { path := Path.joinAll root names, names }
        ∈ findIn options (disk.faults.below location) root [] entries := by
  simp only [wellNamed, Bool.and_eq_true, decide_eq_true_eq] at hnamed
  have hfound := findings_of_find hroot options
  have hmem := mem_findIn_iff options (disk.faults.below location) root [] entries hnamed.1
    hnamed.2
  have hnodup := findIn_nodup options (disk.faults.below location) root [] (by simp) entries
    hnamed.1 hnamed.2
  generalize findIn options (disk.faults.below location) root [] entries = all
    at hfound hmem hnodup ⊢
  -- a candidate is told by its names
  have hcandidate : ∀ found, .file found ∈ all →
      found = { path := Path.joinAll root found.names, names := found.names } := by
    intro found hfile
    rcases (hmem _).1 hfile with ⟨stop, -, hstop⟩ | ⟨name, tree, below, -, -, -, hfinds⟩
    · cases hstop
    · rw [hfinds.file_eq]
      rfl
  have hperm : (sortCandidates (all.filterMap (·.candidate?))).Perm
      (all.filterMap (·.candidate?)) := List.mergeSort_perm _ _
  refine ⟨(sortCandidates (all.filterMap (·.candidate?))).map (·.names), ?_, ?_, fun names => ?_⟩
  · show (sortCandidates ((findings disk root options).filterMap (·.candidate?))).map (·.path) = _
    rw [hfound, List.map_map]
    refine List.map_congr_left fun found hmem => ?_
    rw [hcandidate found (mem_candidates_iff.1 (hperm.mem_iff.1 hmem))]
    rfl
  · have hplaces := ((map_file_sublist all).1.map (·.place)).nodup hnodup
    rw [List.map_map] at hplaces
    have hnames : ((sortCandidates (all.filterMap (·.candidate?))).map (·.names)).Nodup := by
      refine ((hperm.map _).nodup_iff).2 (List.Nodup.of_map ("/".intercalate ·) ?_)
      rw [List.map_map]
      exact hplaces
    have hsorted : ((sortCandidates (all.filterMap (·.candidate?))).map (·.names)).Pairwise
        fun names others => ¬ others < names :=
      List.pairwise_map.2 (sortCandidates_sorted _)
    refine hsorted.imp₂ ?_ hnames
    intro names others hle hne
    rcases List.le_iff_lt_or_eq.1 (List.not_lt.1 hle) with hlt | heq
    · exact hlt
    · exact absurd heq hne
  · rw [List.mem_map]
    constructor
    · rintro ⟨found, hfound, rfl⟩
      have hfile := mem_candidates_iff.1 (hperm.mem_iff.1 hfound)
      rwa [hcandidate found hfile] at hfile
    · intro hfile
      exact ⟨_, hperm.mem_iff.2 (mem_candidates_iff.2 hfile), rfl⟩

/-- The names of candidates are plain ones. -/
theorem isName_of_mem_findIn (hnamed : (FileTree.dir entries).wellNamed = true)
    {options : Options} {faults : Faults} {path : String} {names : List String}
    (h : .file { path, names } ∈ findIn options faults root [] entries) :
    names ≠ [] ∧ ∀ name ∈ names, Path.isName name = true := by
  simp only [wellNamed, Bool.and_eq_true, decide_eq_true_eq] at hnamed
  rcases (mem_findIn_iff options faults root [] entries hnamed.1 hnamed.2 _).1 h with
    ⟨stop, -, hstop⟩ | ⟨name, tree, below, hlookup, -, -, hfinds⟩
  · cases hstop
  · have hnames : names = name :: below := congrArg Candidate.names hfinds.file_eq
    subst hnames
    exact ⟨by simp, hfinds.isName hnamed.2 hlookup⟩

/-- No two candidates below a directory have the same path relative to it. -/
theorem relativeTo_nodup (hroot : disk.find root = .ok (location, .dir entries))
    (hnamed : (FileTree.dir entries).wellNamed = true) (options : Options) :
    ((disk.discover root options).files.map (Path.relativeTo root)).Nodup := by
  obtain ⟨rows, hfiles, hsorted, hrows⟩ := discover_rows hroot hnamed options
  have hne := root_ne_empty hroot
  have hnames := fun names hmem => (isName_of_mem_findIn hnamed ((hrows names).1 hmem)).2
  rw [hfiles, List.map_map]
  refine List.Nodup.map_on (fun names hmem others hmem' heq => ?_) hsorted.nodup
  simp only [Function.comp_apply, Path.relativeTo_joinAll hne (hnames names hmem),
    Path.relativeTo_joinAll hne (hnames others hmem')] at heq
  exact Path.intercalate_inj (hnames names hmem) (hnames others hmem') heq

end

/-- **No two candidates have the same path relative to the root.** -/
theorem shown_nodup {disk : Disk} {root : String} (hnamed : disk.tree.wellNamed = true)
    (hroot : disk.isDirectory root = true) (options : Options) :
    ((disk.discover root options).files.map (Path.relativeTo root)).Nodup := by
  obtain ⟨location, entries, hfind⟩ := Disk.isDirectory_iff.1 hroot
  exact relativeTo_nodup hfind (wellNamed_of_find hnamed hfind) options

/-! ## §5. Names and paths.

    The walk knows a place by the names that lead to it from the root.  Its path tells the same:
    which globs exclude it and where an issue is shown, whether it is the root itself, and where it
    stands in the order of paths. -/

/-- Does the first component come before the second?  The root comes first, then a dot, a double dot
    and the names in their order. -/
def comesBefore : Path.Component → Path.Component → Bool
  | .name text, .name other => text < other
  | .name _, _ => false
  | _, .name _ => true
  | .root, second => second != .root
  | .current, second => second == .parent
  | .parent, _ => false

/-- Do the first components come no later than the second?  The first that differ decide. -/
def pathNoLater : List Path.Component → List Path.Component → Bool
  | [], _ => true
  | _ :: _, [] => false
  | first :: rest, second :: others =>
    comesBefore first second || (first == second && pathNoLater rest others)

theorem pathNoLater_append (start first second : List Path.Component) :
    pathNoLater (start ++ first) (start ++ second) = pathNoLater first second := by
  have hirrefl : ∀ component, comesBefore component component = false := by
    intro component
    cases component with
    | name text => exact decide_eq_false (String.lt_irrefl text)
    | root => rfl
    | current => rfl
    | parent => rfl
  induction start with
  | nil => rfl
  | cons component start ih =>
    rw [List.cons_append, List.cons_append, pathNoLater, hirrefl, ih]
    simp

theorem pathNoLater_names (names others : List String) :
    pathNoLater (names.map .name) (others.map .name) = noLater names others := by
  induction names generalizing others with
  | nil => rfl
  | cons name names ih =>
    cases others with
    | nil => rfl
    | cons other others =>
      have hname : (Path.Component.name name == .name other) = (name == other) := by
        rw [Bool.eq_iff_iff, beq_iff_eq, beq_iff_eq, Path.Component.name.injEq]
      rw [List.map_cons, List.map_cons, pathNoLater, ih, hname]
      rfl

/-- **The names below a root tell what the paths tell.** -/
theorem paths_tell_names {root : String} (hroot : root ≠ "") {names : List String}
    (hnames : ∀ name ∈ names, Path.isName name = true) :
    Path.relativeTo root (Path.joinAll root names) = "/".intercalate names ∧
      (Path.components (Path.joinAll root names) = Path.components root ↔ names = []) ∧
      ∀ others, (∀ name ∈ others, Path.isName name = true) →
        pathNoLater (Path.components (Path.joinAll root names))
          (Path.components (Path.joinAll root others)) = noLater names others := by
  refine ⟨Path.relativeTo_joinAll hroot hnames, ?_, fun others hothers => ?_⟩
  · rw [Path.components_joinAll hroot hnames]
    simp
  · rw [Path.components_joinAll hroot hnames, Path.components_joinAll hroot hothers,
      pathNoLater_append, pathNoLater_names]

end Discovery

end Reroute
