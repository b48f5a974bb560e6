/-
  Reroute.Proofs.RootSpelling — the spelling of the root does not matter.

  Two paths may lead to one directory: with slashes and dots that do not count, over other
  directories, or through links.  A discovery below either finds files at the same names, and the
  same directories cannot be listed (`discover_respelled`).  What a run shows of a file, and what
  the rules know of it, depend on these names alone, and they lead to the same file from either root
  (`alike_joinAll`).  So the two runs stay in step, block by block (`Block.alike`, `Blocks.alike`).

  Main statement (`run_root_spelling`): two runs over one directory leave the same disk and report
  the same, but for the root itself.
-/
import Mathlib.Data.List.Forall2
import Reroute.Proofs.ApplyRun
import Reroute.Proofs.DiscoveredFiles
import Reroute.Proofs.FileTree.Following

namespace Reroute

/-! ## §1. Two paths to one directory. -/

/-- No lookup of a run below the root reaches a limit on the length of a path or on the number of
    links that it leads through. -/
structure WithinLimits (disk : Disk) (root : String) (options : Discovery.Options) : Prop where
  /-- No directory below the root has a path that is too long for listing it. -/
  listed : ∀ issue ∈ (disk.discover root options).issues,
    issue.reason ≠ FileFault.nameTooLong.message
  short : ∀ path ∈ (disk.discover root options).files, path.utf8ByteSize ≤ FileTree.maxPath
  links : ∀ path ∈ (disk.discover root options).files,
    disk.resolve .read path ≠ .error .tooManyLinks

namespace Discovery

open FileTree

/-- The finding at the same names below another root. -/
def Finding.below (root : String) : Finding → Finding
  | file found => .file { path := Path.joinAll root found.names, names := found.names }
  | issue found => .issue found

/-- None of the findings is that a path is too long for listing its directory. -/
def NoneTooLong (findings : List Finding) : Prop :=
  ∀ issue, .issue issue ∈ findings → issue.reason ≠ FileFault.nameTooLong.message

section

variable {options : Options} {faults : Faults} {root : String}

/-- Where no finding says so, no listing ends early for the length of its path. -/
theorem NoneTooLong.interruption?_eq {path : String} {before : List String}
    {entries : List (String × FileTree)}
    (h : NoneTooLong (findIn options faults path before entries)) :
    interruption? faults path before = faults.listing before := by
  -- the fault that ends a listing is found behind the entries
  have hend : ∀ entries, Finding.issue (issueAt before .nameTooLong)
      ∉ findIn options faults path before entries → path.utf8ByteSize ≤ maxPath := by
    intro entries
    induction entries with
    | nil =>
      intro hnone
      by_contra hlong
      have hstop : interruption? faults path before = some { fault := .nameTooLong } :=
        if_pos (Nat.lt_of_not_le hlong)
      rw [findIn, hstop] at hnone
      exact hnone (List.mem_singleton.2 rfl)
    | cons entry rest ih =>
      intro hnone
      rw [findIn, List.mem_append, not_or] at hnone
      exact ih hnone.2
  have hshort := hend entries fun hmem => h _ hmem rfl
  exact if_neg (Nat.not_lt.2 hshort)

theorem findLeaf_below {path path' : String} {before : List String}
    (hpath : path' = Path.joinAll root before) (name : String) :
    (findLeaf options path before name).map (·.below root) =
      findLeaf options path' before name := by
  subst hpath
  unfold findLeaf
  rw [← joinAll_concat]
  split <;> rfl

mutual

/-- **Whichever path is taken to a directory, the same is found at its entries**, if no path is too
    long. -/
theorem findAt_below {path path' : String} {before : List String}
    (hpath : path' = Path.joinAll root before) (name : String) : (tree : FileTree) →
    NoneTooLong (findAt options faults path before name tree) →
    NoneTooLong (findAt options faults path' before name tree) →
    (findAt options faults path before name tree).map (·.below root)
      = findAt options faults path' before name tree
  | .dir entries, hlimit, hlimit' => by
    unfold findAt at hlimit hlimit' ⊢
    split
    · exact findLeaf_below hpath name
    · rename_i hknown
      rw [if_neg hknown] at hlimit hlimit'
      split
      · rfl
      · rename_i hkept
        rw [if_neg hkept] at hlimit hlimit'
        have hpath' : Path.join path' name = Path.joinAll root (before ++ [name]) := by
          rw [joinAll_concat, hpath]
        have hstop := hlimit.interruption?_eq.trans hlimit'.interruption?_eq.symm
        exact findIn_below hpath' entries hstop hlimit hlimit'
  | .file _, _, _ => findLeaf_below hpath name
  | .link _, _, _ => findLeaf_below hpath name

@[inherit_doc findAt_below]
theorem findIn_below {path path' : String} {before : List String}
    (hpath : path' = Path.joinAll root before) : (entries : List (String × FileTree)) →
    interruption? faults path before = interruption? faults path' before →
    NoneTooLong (findIn options faults path before entries) →
    NoneTooLong (findIn options faults path' before entries) →
    (findIn options faults path before entries).map (·.below root)
      = findIn options faults path' before entries
  | [], hstop, _, _ => by
    rw [findIn, findIn, hstop]
    cases interruption? faults path' before <;> rfl
  | (name, tree) :: rest, hstop, hlimit, hlimit' => by
    have hlists : lists faults path before name = lists faults path' before name := by
      unfold lists
      rw [hstop]
    unfold findIn at hlimit hlimit' ⊢
    rw [hlists] at hlimit ⊢
    rw [List.map_append, findIn_below hpath rest hstop
      (fun issue hmem => hlimit issue (List.mem_append_right _ hmem))
      (fun issue hmem => hlimit' issue (List.mem_append_right _ hmem))]
    congr 1
    split
    · rename_i hlooked
      rw [if_pos hlooked] at hlimit hlimit'
      exact findAt_below hpath name tree
        (fun issue hmem => hlimit issue (List.mem_append_left _ hmem))
        (fun issue hmem => hlimit' issue (List.mem_append_left _ hmem))
    · rfl

end

end

section

variable {disk : Disk} {root other : String} {location : Location}
  {entries : List (String × FileTree)} {options : Options}

theorem noneTooLong_of_limits (hroot : disk.find root = .ok (location, .dir entries))
    (hlimits : WithinLimits disk root options) :
    NoneTooLong (findIn options (disk.faults.below location) root [] entries) := by
  intro issue hmem
  rw [← findings_of_find hroot options] at hmem
  exact hlimits.listed issue (mem_issues_iff.2 hmem)

/-- What is found below one path of a directory is found below another. -/
theorem findings_respelled (hroot : disk.find root = .ok (location, .dir entries))
    (hother : disk.find other = .ok (location, .dir entries))
    (hlimits : WithinLimits disk root options) (hlimits' : WithinLimits disk other options) :
    (findIn options (disk.faults.below location) root [] entries).map (·.below other)
      = findIn options (disk.faults.below location) other [] entries := by
  have hlimit := noneTooLong_of_limits hroot hlimits
  have hlimit' := noneTooLong_of_limits hother hlimits'
  have hstop := hlimit.interruption?_eq.trans hlimit'.interruption?_eq.symm
  exact findIn_below rfl entries hstop hlimit hlimit'

/-- **Whichever path is taken to a directory, the files below it are found at the same names**, and
    the same directories cannot be listed. -/
theorem discover_respelled (hroot : disk.find root = .ok (location, .dir entries))
    (hother : disk.find other = .ok (location, .dir entries))
    (hnamed : (FileTree.dir entries).wellNamed = true) (hlimits : WithinLimits disk root options)
    (hlimits' : WithinLimits disk other options) :
    (disk.discover other options).issues = (disk.discover root options).issues ∧
    ∃ rows : List (List String),
      (∀ names ∈ rows, names ≠ [] ∧ ∀ name ∈ names, Path.isName name = true) ∧
      (disk.discover root options).files = rows.map (Path.joinAll root) ∧
      (disk.discover other options).files = rows.map (Path.joinAll other) := by
  have hbelow := findings_respelled hroot hother hlimits hlimits'
  have hbelow' := findings_respelled hother hroot hlimits' hlimits
  constructor
  · show (findings disk other options).filterMap (·.issue?)
      = (findings disk root options).filterMap (·.issue?)
    rw [findings_of_find hroot, findings_of_find hother, ← hbelow, List.filterMap_map]
    refine List.filterMap_congr fun finding _ => ?_
    cases finding <;> rfl
  obtain ⟨rows, hfiles, hsorted, hmem⟩ := discover_rows hroot hnamed options
  obtain ⟨rows', hfiles', hsorted', hmem'⟩ := discover_rows hother hnamed options
  -- both rows are strictly increasing, so that they are told by their members
  have hperm : rows'.Perm rows := by
    refine (List.perm_ext_iff_of_nodup hsorted'.nodup hsorted.nodup).2 fun names => ?_
    rw [hmem, hmem']
    constructor
    · intro hfile
      rw [← hbelow']
      exact List.mem_map.2 ⟨_, hfile, rfl⟩
    · intro hfile
      rw [← hbelow]
      exact List.mem_map.2 ⟨_, hfile, rfl⟩
  have heq : rows' = rows :=
    hperm.eq_of_pairwise (fun _ _ _ _ hlt hgt => absurd hgt (List.lt_asymm hlt)) hsorted' hsorted
  exact ⟨rows, fun names hrow => isName_of_mem_findIn hnamed ((hmem names).1 hrow), hfiles,
    heq ▸ hfiles'⟩

end

end Discovery

namespace Migration

/-! ## §2. Visits that stay in step. -/

/-- Two paths, each below its own root, are of one file: they lead to the same place, and a run
    shows it alike and tells the rules the same of it. -/
structure Alike (disk : Disk) (root path other path' : String) : Prop where
  resolve : disk.resolve .read path = disk.resolve .read path'
  shown : Path.relativeTo root path = Path.relativeTo other path'
  context : Context.forPath root path = Context.forPath other path'

/-- **The names below a directory are of one file, whichever path is taken to the directory.** -/
theorem alike_joinAll {disk : Disk} {root other : String} {location : FileTree.Location}
    {options : Discovery.Options} (hroot : disk.location? root = some location)
    (hother : disk.location? other = some location) (hdir : disk.tree.IsDirAt location)
    (hlimits : WithinLimits disk root options) (hlimits' : WithinLimits disk other options)
    {names : List String} (hnames : names ≠ [] ∧ ∀ name ∈ names, Path.isName name = true)
    (hmem : Path.joinAll root names ∈ (disk.discover root options).files)
    (hmem' : Path.joinAll other names ∈ (disk.discover other options).files) :
    Alike disk root (Path.joinAll root names) other (Path.joinAll other names) := by
  obtain ⟨-, hempty, -⟩ := FileTree.walkLinks_of_resolve (Disk.resolve_of_location? hroot)
  obtain ⟨-, hempty', -⟩ := FileTree.walkLinks_of_resolve (Disk.resolve_of_location? hother)
  refine ⟨?_, ?_, ?_⟩
  · exact FileTree.resolve_joinAll_eq (Disk.resolve_of_location? hroot)
      (Disk.resolve_of_location? hother) hdir hnames.2 hnames.1 (hlimits.short _ hmem)
      (hlimits'.short _ hmem') (hlimits.links _ hmem) (hlimits'.links _ hmem')
  · rw [Path.relativeTo_joinAll hempty hnames.2, Path.relativeTo_joinAll hempty' hnames.2]
  · unfold Context.forPath
    rw [Path.below?_joinAll hempty hnames.2, Path.below?_joinAll hempty' hnames.2]

/-- **The files that are found below a directory are alike, one by one, whichever path is taken to
    it.** -/
theorem files_alike {disk : Disk} {root other : String} {location : FileTree.Location}
    {entries : List (String × FileTree)} {options : Discovery.Options}
    (hroot : disk.location? root = some location) (hother : disk.location? other = some location)
    (hget : disk.tree.get? location = some (.dir entries))
    (hnamed : (FileTree.dir entries).wellNamed = true) (hlimits : WithinLimits disk root options)
    (hlimits' : WithinLimits disk other options) :
    List.Forall₂ (fun path path' => Alike disk root path other path')
      (disk.discover root options).files (disk.discover other options).files := by
  obtain ⟨-, rows, hnames, hfiles, hfiles'⟩ := Discovery.discover_respelled
    (Disk.find_eq_ok_iff.2 ⟨hroot, hget⟩) (Disk.find_eq_ok_iff.2 ⟨hother, hget⟩) hnamed hlimits
    hlimits'
  rw [hfiles, hfiles', List.forall₂_map_left_iff, List.forall₂_map_right_iff, List.forall₂_same]
  intro names hrow
  exact alike_joinAll hroot hother ⟨entries, hget⟩ hlimits hlimits' (hnames names hrow)
    (hfiles ▸ List.mem_map_of_mem hrow) (hfiles' ▸ List.mem_map_of_mem hrow)

section

variable {disk start after after' : Disk} {registry : Registry} {options : Options}
  {root path other path' : String} {phases phases' : List Phase} {event event' : Report.Event}
  {paths paths' : List String} {moments moments' : List Moment}
  {events events' : List Report.Event}

theorem Alike.of_sameShape (h : Alike start root path other path') (hshape : start.SameShape disk) :
    Alike disk root path other path' where
  resolve := by rw [← hshape.resolve, ← hshape.resolve, h.resolve]
  shown := h.shown
  context := h.context

theorem Alike.location? (h : Alike disk root path other path') :
    disk.location? path = disk.location? path' := by
  unfold Disk.location?
  rw [h.resolve]

theorem Alike.readText (h : Alike disk root path other path') :
    disk.readText path = disk.readText path' := by
  unfold Disk.readText Disk.find
  rw [h.resolve]

theorem Alike.rewrite (h : Alike disk root path other path') (text : String) :
    rewrite registry root text path = rewrite registry other text path' := by
  unfold Migration.rewrite
  rw [h.context]

theorem Alike.rowOf (h : Alike disk root path other path') (text : String) :
    rowOf registry root path text = rowOf registry other path' text := by
  unfold Migration.rowOf
  rw [h.shown, h.context, h.rewrite]

theorem Alike.eventOf (h : Alike disk root path other path') (read : Except FileFault String) :
    eventOf registry root path read = eventOf registry other path' read := by
  cases read with
  | error fault => simp only [Migration.eventOf, h.shown]
  | ok text => simp only [Migration.eventOf, h.rowOf]

/-- **Blocks of one file, below either root, report the same and do the same to the disk**, also if
    a write fails. -/
theorem Block.alike (h : Block undisturbed registry options path disk phases event after)
    (h' : Block undisturbed registry { options with root := other } path' disk phases' event'
      after')
    (halike : Alike disk options.root path other path') : event' = event ∧ after' = after := by
  by_cases hquiet : options.dryRun = false → ∀ text, disk.readText path = .ok text →
      Migration.rewrite registry options.root text path = text
  · obtain ⟨rfl, rfl⟩ := h.still hquiet
    obtain ⟨rfl, rfl⟩ := h'.still fun happly text hread => by
      rw [← halike.rewrite]
      exact hquiet happly text (halike.readText.trans hread)
    rw [← halike.eventOf, ← halike.readText]
    exact ⟨rfl, rfl⟩
  · -- both write the same text to the same file
    simp only [not_forall] at hquiet
    obtain ⟨happly, text, hread, hdiffers⟩ := hquiet
    obtain ⟨location, hlocation, -, hfile⟩ := Disk.readText_eq_ok_iff.1 hread
    have hread' : disk.readText path' = .ok text := halike.readText.symm.trans hread
    have hdiffers' : Migration.rewrite registry other text path' ≠ text := by
      rwa [← halike.rewrite]
    obtain ⟨rfl, rfl⟩ := h.changed happly hread hdiffers
    obtain ⟨rfl, rfl⟩ := h'.changed happly hread' hdiffers'
    rw [Disk.writeText_of_file hlocation hfile,
      Disk.writeText_of_file (halike.location? ▸ hlocation) hfile, ← halike.rewrite,
      ← halike.eventOf]
    exact ⟨rfl, rfl⟩

/-- **Blocks of the same files, below either root, stay in step.** -/
theorem Blocks.alike (h : Blocks undisturbed registry options disk paths moments events after)
    (h' : Blocks undisturbed registry { options with root := other } disk paths' moments' events'
      after')
    (halike : List.Forall₂ (fun path path' => Alike start options.root path other path') paths
      paths')
    (hshape : start.SameShape disk) : events' = events ∧ after' = after := by
  induction h generalizing paths' moments' events' with
  | nil =>
    cases halike
    cases h'
    exact ⟨rfl, rfl⟩
  | cons hblock _ ih =>
    cases halike with
    | cons hfirst hrest =>
      cases h' with
      | cons hblock' hblocks' =>
        obtain ⟨rfl, rfl⟩ := hblock.alike hblock' (hfirst.of_sameShape hshape)
        obtain ⟨rfl, rfl⟩ := ih hblocks' hrest (hshape.trans hblock.sameShape)
        exact ⟨rfl, rfl⟩

end

/-! ## §3. Runs from two roots. -/

/-- **The spelling of the root does not matter.**  Two runs over one directory, whichever paths lead
    to it, leave the same disk and report the same, but for the root itself, if no lookup reaches a
    limit of the system.  The tree is one that a file system can have: its names are plain ones. -/
theorem run_root_spelling (registry : Registry) (options : Options) (other : String) (disk : Disk)
    (hnamed : disk.tree.wellNamed = true) (hroot : disk.isDirectory options.root = true)
    (hsame : disk.location? other = disk.location? options.root)
    (hlimits : WithinLimits disk options.root options.discovery)
    (hlimits' : WithinLimits disk other options.discovery) :
    let first := run registry options disk
    let second := run registry { options with root := other } disk
    second.disk = first.disk ∧
      ∃ report, first.result = .ok report ∧
        second.result = .ok { report with header := { report.header with root := other } } := by
  intro first second
  obtain ⟨location, entries, hfind⟩ := Disk.isDirectory_iff.1 hroot
  obtain ⟨hlocation, hget⟩ := Disk.find_eq_ok_iff.1 hfind
  have hlocation' : disk.location? other = some location := hsame.trans hlocation
  have hfind' : disk.find other = .ok (location, .dir entries) :=
    Disk.find_eq_ok_iff.2 ⟨hlocation', hget⟩
  have hroot' : disk.isDirectory (Options.root { options with root := other }) = true :=
    Disk.isDirectory_iff.2 ⟨location, entries, hfind'⟩
  have hnamed' := Discovery.wellNamed_of_find hnamed hfind
  have halike := files_alike hlocation hlocation' hget hnamed' hlimits hlimits'
  obtain ⟨hissues, -⟩ := Discovery.discover_respelled hfind hfind' hnamed' hlimits hlimits'
  -- both runs start from the same disk, with the same event of their discovery
  obtain ⟨_, events, hblocks, -, hresult⟩ := run_blocks registry hroot
  obtain ⟨_, events', hblocks', -, hresult'⟩ := run_blocks registry hroot'
  obtain ⟨rfl, hdisk⟩ := hblocks.alike hblocks' halike (.refl disk)
  refine ⟨hdisk, _, hresult, ?_⟩
  rw [hresult', hissues, Report.header_recorded]
  exact congrArg Except.ok (Report.recorded_with_header _ _ _)

/-- The limits are kept if they are kept by every finding, in whatever order. -/
theorem withinLimits_of_findings {disk : Disk} {root : String} {options : Discovery.Options}
    (hissues : ∀ issue ∈ (Discovery.findings disk root options).filterMap (·.issue?),
      issue.reason ≠ FileFault.nameTooLong.message)
    (hfiles : ∀ found ∈ (Discovery.findings disk root options).filterMap (·.candidate?),
      found.path.utf8ByteSize ≤ FileTree.maxPath ∧
        disk.resolve .read found.path ≠ .error .tooManyLinks) :
    WithinLimits disk root options := by
  have hall : ∀ path ∈ (disk.discover root options).files,
      path.utf8ByteSize ≤ FileTree.maxPath ∧ disk.resolve .read path ≠ .error .tooManyLinks := by
    intro path hmem
    obtain ⟨found, hfound, rfl⟩ := List.mem_map.1 hmem
    exact hfiles found (List.mem_mergeSort.1 hfound)
  exact ⟨hissues, fun path hmem => (hall path hmem).1, fun path hmem => (hall path hmem).2⟩

/-- A file and a link to it, in a directory that a link beside it leads to. -/
def linkedRoot : Disk :=
  { tree := .dir [("src", .dir [("a.ts", .file "x".toUTF8), ("b.ts", .link "a.ts")]),
      ("lnk", .link "./src")] }

/-- The file is rewritten twice by either run, also by the one that takes two links to its
    directory. -/
theorem run_root_spelling_linkedRoot :
    linkedRoot.location? "lnk/..//lnk/" = linkedRoot.location? "src" ∧
      (run doubling { root := "lnk/..//lnk/", dryRun := false } linkedRoot).disk
        = (run doubling { root := "src", dryRun := false } linkedRoot).disk ∧
      ∃ report, (run doubling { root := "src", dryRun := false } linkedRoot).result = .ok report ∧
        (run doubling { root := "lnk/..//lnk/", dryRun := false } linkedRoot).result
          = .ok { report with header := { report.header with root := "lnk/..//lnk/" } } := by
  have hroot : linkedRoot.isDirectory "src" = true := by decide
  have hsame : linkedRoot.location? "lnk/..//lnk/" = linkedRoot.location? "src" := by
    decide +kernel
  have hlimits : WithinLimits linkedRoot "src" {} :=
    withinLimits_of_findings (by decide +kernel) (by decide +kernel)
  have hlimits' : WithinLimits linkedRoot "lnk/..//lnk/" {} :=
    withinLimits_of_findings (by decide +kernel) (by decide +kernel)
  refine ⟨hsame, ?_⟩
  exact run_root_spelling doubling { root := "src", dryRun := false } "lnk/..//lnk/" linkedRoot
    (by decide) hroot hsame hlimits hlimits'

end Migration

end Reroute
