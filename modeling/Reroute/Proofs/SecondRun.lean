/-
  Reroute.Proofs.SecondRun — a second run finds nothing to do.

  A run rewrites contents only, and what a discovery finds does not depend on contents
  (`SameShape.discover`); so a second run goes through the same candidates and passes over the same
  ones (`Tracks.readText_eq`).  Each of the others holds, by then, what the rules have made of some
  text, once or several times (`Tracks.no_change`).

  Main statement (`run_twice`): if the rules note no change in their own output, whatever the file,
  then a second run reports no change and leaves the disk alone.
-/
import Reroute.Proofs.Accounting
import Reroute.Proofs.FeatureFirst

namespace Reroute

/-! ## §1. Discovery reads no content. -/

namespace Discovery

open FileTree

mutual

theorem findAt_shape (options : Options) (faults : Faults) (path : String) (names : List String)
    (name : String) : (tree : FileTree) →
      findAt options faults path names name tree.shape = findAt options faults path names name tree
  | .dir entries => by rw [shape, findAt, findAt, findIn_shape]
  | .file _ => by rw [shape, findAt, findAt]
  | .link _ => by rw [shape]

theorem findIn_shape (options : Options) (faults : Faults) (path : String) (names : List String) :
    (entries : List (String × FileTree)) →
      findIn options faults path names (shapeOfEntries entries)
        = findIn options faults path names entries
  | [] => by rw [shapeOfEntries]
  | (name, tree) :: rest => by
    rw [shapeOfEntries, findIn, findIn, findAt_shape options faults path names name tree,
      findIn_shape options faults path names rest]

end

/-- The findings, by the shape of what is at the root. -/
theorem findings_eq_shape (disk : Disk) (root : String) (options : Options) :
    findings disk root options
      = match (disk.find root).map (Prod.map id shape) with
        | .ok (location, .dir entries) =>
          findIn options (disk.faults.below location) root [] entries
        | .ok _ => [unlisted [] .notDirectory]
        | .error fault => [unlisted [] fault] := by
  unfold findings Disk.entries
  cases disk.find root with
  | error fault => rfl
  | ok found =>
    obtain ⟨location, node⟩ := found
    cases node with
    | dir entries => exact (findIn_shape options _ root [] entries).symm
    | file content => rfl
    | link target => rfl

end Discovery

namespace Disk

/-- **Disks that differ in contents only have the same candidates.** -/
theorem SameShape.discover {disk other : Disk} (h : SameShape disk other) (root : String)
    (options : Discovery.Options) : disk.discover root options = other.discover root options := by
  unfold Disk.discover
  rw [Discovery.findings_eq_shape, Discovery.findings_eq_shape, h.find, h.faults]

end Disk

/-! ## §2. What the second run reads. -/

/-- The rules note no change in a text that they have gone through, in whichever files it stood and
    stands. -/
def Registry.Settles (registry : Registry) : Prop :=
  ∀ text root path root' path' : String,
    (registry.substitute (.forPath root' path')
      (registry.substitute (.forPath root path) text).1).2 = []

namespace Migration

section

variable {registry : Registry} {root : String} {start disk : Disk} {before : List String}

/-- **Every file that a run has gone through holds an output of the rules**, so that rules that
    settle note no change in it. -/
theorem Tracks.no_change (h : Tracks registry root start before disk)
    (hsettles : registry.Settles) {path text : String} (hmem : path ∈ before)
    (hread : disk.readText path = .ok text) : (rowOf registry root path text).changes = [] := by
  rw [h.readText_eq] at hread
  obtain ⟨location, first, hlocation, -, -, rfl⟩ := readAfter_eq_ok.1 hread
  have hvisited : path ∈ pathsTo start (some location) before :=
    List.mem_filter.2 ⟨hmem, by simpa using hlocation⟩
  -- the last visit through any path has written an output of the rules
  unfold textAfter
  rcases List.eq_nil_or_concat' (pathsTo start (some location) before) with
    hnil | ⟨front, last, hpaths⟩
  · rw [hnil] at hvisited
    cases hvisited
  · rw [hpaths, List.foldl_append]
    exact hsettles _ root last root path

end

/-- The candidates that cannot be read after a run could not be read before it, and are passed over
    for the same reasons. -/
theorem Tracks.skipped_eq {registry : Registry} {root : String} {start disk : Disk}
    {before : List String} (h : Tracks registry root start before disk) (paths : List String) :
    (dryEvents registry root disk paths).filterMap (·.skipped?)
      = (dryEvents registry root start paths).filterMap (·.skipped?) := by
  simp only [dryEvents, List.filterMap_map]
  refine List.filterMap_congr fun path _ => ?_
  rw [Function.comp_apply, Function.comp_apply, h.readText_eq]
  rcases eventOf_readAfter_kind registry root start before path with
    ⟨row, hafter, hstart⟩ | ⟨row, row', hafter, hstart⟩
  · rw [hafter, hstart]
  · rw [hafter, hstart]
    rfl

/-- The rows of candidates in which the rules note no change. -/
theorem rows_no_change {registry : Registry} {root : String} {disk : Disk} {paths : List String}
    (h : ∀ path ∈ paths, ∀ text, disk.readText path = .ok text →
      (rowOf registry root path text).changes = [])
    {row : Report.FileRow} (hmem : .file row ∈ dryEvents registry root disk paths) :
    row.changes = [] ∧ row.modified = false := by
  obtain ⟨path, hpath, hevent⟩ := List.mem_map.1 hmem
  obtain ⟨text, hread, rfl⟩ := eventOf_eq_file.1 hevent
  have hchanges := h path hpath text hread
  exact ⟨hchanges, modified_of_no_change hchanges⟩

/-! ## §3. Two runs. -/

/-- **A second run finds nothing to do**, if the rules settle and the writes of the first run last:
    it scans the same number of files, passes over the same ones, reports no change and leaves the
    disk as the first run left it. -/
theorem run_twice (registry : Registry) (options : Options) (disk : Disk)
    (hsettles : registry.Settles) (happly : options.dryRun = false)
    (hroot : disk.isDirectory options.root = true)
    (hlast : WritesLast disk (run registry options disk).moments) :
    let first := run registry options disk
    let second := run registry options first.disk
    ∃ report again, first.result = .ok report ∧ second.result = .ok again ∧
      again.filesScanned = report.filesScanned ∧ again.skipped = report.skipped ∧
      again.filesModified = 0 ∧ again.totalChanges = 0 ∧ again.perFile = [] ∧
      second.disk = first.disk := by
  intro first second
  obtain ⟨hfirst, htracks⟩ := run_apply registry options disk happly hroot hlast
  have hroot' : first.disk.isDirectory options.root = true :=
    (htracks.sameShape.isDirectory _).symm.trans hroot
  -- the second run goes through the same candidates
  have hdiscover : first.disk.discover options.root options.discovery
      = disk.discover options.root options.discovery :=
    (htracks.sameShape.discover options.root options.discovery).symm
  have hquiet : ∀ path ∈ (first.disk.discover options.root options.discovery).files, ∀ text,
      first.disk.readText path = .ok text →
      (rowOf registry options.root path text).changes = [] := by
    rw [hdiscover]
    exact fun path hmem text => htracks.no_change hsettles hmem
  obtain ⟨hsecond, hdisk⟩ := run_still hroot' fun _ path hmem text hread =>
    Registry.substitute_of_no_change (hquiet path hmem text hread)
  have hrows : ∀ row,
      .file row ∈ Report.Event.issues (first.disk.discover options.root options.discovery).issues ::
        dryEvents registry options.root first.disk
          (first.disk.discover options.root options.discovery).files →
      row.changes = [] ∧ row.modified = false := by
    intro row hmem
    rcases List.mem_cons.1 hmem with heq | hfile
    · cases heq
    · exact rows_no_change hquiet hfile
  obtain ⟨hmodified, htotal, hperFile⟩ :=
    Report.recorded_no_change (headerOf registry options) hrows
  refine ⟨_, _, hfirst, hsecond, ?_, ?_, hmodified, htotal, hperFile, hdisk⟩
  · rw [filesScanned_eq hsecond, filesScanned_eq hfirst]
    exact congrArg (·.files.length) hdiscover
  · have hskipped : (dryEvents registry options.root first.disk
          (first.disk.discover options.root options.discovery).files).filterMap (·.skipped?)
        = (eventsAfter registry options.root disk []
          (disk.discover options.root options.discovery).files).filterMap (·.skipped?) := by
      rw [hdiscover, htracks.skipped_eq]
      exact (eventsAfter_kinds registry options.root disk _ []).1.symm
    rw [Report.recorded_eq, Report.recorded_eq]
    exact congrArg (Report.sortByPath (·.path)) hskipped

/-- Moves of which none matches what another writes settle. -/
theorem settles_of_areSettled {moves : List Move} (h : areSettled moves = true) (name : String) :
    Registry.Settles { name, rules := moves.map Move.rule } := by
  intro text root path root' path'
  simp only [Registry.substitute, String.toList_ofList]
  rw [substitute_moves_twice h]

/-- A file with an import that moves, and a link to it. -/
def linkedImport : Disk :=
  { tree := .dir [("src", .dir [("a.ts", .file "import a from './useAuth'".toUTF8),
      ("b.ts", .link "a.ts")])] }

theorem discover_linkedImport :
    (linkedImport.discover "src" {}).files = ["src/a.ts", "src/b.ts"] := by
  have hshape : linkedImport.SameShape linkedPair :=
    ⟨by simp [linkedImport, linkedPair, FileTree.shape, FileTree.shapeOfEntries], rfl, rfl⟩
  rw [hshape.discover, discover_linkedPair]

/-- The first run moves the import; the second one finds it moved, under both names. -/
theorem run_twice_linkedImport :
    ∃ registry report again, Presets.load "feature-first" = .ok registry ∧
      (run registry { root := "src", dryRun := false } linkedImport).result = .ok report ∧
      { path := "a.ts", changes := [⟨"useAuth hook", 1⟩], modified := true } ∈ report.perFile ∧
      (run registry { root := "src", dryRun := false }
        (run registry { root := "src", dryRun := false } linkedImport).disk).result = .ok again ∧
      again.perFile = [] := by
  have hroot : linkedImport.isDirectory "src" = true := by decide
  have hlast := run_writesLast ⟨"feature-first", Presets.featureFirstMoves.map Move.rule⟩
    (show linkedImport.isDirectory (Options.root { root := "src", dryRun := false }) = true from
      hroot) fun _ => rfl
  obtain ⟨report, again, hfirst, hsecond, -, -, -, -, hperFile, -⟩ :=
    run_twice ⟨"feature-first", Presets.featureFirstMoves.map Move.rule⟩
      { root := "src", dryRun := false } linkedImport
      (settles_of_areSettled Presets.areSettled_featureFirst _) rfl hroot hlast
  refine ⟨_, report, again, Presets.load_featureFirst, hfirst, ?_, hsecond, hperFile⟩
  obtain ⟨hresult, -⟩ := run_apply ⟨"feature-first", Presets.featureFirstMoves.map Move.rule⟩
    { root := "src", dryRun := false } linkedImport rfl hroot hlast
  rw [hresult] at hfirst
  cases hfirst
  have hrow : { path := "a.ts", changes := [⟨"useAuth hook", 1⟩], modified := true }
      = rowOf ⟨"feature-first", Presets.featureFirstMoves.map Move.rule⟩ "src" "src/a.ts"
        "import a from './useAuth'" := by decide +kernel
  have hread : readAfter ⟨"feature-first", Presets.featureFirstMoves.map Move.rule⟩ "src"
      linkedImport [] "src/a.ts" = .ok "import a from './useAuth'" :=
    readAfter_eq_ok.2 ⟨["src", "a.ts"], _, by decide, rfl, rfl, rfl⟩
  refine Report.mem_perFile.2 ⟨List.mem_cons_of_mem _ (mem_eventsAfter.2 ?_), by simp⟩
  refine ⟨[], "src/a.ts", ["src/b.ts"], discover_linkedImport, ?_⟩
  rw [List.append_nil, hread, hrow]
  rfl

end Migration

end Reroute
