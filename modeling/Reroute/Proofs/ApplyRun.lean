/-
  Reroute.Proofs.ApplyRun — the effect of a whole applying run.

  Main statement (`run_rewrites_files`): a run below a directory whose writes last rewrites every
  readable text once for each candidate that leads to it, in the order of the candidates and each
  time in the context of that candidate; it reports exactly those rewrites and exactly the
  candidates that cannot be read; and it changes nothing else about the tree.  Links may lead any
  number of candidates to one file.
-/
import Reroute.Proofs.Recording
import Reroute.Proofs.Visits

namespace Reroute.Migration

/-! ## §1. Runs below a directory. -/

/-- A run that does not come to write leaves the disk alone and reports every file as it is. -/
theorem run_still {registry : Registry} {options : Options} {disk : Disk}
    (hroot : disk.isDirectory options.root = true)
    (hquiet : options.dryRun = false →
      ∀ path ∈ (disk.discover options.root options.discovery).files, ∀ text,
        disk.readText path = .ok text → rewrite registry options.root text path = text) :
    (run registry options disk).result
        = .ok (.recorded (headerOf registry options)
            (.issues (disk.discover options.root options.discovery).issues ::
              (disk.discover options.root options.discovery).files.map
                fun path => eventOf registry options.root path (disk.readText path))) ∧
      (run registry options disk).disk = disk := by
  obtain ⟨moments, events, hblocks, -, hresult⟩ := run_blocks registry hroot
  obtain ⟨rfl, hdisk⟩ := hblocks.still hquiet
  exact ⟨hresult, hdisk⟩

/-- A dry run leaves the disk alone and reports every file as it is. -/
theorem run_dry (registry : Registry) (options : Options) (disk : Disk)
    (hdry : options.dryRun = true) (hroot : disk.isDirectory options.root = true) :
    (run registry options disk).result
        = .ok (.recorded (headerOf registry options)
            (.issues (disk.discover options.root options.discovery).issues ::
              (disk.discover options.root options.discovery).files.map
                fun path => eventOf registry options.root path (disk.readText path))) ∧
      (run registry options disk).disk = disk := by
  refine run_still hroot fun happly => ?_
  rw [hdry] at happly
  cases happly

/-- An applying run reports every file as the visits before have left it, and ends in the state of
    a run over all files, if its writes last. -/
theorem run_apply (registry : Registry) (options : Options) (disk : Disk)
    (happly : options.dryRun = false) (hroot : disk.isDirectory options.root = true)
    (hlast : WritesLast disk (run registry options disk).moments) :
    (run registry options disk).result
        = .ok (.recorded (headerOf registry options)
            (.issues (disk.discover options.root options.discovery).issues ::
              eventsAfter registry options.root disk []
                (disk.discover options.root options.discovery).files)) ∧
      Tracks registry options.root disk (disk.discover options.root options.discovery).files
        (run registry options disk).disk := by
  obtain ⟨moments, events, hblocks, hmoments, hresult⟩ := run_blocks registry hroot
  rw [hmoments, List.append_assoc] at hlast
  obtain ⟨rfl, htracks⟩ :=
    hblocks.tracks happly hlast.of_append (tracks_start registry options.root disk)
  exact ⟨hresult, htracks⟩

/-! ## §2. The events of an applying run. -/

theorem mem_eventsAfter {registry : Registry} {root : String} {disk : Disk}
    {before paths : List String} {event : Report.Event} :
    event ∈ eventsAfter registry root disk before paths ↔
      ∃ earlier path later, paths = earlier ++ path :: later ∧
        event = eventOf registry root path
          (readAfter registry root disk (before ++ earlier) path) := by
  -- what stands before a candidate grows by the candidates gone through
  induction paths generalizing before with
  | nil => simp [eventsAfter]
  | cons first rest ih =>
    rw [eventsAfter, List.mem_cons, ih]
    constructor
    · intro hor
      rcases hor with rfl | ⟨earlier, path, later, rfl, rfl⟩
      · exact ⟨[], first, rest, rfl, by simp⟩
      · exact ⟨first :: earlier, path, later, rfl, by simp⟩
    · intro hex
      obtain ⟨earlier, path, later, hpaths, rfl⟩ := hex
      cases earlier with
      | nil =>
        cases hpaths
        exact .inl (by simp)
      | cons other earlier =>
        cases hpaths
        exact .inr ⟨earlier, path, later, rfl, by simp⟩

/-! ## §3. The effect of the run. -/

/-- **An applying run rewrites every readable text once for each candidate that leads to it**, in
    the order of the candidates, and changes nothing else, if its writes last.

    Of the report, the rows of files are exactly those of the candidates that lead to a readable
    text in which some rule has a match at the candidate's turn, with the changes of that very
    rewrite, and the skipped rows are exactly those of the candidates that lead to none.  No file,
    directory or link comes, goes or changes its kind. -/
theorem run_rewrites_files (registry : Registry) (options : Options) (disk : Disk)
    (happly : options.dryRun = false) (hroot : disk.isDirectory options.root = true)
    (hlast : WritesLast disk (run registry options disk).moments) :
    let files := (disk.discover options.root options.discovery).files
    let outcome := run registry options disk
    let textAt (location : FileTree.Location) (visited : List String) (text : String) : String :=
      (pathsTo disk (some location) visited).foldl (rewrite registry options.root) text
    (∀ location text, disk.faults.reading location = none →
        disk.tree.get? location = some (.file text.toUTF8) →
        outcome.disk.tree.get? location = some (.file (textAt location files text).toUTF8)) ∧
      (∀ location content, disk.tree.get? location = some (.file content) →
        disk.faults.reading location ≠ none ∨ String.fromUTF8? content = none →
        outcome.disk.tree.get? location = some (.file content)) ∧
      disk.SameShape outcome.disk ∧
      ∃ report, outcome.result = .ok report ∧
        (∀ row, row ∈ report.perFile ↔
          ∃ before path after location text, files = before ++ path :: after ∧
            disk.location? path = some location ∧ disk.faults.reading location = none ∧
            disk.tree.get? location = some (.file text.toUTF8) ∧
            row = rowOf registry options.root path (textAt location before text) ∧
            row.changes ≠ []) ∧
        (∀ row, row ∈ report.skipped ↔
          ∃ path ∈ files, ∃ fault, disk.readText path = .error fault ∧
            row = { path := Path.relativeTo options.root path, reason := fault.message }) := by
  intro files outcome textAt
  obtain ⟨hresult, htracks⟩ := run_apply registry options disk happly hroot hlast
  refine ⟨htracks.text, htracks.unread, htracks.sameShape, _, hresult, fun row => ?_, fun row => ?_⟩
  · -- the first event is that of the discovery; each other one is that of a candidate at its turn
    rw [Report.mem_perFile, List.mem_cons, mem_eventsAfter]
    constructor
    · intro hex
      obtain ⟨hevent | ⟨before, path, after, hfiles, hevent⟩, hchanges⟩ := hex
      · cases hevent
      · obtain ⟨_, hread, hrow⟩ := eventOf_eq_file.1 hevent.symm
        obtain ⟨location, text, hlocation, hreadable, hfile, rfl⟩ := readAfter_eq_ok.1 hread
        exact ⟨before, path, after, location, text, hfiles, hlocation, hreadable, hfile, hrow,
          hchanges⟩
    · intro hex
      obtain ⟨before, path, after, location, text, hfiles, hlocation, hreadable, hfile, hrow,
        hchanges⟩ := hex
      refine ⟨.inr ⟨before, path, after, hfiles, Eq.symm ?_⟩, hchanges⟩
      exact eventOf_eq_file.2
        ⟨_, readAfter_eq_ok.2 ⟨location, text, hlocation, hreadable, hfile, rfl⟩, hrow⟩
  · rw [Report.mem_skipped, List.mem_cons, mem_eventsAfter]
    constructor
    · intro hor
      rcases hor with hevent | ⟨before, path, after, hfiles, hevent⟩
      · cases hevent
      · obtain ⟨fault, hread, hrow⟩ := eventOf_eq_skipped.1 hevent.symm
        refine ⟨path, ?_, fault, readAfter_eq_error.1 hread, hrow⟩
        rw [show files = before ++ path :: after from hfiles]
        exact List.mem_append_right _ List.mem_cons_self
    · intro hex
      obtain ⟨path, hmem, fault, hread, hrow⟩ := hex
      obtain ⟨before, after, hfiles⟩ := List.append_of_mem hmem
      refine .inr ⟨before, path, after, hfiles, Eq.symm ?_⟩
      exact eventOf_eq_skipped.2 ⟨fault, readAfter_eq_error.2 hread, hrow⟩

/-- A file and a link to it, both of them candidates. -/
def linkedPair : Disk :=
  { tree := .dir [("src", .dir [("a.ts", .file "x".toUTF8), ("b.ts", .link "a.ts")])] }

/-- A rule that never settles: every `x` becomes two. -/
def doubling : Registry :=
  { name := "doubling"
    rules := [{ pattern := { source := "x", node := .set (.single 'x') }
                replacement := .literal "xx"
                description := "double" }] }

/-- The link is visited after the file. -/
theorem discover_linkedPair :
    (linkedPair.discover "src" {}).files = ["src/a.ts", "src/b.ts"] := by
  have hfound : (Discovery.findings linkedPair "src" {}).filterMap (·.candidate?)
      = [⟨"src/a.ts", ["a.ts"]⟩, ⟨"src/b.ts", ["b.ts"]⟩] := by decide +kernel
  show (Discovery.sortCandidates _).map _ = _
  rw [hfound, Discovery.sortCandidates, List.mergeSort_of_pairwise]
  · rfl
  · decide

/-- The file is rewritten once under its own name and once more through the link. -/
theorem run_rewrites_linkedPair :
    linkedPair.isDirectory "src" = true ∧
      (run doubling { root := "src", dryRun := false } linkedPair).disk.tree.get? ["src", "a.ts"]
        = some (.file "xxxx".toUTF8) ∧
      ∃ report, (run doubling { root := "src", dryRun := false } linkedPair).result = .ok report ∧
        { path := "b.ts", changes := [⟨"double", 2⟩], modified := true } ∈ report.perFile := by
  have hroot : linkedPair.isDirectory "src" = true := by decide
  have hfile : linkedPair.tree.get? ["src", "a.ts"] = some (.file "x".toUTF8) := rfl
  have hfirst : rewrite doubling "src" "x" "src/a.ts" = "xx" := by decide +kernel
  have hsecond : rewrite doubling "src" "xx" "src/b.ts" = "xxxx" := by decide +kernel
  have hrow : { path := "b.ts", changes := [⟨"double", 2⟩], modified := true }
      = rowOf doubling "src" "src/b.ts" "xx" := by decide +kernel
  have hpaths : pathsTo linkedPair (some ["src", "a.ts"]) ["src/a.ts", "src/b.ts"]
      = ["src/a.ts", "src/b.ts"] := by decide
  have hbefore : pathsTo linkedPair (some ["src", "a.ts"]) ["src/a.ts"] = ["src/a.ts"] := by decide
  obtain ⟨htext, -, -, report, hreport, hrows, -⟩ :=
    run_rewrites_files doubling { root := "src", dryRun := false } linkedPair rfl hroot
      (run_writesLast doubling hroot fun _ => rfl)
  have hrun := htext ["src", "a.ts"] "x" rfl hfile
  simp only [discover_linkedPair, hpaths, List.foldl_cons, List.foldl_nil, hfirst, hsecond] at hrun
  refine ⟨hroot, hrun, report, hreport, (hrows _).2 ?_⟩
  refine ⟨["src/a.ts"], "src/b.ts", [], ["src", "a.ts"], "x", discover_linkedPair, by decide, rfl,
    hfile, ?_, by decide⟩
  simp only [hbefore, List.foldl_cons, List.foldl_nil, hfirst]
  exact hrow

end Reroute.Migration
