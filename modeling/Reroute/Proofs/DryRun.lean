/-
  Reroute.Proofs.DryRun — when a dry run foretells an applying run.

  A dry run leaves the disk alone and reports each candidate by the text it has at the start; an
  applying run reports it by the text that the candidates before it have left.  The two reports
  agree on the candidates, on what cannot be read and on what cannot be listed.  They agree on the
  rest exactly if at every candidate's turn the rules find the same changes as at the start
  (`dryRun_agrees_iff`), which is so whenever no two candidates lead to one file.

  Through a link they need not agree: a file that is rewritten under its own name is read again,
  rewritten, through the link (`dryRun_differs_linkedPair`).
-/
import Reroute.Proofs.ApplyRun
import Reroute.Proofs.Candidates
import Reroute.Proofs.Substitution

namespace Reroute.Migration

/-! ## §1. Events of the two runs. -/

/-- At its turn, every candidate finds a text on which the rules note the same changes as on the
    text at the start. -/
def TurnsAgree (registry : Registry) (root : String) (disk : Disk) (files : List String) : Prop :=
  ∀ before path after location text, files = before ++ path :: after →
    disk.location? path = some location → disk.faults.reading location = none →
    disk.tree.get? location = some (.file text.toUTF8) →
    rowOf registry root path (textAfter registry root disk (some location) before text)
      = rowOf registry root path text

/-- The events of a dry run over the paths. -/
def dryEvents (registry : Registry) (root : String) (disk : Disk) (paths : List String) :
    List Report.Event :=
  paths.map fun path => eventOf registry root path (disk.readText path)

theorem eventOf_readAfter_eq {registry : Registry} {root : String} {disk : Disk}
    {files : List String} (h : TurnsAgree registry root disk files) {before after : List String}
    {path : String} (hfiles : files = before ++ path :: after) :
    eventOf registry root path (readAfter registry root disk before path)
      = eventOf registry root path (disk.readText path) := by
  cases hread : disk.readText path with
  | error fault => rw [readAfter_eq_error.2 hread]
  | ok text =>
    obtain ⟨location, hlocation, hreadable, hfile⟩ := Disk.readText_eq_ok_iff.1 hread
    rw [readAfter_eq_ok.2 ⟨location, text, hlocation, hreadable, hfile, rfl⟩]
    show Report.Event.file _ = Report.Event.file _
    rw [h before path after location text hfiles hlocation hreadable hfile]

/-- Where the turns agree, the applying run has the events of the dry run. -/
theorem eventsAfter_eq_dryEvents {registry : Registry} {root : String} {disk : Disk}
    {files : List String} (h : TurnsAgree registry root disk files) :
    ∀ (paths before : List String), files = before ++ paths →
      eventsAfter registry root disk before paths = dryEvents registry root disk paths := by
  intro paths
  induction paths with
  | nil => intro before _; rfl
  | cons path rest ih =>
    intro before hfiles
    have hrest := ih (before ++ [path]) (by simpa using hfiles)
    rw [eventsAfter, eventOf_readAfter_eq h hfiles, hrest]
    rfl

/-- Both runs go through a candidate, or both pass over it for the same reason. -/
theorem eventOf_readAfter_kind (registry : Registry) (root : String) (disk : Disk)
    (before : List String) (path : String) :
    (∃ row, eventOf registry root path (readAfter registry root disk before path) = .skipped row ∧
        eventOf registry root path (disk.readText path) = .skipped row) ∨
      ∃ row row',
        eventOf registry root path (readAfter registry root disk before path) = .file row ∧
        eventOf registry root path (disk.readText path) = .file row' := by
  cases hread : disk.readText path with
  | error fault =>
    rw [readAfter_eq_error.2 hread]
    exact .inl ⟨_, rfl, rfl⟩
  | ok text =>
    obtain ⟨location, hlocation, hreadable, hfile⟩ := Disk.readText_eq_ok_iff.1 hread
    rw [readAfter_eq_ok.2 ⟨location, text, hlocation, hreadable, hfile, rfl⟩]
    exact .inr ⟨_, _, rfl, rfl⟩

/-- **The two runs pass over the same candidates** and go through equally many. -/
theorem eventsAfter_kinds (registry : Registry) (root : String) (disk : Disk) :
    ∀ (paths before : List String),
      (eventsAfter registry root disk before paths).filterMap (·.skipped?)
          = (dryEvents registry root disk paths).filterMap (·.skipped?) ∧
        ((eventsAfter registry root disk before paths).filterMap (·.file?)).length
          = ((dryEvents registry root disk paths).filterMap (·.file?)).length ∧
        (eventsAfter registry root disk before paths).flatMap (·.issuesOf)
          = (dryEvents registry root disk paths).flatMap (·.issuesOf) := by
  intro paths
  induction paths with
  | nil => intro before; exact ⟨rfl, rfl, rfl⟩
  | cons path rest ih =>
    intro before
    obtain ⟨hskipped, hfiles, hissues⟩ := ih (before ++ [path])
    rw [dryEvents] at hskipped hfiles hissues
    simp only [eventsAfter, dryEvents, List.map_cons, List.filterMap_cons, List.flatMap_cons]
    rcases eventOf_readAfter_kind registry root disk before path with
      ⟨row, happly, hdry⟩ | ⟨row, row', happly, hdry⟩
    · rw [happly, hdry]
      exact ⟨congrArg (row :: ·) hskipped, hfiles, hissues⟩
    · rw [happly, hdry]
      exact ⟨hskipped, congrArg (· + 1) hfiles, hissues⟩

/-! ## §2. From the reports back to the turns. -/

/-- A row without changes is that of a file that stays as it is. -/
theorem modified_of_no_change {registry : Registry} {root path text : String}
    (h : (rowOf registry root path text).changes = []) :
    (rowOf registry root path text).modified = false := by
  have hsame : rewrite registry root text path = text := Registry.substitute_of_no_change h
  simp [rowOf, hsame]

theorem rowOf_eq_of_no_change {registry : Registry} {root path text text' : String}
    (h : (rowOf registry root path text).changes = [])
    (h' : (rowOf registry root path text').changes = []) :
    rowOf registry root path text = rowOf registry root path text' := by
  have hrow : ∀ row : Report.FileRow, row = ⟨row.path, row.changes, row.modified⟩ := fun _ => rfl
  rw [hrow (rowOf registry root path text), hrow (rowOf registry root path text'), h, h',
    modified_of_no_change h, modified_of_no_change h']
  rfl

/-- A report that lists the same rows as the dry run's shows that the turns agree, where no two
    candidates have the same relative path. -/
theorem turnsAgree_of_perFile {registry : Registry} {root : String} {disk : Disk}
    {files : List String} (hnodup : (files.map (Path.relativeTo root)).Nodup)
    (hrows : ∀ row : Report.FileRow, row.changes ≠ [] →
      (.file row ∈ eventsAfter registry root disk [] files ↔
        .file row ∈ dryEvents registry root disk files)) :
    TurnsAgree registry root disk files := by
  intro before path after location text hfiles hlocation hreadable hfile
  have hmem : path ∈ files := hfiles ▸ List.mem_append_right before List.mem_cons_self
  have hread : disk.readText path = .ok text :=
    Disk.readText_eq_ok_iff.2 ⟨location, hlocation, hreadable, hfile⟩
  have hafter : readAfter registry root disk before path
      = .ok (textAfter registry root disk (some location) before text) :=
    readAfter_eq_ok.2 ⟨location, text, hlocation, hreadable, hfile, rfl⟩
  have happly : .file (rowOf registry root path
      (textAfter registry root disk (some location) before text))
        ∈ eventsAfter registry root disk [] files := by
    refine mem_eventsAfter.2 ⟨before, path, after, hfiles, ?_⟩
    rw [List.nil_append, hafter]
    rfl
  have hdry : .file (rowOf registry root path text) ∈ dryEvents registry root disk files := by
    refine List.mem_map.2 ⟨path, hmem, ?_⟩
    rw [hread]
    rfl
  -- rows without changes are not listed, so the reports compare only those with some
  by_cases hchanges : (rowOf registry root path
      (textAfter registry root disk (some location) before text)).changes = []
  · by_cases hchanges' : (rowOf registry root path text).changes = []
    · exact rowOf_eq_of_no_change hchanges hchanges'
    · -- the dry run's row is one of the applying run, and its path says at which turn
      obtain ⟨earlier, other, later, hfiles', hevent⟩ :=
        mem_eventsAfter.1 ((hrows _ hchanges').2 hdry)
      obtain ⟨found, hfound, hrow⟩ := eventOf_eq_file.1 hevent.symm
      have hother : other ∈ files := hfiles' ▸ List.mem_append_right earlier List.mem_cons_self
      have hpath : other = path :=
        List.inj_on_of_nodup_map hnodup hother hmem (congrArg Report.FileRow.path hrow).symm
      subst hpath
      have hfilesNodup := List.Nodup.of_map _ hnodup
      rw [hfiles] at hfilesNodup
      have hearlier : before = earlier := by
        have hsplit := hfiles.symm.trans hfiles'
        have hnotin := List.nodup_middle.1 hfilesNodup
        rw [List.nodup_cons, List.mem_append, not_or] at hnotin
        exact ((List.append_cons_inj_of_notMem hnotin.1.1 hnotin.1.2).1 hsplit).1
      subst hearlier
      rw [List.nil_append, hafter] at hfound
      cases hfound
      exact hrow.symm
  · -- the applying run's row is one of the dry run, and its path says of which candidate
    obtain ⟨other, hother, hevent⟩ := List.mem_map.1 ((hrows _ hchanges).1 happly)
    obtain ⟨found, hfound, hrow⟩ := eventOf_eq_file.1 hevent
    have hpath : other = path :=
      List.inj_on_of_nodup_map hnodup hother hmem (congrArg Report.FileRow.path hrow).symm
    subst hpath
    rw [hread] at hfound
    cases hfound
    exact hrow

/-! ## §3. The two reports. -/

theorem mem_perFile_issues (header : Report.Header) (issues : List Discovery.Issue)
    {events : List Report.Event} {row : Report.FileRow} (hchanges : row.changes ≠ []) :
    row ∈ (Report.recorded header (.issues issues :: events)).perFile ↔ .file row ∈ events := by
  rw [Report.mem_perFile, List.mem_cons]
  simp [hchanges]

/-- Two files of one content are gone through independently if no two candidates lead to one. -/
theorem turnsAgree_of_distinct {registry : Registry} {root : String} {disk : Disk}
    {files : List String}
    (h : ∀ before path after location, files = before ++ path :: after →
      disk.location? path = some location → pathsTo disk (some location) before = []) :
    TurnsAgree registry root disk files := by
  intro before path after location text hfiles hlocation _ _
  rw [textAfter, h before path after location hfiles hlocation]
  rfl

/-- **A dry run changes nothing, and its report is that of an applying run whose writes last, but
    for the mode, exactly if every candidate's turn agrees with the start.**

    It is so whenever no two candidates lead to one file.  Whatever links there are, both reports
    count the same candidates and have the same skipped rows and the same issues. -/
theorem dryRun_agrees_iff (registry : Registry) (options : Options) (disk : Disk)
    (hroot : disk.isDirectory options.root = true) :
    let files := (disk.discover options.root options.discovery).files
    let dry := run registry { options with dryRun := true } disk
    let applied := run registry { options with dryRun := false } disk
    dry.disk = disk ∧
      ∃ foretold report, dry.result = .ok foretold ∧ applied.result = .ok report ∧
        (WritesLast disk applied.moments →
          (foretold.skipped = report.skipped ∧ foretold.filesScanned = report.filesScanned ∧
            foretold.discoveryIssues = report.discoveryIssues) ∧
          (TurnsAgree registry options.root disk files →
            foretold = { report with header := { report.header with dryRun := true } }) ∧
          (disk.tree.wellNamed = true →
            foretold = { report with header := { report.header with dryRun := true } } →
            TurnsAgree registry options.root disk files) ∧
          ((∀ before path after location, files = before ++ path :: after →
              disk.location? path = some location → pathsTo disk (some location) before = []) →
            foretold = { report with header := { report.header with dryRun := true } })) := by
  intro files dry applied
  obtain ⟨hdry, hdisk⟩ := run_dry registry { options with dryRun := true } disk rfl hroot
  have hroot' : disk.isDirectory (Options.root { options with dryRun := false }) = true := hroot
  obtain ⟨_, _, -, -, happlied⟩ := run_blocks registry hroot'
  refine ⟨hdisk, _, _, hdry, happlied, fun hlast => ?_⟩
  obtain ⟨happly, -⟩ := run_apply registry { options with dryRun := false } disk rfl hroot hlast
  rw [Except.ok.inj (happlied.symm.trans happly), Report.header_recorded]
  obtain ⟨hskipped, hcount, hissues⟩ := eventsAfter_kinds registry options.root disk files []
  have hagree : TurnsAgree registry options.root disk files →
      Report.recorded (headerOf registry { options with dryRun := true })
          (.issues (disk.discover options.root options.discovery).issues ::
            dryEvents registry options.root disk files)
        = { Report.recorded (headerOf registry { options with dryRun := false })
              (.issues (disk.discover options.root options.discovery).issues ::
                eventsAfter registry options.root disk [] files) with
            header := headerOf registry { options with dryRun := true } } := by
    intro hturns
    rw [eventsAfter_eq_dryEvents hturns files [] rfl]
    exact Report.recorded_with_header _ _ _
  refine ⟨?_, hagree, ?_, fun h => hagree (turnsAgree_of_distinct h)⟩
  · rw [Report.recorded_eq, Report.recorded_eq]
    refine ⟨?_, ?_, ?_⟩
    · exact congrArg (Report.sortByPath (·.path)) hskipped.symm
    · exact congrArg₂ (· + ·) hcount.symm (congrArg List.length hskipped).symm
    · exact congrArg (_ ++ ·) hissues.symm
  · intro hnamed heq
    refine turnsAgree_of_perFile (Discovery.shown_nodup hnamed hroot options.discovery) ?_
    intro row hchanges
    have hperFile := congrArg Report.perFile heq
    have hiff := iff_of_eq (congrArg (row ∈ ·) hperFile)
    exact ((mem_perFile_issues _ _ hchanges).symm.trans hiff.symm).trans
      (mem_perFile_issues _ _ hchanges)

/-- A rule that finds its own output again makes the two reports differ: the link is read after the
    file that it leads to has been rewritten. -/
theorem dryRun_differs_linkedPair :
    linkedPair.isDirectory "src" = true ∧
      ∃ foretold report,
        (run doubling { root := "src", dryRun := true } linkedPair).result = .ok foretold ∧
        (run doubling { root := "src", dryRun := false } linkedPair).result = .ok report ∧
        foretold ≠ { report with header := { report.header with dryRun := true } } := by
  have hroot : linkedPair.isDirectory "src" = true := by decide
  have hfile : linkedPair.tree.get? ["src", "a.ts"] = some (.file "x".toUTF8) := rfl
  obtain ⟨-, foretold, report, hdry, happly, hreports⟩ :=
    dryRun_agrees_iff doubling { root := "src", dryRun := false } linkedPair hroot
  obtain ⟨-, -, hconverse, -⟩ := hreports (run_writesLast doubling hroot fun _ => rfl)
  refine ⟨hroot, foretold, report, hdry, happly, fun heq => ?_⟩
  have hturns := hconverse (by decide) heq
  have hrow := hturns ["src/a.ts"] "src/b.ts" [] ["src", "a.ts"] "x" discover_linkedPair (by decide)
    rfl hfile
  revert hrow
  decide +kernel

end Reroute.Migration
