/-
  Reroute.Proofs.Phases — the phases of a run.

  The moments of a run are its start, the discovery, one block for every file that was discovered,
  in order, and its end.  Which blocks there can be is said by `Block`, with the text that is read,
  the result of the write and the disk that the block leaves.  A block begins with its only reading
  and reports its file unless this is skipped (`Block.reading_first`), so that moments can be
  counted block by block.

  Main statement (`run_phases`): the moments of a run are such a row, whatever an observer does to
  the disk; so a dry run never writes, a file is scanned for every moment of reading, and a file is
  skipped for every moment of reading that no report follows.
-/
import Reroute.Proofs.Accounting

namespace Reroute.Migration

/-! ## §1. Counting moments. -/

/-- The moment is one of reporting the file at the path. -/
def isReportOf (path : Option String) (moment : Moment) : Bool :=
  (moment.1 == .report || moment.1 == .dryReport) && moment.2 == path

/-- Is the moment one of reading? -/
def isReading (moment : Moment) : Bool := moment.1 == .reading

/-- The number of moments of reading that no report of the file follows, up to the next reading. -/
def unreported : List Moment → Nat
  | [] => 0
  | moment :: rest =>
    (if isReading moment && !(rest.takeWhile (!isReading ·)).any (isReportOf moment.2) then 1
      else 0) + unreported rest

theorem not_isReading {others : List Phase} (hothers : .reading ∉ others) (path : Option String) :
    ∀ moment ∈ others.map (·, path), isReading moment = false := by
  intro moment hmem
  obtain ⟨phase, hphase, rfl⟩ := List.mem_map.1 hmem
  exact beq_eq_false_iff_ne.2 fun heq => hothers (heq ▸ hphase)

/-- Moments that are not of reading add nothing to the count. -/
theorem unreported_append {before : List Moment}
    (h : ∀ moment ∈ before, isReading moment = false) (rest : List Moment) :
    unreported (before ++ rest) = unreported rest := by
  induction before with
  | nil => rfl
  | cons moment before ih =>
    rw [List.forall_mem_cons] at h
    rw [List.cons_append, unreported, h.1, ih h.2]
    exact Nat.zero_add _

/-- The phases of one file count if none of them after the reading is a report. -/
theorem unreported_block {others : List Phase} (hothers : .reading ∉ others) (path : String)
    {rest : List Moment}
    (hquiet : (rest.takeWhile (!isReading ·)).any (isReportOf (some path)) = false) :
    unreported ((Phase.reading :: others).map (·, some path) ++ rest)
      = (if .report ∈ others ∨ .dryReport ∈ others then 0 else 1) + unreported rest := by
  have hnot := not_isReading hothers (some path)
  have hany : (others.map (·, some path)).any (isReportOf (some path))
      = decide (.report ∈ others ∨ .dryReport ∈ others) := by
    rw [Bool.eq_iff_iff, List.any_eq_true, decide_eq_true_eq]
    simp only [isReportOf, List.mem_map, exists_exists_and_eq_and, beq_self_eq_true, Bool.and_true,
      Bool.or_eq_true, beq_iff_eq, and_or_left, exists_or, exists_eq_right]
  rw [List.map_cons, List.cons_append, unreported, unreported_append hnot,
    List.takeWhile_append_of_pos (by simpa using hnot), List.any_append, hquiet, hany]
  by_cases hreport : .report ∈ others ∨ .dryReport ∈ others
  · simp [hreport]
  · simp [hreport, isReading]

section

variable {observe : Observer} {registry : Registry} {options : Options} {start after : Disk}
  {paths : List String} {moments : List Moment} {events : List Report.Event}

/-- A dry run never comes to write. -/
theorem Blocks.not_writing (h : Blocks observe registry options start paths moments events after)
    (hdry : options.dryRun = true) : ∀ moment ∈ moments, moment.1 ≠ .writing := by
  induction h with
  | nil => simp
  | cons hblock _ ih =>
    cases hblock with
    | unread => simpa using ih
    | dry => simpa using ih
    | same _ happly => simp [happly] at hdry
    | unwritten _ happly => simp [happly] at hdry
    | written _ happly => simp [happly] at hdry

/-- A block begins with its only reading, and has no report exactly if the file is skipped. -/
theorem Block.reading_first {path : String} {next : Disk} {phases : List Phase}
    {event : Report.Event} (h : Block observe registry options path start phases event next) :
    ∃ others, phases = .reading :: others ∧ .reading ∉ others ∧
      (if .report ∈ others ∨ .dryReport ∈ others then 0 else 1)
        = event.skipped?.toList.length := by
  cases h <;> exact ⟨_, rfl, by decide, rfl⟩

/-- Every file is read once. -/
theorem Blocks.countP_isReading
    (h : Blocks observe registry options start paths moments events after) :
    moments.countP isReading = paths.length := by
  induction h with
  | nil => rfl
  | @cons _ _ _ path _ _ _ _ _ hblock _ ih =>
    obtain ⟨others, rfl, hothers, -⟩ := hblock.reading_first
    have hnone : (others.map (·, some path)).countP isReading = 0 :=
      List.countP_eq_zero.2 (by simpa using not_isReading hothers (some path))
    rw [List.map_cons, List.cons_append, List.countP_cons, List.countP_append, hnone, ih]
    simp [isReading]

/-- No report stands between the end of a block and the next reading. -/
theorem Blocks.no_report (h : Blocks observe registry options start paths moments events after)
    (path : Option String) :
    ((moments ++ ending).takeWhile (!isReading ·)).any (isReportOf path) = false := by
  cases h with
  | nil => rfl
  | cons hblock _ => cases hblock <;> rfl

/-- **The files that are read and not reported are those that are skipped.** -/
theorem Blocks.unreported_eq
    (h : Blocks observe registry options start paths moments events after) :
    unreported (moments ++ ending) = (events.filterMap (·.skipped?)).length := by
  induction h with
  | nil => rfl
  | @cons _ _ _ path _ _ _ event _ hblock hrest ih =>
    obtain ⟨others, rfl, hothers, hcount⟩ := hblock.reading_first
    rw [List.append_assoc, unreported_block hothers path (hrest.no_report _), ih, hcount,
      List.filterMap_cons]
    cases event.skipped? with
    | none => exact Nat.zero_add _
    | some row => exact Nat.add_comm _ _

end

/-! ## §2. The moments of a run. -/

/-- **A run goes through its phases in order**, whatever an observer does during the run.

    A root that is no directory ends it at once.  Otherwise it discovers the files and goes through
    one block of phases for each, in order: the disk that the block before has left is that on which
    the file is read, transformed and, where a run is to change it, written.  A dry run never
    writes; every file that is scanned is read once; and the files that are skipped are those that
    are read without being reported. -/
theorem run_phases (observe : Observer) (registry : Registry) (options : Options) (disk : Disk) :
    let outcome := runObserved observe registry options disk
    ((observe .idle none disk).isDirectory options.root = false →
        outcome.moments = [(.idle, none)]) ∧
      ((observe .idle none disk).isDirectory options.root = true →
        let start := atDiscovery observe disk
        let found := start.discover options.root options.discovery
        ∃ moments events last report,
          Blocks observe registry options start found.files moments events last ∧
          outcome.moments = [(.idle, none), (.discovering, none)] ++ moments ++ ending ∧
          outcome.disk = observe .done none (observe .summarizing none last) ∧
          outcome.result = .ok report ∧
          report = .recorded (headerOf registry options) (.issues found.issues :: events) ∧
          (options.dryRun = true → ∀ moment ∈ outcome.moments, moment.1 ≠ .writing) ∧
          outcome.moments.countP isReading = report.filesScanned ∧
          unreported outcome.moments = report.filesSkipped) := by
  intro outcome
  constructor
  · intro hroot
    unfold outcome runObserved
    dsimp only
    rw [hroot]
    rfl
  · intro hroot start found
    obtain ⟨moments, events, last, hblocks, hall, hdisk, hresult⟩ :=
      runObserved_blocks registry hroot
    have hmoments : outcome.moments = _ := hall
    refine ⟨moments, events, last, _, hblocks, hall, hdisk, hresult, rfl, ?_, ?_, ?_⟩
    · intro hdry
      rw [hmoments, List.forall_mem_append, List.forall_mem_append]
      exact ⟨⟨by decide, hblocks.not_writing hdry⟩, by decide⟩
    · rw [filesScanned_eq hresult, hmoments, List.countP_append, List.countP_append,
        hblocks.countP_isReading]
      exact Nat.zero_add _
    · rw [hmoments, List.append_assoc, unreported_append (by decide), hblocks.unreported_eq,
        Report.recorded_eq]
      rfl

/-- Another program puts a directory in the place of the file when the link to it is written. -/
def replacing : Observer := fun phase path disk =>
  if phase = .writing ∧ path = some "src/b.ts" then
    { disk with tree := .dir [("src", .dir [("a.ts", .dir []), ("b.ts", .link "a.ts")])] }
  else disk

/-- The file is written and reported; the link to it is read, and cannot be written. -/
theorem run_phases_replacing :
    ∃ report,
      (runObserved replacing doubling { root := "src", dryRun := false } linkedPair).result
          = .ok report ∧
        (runObserved replacing doubling { root := "src", dryRun := false } linkedPair).moments
          = [(.idle, none), (.discovering, none)] ++
            [.reading, .transforming, .writing, .report].map (·, some "src/a.ts") ++
            [.reading, .transforming, .writing].map (·, some "src/b.ts") ++ ending ∧
        report.filesScanned = 2 ∧ report.filesSkipped = 1 := by
  have hroot : (replacing .idle none linkedPair).isDirectory "src" = true := by decide
  obtain ⟨-, hrun⟩ := run_phases replacing doubling { root := "src", dryRun := false } linkedPair
  obtain ⟨_, _, _, report, -, -, -, hresult, -, -, hscanned, hskipped⟩ := hrun hroot
  have hfiles : ((atDiscovery replacing linkedPair).discover "src" {}).files
      = ["src/a.ts", "src/b.ts"] := discover_linkedPair
  have hmoments : (runObserved replacing doubling { root := "src", dryRun := false }
      linkedPair).moments
        = [(.idle, none), (.discovering, none)] ++
          [.reading, .transforming, .writing, .report].map (·, some "src/a.ts") ++
          [.reading, .transforming, .writing].map (·, some "src/b.ts") ++ ending := by
    rw [runObserved_of_isDirectory doubling hroot, hfiles]
    decide +kernel
  refine ⟨report, hresult, hmoments, ?_, ?_⟩
  · rw [← hscanned, hmoments]
    decide
  · rw [← hskipped, hmoments]
    decide

end Reroute.Migration
