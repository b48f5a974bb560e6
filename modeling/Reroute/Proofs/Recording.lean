/-
  Reroute.Proofs.Recording — a report does not depend on the order of its recording.

  A run records its events one by one: each of them raises some counters and may add a row, and at
  the end the rows are sorted (`Report.recorded`).  What the counters and rows have come to before
  the sorting is a function of the events so far (`tally`), by what one event adds to it
  (`record_tally`, `foldl_record`).

  The sort is stable: rows stand in the order of their paths, and rows of one path in the order in
  which they were recorded (`StablySorted`).  There is only one such row of rows
  (`StablySorted.unique`), so if no path is recorded twice the order of the recording is lost
  (`recorded_in_any_order`).

  The total of the matches is a word.  It is the sum of their counts if a word holds that sum, and
  otherwise what is left of it (`recorded_wraps_manyMatches`).
-/
import Mathlib.Algebra.GroupWithZero.Nat
import Mathlib.Data.List.Nodup
import Mathlib.Data.List.Perm.Basic
import Reroute.Proofs.Text.ByteOrder
import Reroute.Report

namespace Reroute.Report

/-! ## §1. One event after the other. -/

/-- The counters and rows after the events, the rows in the order of the events. -/
def tally (header : Header) (events : List Event) : Report :=
  let files := events.filterMap (·.file?)
  let skipped := events.filterMap (·.skipped?)
  { header
    filesScanned := files.length + skipped.length
    filesModified := files.countP (·.modified)
    filesSkipped := skipped.length
    totalChanges := (files.map (·.matchCount)).sum % wordSize
    perFile := files.filter (!·.changes.isEmpty)
    skipped
    discoveryIssues := events.flatMap (·.issuesOf) }

/-- A file adds to the counters, and adds a row if some rule had a match in it. -/
theorem recordFile_tally (header : Header) (events : List Event) (row : FileRow) :
    (tally header events).recordFile row = tally header (events ++ [.file row]) := by
  have hfiles : (events ++ [Event.file row]).filterMap (·.file?) =
      events.filterMap (·.file?) ++ [row] :=
    List.filterMap_append
  have hskipped : (events ++ [Event.file row]).filterMap (·.skipped?) =
      events.filterMap (·.skipped?) := by
    rw [List.filterMap_append]
    exact List.append_nil _
  have hissues : (events ++ [Event.file row]).flatMap (·.issuesOf) =
      events.flatMap (·.issuesOf) := by
    rw [List.flatMap_append]
    exact List.append_nil _
  have hmodified : ∀ count, (if row.modified then count + 1 else count) =
      count + [row].countP (·.modified) := by
    intro count
    cases hrow : row.modified <;> simp [hrow]
  simp only [tally, hfiles, hskipped, hissues, recordFile, hmodified, List.length_append,
    List.length_singleton, List.countP_append, List.map_append, List.map_singleton,
    List.sum_append, List.sum_singleton, List.filter_append, Nat.add_right_comm _ 1]
  -- without a match there is neither a row nor anything to add to the total
  cases hchanges : row.changes with
  | nil => simp [hchanges, FileRow.matchCount]
  | cons change changes => simp [hchanges, Nat.mod_add_mod]

/-- **One event.** -/
theorem record_tally (header : Header) (events : List Event) (event : Event) :
    (tally header events).record event = tally header (events ++ [event]) := by
  cases event with
  | file row => exact recordFile_tally header events row
  | skipped row =>
    simp [tally, record, recordSkipped, Event.file?, Event.skipped?, Event.issuesOf,
      Nat.add_assoc]
  | issues found =>
    simp [tally, record, Event.file?, Event.skipped?, Event.issuesOf]

/-- **All events.** -/
theorem foldl_record (header : Header) (events : List Event) : ∀ before,
    events.foldl record (tally header before) = tally header (before ++ events) := by
  induction events with
  | nil => intro before; rw [List.foldl_nil, List.append_nil]
  | cons event events ih =>
    intro before
    rw [List.foldl_cons, record_tally, ih, List.append_assoc]
    rfl

/-- What is recorded event by event is what the events say at once. -/
theorem recorded_eq (header : Header) (events : List Event) :
    recorded header events = (tally header events).finish :=
  congrArg finish (foldl_record header events [])

theorem header_recorded (header : Header) (events : List Event) :
    (recorded header events).header = header :=
  congrArg Report.header (recorded_eq header events)

/-- What a run is about has no part in what is recorded of it. -/
theorem recorded_with_header (header header' : Header) (events : List Event) :
    recorded header' events = { recorded header events with header := header' } := by
  rw [recorded_eq, recorded_eq]
  rfl

/-! ## §2. The rows of a report. -/

theorem mem_sortByPath {α : Type} {path : α → String} {rows : List α} {row : α} :
    row ∈ sortByPath path rows ↔ row ∈ rows := by
  unfold sortByPath
  exact List.mem_mergeSort

/-- The rows of the files that were gone through are those of the events. -/
theorem mem_files {events : List Event} {row : FileRow} :
    row ∈ events.filterMap (·.file?) ↔ .file row ∈ events := by
  rw [List.mem_filterMap]
  constructor
  · intro hex
    obtain ⟨event, hmem, hrow⟩ := hex
    cases event with
    | file found =>
      cases hrow
      exact hmem
    | skipped found => cases hrow
    | issues found => cases hrow
  · intro hmem
    exact ⟨_, hmem, rfl⟩

/-- A report has the rows of the files in which some rule had a match. -/
theorem mem_perFile {header : Header} {events : List Event} {row : FileRow} :
    row ∈ (recorded header events).perFile ↔ .file row ∈ events ∧ row.changes ≠ [] := by
  rw [recorded_eq]
  simp only [finish, tally, mem_sortByPath, List.mem_filter, mem_files]
  simp

/-- A report has the rows of all files that were passed over. -/
theorem mem_skipped {header : Header} {events : List Event} {row : SkippedRow} :
    row ∈ (recorded header events).skipped ↔ .skipped row ∈ events := by
  rw [recorded_eq]
  simp only [finish, tally, mem_sortByPath, List.mem_filterMap]
  constructor
  · intro hex
    obtain ⟨event, hmem, hrow⟩ := hex
    cases event with
    | skipped found =>
      cases hrow
      exact hmem
    | file found => cases hrow
    | issues found => cases hrow
  · intro hmem
    exact ⟨_, hmem, rfl⟩

/-! ## §3. Stable sorts. -/

section Sorting

variable {α : Type} {path : α → String} {rows rows' sorted sorted' : List α}

/-- The rows in the byte order of their paths, rows of one path in the order that they had. -/
structure StablySorted (path : α → String) (rows sorted : List α) : Prop where
  perm : sorted.Perm rows
  ordered : sorted.Pairwise fun a b => bytesOf (path a) ≤ bytesOf (path b)
  stable : ∀ shown, sorted.filter (path · = shown) = rows.filter (path · = shown)

/-- **Rows are sorted stably.** -/
theorem stablySorted_sortByPath (path : α → String) (rows : List α) :
    StablySorted path rows (sortByPath path rows) := by
  have htrans : ∀ a b c, decide (path a ≤ path b) = true → decide (path b ≤ path c) = true →
      decide (path a ≤ path c) = true := by
    intro a b c hab hbc
    exact decide_eq_true (String.le_trans (of_decide_eq_true hab) (of_decide_eq_true hbc))
  have htotal : ∀ a b, (decide (path a ≤ path b) || decide (path b ≤ path a)) = true := by
    intro a b
    rw [Bool.or_eq_true, decide_eq_true_eq, decide_eq_true_eq]
    exact String.le_total _ _
  have hperm : (sortByPath path rows).Perm rows := List.mergeSort_perm _ _
  refine ⟨hperm, ?_, fun shown => ?_⟩
  · refine (List.pairwise_mergeSort htrans htotal rows).imp fun hle => ?_
    exact le_iff_bytesOf_le.1 (of_decide_eq_true hle)
  · -- the rows of one path are in order as they are, so sorting keeps them as a part
    have hordered : (rows.filter (path · = shown)).Pairwise
        fun a b => decide (path a ≤ path b) = true := by
      refine List.pairwise_of_forall_mem_list fun a ha b hb => decide_eq_true ?_
      have hsame : path a = path b := (of_decide_eq_true (List.mem_filter.1 ha).2).trans
        (of_decide_eq_true (List.mem_filter.1 hb).2).symm
      exact hsame ▸ String.le_refl _
    have hpart : (rows.filter (path · = shown)).Sublist (sortByPath path rows) :=
      List.sublist_mergeSort htrans htotal hordered List.filter_sublist
    have hkept := hpart.filter (path · = shown)
    simp only [List.filter_filter, Bool.and_self] at hkept
    exact (hkept.eq_of_length (hperm.filter _).length_eq.symm).symm

/-- Rows in order are told by their rows of every path. -/
theorem eq_of_filters {first second : List α}
    (hfirst : first.Pairwise fun a b => bytesOf (path a) ≤ bytesOf (path b))
    (hsecond : second.Pairwise fun a b => bytesOf (path a) ≤ bytesOf (path b))
    (h : ∀ shown, first.filter (path · = shown) = second.filter (path · = shown)) :
    first = second := by
  induction first generalizing second with
  | nil =>
    refine (List.eq_nil_iff_forall_not_mem.2 fun row hrow => ?_).symm
    have hnone := List.filter_eq_nil_iff.1 (h (path row)).symm row hrow
    exact hnone (decide_eq_true rfl)
  | cons a first ih =>
    have ha : a ∈ second.filter (path · = path a) := by
      rw [← h]
      simp
    cases second with
    | nil => cases ha
    | cons b second =>
      have hb : b ∈ (a :: first).filter (path · = path b) := by
        rw [h]
        simp
      obtain ⟨hahead, hfirst'⟩ := List.pairwise_cons.1 hfirst
      obtain ⟨hbhead, hsecond'⟩ := List.pairwise_cons.1 hsecond
      -- each of the two heads stands in the other row, so neither has the smaller path
      have hpath : path b = path a := by
        rcases List.mem_cons.1 (List.mem_filter.1 ha).1 with rfl | ha
        · rfl
        · rcases List.mem_cons.1 (List.mem_filter.1 hb).1 with rfl | hb
          · rfl
          · exact bytesOf_injective (List.le_antisymm (hbhead a ha) (hahead b hb))
      have hheads := h (path a)
      simp only [List.filter_cons, hpath, decide_true, if_true, List.cons.injEq] at hheads
      obtain ⟨rfl, -⟩ := hheads
      refine congrArg (a :: ·) (ih hfirst' hsecond' fun shown => ?_)
      have hshown := h shown
      rw [List.filter_cons, List.filter_cons] at hshown
      split at hshown
      · exact (List.cons.inj hshown).2
      · exact hshown

/-- **There is only one stable sort.** -/
theorem StablySorted.unique (h : StablySorted path rows sorted)
    (h' : StablySorted path rows sorted') : sorted = sorted' :=
  eq_of_filters h.ordered h'.ordered fun shown => (h.stable shown).trans (h'.stable shown).symm

/-- Rows of different paths are sorted alike in whatever order they come. -/
theorem StablySorted.of_perm (h : StablySorted path rows sorted) (hperm : rows.Perm rows')
    (hnodup : (rows.map path).Nodup) : StablySorted path rows' sorted := by
  refine ⟨h.perm.trans hperm, h.ordered, fun shown => (h.stable shown).trans ?_⟩
  -- of one path there is at most one row
  have hone : (rows.filter (path · = shown)).length ≤ 1 := by
    have hcount := List.nodup_iff_count_le_one.1 hnodup shown
    rwa [List.count, List.countP_map, List.countP_eq_length_filter] at hcount
  have hfilter := hperm.filter (path · = shown)
  match hrows : rows.filter (path · = shown), hone with
  | [], _ =>
    rw [hrows] at hfilter
    exact (List.nil_perm.1 hfilter).symm
  | [row], _ =>
    rw [hrows] at hfilter
    exact List.singleton_perm.1 hfilter

end Sorting

/-! ## §4. The order of the events. -/

theorem stablySorted_perFile (header : Header) (events : List Event) :
    StablySorted (·.path) ((events.filterMap (·.file?)).filter (!·.changes.isEmpty))
      (recorded header events).perFile := by
  rw [recorded_eq]
  exact stablySorted_sortByPath _ _

theorem stablySorted_skipped (header : Header) (events : List Event) :
    StablySorted (·.path) (events.filterMap (·.skipped?)) (recorded header events).skipped := by
  rw [recorded_eq]
  exact stablySorted_sortByPath _ _

/-- Counters do not see the order of the events, and rows do not if their paths differ. -/
theorem recorded_perm (header : Header) {events events' : List Event}
    (hperm : events.Perm events')
    (hissues : events.flatMap (·.issuesOf) = events'.flatMap (·.issuesOf))
    (hfiles : ((events.filterMap (·.file?)).map (·.path)).Nodup)
    (hskipped : ((events.filterMap (·.skipped?)).map (·.path)).Nodup) :
    recorded header events = recorded header events' := by
  have hrows := hperm.filterMap (·.file?)
  have hskips := hperm.filterMap (·.skipped?)
  have hlisted : (((events.filterMap (·.file?)).filter (!·.changes.isEmpty)).map (·.path)).Nodup :=
    (List.filter_sublist.map _).nodup hfiles
  have hperFile : (recorded header events).perFile = (recorded header events').perFile :=
    ((stablySorted_perFile header events).of_perm (hrows.filter _) hlisted).unique
      (stablySorted_perFile header events')
  have hskippedRows : (recorded header events).skipped = (recorded header events').skipped :=
    ((stablySorted_skipped header events).of_perm hskips hskipped).unique
      (stablySorted_skipped header events')
  simp only [recorded_eq, finish, tally] at hperFile hskippedRows ⊢
  rw [hperFile, hskippedRows, hissues, hrows.length_eq, hskips.length_eq, hrows.countP_eq,
    (hrows.map _).sum_nat]

/-- **A report does not depend on the order of its recording.**

    Its counters are those of the events, whatever they are, where the total of the matches starts
    again at zero beyond the largest word; its rows are sorted stably by their paths, and its issues
    stand in the order in which they were recorded.  So two recordings of the same events, with the
    issues in the same order, give the same report if no path is recorded twice. -/
theorem recorded_in_any_order (header : Header) (events : List Event) :
    let files := events.filterMap (·.file?)
    let skipped := events.filterMap (·.skipped?)
    let total := (files.map fun row => (row.changes.map (·.count)).sum).sum
    let report := recorded header events
    report.header = header ∧
      report.filesScanned = files.length + skipped.length ∧
      report.filesSkipped = skipped.length ∧
      report.filesModified = files.countP (·.modified) ∧
      report.totalChanges = total % wordSize ∧
      (total < wordSize → report.totalChanges = total) ∧
      StablySorted (·.path) (files.filter (!·.changes.isEmpty)) report.perFile ∧
      StablySorted (·.path) skipped report.skipped ∧
      report.discoveryIssues = events.flatMap (·.issuesOf) ∧
      ∀ events' : List Event, events'.Perm events →
        events'.flatMap (·.issuesOf) = events.flatMap (·.issuesOf) →
        (files.map (·.path) ++ skipped.map (·.path)).Nodup → recorded header events' = report := by
  intro files skipped total report
  have htotal : report.totalChanges = total % wordSize :=
    congrArg totalChanges (recorded_eq header events)
  refine ⟨header_recorded header events, ?_, ?_, ?_, htotal,
    fun hword => htotal.trans (Nat.mod_eq_of_lt hword), stablySorted_perFile header events,
    stablySorted_skipped header events, ?_, ?_⟩
  · exact congrArg filesScanned (recorded_eq header events)
  · exact congrArg filesSkipped (recorded_eq header events)
  · exact congrArg filesModified (recorded_eq header events)
  · exact congrArg discoveryIssues (recorded_eq header events)
  · intro events' hperm hissues hnodup
    obtain ⟨hfiles, hskips, -⟩ := List.nodup_append.1 hnodup
    exact (recorded_perm header hperm.symm hissues.symm hfiles hskips).symm

/-- What a run is about. -/
def someHeader : Header :=
  { root := "src", registry := "planning", ruleCount := 11, dryRun := true }

/-- Two files of which one has changes, one file that is passed over, and a directory that could not
    be listed. -/
def mixedEvents : List Event :=
  [.file { path := "b.ts", changes := [⟨"timeUtils", 2⟩], modified := true },
    .issues [{ path := "src/lib", reason := "why" }],
    .skipped { path := "c.ts", reason := "why not" },
    .file { path := "a.ts", changes := [], modified := true }]

/-- Both files count as modified, and the one with changes has a row, also if the events come from
    last to first. -/
theorem recorded_reversed_mixedEvents :
    mixedEvents.reverse.Perm mixedEvents ∧
      recorded someHeader mixedEvents.reverse = recorded someHeader mixedEvents ∧
      (recorded someHeader mixedEvents.reverse).filesModified = 2 ∧
      StablySorted (·.path)
        [{ path := "b.ts", changes := [⟨"timeUtils", 2⟩], modified := true }]
        (recorded someHeader mixedEvents.reverse).perFile := by
  have hperm := List.reverse_perm mixedEvents
  obtain ⟨-, -, -, hmodified, -, -, hperFile, -, -, hany⟩ :=
    recorded_in_any_order someHeader mixedEvents
  have hsame := hany mixedEvents.reverse hperm rfl (by decide)
  rw [hsame]
  exact ⟨hperm, rfl, hmodified, hperFile⟩

/-- As many matches as a word can count, and one more in another file. -/
def manyMatches : List FileRow :=
  [{ path := "a.ts", changes := [⟨"timeUtils", wordSize - 1⟩], modified := true },
    { path := "b.ts", changes := [⟨"timeUtils", 1⟩], modified := true }]

/-- The total is not the sum of the counts if a word does not hold that sum. -/
theorem recorded_wraps_manyMatches :
    (∀ row ∈ manyMatches, ∀ change ∈ row.changes, change.count < wordSize) ∧
      (recorded someHeader (manyMatches.map .file)).totalChanges = 0 ∧
      (manyMatches.map fun row => (row.changes.map (·.count)).sum).sum = wordSize := by
  refine ⟨by decide, ?_, by decide⟩
  rw [recorded_eq]
  decide

end Reroute.Report
