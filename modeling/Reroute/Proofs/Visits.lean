/-
  Reroute.Proofs.Visits — what an applying run makes of the disk.

  A run is compared with the disk it starts from.  After visits to the paths `before`, an applying
  run has a disk of the same shape on which every readable text has gone through the rules once for
  each of those paths that lead to it (`Tracks`).  One block keeps this (`Block.tracks`), so a row
  of blocks does (`Blocks.tracks`), and each block reports what the rules do to the text that the
  earlier ones have left.

  A write that fails may leave the beginning of a text, so all this supposes that the writes of the
  run last (`WritesLast`).  They do on a disk that takes whatever is written
  (`Blocks.writesLast_of_whole`).
-/
import Mathlib.Data.List.Chain
import Reroute.Proofs.Blocks

namespace Reroute.Migration

/-! ## §1. What the earlier visits have left. -/

/-- Those of the paths that lead to the location, in order. -/
def pathsTo (disk : Disk) (location : Option FileTree.Location) (paths : List String) :
    List String :=
  paths.filter fun path => decide (disk.location? path = location)

/-- The text of a file at the location after visits to the paths: the rules are applied once for
    every path that leads to it. -/
def textAfter (registry : Registry) (root : String) (disk : Disk)
    (location : Option FileTree.Location) (paths : List String) (text : String) : String :=
  (pathsTo disk location paths).foldl (rewrite registry root) text

/-- What reading a path gives after visits to the paths `before`. -/
def readAfter (registry : Registry) (root : String) (disk : Disk) (before : List String)
    (path : String) : Except FileFault String :=
  (disk.readText path).map (textAfter registry root disk (disk.location? path) before)

/-- The events of visits to the paths, after visits to the paths `before`. -/
def eventsAfter (registry : Registry) (root : String) (disk : Disk) :
    (before paths : List String) → List Report.Event
  | _, [] => []
  | before, path :: rest =>
    eventOf registry root path (readAfter registry root disk before path) ::
      eventsAfter registry root disk (before ++ [path]) rest

theorem pathsTo_concat (disk : Disk) (location : Option FileTree.Location) (before : List String)
    (path : String) :
    pathsTo disk location (before ++ [path])
      = pathsTo disk location before ++
        (if disk.location? path = location then [path] else []) := by
  unfold pathsTo
  rw [List.filter_append]
  by_cases h : disk.location? path = location <;> simp [h]

theorem textAfter_concat (registry : Registry) (root : String) (disk : Disk)
    (location : Option FileTree.Location) (before : List String) (path text : String) :
    textAfter registry root disk location (before ++ [path]) text
      = if disk.location? path = location then
          rewrite registry root (textAfter registry root disk location before text) path
        else textAfter registry root disk location before text := by
  unfold textAfter
  rw [pathsTo_concat, List.foldl_append]
  split <;> rfl

section

variable {registry : Registry} {root path : String} {disk : Disk} {before : List String}

theorem readAfter_eq_ok {text : String} :
    readAfter registry root disk before path = .ok text ↔
      ∃ location start, disk.location? path = some location ∧
        disk.faults.reading location = none ∧
        disk.tree.get? location = some (.file start.toUTF8) ∧
        text = textAfter registry root disk (some location) before start := by
  unfold readAfter
  cases hread : disk.readText path with
  | error fault =>
    simp only [Except.map, reduceCtorEq, false_iff, not_exists, not_and]
    intro location start hlocation hreadable hfile
    rw [Disk.readText_eq_ok_iff.2 ⟨location, hlocation, hreadable, hfile⟩] at hread
    cases hread
  | ok found =>
    obtain ⟨location, hlocation, hreadable, hfile⟩ := Disk.readText_eq_ok_iff.1 hread
    simp only [Except.map, Except.ok.injEq, hlocation, Option.some.injEq]
    constructor
    · intro heq
      subst heq
      exact ⟨location, found, rfl, hreadable, hfile, rfl⟩
    · intro hex
      obtain ⟨_, start, rfl, -, hstart, rfl⟩ := hex
      rw [text_unique hfile hstart]

theorem readAfter_eq_error {fault : FileFault} :
    readAfter registry root disk before path = .error fault ↔
      disk.readText path = .error fault := by
  unfold readAfter
  cases disk.readText path <;> simp [Except.map]

end

/-! ## §2. Writes that last. -/

/-- Every write of the moments succeeds: the file that was written is reported next.  And none of
    them is one to a device, which takes a text without holding it. -/
structure WritesLast (disk : Disk) (moments : List Moment) : Prop where
  reported : moments.IsChain fun moment next => moment.1 = .writing → next = (.report, moment.2)
  regular : ∀ path location, (.writing, some path) ∈ moments →
    disk.location? path = some location → disk.faults.writing location ≠ .device

section

variable {registry : Registry} {options : Options} {disk start after : Disk}
  {paths before : List String} {moments front rest : List Moment} {events : List Report.Event}

theorem WritesLast.of_append (h : WritesLast disk (front ++ rest)) : WritesLast disk rest where
  reported := h.reported.right_of_append
  regular path location hmem := h.regular path location (List.mem_append_right front hmem)

/-- What follows a row of blocks or begins one is no report. -/
theorem Blocks.no_report_first {observe : Observer}
    (h : Blocks observe registry options start paths moments events after) :
    ∃ moment rest, moments ++ ending = moment :: rest ∧ moment.1 ≠ .report := by
  cases h with
  | nil => exact ⟨_, _, rfl, by simp⟩
  | cons hblock _ => cases hblock <;> exact ⟨_, _, rfl, by simp⟩

theorem isChain_cons_of_ne {moment : Moment} (hne : moment.1 ≠ .writing)
    (h : rest.IsChain fun moment next => moment.1 = .writing → next = (.report, moment.2)) :
    (moment :: rest).IsChain fun moment next =>
      moment.1 = .writing → next = (.report, moment.2) := by
  cases rest with
  | nil => exact .singleton _
  | cons next rest => exact .cons_cons (fun hwriting => absurd hwriting hne) h

/-- **On a disk that takes whatever is written, every write lasts.** -/
theorem Blocks.writesLast_of_whole
    (h : Blocks undisturbed registry options start paths moments events after)
    (hwhole : ∀ location, start.faults.writing location = .whole) :
    WritesLast start (moments ++ ending) := by
  refine ⟨?_, fun path location _ _ => by rw [hwhole]; simp⟩
  induction h with
  | nil => simp [ending]
  | @cons start next _ path _ _ _ _ _ hblock _ ih =>
    rw [hblock.sameShape.faults] at hwhole
    have hrest := ih hwhole
    rw [← hblock.sameShape.faults] at hwhole
    cases hblock with
    | unread => exact isChain_cons_of_ne (by simp) hrest
    | dry =>
      exact isChain_cons_of_ne (by simp) (isChain_cons_of_ne (by simp)
        (isChain_cons_of_ne (by simp) hrest))
    | same =>
      exact isChain_cons_of_ne (by simp) (isChain_cons_of_ne (by simp)
        (isChain_cons_of_ne (by simp) hrest))
    | unwritten hread _ _ hwrite =>
      have hfound : start.readText path = _ := hread
      obtain ⟨location, hlocation, -, hfile⟩ := Disk.readText_eq_ok_iff.1 hfound
      have hwritten : start.writeText path _ = _ := hwrite
      rw [Disk.writeText_of_file hlocation hfile, Disk.writeAt, hwhole] at hwritten
      cases hwritten
    | written =>
      exact isChain_cons_of_ne (by simp) (isChain_cons_of_ne (by simp)
        (.cons_cons (fun _ => rfl) (isChain_cons_of_ne (by simp) hrest)))

end

/-- **In a run on a disk that takes whatever is written, every write lasts.** -/
theorem run_writesLast (registry : Registry) {options : Options} {disk : Disk}
    (hroot : disk.isDirectory options.root = true)
    (hwhole : ∀ location, disk.faults.writing location = .whole) :
    WritesLast disk (run registry options disk).moments := by
  obtain ⟨moments, events, hblocks, hmoments, -⟩ := run_blocks registry hroot
  have hlast := hblocks.writesLast_of_whole hwhole
  rw [hmoments, List.append_assoc]
  refine ⟨isChain_cons_of_ne (by simp) (isChain_cons_of_ne (by simp) hlast.reported), ?_⟩
  intro path location _ _
  rw [hwhole]
  simp

/-! ## §3. The state of a run. -/

/-- **The state of an applying run** that started from the disk `start` and has visited the paths
    `before`. -/
structure Tracks (registry : Registry) (root : String) (start : Disk) (before : List String)
    (disk : Disk) : Prop where
  sameShape : start.SameShape disk
  text : ∀ location text, start.faults.reading location = none →
    start.tree.get? location = some (.file text.toUTF8) →
    disk.tree.get? location
      = some (.file (textAfter registry root start (some location) before text).toUTF8)
  /-- A file that cannot be read stays as it is. -/
  unread : ∀ location content, start.tree.get? location = some (.file content) →
    start.faults.reading location ≠ none ∨ String.fromUTF8? content = none →
    disk.tree.get? location = some (.file content)

theorem tracks_start (registry : Registry) (root : String) (start : Disk) :
    Tracks registry root start [] start where
  sameShape := .refl start
  text _ _ _ h := h
  unread _ _ h _ := h

section

variable {registry : Registry} {root path : String} {start disk : Disk} {before : List String}

/-- After a run, a path is read as the visits have left its file, or cannot be read as before. -/
theorem Tracks.readText_eq (h : Tracks registry root start before disk) (path : String) :
    disk.readText path = readAfter registry root start before path := by
  cases hstart : start.readText path with
  | error fault =>
    rw [readAfter_eq_error.2 hstart]
    exact h.sameShape.readText_error hstart fun location content hfile hnone =>
      h.unread location content hfile (.inr hnone)
  | ok text =>
    obtain ⟨location, hlocation, hreadable, hfile⟩ := Disk.readText_eq_ok_iff.1 hstart
    rw [readAfter_eq_ok.2 ⟨location, text, hlocation, hreadable, hfile, rfl⟩]
    refine Disk.readText_eq_ok_iff.2 ⟨location, ?_, ?_, h.text location text hreadable hfile⟩
    · rw [← h.sameShape.location?, hlocation]
    · rw [← h.sameShape.faults, hreadable]

/-- A visit to a path that leads to no text keeps the state of the run. -/
theorem Tracks.skip (h : Tracks registry root start before disk) {fault : FileFault}
    (hread : start.readText path = .error fault) :
    Tracks registry root start (before ++ [path]) disk where
  sameShape := h.sameShape
  unread := h.unread
  text location text hreadable hfile := by
    have hne : ¬ start.location? path = some location := by
      intro hlocation
      rw [Disk.readText_eq_ok_iff.2 ⟨location, hlocation, hreadable, hfile⟩] at hread
      cases hread
    rw [textAfter_concat, if_neg hne]
    exact h.text location text hreadable hfile

section

variable {location : FileTree.Location} {text : String}

/-- A file on which the rules do nothing holds the rewritten text already. -/
theorem Tracks.same (h : Tracks registry root start before disk)
    (hlocation : start.location? path = some location)
    (hfile : start.tree.get? location = some (.file text.toUTF8))
    (hsame : rewrite registry root (textAfter registry root start (some location) before text) path
      = textAfter registry root start (some location) before text) :
    Tracks registry root start (before ++ [path]) disk where
  sameShape := h.sameShape
  unread := h.unread
  text other found hreadable hother := by
    rw [textAfter_concat, hlocation]
    split
    · rename_i heq
      cases heq
      rw [← text_unique hfile hother, hsame]
      exact h.text location text hreadable hfile
    · exact h.text other found hreadable hother

/-- A write of the rewritten text to the file that the path leads to keeps the state of the run. -/
theorem Tracks.write (h : Tracks registry root start before disk)
    (hlocation : start.location? path = some location)
    (hreadable : start.faults.reading location = none)
    (hfile : start.tree.get? location = some (.file text.toUTF8)) :
    Tracks registry root start (before ++ [path])
      (disk.setContent location (rewrite registry root
        (textAfter registry root start (some location) before text) path).toUTF8) where
  sameShape :=
    h.sameShape.trans
      ⟨(FileTree.shape_put (h.text location text hreadable hfile) _).symm, rfl, rfl⟩
  text other found hother hfound := by
    unfold Disk.setContent
    rw [FileTree.get?_put (h.text location text hreadable hfile) _
        (h.text other found hother hfound),
      textAfter_concat, hlocation]
    -- paths that lead to one location share its file, under whatever names
    by_cases heq : other = location
    · subst heq
      rw [if_pos rfl, if_pos rfl, text_unique hfile hfound]
    · have hne : ¬ (some location = some other) := fun h => heq (Option.some.inj h).symm
      rw [if_neg heq, if_neg hne]
  unread other content hother hunread := by
    unfold Disk.setContent
    rw [FileTree.get?_put (h.text location text hreadable hfile) _
      (h.unread other content hother hunread)]
    -- the file that is written was read, so it is not this one
    have hne : other ≠ location := by
      rintro rfl
      rcases hunread with hrefused | hnone
      · exact hrefused hreadable
      · rw [hfile, Option.some.injEq, FileTree.file.injEq] at hother
        rw [← hother, fromUTF8?_eq_some_iff.2 rfl] at hnone
        cases hnone
    rw [if_neg hne]

end

end

/-! ## §4. The blocks of an applying run. -/

section

variable {registry : Registry} {options : Options} {path : String} {start disk next after : Disk}
  {before paths : List String} {phases : List Phase} {event : Report.Event}
  {moments rest : List Moment} {events : List Report.Event} {moment : Moment}

/-- **One block of an applying run** reports what the rules do to the text that the visits before it
    have left, and keeps the state of the run. -/
theorem Block.tracks (h : Block undisturbed registry options path disk phases event next)
    (happly : options.dryRun = false) (hnext : moment.1 ≠ .report)
    (hlast : WritesLast start (phases.map (·, some path) ++ moment :: rest))
    (htracks : Tracks registry options.root start before disk) :
    event = eventOf registry options.root path
        (readAfter registry options.root start before path) ∧
      Tracks registry options.root start (before ++ [path]) next := by
  have hreading := htracks.readText_eq path
  cases h with
  | unread hread =>
    rw [← hreading]
    exact ⟨congrArg _ hread.symm, htracks.skip (readAfter_eq_error.1 (hreading.symm.trans hread))⟩
  | dry _ hdry => simp [happly] at hdry
  | same hread _ hsame =>
    rw [← hreading]
    refine ⟨congrArg _ hread.symm, ?_⟩
    obtain ⟨location, text, hlocation, -, hfile, rfl⟩ :=
      readAfter_eq_ok.1 (hreading.symm.trans hread)
    exact htracks.same hlocation hfile hsame
  | unwritten =>
    -- a write that fails is not followed by its report
    have hreport := hlast.reported
    simp only [List.map_cons, List.map_nil, List.cons_append, List.nil_append,
      List.isChain_cons_cons, forall_const] at hreport
    exact absurd (congrArg Prod.fst hreport.2.2.1) hnext
  | written hread _ _ hwrite =>
    rw [← hreading]
    refine ⟨congrArg _ hread.symm, ?_⟩
    obtain ⟨location, text, hlocation, hreadable, hfile, rfl⟩ :=
      readAfter_eq_ok.1 (hreading.symm.trans hread)
    -- earlier visits have not moved the path to another file
    have hlocation' : disk.location? path = some location := by
      rw [← htracks.sameShape.location?, hlocation]
    have hregular : disk.faults.writing location ≠ .device := by
      rw [← htracks.sameShape.faults]
      exact hlast.regular path location (by simp) hlocation
    have hwritten : disk.writeText path _ = _ := hwrite
    rw [Disk.writeText_of_file hlocation' (htracks.text location text hreadable hfile)] at hwritten
    have hkept := Disk.writeAt_of_ok (congrArg Prod.fst hwritten) hregular
    rw [hwritten] at hkept
    subst hkept
    exact htracks.write hlocation hreadable hfile

/-- **The blocks of an applying run** report each file as the visits before it have left it, and
    end in the state of a run over all the paths. -/
theorem Blocks.tracks (h : Blocks undisturbed registry options disk paths moments events after)
    (happly : options.dryRun = false) (hlast : WritesLast start (moments ++ ending))
    (htracks : Tracks registry options.root start before disk) :
    events = eventsAfter registry options.root start before paths ∧
      Tracks registry options.root start (before ++ paths) after := by
  induction h generalizing before with
  | nil =>
    rw [List.append_nil]
    exact ⟨rfl, htracks⟩
  | @cons _ _ _ path _ _ _ _ _ hblock hrest ih =>
    rw [List.append_assoc] at hlast
    obtain ⟨moment, later, hlater, hnext⟩ := hrest.no_report_first
    have hfirst := hlast
    rw [hlater] at hfirst
    obtain ⟨rfl, hkept⟩ := hblock.tracks happly hnext hfirst htracks
    obtain ⟨rfl, hdone⟩ := ih hlast.of_append hkept
    rw [List.append_assoc, List.singleton_append] at hdone
    exact ⟨rfl, hdone⟩

end

end Reroute.Migration
