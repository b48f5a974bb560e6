/-
  Reroute.Proofs.Blocks — a run, file by file.

  What a run does with one file is one of five blocks (`Block`): the file cannot be read; it is only
  reported, as in a dry run; it stays as it is; it cannot be written; or it is written.  A block
  says which phases there are, what is reported, and which disk it leaves.  Every visit is a block
  (`visit_block`), so that a run is a row of blocks between its start and its end
  (`runObserved_blocks`), whatever an observer does to the disk.

  In a run that nobody disturbs, a block that does not come to write leaves the disk alone
  (`Block.still`), and the others leave what the write leaves (`Block.changed`); all of them keep
  the shape of the disk (`Block.sameShape`).
-/
import Reroute.Migration
import Reroute.Proofs.FileTree.Reading

namespace Reroute.Migration

/-! ## §1. What is reported of a file. -/

/-- The text after the rules, applied as in the file at the path. -/
def rewrite (registry : Registry) (root text path : String) : String :=
  (registry.substitute (.forPath root path) text).1

/-- The row of a file that is read as the given text. -/
def rowOf (registry : Registry) (root path text : String) : Report.FileRow :=
  { path := Path.relativeTo root path
    changes := (registry.substitute (.forPath root path) text).2
    modified := rewrite registry root text path != text }

/-- The event of a file by the text that is read from it, or by why it is passed over. -/
def eventOf (registry : Registry) (root path : String) : Except FileFault String → Report.Event
  | .ok text => .file (rowOf registry root path text)
  | .error fault => .skipped { path := Path.relativeTo root path, reason := fault.message }

theorem eventOf_eq_file {registry : Registry} {root path : String}
    {read : Except FileFault String} {row : Report.FileRow} :
    eventOf registry root path read = .file row ↔
      ∃ text, read = .ok text ∧ row = rowOf registry root path text := by
  cases read with
  | error fault => simp [eventOf]
  | ok text => simp [eventOf, eq_comm]

theorem eventOf_eq_skipped {registry : Registry} {root path : String}
    {read : Except FileFault String} {row : Report.SkippedRow} :
    eventOf registry root path read = .skipped row ↔
      ∃ fault, read = .error fault ∧
        row = { path := Path.relativeTo root path, reason := fault.message } := by
  cases read with
  | error fault => simp [eventOf, eq_comm]
  | ok text => simp [eventOf]

/-! ## §2. Blocks. -/

/-- The disk at the moment of a phase of the file, the earlier phases having been observed. -/
def atReading (observe : Observer) (path : String) (start : Disk) : Disk :=
  observe .reading (some path) start

@[inherit_doc atReading]
def atTransforming (observe : Observer) (path : String) (start : Disk) : Disk :=
  observe .transforming (some path) (atReading observe path start)

@[inherit_doc atReading]
def atWriting (observe : Observer) (path : String) (start : Disk) : Disk :=
  observe .writing (some path) (atTransforming observe path start)

/-- The phases of one file, with its event and the disk afterwards.  A read or write that fails ends
    the block. -/
inductive Block (observe : Observer) (registry : Registry) (options : Options) (path : String)
    (start : Disk) : List Phase → Report.Event → Disk → Prop where
  | unread {fault : FileFault}
      (hread : (atReading observe path start).readText path = .error fault) :
      Block observe registry options path start [.reading]
        (eventOf registry options.root path (.error fault)) (atReading observe path start)
  | dry {text : String} (hread : (atReading observe path start).readText path = .ok text)
      (hdry : options.dryRun = true) :
      Block observe registry options path start [.reading, .transforming, .dryReport]
        (eventOf registry options.root path (.ok text))
        (observe .dryReport (some path) (atTransforming observe path start))
  | same {text : String} (hread : (atReading observe path start).readText path = .ok text)
      (happly : options.dryRun = false) (hsame : rewrite registry options.root text path = text) :
      Block observe registry options path start [.reading, .transforming, .report]
        (eventOf registry options.root path (.ok text))
        (observe .report (some path) (atTransforming observe path start))
  | unwritten {text : String} {fault : FileFault} {after : Disk}
      (hread : (atReading observe path start).readText path = .ok text)
      (happly : options.dryRun = false) (hdiffers : rewrite registry options.root text path ≠ text)
      (hwrite : (atWriting observe path start).writeText path
        (rewrite registry options.root text path) = (.error fault, after)) :
      Block observe registry options path start [.reading, .transforming, .writing]
        (eventOf registry options.root path (.error fault)) after
  | written {text : String} {after : Disk}
      (hread : (atReading observe path start).readText path = .ok text)
      (happly : options.dryRun = false) (hdiffers : rewrite registry options.root text path ≠ text)
      (hwrite : (atWriting observe path start).writeText path
        (rewrite registry options.root text path) = (.ok (), after)) :
      Block observe registry options path start [.reading, .transforming, .writing, .report]
        (eventOf registry options.root path (.ok text)) (observe .report (some path) after)

/-- One block for every path, each on the disk that the one before it has left. -/
inductive Blocks (observe : Observer) (registry : Registry) (options : Options) :
    Disk → List String → List Moment → List Report.Event → Disk → Prop where
  | nil (disk : Disk) : Blocks observe registry options disk [] [] [] disk
  | cons {start next after : Disk} {path : String} {paths : List String} {phases : List Phase}
      {moments : List Moment} {event : Report.Event} {events : List Report.Event}
      (hblock : Block observe registry options path start phases event next)
      (hrest : Blocks observe registry options next paths moments events after) :
      Blocks observe registry options start (path :: paths)
        (phases.map (·, some path) ++ moments) (event :: events) after

theorem reason_io (message : String) (operation : Option String) :
    ({ cause := .io message operation } : Failure).reason = message := by
  cases operation <;> rfl

theorem read_ok {disk : Disk} {path text : String} (h : disk.readText path = .ok text) :
    Draft.read disk path = .ok (.ofText path text) := by
  unfold Draft.read Disk.read
  rw [h]
  rfl

theorem read_error {disk : Disk} {path : String} {fault : FileFault}
    (h : disk.readText path = .error fault) :
    Draft.read disk path = .error { cause := .io fault.message (some ("read " ++ path)) } := by
  unfold Draft.read Disk.read
  rw [h]
  rfl

/-- What the run does with a draft of the text is what `rewrite` and `rowOf` say. -/
theorem substitute_ofText (registry : Registry) (root path text : String) :
    (Draft.ofText path text).substitute registry (.forPath root path)
      = ({ path, start := text, current := rewrite registry root text path },
          (rowOf registry root path text).changes) := rfl

/-- **Every visit is a block.** -/
theorem visit_block (observe : Observer) (registry : Registry) (options : Options) (path : String)
    (disk : Disk) :
    let done := visit observe registry options path (Path.relativeTo options.root path) disk
    Block observe registry options path disk done.phases done.event done.disk := by
  intro done
  unfold done visit
  -- a visit branches on the read, on the mode, on the change and on the write, in this order
  cases hread : (observe .reading (some path) disk).readText path with
  | error fault =>
    simp only [read_error hread, skip, reason_io]
    exact .unread hread
  | ok text =>
    simp only [read_ok hread, substitute_ofText, Draft.isModified, bne_iff_ne]
    by_cases hdry : options.dryRun = true
    · rw [if_pos hdry]
      exact .dry hread hdry
    have happly : options.dryRun = false := by simpa using hdry
    rw [if_neg hdry]
    by_cases hdiffers : rewrite registry options.root text path ≠ text
    · rw [if_pos hdiffers]
      unfold Draft.write Disk.write
      rcases hwrite : (observe .writing (some path) (observe .transforming (some path)
          (observe .reading (some path) disk))).writeText path
            (rewrite registry options.root text path) with ⟨fault | _, after⟩
      · simp only [Disk.within, skip, reason_io]
        exact .unwritten hread happly hdiffers hwrite
      · simp only [Disk.within]
        exact .written hread happly hdiffers hwrite
    · rw [if_neg hdiffers]
      exact .same hread happly (Decidable.of_not_not hdiffers)

/-- **All visits are blocks**, one for every path. -/
theorem visitAll_blocks (observe : Observer) (registry : Registry) (options : Options)
    (paths : List String) (progress : Progress) :
    let done := visitAll observe registry options paths progress
    ∃ moments events, done.moments = progress.moments ++ moments ∧
      done.events = progress.events ++ events ∧
      Blocks observe registry options progress.disk paths moments events done.disk := by
  induction paths generalizing progress with
  | nil => exact ⟨[], [], by simp [visitAll], by simp [visitAll], .nil _⟩
  | cons path rest ih =>
    obtain ⟨moments, events, hmoments, hevents, hblocks⟩ :=
      ih (progress.visit observe registry options path)
    refine ⟨_, _, ?_, ?_, .cons (visit_block observe registry options path progress.disk) hblocks⟩
    · show (visitAll observe registry options rest _).moments = _
      rw [hmoments]
      simp [Progress.visit]
    · show (visitAll observe registry options rest _).events = _
      rw [hevents]
      simp [Progress.visit]

/-! ## §3. Runs. -/

/-- What the report of a run is about. -/
def headerOf (registry : Registry) (options : Options) : Report.Header :=
  { root := options.root, registry := registry.name, ruleCount := registry.size,
    dryRun := options.dryRun }

/-- The disk at the moment of discovery. -/
def atDiscovery (observe : Observer) (disk : Disk) : Disk :=
  observe .discovering none (observe .idle none disk)

/-- The moments at the end of a run. -/
def ending : List Moment := [(.summarizing, none), (.done, none)]

theorem runObserved_of_isDirectory {observe : Observer} (registry : Registry) {options : Options}
    {disk : Disk} (hroot : (observe .idle none disk).isDirectory options.root = true) :
    let start := atDiscovery observe disk
    let found := start.discover options.root options.discovery
    let done := visitAll observe registry options found.files
      { events := [.issues found.issues], disk := start }
    runObserved observe registry options disk
      = { result := .ok (.recorded (headerOf registry options) done.events)
          moments := [(.idle, none), (.discovering, none)] ++ done.moments ++ ending
          disk := observe .done none (observe .summarizing none done.disk) } := by
  intro start found done
  unfold runObserved
  dsimp only
  rw [hroot]
  rfl

/-- **A run is a row of blocks**, one for every file that it has discovered, if its root is a
    directory. -/
theorem runObserved_blocks {observe : Observer} (registry : Registry) {options : Options}
    {disk : Disk} (hroot : (observe .idle none disk).isDirectory options.root = true) :
    let start := atDiscovery observe disk
    let found := start.discover options.root options.discovery
    let outcome := runObserved observe registry options disk
    ∃ moments events last,
      Blocks observe registry options start found.files moments events last ∧
      outcome.moments = [(.idle, none), (.discovering, none)] ++ moments ++ ending ∧
      outcome.disk = observe .done none (observe .summarizing none last) ∧
      outcome.result
        = .ok (.recorded (headerOf registry options) (.issues found.issues :: events)) := by
  intro start found outcome
  -- the visits start from the progress that holds the event of the discovery and no moment
  obtain ⟨moments, events, hmoments, hevents, hblocks⟩ := visitAll_blocks observe registry options
    found.files { events := [.issues found.issues], disk := start }
  rw [List.nil_append] at hmoments
  rw [List.singleton_append] at hevents
  refine ⟨moments, events, _, hblocks, ?_⟩
  have houtcome : outcome = _ := runObserved_of_isDirectory registry hroot
  rw [houtcome, ← hmoments, ← hevents]
  exact ⟨rfl, rfl, rfl⟩

/-- A run that nobody disturbs is a row of blocks on the disk that it starts from. -/
theorem run_blocks (registry : Registry) {options : Options} {disk : Disk}
    (hroot : disk.isDirectory options.root = true) :
    let found := disk.discover options.root options.discovery
    let outcome := run registry options disk
    ∃ moments events,
      Blocks undisturbed registry options disk found.files moments events outcome.disk ∧
      outcome.moments = [(.idle, none), (.discovering, none)] ++ moments ++ ending ∧
      outcome.result
        = .ok (.recorded (headerOf registry options) (.issues found.issues :: events)) := by
  intro found outcome
  have hroot' : (undisturbed .idle none disk).isDirectory options.root = true := hroot
  obtain ⟨moments, events, last, hblocks, hmoments, hdisk, hresult⟩ :=
    runObserved_blocks registry hroot'
  have hlast : outcome.disk = last := hdisk
  rw [hlast]
  exact ⟨moments, events, hblocks, hmoments, hresult⟩

/-! ## §4. Blocks that nobody disturbs. -/

section

variable {registry : Registry} {options : Options} {path : String} {start next after : Disk}
  {phases : List Phase} {event : Report.Event} {paths : List String} {moments : List Moment}
  {events : List Report.Event}

/-- **A block that does not come to write** leaves the disk alone and reports the file as it is
    there. -/
theorem Block.still (h : Block undisturbed registry options path start phases event next)
    (hquiet : options.dryRun = false → ∀ text, start.readText path = .ok text →
      rewrite registry options.root text path = text) :
    event = eventOf registry options.root path (start.readText path) ∧ next = start := by
  cases h with
  | unread hread => exact ⟨congrArg _ hread.symm, rfl⟩
  | dry hread => exact ⟨congrArg _ hread.symm, rfl⟩
  | same hread => exact ⟨congrArg _ hread.symm, rfl⟩
  | unwritten hread happly hdiffers => exact absurd (hquiet happly _ hread) hdiffers
  | written hread happly hdiffers => exact absurd (hquiet happly _ hread) hdiffers

/-- **A block of a file that the rules change** leaves what the write leaves, and reports the file
    exactly if the write succeeds. -/
theorem Block.changed (h : Block undisturbed registry options path start phases event next)
    (happly : options.dryRun = false) {text : String} (hread : start.readText path = .ok text)
    (hdiffers : rewrite registry options.root text path ≠ text) :
    let written := start.writeText path (rewrite registry options.root text path)
    event = eventOf registry options.root path (written.1.map fun _ => text) ∧
      next = written.2 := by
  have htext : ∀ {found : String}, (atReading undisturbed path start).readText path = .ok found →
      found = text := fun hfound => Except.ok.inj (hfound.symm.trans hread)
  cases h with
  | unread hfault => cases hfault.symm.trans hread
  | dry _ hdry => simp [happly] at hdry
  | same hfound _ hsame =>
    obtain rfl := htext hfound
    exact absurd hsame hdiffers
  | unwritten hfound _ _ hwrite =>
    obtain rfl := htext hfound
    have hwritten : start.writeText path _ = _ := hwrite
    rw [hwritten]
    exact ⟨rfl, rfl⟩
  | written hfound _ _ hwrite =>
    obtain rfl := htext hfound
    have hwritten : start.writeText path _ = _ := hwrite
    rw [hwritten]
    exact ⟨rfl, rfl⟩

/-- **A block keeps the shape of the disk**, also one whose write fails. -/
theorem Block.sameShape (h : Block undisturbed registry options path start phases event next) :
    start.SameShape next := by
  have hwritten : ∀ {text rewritten : String} {result : Except FileFault Unit} {after : Disk},
      start.readText path = .ok text → start.writeText path rewritten = (result, after) →
      start.SameShape after := by
    intro text rewritten result after hread hwrite
    obtain ⟨location, hlocation, -, hfile⟩ := Disk.readText_eq_ok_iff.1 hread
    rw [Disk.writeText_of_file hlocation hfile] at hwrite
    have hshape := Disk.sameShape_writeAt hfile rewritten
    rwa [hwrite] at hshape
  cases h with
  | unread => exact .refl start
  | dry => exact .refl start
  | same => exact .refl start
  | unwritten hread _ _ hwrite => exact hwritten hread hwrite
  | written hread _ _ hwrite => exact hwritten hread hwrite

/-- **Blocks that do not come to write** leave the disk alone and report every file as it is
    there. -/
theorem Blocks.still (h : Blocks undisturbed registry options start paths moments events after)
    (hquiet : options.dryRun = false → ∀ path ∈ paths, ∀ text, start.readText path = .ok text →
      rewrite registry options.root text path = text) :
    events = paths.map (fun path => eventOf registry options.root path (start.readText path)) ∧
      after = start := by
  induction h with
  | nil => exact ⟨rfl, rfl⟩
  | cons hblock _ ih =>
    obtain ⟨rfl, rfl⟩ := hblock.still fun happly => hquiet happly _ List.mem_cons_self
    obtain ⟨rfl, rfl⟩ := ih fun happly path hmem => hquiet happly path (List.mem_cons_of_mem _ hmem)
    exact ⟨rfl, rfl⟩

end

end Reroute.Migration
