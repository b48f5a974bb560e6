/-
  Reroute.Proofs.ExitStatus — how commands fail.

  Rules are loaded before any file is touched.  Loading fails because the rules file cannot be read
  (`load_of_unreadable`), or with the code of a fault at load time: one of an argument, a document,
  a rule or a preset (`load_failsAtLoad`).  A migration ends in one of four ways, and only the last
  one goes on to any file (`migrate_ends`); from there on nothing that happens to a file makes it
  fail (`runObserved_eq_error_iff`).

  Main statement (`failures_by_cause`): a command that fails leaves the disk alone, and its exit
  status tells the cause.
-/
import Reroute.Command
import Reroute.Proofs.Planning

namespace Reroute

/-! ## §1. Faults at load time. -/

/-- The computation fails only with faults at load time. -/
def FailsAtLoad {α : Type} (result : Except Failure α) : Prop :=
  ∀ failure, result = .error failure → failure.code.isLoadTime = true

theorem FailsAtLoad.ok {α : Type} (value : α) : FailsAtLoad (.ok value) := by
  intro failure h
  cases h

theorem FailsAtLoad.bind {α β : Type} {first : Except Failure α} {next : α → Except Failure β}
    (hfirst : FailsAtLoad first) (hnext : ∀ value, first = .ok value → FailsAtLoad (next value)) :
    FailsAtLoad (first >>= next) := by
  intro failure h
  cases hresult : first with
  | error found =>
    rw [hresult] at h
    cases h
    exact hfirst failure hresult
  | ok value =>
    rw [hresult] at h
    exact hnext value hresult failure h

theorem Path.expand_failsAtLoad (env : Environment) (field path : String) :
    FailsAtLoad (Path.expand env field path) := by
  intro failure h
  unfold Path.expand at h
  split at h
  · cases h
  · cases h
    rfl

theorem RuleSpec.toDef_failsAtLoad (index : Nat) (spec : RuleSpec) :
    FailsAtLoad (spec.toDef index) := by
  intro failure h
  unfold RuleSpec.toDef at h
  split at h
  · cases h
  · cases h
    rfl

/-- Each of the three checks of a rule has a code of its own, all of them at load time. -/
theorem RuleDef.load_failsAtLoad (index : Nat) (definition : RuleDef) :
    FailsAtLoad (definition.load index) := by
  intro failure h
  unfold RuleDef.load at h
  dsimp only at h
  split at h
  · cases h
    rfl
  · split at h
    · cases h
      rfl
    · split at h
      · cases h
        rfl
      · cases h

namespace Registry

theorem loadFrom_failsAtLoad {α β : Type} {load : Nat → α → Except Failure β}
    (hload : ∀ index item, FailsAtLoad (load index item)) (items : List α) :
    ∀ index, FailsAtLoad (loadFrom load index items) := by
  induction items with
  | nil =>
    intro index
    exact .ok []
  | cons item items ih =>
    intro index
    exact (hload index item).bind fun first _ =>
      (ih (index + 1)).bind fun others _ => .ok _

theorem ofDefs_failsAtLoad (name : String) (definitions : List RuleDef) :
    FailsAtLoad (ofDefs name definitions) :=
  (loadFrom_failsAtLoad RuleDef.load_failsAtLoad definitions 0).bind fun _ _ => .ok _

theorem ofSpecs_failsAtLoad (name : String) (specs : List RuleSpec) :
    FailsAtLoad (ofSpecs name specs) :=
  (loadFrom_failsAtLoad RuleSpec.toDef_failsAtLoad specs 0).bind
    fun definitions _ => ofDefs_failsAtLoad name definitions

end Registry

theorem Presets.load_failsAtLoad (name : String) : FailsAtLoad (Presets.load name) := by
  unfold Presets.load
  split
  · exact Registry.ofDefs_failsAtLoad name _
  · intro failure h
    cases h
    rfl

/-- A text that is no rules file, or whose name does not tell its format, fails at load time. -/
theorem RulesFile.ofContent_failsAtLoad (path content : String) :
    FailsAtLoad (RulesFile.ofContent path content) := by
  intro failure h
  unfold RulesFile.ofContent RulesFile.ofJson RulesFile.ofToml at h
  split at h
  · split at h
    · cases h
    · cases h
      rfl
  · split at h
    · cases h
    · cases h
      rfl
  · cases h
    rfl

namespace Command

/-! ## §2. Failures of loading. -/

/-- The selection names a rules file, and that cannot be read. -/
def RulesUnreadable (env : Environment) (selection : Selection) (disk : Disk) : Prop :=
  ∃ given path fault, selection.rules = some given ∧ Path.expand env "rules" given = .ok path ∧
    disk.readText path = .error fault

theorem load_of_unreadable {env : Environment} {disk : Disk} {selection : Selection}
    (h : RulesUnreadable env selection disk) :
    ∃ failure, load env disk selection = .error failure ∧ failure.code = .ioError := by
  obtain ⟨given, path, fault, hrules, hpath, hread⟩ := h
  have hfile : readRulesFile disk path
      = .error { cause := .io fault.message (some ("read rules file " ++ path)) } := by
    unfold readRulesFile Disk.read
    rw [hread]
    rfl
  refine ⟨{ cause := .io fault.message (some ("read rules file " ++ path)) }, ?_, rfl⟩
  simp only [load, loadSource, hrules, hpath]
  show ((readRulesFile disk path >>= _) >>= _) = _
  rw [hfile]
  rfl

/-- Where the rules file can be read, or there is none, loading fails at load time only. -/
theorem load_failsAtLoad {env : Environment} {disk : Disk} {selection : Selection}
    (h : ¬ RulesUnreadable env selection disk) : FailsAtLoad (load env disk selection) := by
  refine FailsAtLoad.bind ?_ fun source _ => .ok _
  unfold loadSource
  cases hrules : selection.rules with
  | none => exact (Presets.load_failsAtLoad _).bind fun registry _ => .ok _
  | some given =>
    refine (Path.expand_failsAtLoad env "rules" given).bind fun path hpath => ?_
    refine FailsAtLoad.bind ?_ fun file _ =>
      (Registry.ofSpecs_failsAtLoad _ _).bind fun registry _ => .ok _
    show FailsAtLoad (Disk.within _ (disk.readText path) >>= RulesFile.ofContent path)
    cases hread : disk.readText path with
    | error fault => exact absurd ⟨given, path, fault, hrules, hpath, hread⟩ h
    | ok content => exact RulesFile.ofContent_failsAtLoad path content

/-- **The exit status of a failure of loading**: one for a rules file that cannot be read, and two
    for all others. -/
theorem exitStatus_of_load {env : Environment} {disk : Disk} {selection : Selection}
    {failure : Failure} (h : load env disk selection = .error failure) :
    (RulesUnreadable env selection disk ∧ failure.exitStatus = 1) ∨
      (¬ RulesUnreadable env selection disk ∧ failure.exitStatus = 2) := by
  by_cases hunreadable : RulesUnreadable env selection disk
  · obtain ⟨found, hfound, hcode⟩ := load_of_unreadable hunreadable
    rw [h] at hfound
    cases hfound
    refine .inl ⟨hunreadable, ?_⟩
    rw [Failure.exitStatus, hcode]
    rfl
  · refine .inr ⟨hunreadable, ?_⟩
    rw [Failure.exitStatus, Failure.Code.exitStatus, load_failsAtLoad hunreadable failure h]
    rfl

/-! ## §3. Failures of a migration. -/

/-- **Nothing that happens to a file makes a run fail**: under every observer it fails exactly if
    its root is no directory when it starts. -/
theorem runObserved_eq_error_iff (observe : Migration.Observer) (registry : Registry)
    (options : Migration.Options) (disk : Disk) (failure : Failure) :
    (Migration.runObserved observe registry options disk).result = .error failure ↔
      (observe .idle none disk).isDirectory options.root = false ∧
        failure = { cause := .rootNotFound options.root } := by
  unfold Migration.runObserved
  dsimp only
  cases (observe .idle none disk).isDirectory options.root with
  | false => simp [eq_comm]
  | true => simp

/-- How a migration ends: what comes back and the disk afterwards.  The ways to fail stand in the
    order in which they are met, and none of them comes after a write. -/
inductive Ends (env : Environment) (selection : Selection) (disk : Disk) :
    Except Failure Report × Disk → Prop where
  | loading {failure : Failure} (hload : load env disk selection = .error failure) :
      Ends env selection disk (.error failure, disk)
  | expanding {loaded : Loaded} {failure : Failure} (hload : load env disk selection = .ok loaded)
      (hdir : Path.expand env "dir" selection.dir = .error failure) :
      Ends env selection disk (.error failure, disk)
  | rootMissing {loaded : Loaded} {root : String} (hload : load env disk selection = .ok loaded)
      (hdir : Path.expand env "dir" selection.dir = .ok root)
      (hroot : disk.isDirectory root = false) :
      Ends env selection disk (.error { cause := .rootNotFound root }, disk)
  | done {loaded : Loaded} {root : String} (hload : load env disk selection = .ok loaded)
      (hdir : Path.expand env "dir" selection.dir = .ok root)
      (hroot : disk.isDirectory root = true) (report : Report) (after : Disk) :
      Ends env selection disk (.ok report, after)

theorem migrate_ends (env : Environment) (selection : Selection) (disk : Disk) :
    Ends env selection disk (migrate env selection disk) := by
  unfold migrate
  cases hload : load env disk selection with
  | error failure => exact .loading hload
  | ok loaded =>
    cases hdir : Path.expand env "dir" selection.dir with
    | error failure => exact .expanding hload hdir
    | ok root =>
      show Ends env selection disk ((Migration.run loaded.registry _ disk).result,
        (Migration.run loaded.registry _ disk).disk)
      unfold Migration.run Migration.runObserved
      cases hroot : disk.isDirectory root with
      | false =>
        simp only [Migration.undisturbed, hroot, Bool.not_false, if_true]
        exact .rootMissing hload hdir hroot
      | true =>
        simp only [Migration.undisturbed, hroot, Bool.not_true, Bool.false_eq_true, if_false]
        exact .done hload hdir hroot _ _

/-- The rules are loaded and the directory is expanded, but that is no directory. -/
def RootMissing (env : Environment) (selection : Selection) (disk : Disk) : Prop :=
  ∃ loaded root, load env disk selection = .ok loaded ∧
    Path.expand env "dir" selection.dir = .ok root ∧ disk.isDirectory root = false

/-- **A migration fails by the first of three causes**: loading fails, or else the directory cannot
    be expanded, or else it is no directory. -/
theorem migrate_eq_error_iff (env : Environment) (selection : Selection) (disk : Disk)
    (failure : Failure) :
    (migrate env selection disk).1 = .error failure ↔
      load env disk selection = .error failure ∨
      (∃ loaded, load env disk selection = .ok loaded ∧
        Path.expand env "dir" selection.dir = .error failure) ∨
      ∃ loaded root, load env disk selection = .ok loaded ∧
        Path.expand env "dir" selection.dir = .ok root ∧ disk.isDirectory root = false ∧
        failure = { cause := .rootNotFound root } := by
  have hends := migrate_ends env selection disk
  generalize migrate env selection disk = ended at hends ⊢
  cases hends with
  | loading hload => simp [hload]
  | expanding hload hdir => simp [hload, hdir]
  | rootMissing hload hdir hroot =>
    simpa [hload, hdir, hroot] using eq_comm
  | done hload hdir hroot report after => simp [hload, hdir, hroot]

/-- **A migration that fails changes nothing.** -/
theorem migrate_disk_of_error {env : Environment} {selection : Selection} {disk : Disk}
    {failure : Failure} (h : (migrate env selection disk).1 = .error failure) :
    (migrate env selection disk).2 = disk := by
  have hends := migrate_ends env selection disk
  generalize migrate env selection disk = ended at hends h ⊢
  cases hends with
  | loading => rfl
  | expanding => rfl
  | rootMissing => rfl
  | done => cases h

/-! ## §4. Exit statuses. -/

/-- The exit status of a command with the given result. -/
def statusOf {α : Type} : Except Failure α → Nat
  | .ok _ => 0
  | .error failure => failure.exitStatus

theorem exitStatus_answer {α : Type} (json colors : Bool) (toJson : α → Json)
    (render : α → String) (result : Except Failure α) :
    (answer json colors toJson render result).exitStatus = statusOf result := by
  cases result with
  | ok value => rfl
  | error failure => cases json <;> rfl

/-- The exit status tells whether the command succeeds and, if not, why. -/
structure Tells (status : Nat) (succeeds unreadable rootMissing : Prop) : Prop where
  zero : status = 0 ↔ succeeds
  one : status = 1 ↔ unreadable
  four : status = 4 ↔ rootMissing
  two : status = 2 ↔ ¬ succeeds ∧ ¬ unreadable ∧ ¬ rootMissing

/-- Loading succeeds only if the rules file, if there is one, can be read. -/
theorem not_unreadable_of_load {env : Environment} {disk : Disk} {selection : Selection}
    {loaded : Loaded} (h : load env disk selection = .ok loaded) :
    ¬ RulesUnreadable env selection disk := by
  intro hunreadable
  obtain ⟨failure, hfailure, -⟩ := load_of_unreadable hunreadable
  rw [h] at hfailure
  cases hfailure

theorem tells_rules (env : Environment) (selection : Selection) (disk : Disk) :
    Tells (statusOf (rules env selection disk))
      (∃ listing, rules env selection disk = .ok listing) (RulesUnreadable env selection disk)
      False := by
  cases hload : load env disk selection with
  | error failure =>
    have hresult : rules env selection disk = .error failure := by rw [rules, hload]; rfl
    rw [hresult]
    rcases exitStatus_of_load hload with ⟨hunreadable, hstatus⟩ | ⟨hreadable, hstatus⟩
    · constructor <;> simp [statusOf, hstatus, hunreadable]
    · constructor <;> simp [statusOf, hstatus, hreadable]
  | ok loaded =>
    have hresult : rules env selection disk = .ok (.of loaded) := by rw [rules, hload]; rfl
    rw [hresult]
    constructor <;> simp [statusOf, not_unreadable_of_load hload]

theorem tells_migrate (env : Environment) (selection : Selection) (disk : Disk) :
    Tells (statusOf (migrate env selection disk).1)
      (∃ report, (migrate env selection disk).1 = .ok report)
      (RulesUnreadable env selection disk) (RootMissing env selection disk) := by
  have hends := migrate_ends env selection disk
  generalize migrate env selection disk = ended at hends ⊢
  cases hends with
  | @loading failure hload =>
    have hroot : ¬ RootMissing env selection disk := by simp [RootMissing, hload]
    rcases exitStatus_of_load hload with ⟨hunreadable, hstatus⟩ | ⟨hreadable, hstatus⟩
    · constructor <;> simp [statusOf, hstatus, hunreadable, hroot]
    · constructor <;> simp [statusOf, hstatus, hreadable, hroot]
  | @expanding loaded failure hload hdir =>
    have hroot : ¬ RootMissing env selection disk := by simp [RootMissing, hdir]
    have hstatus : failure.exitStatus = 2 := by
      unfold Failure.exitStatus Failure.Code.exitStatus
      rw [Path.expand_failsAtLoad env "dir" selection.dir failure hdir]
      rfl
    constructor <;> simp [statusOf, hstatus, not_unreadable_of_load hload, hroot]
  | @rootMissing loaded root hload hdir hroot =>
    have hmissing : RootMissing env selection disk := ⟨loaded, root, hload, hdir, hroot⟩
    have hstatus : ({ cause := .rootNotFound root } : Failure).exitStatus = 4 := rfl
    constructor <;> simp [statusOf, hstatus, not_unreadable_of_load hload, hmissing]
  | done hload hdir hroot report after =>
    have hfound : ¬ RootMissing env selection disk := by simp [RootMissing, hdir, hroot]
    constructor <;> simp [statusOf, not_unreadable_of_load hload, hfound]

/-- **A command that fails leaves the disk alone, and its exit status tells the cause.**

    A migration fails if loading fails, or else if its directory cannot be expanded, or else if
    that is no directory, and it reports the first of these; no file that cannot be read or written
    on the way makes it fail, whatever an observer does to the disk.  A listing never changes the
    disk.  Of every command line that can be read, the exit status is 0 for success, 1 for a rules
    file that cannot be read, 4 for a root that is no directory, and 2 for every other failure. -/
theorem failures_by_cause (env : Environment) (disk : Disk) :
    (∀ selection failure, (migrate env selection disk).1 = .error failure ↔
      load env disk selection = .error failure ∨
      (∃ loaded, load env disk selection = .ok loaded ∧
        Path.expand env "dir" selection.dir = .error failure) ∨
      ∃ loaded root, load env disk selection = .ok loaded ∧
        Path.expand env "dir" selection.dir = .ok root ∧ disk.isDirectory root = false ∧
        failure = { cause := .rootNotFound root }) ∧
    (∀ selection failure, (migrate env selection disk).1 = .error failure →
      (migrate env selection disk).2 = disk) ∧
    (∀ observe registry options,
      (∃ failure, (Migration.runObserved observe registry options disk).result = .error failure) ↔
        (observe .idle none disk).isDirectory options.root = false) ∧
    ∀ arguments line, CommandLine.parse arguments = .ok line →
      let done := run env arguments disk
      (line.listRules = false →
        done.2 = (migrate env line.selection disk).2 ∧
        Tells done.1.exitStatus (∃ report, (migrate env line.selection disk).1 = .ok report)
          (RulesUnreadable env line.selection disk) (RootMissing env line.selection disk)) ∧
      (line.listRules = true →
        done.2 = disk ∧
        Tells done.1.exitStatus (∃ listing, rules env line.selection disk = .ok listing)
          (RulesUnreadable env line.selection disk) False) := by
  refine ⟨fun selection => migrate_eq_error_iff env selection disk,
    fun selection failure => migrate_disk_of_error, fun observe registry options => ?_,
    fun arguments line hparse => ⟨fun hmigrate => ?_, fun hlist => ?_⟩⟩
  · simp [runObserved_eq_error_iff]
  · simp only [run, hparse, hmigrate, Bool.false_eq_true, if_false, exitStatus_answer, true_and]
    exact tells_migrate env line.selection disk
  · simp only [run, hparse, hlist, if_true, exitStatus_answer, true_and]
    exact tells_rules env line.selection disk

/-- On a disk without any file there is no rules file to read, no root to scan and, whatever the
    disk, no preset of another name. -/
theorem failures_by_cause_emptyDisk :
    (run {} ["--rules", "gone.json"] {}).1.exitStatus = 1 ∧
      (run {} ["--preset=planning", "--json"] {}).1.exitStatus = 4 ∧
      (run {} ["--preset=planning", "--json"] {}).2 = {} ∧
      (run {} ["--list-rules", "--preset", "none"] {}).1.exitStatus = 2 := by
  obtain ⟨herror, hdisk, -, hstatus⟩ := failures_by_cause {} {}
  have hrules := ((hstatus ["--rules", "gone.json"]
    { selection := { rules := some "gone.json" } } rfl).1 rfl).2
  have hroot := (hstatus ["--preset=planning", "--json"]
    { selection := { preset := some "planning" }, json := true } rfl).1 rfl
  have hpreset := ((hstatus ["--list-rules", "--preset", "none"]
    { selection := { preset := some "none" }, listRules := true } rfl).2 rfl).2
  have hload : load {} {} { preset := some "planning" }
      = .ok { registry := ⟨"planning", Presets.planningRules⟩,
              discovery := .of Discovery.defaultExtensions [] } := by
    simp only [load, loadSource, Option.getD_some, Presets.load_planning]
    rfl
  refine ⟨hrules.one.2 ⟨"gone.json", "gone.json", .notFound, rfl, rfl, rfl⟩,
    hroot.2.four.2 ⟨_, "src", hload, rfl, rfl⟩, ?_, hpreset.two.2 ⟨?_, ?_, not_false⟩⟩
  · rw [hroot.1]
    exact hdisk _ _ ((herror _ _).2 (.inr (.inr ⟨_, "src", hload, rfl, rfl, rfl⟩)))
  · rintro ⟨listing, hlisting⟩
    cases hlisting
  · rintro ⟨given, path, fault, hgiven, -⟩
    cases hgiven

end Command

end Reroute
