/-
  Reroute.Migration — a run over the files below a root.

  Every file is read, given to the rules, written back if it changed, and reported.  A file that
  cannot be read or written is passed over, and the run goes on.  A dry run writes nothing.  An
  observer sees every phase of a run and may change the disk, as other programs may while a run is
  going on.
-/
import Reroute.Draft
import Reroute.Report

namespace Reroute

namespace Migration

/-! ## §1. Phases -/

/-- Where a run is.  The phases from `reading` to `report` repeat for every file. -/
inductive Phase where
  | idle
  | discovering
  | reading
  | transforming
  | dryReport
  | writing
  | report
  | summarizing
  | done
deriving DecidableEq, Repr

/-- A phase, with the path of the file for a phase that repeats. -/
abbrev Moment := Phase × Option String

/-- What happens to the disk at every moment of a run. -/
abbrev Observer := Phase → Option String → Disk → Disk

/-- Nothing happens to the disk but what the run does. -/
def undisturbed : Observer := fun _ _ disk => disk

/-- What a run is to do. -/
structure Options where
  root : String
  dryRun : Bool
  discovery : Discovery.Options := {}
deriving DecidableEq, Repr

/-! ## §2. One file -/

/-- What a run does with a file: its phases, what is reported and the disk afterwards. -/
structure Visit where
  phases : List Phase
  event : Report.Event
  disk : Disk

/-- The event of a file that is passed over. -/
def skip (shown : String) (failure : Failure) : Report.Event :=
  .skipped { path := shown, reason := failure.reason }

/-- Goes through the file at a path, shown as given in the report. -/
def visit (observe : Observer) (registry : Registry) (options : Options) (path shown : String)
    (disk : Disk) : Visit :=
  let disk := observe .reading (some path) disk
  match Draft.read disk path with
  | .error failure => { phases := [.reading], event := skip shown failure, disk }
  | .ok draft =>
    let disk := observe .transforming (some path) disk
    let (draft, changes) := draft.substitute registry (.forPath options.root path)
    let event := .file { path := shown, changes, modified := draft.isModified }
    if options.dryRun then
      { phases := [.reading, .transforming, .dryReport], event,
        disk := observe .dryReport (some path) disk }
    else if draft.isModified then
      match draft.write (observe .writing (some path) disk) with
      | (.error failure, disk) =>
        { phases := [.reading, .transforming, .writing], event := skip shown failure, disk }
      | (.ok (), disk) =>
        { phases := [.reading, .transforming, .writing, .report], event,
          disk := observe .report (some path) disk }
    else
      { phases := [.reading, .transforming, .report], event,
        disk := observe .report (some path) disk }

/-! ## §3. All files -/

/-- What a run has done so far. -/
structure Progress where
  moments : List Moment := []
  events : List Report.Event := []
  disk : Disk

/-- The progress after one more file. -/
def Progress.visit (observe : Observer) (registry : Registry) (options : Options)
    (progress : Progress) (path : String) : Progress :=
  let visit := Migration.visit observe registry options path (Path.relativeTo options.root path)
    progress.disk
  { moments := progress.moments ++ visit.phases.map (·, some path)
    events := progress.events ++ [visit.event]
    disk := visit.disk }

/-- Goes through the files one after the other. -/
def visitAll (observe : Observer) (registry : Registry) (options : Options) (paths : List String)
    (progress : Progress) : Progress :=
  paths.foldl (Progress.visit observe registry options) progress

/-! ## §4. Runs -/

/-- How a run ended, its moments in order and the disk afterwards. -/
structure Outcome where
  result : Except Failure Report
  moments : List Moment
  disk : Disk

/-- Runs a migration under an observer.  A root that is no directory ends it before any file is
    touched. -/
def runObserved (observe : Observer) (registry : Registry) (options : Options) (disk : Disk) :
    Outcome :=
  let disk := observe .idle none disk
  if !disk.isDirectory options.root then
    { result := .error { cause := .rootNotFound options.root }, moments := [(.idle, none)], disk }
  else
    let disk := observe .discovering none disk
    let discovery := disk.discover options.root options.discovery
    let progress := visitAll observe registry options discovery.files
      { events := [.issues discovery.issues], disk }
    let header : Report.Header :=
      { root := options.root, registry := registry.name, ruleCount := registry.size,
        dryRun := options.dryRun }
    { result := .ok (.recorded header progress.events)
      moments := [(.idle, none), (.discovering, none)] ++ progress.moments ++
        [(.summarizing, none), (.done, none)]
      disk := observe .done none (observe .summarizing none progress.disk) }

/-- Runs a migration. -/
def run (registry : Registry) (options : Options) (disk : Disk) : Outcome :=
  runObserved undisturbed registry options disk

end Migration

end Reroute
