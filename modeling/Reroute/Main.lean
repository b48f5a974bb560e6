/-
  Reroute.Main — the program on the file system of the machine.

  What a run looks at is read into a disk, together with what the machine refuses; the run is made
  on that disk, and the files that it has changed are written back.
-/
import Reroute.Command

namespace Reroute.Main

open FileTree (Location)

/-! ## §1. Faults -/

/-- A fault that the machine reports, with its number. -/
def numbered (code : UInt32) (details : String) : FileFault :=
  .system (details ++ " (os error " ++ Nat.repr code.toNat ++ ")")

/-- The fault that an error of the machine is. -/
def faultOf : IO.Error → FileFault
  | .noFileOrDirectory _ code details | .interrupted _ code details
  | .alreadyExists _ code details | .invalidArgument _ code details
  | .permissionDenied _ code details | .resourceExhausted _ code details
  | .inappropriateType _ code details | .noSuchThing _ code details
  | .otherError code details | .resourceBusy code details | .resourceVanished code details
  | .unsupportedOperation code details | .hardwareFault code details
  | .unsatisfiedConstraints code details | .illegalOperation code details
  | .protocolError code details | .timeExpired code details => numbered code details
  | .unexpectedEof => .system "unexpected end of file"
  | .userError message => .system message

/-- The function with another value at one location. -/
def noting {α : Type} (known : Location → α) (location : Location) (value : α) : Location → α :=
  fun other => if other = location then value else known other

/-! ## §2. Reading -/

/-- What has been read of the machine. -/
structure Snapshot where
  disk : Disk
  /-- The files, with their paths on the machine. -/
  files : List (Location × String) := []

namespace Snapshot

/-- The snapshot with a node at a location. -/
def put (known : Snapshot) (location : Location) (node : FileTree) : Snapshot :=
  { known with disk := { known.disk with tree := known.disk.tree.put location node } }

/-- The snapshot with other faults. -/
def alterFaults (known : Snapshot) (change : Faults → Faults) : Snapshot :=
  { known with disk := { known.disk with faults := change known.disk.faults } }

/-- The snapshot in which the file at a location is not opened for writing. -/
def refusing (known : Snapshot) (location : Location) (fault : FileFault) : Snapshot :=
  known.alterFaults fun faults =>
    { faults with writing := noting faults.writing location (.refused fault) }

/-- The snapshot with a file of the machine.  It is opened for reading and for writing, to see
    whether it can be. -/
def addFile (known : Snapshot) (location : Location) (path : String) : IO Snapshot := do
  let known := { known with files := known.files ++ [(location, path)] }
  let known ← try
      pure (known.put location (.file (← IO.FS.readBinFile path)))
    catch error =>
      pure ((known.put location (.file .empty)).alterFaults fun faults =>
        { faults with reading := noting faults.reading location (some (faultOf error)) })
  try
    IO.FS.withFile path .readWrite fun _ => pure ()
    return known
  catch error => return known.refusing location (faultOf error)

/-- The location that a path has, seen from a directory. -/
def locate (cwd : Location) (path : String) : Location :=
  (FileTree.namesOf path).foldl (fun location name =>
    if name == "" || name == "." then location
    else if name == ".." then location.dropLast
    else location ++ [name]) (if FileTree.isAbsolute path then [] else cwd)

/-- The snapshot with a link, as one to the place where it ends, and with the file there. -/
def addLink (known : Snapshot) (location : Location) (path : String) : IO Snapshot := do
  try
    let target ← IO.FS.realPath path
    let ending := locate [] target.toString
    let linked := known.put location (.link target.toString)
    if (linked.disk.tree.get? ending).isSome then return linked
    else match (← target.metadata).type with
      | .dir => return linked.put ending (.dir [])
      | _ => linked.addFile ending target.toString
  catch _ => return known.put location (.link "")

mutual

/-- The snapshot with a directory that is listed as given. -/
partial def addDirectory (known : Snapshot) (location : Location)
    (list : IO (Array IO.FS.DirEntry)) : IO Snapshot := do
  let known := known.put location (.dir [])
  try
    (← list).toList.foldlM (fun known entry =>
      addEntry known (location ++ [entry.fileName]) entry) known
  catch error =>
    return known.alterFaults fun faults =>
      { faults with listing := noting faults.listing location (some { fault := faultOf error }) }

/-- The snapshot with an entry of a directory.  Directories that every run passes over are not
    read. -/
partial def addEntry (known : Snapshot) (location : Location) (entry : IO.FS.DirEntry) :
    IO Snapshot := do
  let path := entry.path.toString
  let kind ← try pure (some (← entry.path.symlinkMetadata).type) catch _ => pure none
  match kind with
  | some .dir =>
    if Discovery.skippedDirectories.contains entry.fileName then
      return known.put location (.dir [])
    else known.addDirectory location entry.path.readDir
  | some .symlink => known.addLink location path
  | _ => known.addFile location path

end

/-- The snapshot with what a path leads to, if it leads anywhere. -/
def addPath (known : Snapshot) (path : String) : IO Snapshot := do
  let location := locate known.disk.cwd path
  try
    let target ← IO.FS.realPath path
    match (← target.metadata).type with
    | .dir => known.addDirectory location target.readDir
    | _ => known.addFile location target.toString
  catch _ => return known

/-! ## §3. Writing back -/

/-- Writes the files back that a disk has changed, up to the first that cannot be written. -/
def writeBack (known : Snapshot) (after : Disk) : IO (Option (Location × FileFault)) :=
  known.files.findSomeM? fun (location, path) => do
    match known.disk.tree.get? location, after.tree.get? location with
    | some (.file content), some (.file changed) =>
      if content == changed then return none
      else try
        IO.FS.writeBinFile path changed
        return none
      catch error => return some (location, faultOf error)
    | _, _ => return none

/-- The answer of a run, its changes being written back.  A file that cannot be written back counts
    as one that is not opened for writing: the run is made again, and passes over it. -/
partial def commit (known : Snapshot) (run : Disk → Command.Answer × Disk) :
    IO Command.Answer := do
  let (answer, after) := run known.disk
  match ← known.writeBack after with
  | none => return answer
  | some (location, fault) => (known.refusing location fault).commit run

end Snapshot

/-! ## §4. The environment -/

/-- The home directory that the user database has for the user of this process. -/
def readUserHome : IO (Option String) := do
  try
    let status ← IO.FS.lines "/proc/self/status"
    let users ← IO.FS.lines "/etc/passwd"
    let fields (separator : Char) (line : String) : List String :=
      (splitAtChar separator line.toList).map String.ofList
    let uid := (status.toList.map (fields '\t')).findSome? fun
      | "Uid:" :: uid :: _ => some uid
      | _ => none
    return (users.toList.map (fields ':')).findSome? fun
      | [_, _, number, _, _, home, _] => if some number = uid then some home else none
      | _ => none
  catch _ => return none

/-- The variables that the given paths may refer to, and those that the program itself asks for. -/
def readEnvironment (paths : List String) : IO Environment := do
  let names := ["HOME", "CLICOLOR_FORCE"] ++ paths.flatMap Path.variableNames
  let values ← names.mapM fun name => do return (← IO.getEnv name).map (name, ·)
  return { assignments := values.filterMap id, userHome := ← readUserHome }

end Reroute.Main

open Reroute in
/-- Runs the program and answers with its exit status. -/
def main (arguments : List String) : IO UInt32 := do
  let selection : Selection := match CommandLine.parse arguments with
    | .ok line => line.selection
    | .error _ => {}
  let paths := selection.dir :: selection.rules.toList
  let env ← Main.readEnvironment paths
  let cwd := (FileTree.namesOf (← IO.currentDir).toString).filter (· != "")
  let start : Main.Snapshot := { disk := { tree := FileTree.put (.dir []) cwd (.dir []), cwd } }
  let known ← paths.foldlM (fun known path =>
    match Path.expand env "" path with
    | .ok path => known.addPath path
    | .error _ => pure known) start
  let answer ← known.commit (Command.run env arguments)
  (← IO.getStdout).putStr answer.stdout
  (← IO.getStderr).putStr answer.stderr
  return answer.exitStatus.toUInt32
