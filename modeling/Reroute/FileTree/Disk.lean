/-
  Reroute.FileTree.Disk — reading, writing and listing by path.

  A disk is a tree with a working directory, and with what the system refuses, by location: files
  that cannot be read, files that cannot be written or not to their end, directories that cannot be
  listed or not to their end.  An access that is refused changes nothing.  A write empties its file
  before it fills it, so that one that fails on the way leaves the start of its text.
-/
import Reroute.Failure
import Reroute.FileTree.Resolution

namespace Reroute

/-! ## §1. What is refused -/

/-- What becomes of a text that is written to a file. -/
inductive Uptake where
  /-- The file holds the text. -/
  | whole
  /-- The file is not opened for writing, or not made. -/
  | refused (fault : FileFault)
  /-- The file takes so many bytes; a fault ends the writing of a longer text. -/
  | limited (room : Nat) (fault : FileFault)
  /-- The file stands for a device, which takes the text and stays as it is. -/
  | device
deriving DecidableEq, Repr

namespace Uptake

/-- The fault that ends the writing of a text. -/
def fault? : Uptake → String → Option FileFault
  | whole, _ | device, _ => none
  | refused fault, _ => some fault
  | limited room fault, text => if text.utf8ByteSize ≤ room then none else some fault

/-- The content of the file once the text is written, unless the file is left as it was.  A file is
    emptied before it is filled, so that it holds no more than a beginning of the text. -/
def kept? : Uptake → String → Option ByteArray
  | whole, text => some text.toUTF8
  | limited room _, text => some (text.toUTF8.extract 0 room)
  | refused _, _ | device, _ => none

end Uptake

/-- A listing that a fault ends early. -/
structure Interruption where
  fault : FileFault
  /-- The names that are listed before. -/
  listed : List String := []
deriving DecidableEq, Repr

/-- What the system does not do as it is asked, by location. -/
structure Faults where
  /-- Why a file cannot be read. -/
  reading : FileTree.Location → Option FileFault := fun _ => none
  writing : FileTree.Location → Uptake := fun _ => .whole
  /-- How the listing of a directory ends early. -/
  listing : FileTree.Location → Option Interruption := fun _ => none
  /-- Is the kind of an entry not told when its directory is listed? -/
  kindless : FileTree.Location → Bool := fun _ => false

/-- The faults below a location, by location from there. -/
def Faults.below (faults : Faults) (base : FileTree.Location) : Faults where
  reading location := faults.reading (base ++ location)
  writing location := faults.writing (base ++ location)
  listing location := faults.listing (base ++ location)
  kindless location := faults.kindless (base ++ location)

/-! ## §2. Disks -/

/-- A tree, the location of the working directory in it, and what is refused. -/
structure Disk where
  tree : FileTree := .dir []
  cwd : FileTree.Location := []
  faults : Faults := {}

namespace Disk

/-- Where a path leads. -/
def resolve (disk : Disk) (access : FileTree.Access) (path : String) :
    Except FileFault FileTree.Place :=
  disk.tree.resolve disk.cwd access path

/-- The location and the node that a path leads to, links being followed. -/
def find (disk : Disk) (path : String) : Except FileFault (FileTree.Location × FileTree) := do
  match ← disk.resolve .read path with
  | .found location =>
    match disk.tree.get? location with
    | some node => .ok (location, node)
    | none => .error .notFound
  | .free .. => .error .notFound

/-! ## §3. Reading -/

/-- Does the path lead to a directory? -/
def isDirectory (disk : Disk) (path : String) : Bool :=
  match disk.find path with
  | .ok (_, node) => node.isDir
  | .error _ => false

/-- The location and the entries of the directory that a path leads to. -/
def entries (disk : Disk) (path : String) :
    Except FileFault (FileTree.Location × List (String × FileTree)) := do
  match ← disk.find path with
  | (location, .dir entries) => .ok (location, entries)
  | _ => .error .notDirectory

/-- The text of the file that a path leads to, exactly as it is stored. -/
def readText (disk : Disk) (path : String) : Except FileFault String := do
  let (location, node) ← disk.find path
  match disk.faults.reading location, node with
  | some fault, _ => .error fault
  | none, .file content =>
    match String.fromUTF8? content with
    | some text => .ok text
    | none => .error .notText
  | none, _ => .error .isDirectory

/-! ## §4. Writing

    A write answers with its result and with the disk that it leaves, which may have changed also if
    the write fails. -/

/-- The disk with a file of the given content at a location. -/
def setContent (disk : Disk) (location : FileTree.Location) (content : ByteArray) : Disk :=
  { disk with tree := disk.tree.put location (.file content) }

/-- Writes a text to a location that has a file, or where one can be made. -/
def writeAt (disk : Disk) (location : FileTree.Location) (text : String) :
    Except FileFault Unit × Disk :=
  let uptake := disk.faults.writing location
  ((uptake.fault? text).elim (.ok ()) .error,
    (uptake.kept? text).elim disk (disk.setContent location))

/-- Writes a text to the file that a path leads to; a file that is missing is made, unless its
    directory is missing too. -/
def writeText (disk : Disk) (path text : String) : Except FileFault Unit × Disk :=
  match disk.resolve .write path with
  | .error fault => (.error fault, disk)
  | .ok (.free directory name) => disk.writeAt (directory ++ [name]) text
  | .ok (.found location) =>
    match disk.tree.get? location with
    | some (.file _) => disk.writeAt location text
    | _ => (.error .isDirectory, disk)

/-! ## §5. Reading and writing within an operation -/

/-- The result of an access, as one of an operation with the given name. -/
def within {α : Type} (operation : String) : Except FileFault α → Except Failure α
  | .ok result => .ok result
  | .error fault => .error { cause := .io fault.message (some operation) }

/-- The text of a file, read for the given operation. -/
def read (disk : Disk) (path operation : String) : Except Failure String :=
  within operation (disk.readText path)

/-- Writes a file for the given operation. -/
def write (disk : Disk) (path text operation : String) : Except Failure Unit × Disk :=
  let (result, disk) := disk.writeText path text
  (within operation result, disk)

end Disk

end Reroute
