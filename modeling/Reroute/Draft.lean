/-
  Reroute.Draft — a file between reading and writing.

  A draft keeps the text it started from beside the text it has come to.  Only the latter is ever
  written.
-/
import Reroute.FileTree.Disk
import Reroute.Substitution

namespace Reroute

/-- The path of a file, the text the draft started from and the text it has come to. -/
structure Draft where
  path : String
  start : String
  current : String
deriving DecidableEq, Repr

namespace Draft

/-- The draft that starts from the given text. -/
def ofText (path text : String) : Draft :=
  { path, start := text, current := text }

/-- The draft of the file at a path. -/
def read (disk : Disk) (path : String) : Except Failure Draft := do
  return .ofText path (← disk.read path ("read " ++ path))

/-- The draft after the rules are applied to its text, and the changes. -/
def substitute (draft : Draft) (registry : Registry) (context : Context) : Draft × List Change :=
  let (current, changes) := registry.substitute context draft.current
  ({ draft with current }, changes)

/-- Has the draft come to another text than it started from? -/
def isModified (draft : Draft) : Bool :=
  draft.current != draft.start

/-- Writes the text of the draft to its path; the disk may change also if the write fails. -/
def write (draft : Draft) (disk : Disk) : Except Failure Unit × Disk :=
  disk.write draft.path draft.current ("write " ++ draft.path)

end Draft

end Reroute
