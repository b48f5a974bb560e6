/-
  Reroute.Discovery — the files that a run looks at.

  Discovery goes through the directories below a root and keeps the files with one of the chosen
  extensions, in the order of the names on the way to them.  Links are not followed; a link counts
  as a file, and so does an entry of which its directory does not tell the kind.  A directory that
  cannot be listed, or not to its end, is noted, and the walk goes on with what it has listed.
-/
import Reroute.FileTree.Disk
import Reroute.Glob
import Reroute.Path.Basic

namespace Reroute

namespace Discovery

/-! ## §1. Options -/

/-- The extensions that are looked at if none are chosen. -/
def defaultExtensions : List String := ["ts", "tsx", "js", "jsx"]

/-- Directories of dependencies and of version control, which are always passed over. -/
def skippedDirectories : List String := ["node_modules", ".git", ".svn", ".hg"]

/-- Directories of build output, which are passed over right below the root. -/
def skippedAtRoot : List String := ["build", "dist"]

/-- The extension without dots at its start. -/
def bareExtension (extension : String) : String :=
  String.ofList (extension.toList.dropWhile (· == '.'))

/-- What a run looks at. -/
structure Options where
  /-- Extensions without dots at their start, none of them empty. -/
  extensions : List String := defaultExtensions
  /-- Globs for paths relative to the root. -/
  exclude : List String := []
deriving DecidableEq, Repr

/-- The options for extensions that may be written with a dot. -/
def Options.of (extensions exclude : List String) : Options :=
  { extensions := (extensions.map bareExtension).filter (!·.isEmpty), exclude }

/-- Has the name one of the extensions? -/
def Options.accepts (options : Options) (name : String) : Bool :=
  match Path.nameExtension? name with
  | some extension => options.extensions.contains extension
  | none => false

/-- Does a glob exclude what lies at these names below the root? -/
def Options.excludes (options : Options) (names : List String) : Bool :=
  options.exclude.any fun glob => Glob.isMatch glob ("/".intercalate names)

/-- Is a directory of this name passed over, in a directory at these names below the root? -/
def isSkipped (names : List String) (name : String) : Bool :=
  skippedDirectories.contains name || (names.isEmpty && skippedAtRoot.contains name)

/-! ## §2. What is found -/

/-- A file that is looked at. -/
structure Candidate where
  path : String
  /-- The names that lead to it from the root. -/
  names : List String
deriving DecidableEq, Repr

/-- A directory that cannot be listed, or not to its end. -/
structure Issue where
  /-- Relative to the root. -/
  path : String
  reason : String
deriving DecidableEq, Repr

/-- What is found in a directory. -/
inductive Finding where
  | file (candidate : Candidate)
  | issue (issue : Issue)
deriving DecidableEq, Repr

/-- The candidate that a finding is. -/
def Finding.candidate? : Finding → Option Candidate
  | file found => some found
  | issue _ => none

/-- The issue that a finding is. -/
def Finding.issue? : Finding → Option Issue
  | file _ => none
  | issue found => some found

/-- The finding of a directory that cannot be listed. -/
def unlisted (names : List String) (fault : FileFault) : Finding :=
  .issue { path := "/".intercalate names, reason := fault.message }

/-! ## §3. The walk -/

/-- How the listing of a directory ends early.  One whose path is too long is not listed at all. -/
def interruption? (faults : Faults) (path : String) (names : List String) : Option Interruption :=
  if FileTree.maxPath < path.utf8ByteSize then some { fault := .nameTooLong }
  else faults.listing names

/-- Does the directory list its entry of this name? -/
def lists (faults : Faults) (path : String) (names : List String) (name : String) : Bool :=
  (interruption? faults path names).all (·.listed.contains name)

/-- What is found at an entry that is no directory, as far as its directory tells. -/
def findLeaf (options : Options) (path : String) (names : List String) (name : String) :
    List Finding :=
  if options.accepts name then
    [.file { path := Path.join path name, names := names ++ [name] }]
  else []

mutual

/-- What is found at an entry of the directory with the given path, which lies at `names` below the
    root.  The faults are those below the root. -/
def findAt (options : Options) (faults : Faults) (path : String) (names : List String)
    (name : String) : FileTree → List Finding
  | .dir entries =>
    if faults.kindless (names ++ [name]) then findLeaf options path names name
    else if isSkipped names name then []
    else findIn options faults (Path.join path name) (names ++ [name]) entries
  | .file _ | .link _ => findLeaf options path names name

/-- What is found in a directory: at the entries that it lists, in their order, and the fault that
    ends its listing early. -/
def findIn (options : Options) (faults : Faults) (path : String) (names : List String) :
    List (String × FileTree) → List Finding
  | [] => (interruption? faults path names).toList.map fun stop => unlisted names stop.fault
  | (name, tree) :: rest =>
    (if lists faults path names name && !options.excludes (names ++ [name]) then
      findAt options faults path names name tree else []) ++
      findIn options faults path names rest

end

end Discovery

/-- The files below a root in order, and the directories that cannot be listed to their end. -/
structure Discovery where
  files : List String
  issues : List Discovery.Issue
deriving DecidableEq, Repr

namespace Discovery

/-- The findings below a root. -/
def findings (disk : Disk) (root : String) (options : Options) : List Finding :=
  match disk.entries root with
  | .ok (location, entries) => findIn options (disk.faults.below location) root [] entries
  | .error fault => [unlisted [] fault]

/-- Does the first row of names come no later than the second?  The first names that differ decide,
    and a row comes before those that it starts. -/
def noLater : List String → List String → Bool
  | [], _ => true
  | _ :: _, [] => false
  | name :: names, other :: others => name < other || (name == other && noLater names others)

/-- The candidates by the order of the names on the way to them. -/
def sortCandidates (candidates : List Candidate) : List Candidate :=
  candidates.mergeSort fun a b => noLater a.names b.names

end Discovery

/-- Discovers the files below a root. -/
def Disk.discover (disk : Disk) (root : String) (options : Discovery.Options) : Discovery :=
  let found := Discovery.findings disk root options
  { files := (Discovery.sortCandidates (found.filterMap (·.candidate?))).map (·.path)
    issues := found.filterMap (·.issue?) }

end Reroute
