/-
  Reroute.FileTree.Resolution — where a path leads in a tree.

  A path is followed from the root or from the working directory, name by name.  A link on the way
  is replaced by its target, and a double dot leads to the directory above the place reached, not
  above the link that led there.  Resolution looks at names, kinds of nodes and link targets, never
  at the content of files.
-/
import Reroute.FileTree.Basic
import Reroute.Text.Pieces

namespace Reroute

/-- Why a file cannot be reached, read or written. -/
inductive FileFault where
  | notFound
  | notDirectory
  | isDirectory
  | nameTooLong
  | tooManyLinks
  /-- The content of a file is not a text. -/
  | notText
  /-- A path has a character that no path can have. -/
  | nulCharacter
  /-- Any other fault that the system reports, in its words. -/
  | system (message : String)
deriving DecidableEq, Repr

/-- The fault in words. -/
def FileFault.message : FileFault → String
  | notFound => "No such file or directory (os error 2)"
  | notDirectory => "Not a directory (os error 20)"
  | isDirectory => "Is a directory (os error 21)"
  | nameTooLong => "File name too long (os error 36)"
  | tooManyLinks => "Too many levels of symbolic links (os error 40)"
  | notText => "stream did not contain valid UTF-8"
  | nulCharacter => "file name contained an unexpected NUL byte"
  | system message => message

namespace FileTree

/-! ## §1. Limits -/

/-- The greatest number of bytes of a name. -/
def maxName : Nat := 255

/-- The greatest number of bytes of a path. -/
def maxPath : Nat := 4095

/-- The greatest number of links that one path may lead through. -/
def maxLinks : Nat := 40

/-! ## §2. Following names -/

/-- What a path is followed for. -/
inductive Access where
  | read
  /-- A file that is missing is made. -/
  | write
deriving DecidableEq, Repr

/-- Where a path leads. -/
inductive Place where
  /-- To a file or directory. -/
  | found (location : Location)
  /-- To a name that is free in a directory. -/
  | free (directory : Location) (name : String)
deriving DecidableEq, Repr

/-- The location of a place. -/
def Place.location : Place → Location
  | found location => location
  | free directory name => directory ++ [name]

/-- The names of a path, with an empty one for each slash that does not stand between two. -/
def namesOf (path : String) : List String :=
  (splitAtChar '/' path.toList).map String.ofList

/-- Does the path start at the root? -/
def isAbsolute (path : String) : Bool :=
  path.toList.head? == some '/'

/-- Follows names from a directory.  At a link, `follow` goes on with the names of its target and
    those after it; a link without a target leads nowhere.  A missing name is free only in a
    directory that is there: the working directory may be gone. -/
def walk (tree : FileTree) (access : Access)
    (follow : List String → Location → Except FileFault Place) :
    List String → Location → Except FileFault Place
  | [], location => .ok (.found location)
  | name :: rest, location =>
    if name = "" ∨ name = "." then walk tree access follow rest location
    else if name = ".." then walk tree access follow rest location.dropLast
    else if access = .write ∧ rest ≠ [] ∧ rest.all (· == "") then .error .isDirectory
    else if maxName < name.utf8ByteSize then .error .nameTooLong
    else match tree.get? (location ++ [name]) with
      | none =>
        if rest = [] ∧ (tree.get? location).any isDir then .ok (.free location name)
        else .error .notFound
      | some (.dir _) => walk tree access follow rest (location ++ [name])
      | some (.file _) =>
        if rest = [] then .ok (.found (location ++ [name])) else .error .notDirectory
      | some (.link target) =>
        if target = "" then .error .notFound
        else follow (namesOf target ++ rest) (if isAbsolute target then [] else location)

/-- Follows names from a directory through at most so many links. -/
def walkLinks (tree : FileTree) (access : Access) : (links : Nat) → List String → Location →
    Except FileFault Place
  | 0 => walk tree access fun _ _ => .error .tooManyLinks
  | links + 1 => walk tree access (walkLinks tree access links)

/-! ## §3. Following paths -/

/-- Where a path leads from the working directory. -/
def resolve (tree : FileTree) (cwd : Location) (access : Access) (path : String) :
    Except FileFault Place :=
  if '\x00' ∈ path.toList then .error .nulCharacter
  else if path.isEmpty then .error .notFound
  else if maxPath < path.utf8ByteSize then .error .nameTooLong
  else walkLinks tree access maxLinks (namesOf path) (if isAbsolute path then [] else cwd)

end FileTree

end Reroute
