/-
  Reroute.Path.Basic — paths and their components.

  A path is a text with components between slashes.  Repeated slashes and dots after the start of a
  path do not count; a dot at the start and every double dot are components of their own.  Paths are
  compared by components, not by their texts.
-/
import Reroute.Text.Pieces

namespace Reroute.Path

/-! ## §1. Components -/

/-- A component of a path. -/
inductive Component where
  /-- The slash that starts an absolute path. -/
  | root
  /-- A dot at the start of a path. -/
  | current
  /-- A double dot. -/
  | parent
  /-- A name. -/
  | name (text : String)
deriving DecidableEq, Repr

/-- The text of a component. -/
def Component.text : Component → String
  | root => "/"
  | current => "."
  | parent => ".."
  | name text => text

/-- The component that a text between slashes is, if it is one after the start of a path. -/
def Component.ofPiece? (piece : List Char) : Option Component :=
  if piece = [] ∨ piece = ['.'] then none
  else if piece = ['.', '.'] then some .parent
  else some (.name (String.ofList piece))

/-- The component that the start of a path adds: the root, or a dot. -/
def leading (text : List Char) : List Component :=
  match text with
  | '/' :: _ => [.root]
  | ['.'] => [.current]
  | '.' :: '/' :: _ => [.current]
  | _ => []

/-- The components of a path. -/
def components (path : String) : List Component :=
  leading path.toList ++ (splitAtChar '/' path.toList).filterMap Component.ofPiece?

/-! ## §2. Parts of a path -/

/-- What is left of a list after another one at its start. -/
def afterStart {α : Type} [DecidableEq α] : (start list : List α) → Option (List α)
  | [], list => some list
  | _ :: _, [] => none
  | a :: start, b :: list => if a = b then afterStart start list else none

/-- The components of a path below a base, if the base is at its start. -/
def below? (base path : String) : Option (List Component) :=
  afterStart (components base) (components path)

/-- The path relative to the base where it lies below it, with single slashes; any other path is
    shown as it is. -/
def relativeTo (base path : String) : String :=
  match below? base path with
  | some below => "/".intercalate (below.map (·.text))
  | none => path

/-- The number of directories that a file with these components lies in. -/
def depth (below : List Component) : Nat :=
  match below.getLast? with
  | none | some .root => 0
  | some _ => below.length - 1

/-- The name of the file that a path leads to, unless the path ends in a double dot or is a root. -/
def fileName? (path : String) : Option String :=
  match (components path).getLast? with
  | some (.name text) => some text
  | _ => none

/-- The text after the last dot of a file name; a dot at the start of a name does not count. -/
def nameExtension? (name : String) : Option String :=
  match name.toList.reverse.span (· != '.') with
  | (extension, _ :: _ :: _) => some (String.ofList extension.reverse)
  | _ => none

/-- The text after the last dot of the file name of a path. -/
def extension? (path : String) : Option String :=
  (fileName? path).bind nameExtension?

/-- The path of an entry of a directory. -/
def join (directory name : String) : String :=
  if directory.isEmpty ∨ directory.toList.getLast? = some '/' then directory ++ name
  else directory ++ "/" ++ name

end Reroute.Path
