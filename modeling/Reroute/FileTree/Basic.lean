/-
  Reroute.FileTree.Basic — trees of files, directories and symbolic links.

  A location is the row of names that leads from the top of a tree to one of its nodes.  `get?` is
  the view of a tree: every change of a tree is a change of what `get?` finds at some location.

  A tree says what there is, not what may be done with it: what the system refuses to read, write or
  list is said beside the tree, by location (`Disk.faults`).  Left out are the right to pass through
  a directory, second names of one file other than links, pipes and sockets, and names that are not
  texts.
-/

namespace Reroute

/-- A file, a directory with its entries, or a symbolic link. -/
inductive FileTree where
  | file (content : ByteArray)
  | dir (entries : List (String × FileTree))
  | link (target : String)
deriving BEq, Inhabited

namespace FileTree

/-- The names that lead from the top of a tree to one of its nodes. -/
abbrev Location := List String

/-- Is the node a directory? -/
def isDir : FileTree → Bool
  | dir _ => true
  | _ => false

/-- The node at a location. -/
def get? : FileTree → Location → Option FileTree
  | tree, [] => some tree
  | dir entries, name :: rest => (entries.lookup name).bind fun tree => tree.get? rest
  | _, _ :: _ => none

/-! ## §1. Changes -/

/-- The entries with that of one name changed.  A change of a missing entry may add it at the end,
    and any change may leave the entry out. -/
def alterEntry (name : String) (change : Option FileTree → Option FileTree) :
    List (String × FileTree) → List (String × FileTree)
  | [] => ((change none).map fun tree => (name, tree)).toList
  | (other, tree) :: rest =>
    if other = name then ((change (some tree)).map fun tree => (name, tree)).toList ++ rest
    else (other, tree) :: alterEntry name change rest

/-- The node with the one at a location below it changed.  Directories that are missing on the way
    are made if something is put below them; a file or link on the way stays as it is. -/
def alter (change : Option FileTree → Option FileTree) : Location → Option FileTree →
    Option FileTree
  | [], tree => change tree
  | name :: rest, some (dir entries) =>
    some (.dir (alterEntry name (alter change rest) entries))
  | name :: rest, none => (alter change rest none).map fun tree => .dir [(name, tree)]
  | _ :: _, some tree => some tree

/-- The tree with a node put at a location, in the place of what is there. -/
def put (tree : FileTree) (location : Location) (node : FileTree) : FileTree :=
  (alter (fun _ => some node) location (some tree)).getD tree

end FileTree

end Reroute
