/-
  Reroute.Document.Basic — what a document holds.

  The tree that a document in one of several formats writes, as far as a rules file needs it: texts
  are kept, all other scalars are told apart from texts but not from each other.
-/

namespace Reroute

/-- The content of a document. -/
inductive Document where
  /-- A value that is explicitly missing. -/
  | null
  /-- A text; none if it was written with half of a surrogate pair. -/
  | str (value : Option String)
  /-- A number, a truth value or a date. -/
  | scalar
  | list (items : List Document)
  /-- Keys with their values in the order in which they were written; a key may occur again. -/
  | table (entries : List (Option String × Document))
deriving Repr, Inhabited

namespace Document

/-- Keys with their values. -/
abbrev Entries := List (Option String × Document)

/-- The text that a value is, if it is one. -/
def text? : Document → Option String
  | str value => value
  | _ => none

/-- The texts that the items of a list are, if all of them are. -/
def texts? : Document → Option (List String)
  | list items => items.mapM text?
  | _ => none

end Document

end Reroute
