/-
  Reroute.Document.Toml.Table — tables while a TOML document is read.

  A table knows how it came about, because that decides what may still be added to it: a table with
  a header of its own takes no dotted keys from outside, a table that dotted keys made gets no
  header, and a value is complete once it is read.
-/
import Reroute.Document.Basic

namespace Reroute.Document.Toml

/-! ## §1. Tables -/

/-- How a table came about. -/
inductive Origin where
  /-- By a dotted key. -/
  | dotted
  /-- By the header of a table below it. -/
  | implied
  /-- By its own header. -/
  | header
deriving DecidableEq, Repr

/-- What a key stands for. -/
inductive Item where
  /-- A complete value. -/
  | value (document : Document)
  | table (origin : Origin) (entries : List (String × Item))
  /-- A list of tables with headers of their own, the latest first. -/
  | tables (elements : List (List (String × Item)))
deriving Repr, Inhabited

/-- The entries of a table. -/
abbrev Fields := List (String × Item)

mutual

/-- The document that an item is once it is complete. -/
def Item.toDocument : Item → Document
  | .value document => document
  | .table _ entries => .table (entriesOf entries)
  | .tables elements => .list (elementsOf elements [])

/-- The entries of a table that is complete. -/
def entriesOf : List (String × Item) → Entries
  | [] => []
  | (key, item) :: rest => (some key, item.toDocument) :: entriesOf rest

/-- The tables of a list, the first one first, before those that are done. -/
def elementsOf : List (List (String × Item)) → (done : List Document) → List Document
  | [], done => done
  | entries :: rest, done => elementsOf rest (.table (entriesOf entries) :: done)

end

/-! ## §2. Changing entries -/

/-- The entries with that of the key changed; the change may refuse. -/
def Fields.update (key : String) (change : Option Item → Option Item) : Fields → Option Fields
  | [] => (change none).map fun item => [(key, item)]
  | (other, item) :: rest =>
    if other = key then (change (some item)).map fun item => (key, item) :: rest
    else (Fields.update key change rest).map ((other, item) :: ·)

/-- A new value; a key may not occur again. -/
def newValue (document : Document) : Option Item → Option Item
  | none => some (.value document)
  | some _ => none

/-- The entries with a value for the key at the end of the path. -/
def Fields.insert : (path : List String) → (key : String) → Document → Fields → Option Fields
  | [], key, document, fields => fields.update key (newValue document)
  | step :: path, key, document, fields =>
    fields.update step fun
      | none => (Fields.insert path key document []).map (.table .dotted)
      | some (.table .header _) => none
      | some (.table .dotted inner) =>
        (Fields.insert path key document inner).map (.table .dotted)
      | some (.table .implied inner) =>
        if path.isEmpty then none
        else (Fields.insert path key document inner).map (.table .implied)
      | some (.tables (latest :: older)) =>
        if path.isEmpty then none
        else (Fields.insert path key document latest).map fun latest => .tables (latest :: older)
      | some _ => none

/-! ## §3. Headers -/

/-- The item with the table that a header passes through changed. -/
def Item.pass (change : Fields → Option Fields) : Option Item → Option Item
  | none => (change []).map (.table .implied)
  | some (.table origin inner) => (change inner).map (.table origin)
  | some (.tables (latest :: older)) =>
    (change latest).map fun latest => .tables (latest :: older)
  | some _ => none

/-- The entries with the table at the end of the path of a header changed. -/
def Fields.within (change : Fields → Option Fields) : (path : List String) → Fields →
    Option Fields
  | [], fields => change fields
  | step :: path, fields => fields.update step (Item.pass (Fields.within change path))

/-- A table gets its header once; it may have been implied before. -/
def openedTable : Option Item → Option Item
  | none => some (.table .header [])
  | some (.table .implied inner) => some (.table .header inner)
  | some _ => none

/-- A list of tables gets one more. -/
def openedElement : Option Item → Option Item
  | none => some (.tables [[]])
  | some (.tables elements) => some (.tables ([] :: elements))
  | some _ => none

/-- The entries after the header of a table. -/
def Fields.openTable (path : List String) (key : String) (fields : Fields) : Option Fields :=
  fields.within (Fields.update key openedTable) path

/-- The entries after the header of an element of a list of tables. -/
def Fields.openElement (path : List String) (key : String) (fields : Fields) : Option Fields :=
  fields.within (Fields.update key openedElement) path

end Reroute.Document.Toml
