/-
  Reroute.RulesFile — rules files.

  A rules file is a document in JSON or TOML with an ordered list of rules.  It may give itself a
  name, choose the extensions of the files to scan, and exclude paths.  Keys that are not known are
  passed over.  A record may also be written as the list of its fields in order, all of them.
-/
import Reroute.Document.Json
import Reroute.Document.Toml.Parser
import Reroute.Path.Basic
import Reroute.Registry

namespace Reroute

/-- The content of a rules file. -/
structure RulesFile where
  name : Option String
  /-- Takes the place of the default extensions if present. -/
  extensions : Option (List String)
  exclude : List String
  rules : List RuleSpec
deriving DecidableEq, Repr

namespace RulesFile

/-! ## §1. Faults -/

/-- Why a text is not a rules file. -/
inductive Fault where
  /-- The text is no document of its format. -/
  | malformed
  /-- A record is neither a table nor a list of all of its fields. -/
  | notRecord
  /-- A key is written with half of a surrogate pair. -/
  | badKey
  | missingField (name : String)
  | repeatedField (name : String)
  /-- The value of a field is not of the kind it should be. -/
  | badField (name : String)
deriving DecidableEq, Repr

/-- The fault in words. -/
def Fault.message : Fault → String
  | malformed => "malformed document"
  | notRecord => "expected a table or a list of all fields"
  | badKey => "a key is not a text"
  | missingField name => "missing field '" ++ name ++ "'"
  | repeatedField name => "duplicate field '" ++ name ++ "'"
  | badField name => "invalid value for field '" ++ name ++ "'"

/-! ## §2. Records -/

/-- The value of a field of a table, if it is there; it may not be there twice. -/
def fieldValue? (entries : Document.Entries) (name : String) : Except Fault (Option Document) :=
  match entries.filter (·.1 == some name) with
  | [] => .ok none
  | [(_, value)] => .ok (some value)
  | _ => .error (.repeatedField name)

/-- The values of the fields of a record, by the order of their names. -/
def fieldsOf (names : List String) : Document → Except Fault (List (Option Document))
  | .table entries =>
    if entries.any (·.1.isNone) then .error .badKey else names.mapM (fieldValue? entries)
  | .list items => if items.length = names.length then .ok (items.map some) else .error .notRecord
  | _ => .error .notRecord

/-- The value of a field that must be there. -/
def required {α : Type} (name : String) (decode : Document → Option α) :
    Option Document → Except Fault α
  | none => .error (.missingField name)
  | some value =>
    match decode value with
    | some decoded => .ok decoded
    | none => .error (.badField name)

/-- The value of a field that may be missing, also explicitly. -/
def optional {α : Type} (name : String) (decode : Document → Option α) :
    Option Document → Except Fault (Option α)
  | none => .ok none
  | some .null => .ok none
  | some value => some <$> required name decode (some value)

/-- The value of a field that has a default. -/
def defaulted {α : Type} (name : String) (default : α) (decode : Document → Option α) :
    Option Document → Except Fault α
  | none => .ok default
  | some value => required name decode (some value)

/-! ## §3. Decoding -/

/-- A rule in a document. -/
def decodeRule (document : Document) : Except Fault RuleSpec := do
  match ← fieldsOf ["pattern", "replacement", "description"] document with
  | [pattern, replacement, description] =>
    return { pattern := ← required "pattern" Document.text? pattern
             replacement := ← required "replacement" Document.text? replacement
             description := ← required "description" Document.text? description }
  | _ => .error .notRecord

/-- The rules in a document. -/
def decodeRules : Option Document → Except Fault (List RuleSpec)
  | none => .error (.missingField "rules")
  | some (.list items) => items.mapM decodeRule
  | some _ => .error (.badField "rules")

/-- The rules file that a document writes. -/
def decode (document : Document) : Except Fault RulesFile := do
  match ← fieldsOf ["name", "extensions", "exclude", "rules"] document with
  | [name, extensions, exclude, rules] =>
    return { name := ← optional "name" Document.text? name
             extensions := ← optional "extensions" Document.texts? extensions
             exclude := ← defaulted "exclude" [] Document.texts? exclude
             rules := ← decodeRules rules }
  | _ => .error .notRecord

/-- The rules file that a text writes, if the text is a document. -/
def ofDocument? : Option Document → Except Fault RulesFile
  | some document => decode document
  | none => .error .malformed

/-- The rules file that a text in JSON writes. -/
def ofJson (content origin : String) : Except Failure RulesFile :=
  match ofDocument? (Document.ofJson? content) with
  | .ok file => .ok file
  | .error fault => .error { cause := .invalidJson origin fault.message }

/-- The rules file that a text in TOML writes. -/
def ofToml (content origin : String) : Except Failure RulesFile :=
  match ofDocument? (Document.ofToml? content) with
  | .ok file => .ok file
  | .error fault => .error { cause := .invalidToml origin fault.message }

/-- The rules file with the given content; the extension of its path tells the format. -/
def ofContent (path content : String) : Except Failure RulesFile :=
  match Path.extension? path with
  | some "json" => ofJson content path
  | some "toml" => ofToml content path
  | _ => .error { cause := .unsupportedFormat path }

/-! ## §4. Rules -/

/-- The registry of the file, named after its origin unless the file names itself. -/
def registry (file : RulesFile) (origin : String) : Except Failure Registry :=
  Registry.ofSpecs (file.name.getD origin) file.rules

end RulesFile

end Reroute
