/-
  Reroute.Failure — why a command fails.

  A failure is a cause, with hints for the user.  Its code, message, details and exit status follow
  from the cause alone.  Everything that can go wrong before a file is touched counts as a fault of
  loading.
-/
import Reroute.Json

namespace Reroute

namespace Failure

/-! ## §1. Codes -/

/-- The kinds of failure. -/
inductive Code where
  | invalidJson
  | invalidToml
  | unsupportedFormat
  | invalidArgument
  | invalidPattern
  | invalidTemplate
  | zeroWidth
  | presetNotFound
  | rootNotFound
  | ioError
  | jsonError
deriving DecidableEq, Repr

/-- The code as it is shown. -/
def Code.text : Code → String
  | invalidJson => "config.invalid_json"
  | invalidToml => "config.invalid_toml"
  | unsupportedFormat => "config.unsupported_format"
  | invalidArgument => "validation.invalid_argument"
  | invalidPattern => "rule.invalid_pattern"
  | invalidTemplate => "rule.invalid_template"
  | zeroWidth => "rule.zero_width"
  | presetNotFound => "rule.preset_not_found"
  | rootNotFound => "discovery.root_not_found"
  | ioError => "internal.io_error"
  | jsonError => "internal.json_error"

/-- Does the failure come from an argument, a rule, a preset or a rules file, and so before any
    file is touched? -/
def Code.isLoadTime : Code → Bool
  | rootNotFound | ioError | jsonError => false
  | _ => true

/-- The exit status of a command that fails with the code. -/
def Code.exitStatus (code : Code) : Nat :=
  if code.isLoadTime then 2
  else if code = .rootNotFound then 4
  else 1

/-! ## §2. Causes -/

/-- A rule of a list: its position from 0 on, its description and the text of its pattern. -/
structure RulePosition where
  index : Nat
  description : String
  pattern : String
deriving DecidableEq, Repr

/-- What went wrong. -/
inductive Cause where
  /-- The value of a command-line flag cannot be used. -/
  | invalidArgument (field value problem : String)
  /-- The pattern of a rule cannot be read. -/
  | invalidPattern (rule : RulePosition) (problem : String)
  /-- The template of a rule cannot be read, or does not go with its pattern. -/
  | invalidTemplate (rule : RulePosition) (problem : String)
  /-- The pattern of a rule matches empty text. -/
  | zeroWidth (rule : RulePosition)
  /-- No preset has the name. -/
  | presetNotFound (name : String) (available : List String)
  /-- The directory to scan does not exist. -/
  | rootNotFound (root : String)
  /-- A rules file is not the JSON document it should be. -/
  | invalidJson (path error : String)
  /-- A rules file is not the TOML document it should be. -/
  | invalidToml (path error : String)
  /-- The name of a rules file does not tell its format. -/
  | unsupportedFormat (path : String)
  /-- A file cannot be read or written. -/
  | io (error : String) (context : Option String)
  /-- A value cannot be written as JSON. -/
  | json (error : String) (context : Option String)
  /-- A failure described by its parts. -/
  | other (code : Code) (message : String) (details : Json)
deriving Repr

/-- What the flaw of an empty match is called. -/
def emptyMatchProblem : String := "pattern can match empty text"

/-- The kind of a cause. -/
def Cause.code : Cause → Code
  | invalidArgument .. => .invalidArgument
  | invalidPattern .. => .invalidPattern
  | invalidTemplate .. => .invalidTemplate
  | zeroWidth .. => .zeroWidth
  | presetNotFound .. => .presetNotFound
  | rootNotFound .. => .rootNotFound
  | invalidJson .. => .invalidJson
  | invalidToml .. => .invalidToml
  | unsupportedFormat .. => .unsupportedFormat
  | io .. => .ioError
  | json .. => .jsonError
  | other code .. => code

/-- A rule as messages name it, counted from 1. -/
def RulePosition.shown (rule : RulePosition) : String :=
  "Rule #" ++ Nat.repr (rule.index + 1) ++ " (" ++ rule.description ++ ")"

/-- The message of a cause. -/
def Cause.message : Cause → String
  | invalidArgument field .. => "Invalid value for --" ++ field
  | invalidPattern rule _ => rule.shown ++ " has an invalid pattern"
  | invalidTemplate rule _ => rule.shown ++ " has an invalid replacement template"
  | zeroWidth rule => rule.shown ++ " can match zero-width text"
  | presetNotFound name _ => "Unknown preset '" ++ name ++ "'"
  | rootNotFound root => "Directory '" ++ root ++ "' does not exist"
  | invalidJson .. => "Invalid JSON in rules file"
  | invalidToml .. => "Invalid TOML in rules file"
  | unsupportedFormat path => "Unsupported rules file format: " ++ path
  | io .. => "IO error"
  | json .. => "JSON error"
  | other _ message _ => message

/-- The details of a flaw of a rule. -/
def RulePosition.details (rule : RulePosition) (problem : String) : Json :=
  .obj [("description", .str rule.description), ("index", .nat rule.index),
    ("pattern", .str rule.pattern), ("problem", .str problem)]

/-- The details of an error with what was being done. -/
def errorDetails (error : String) (context : Option String) : Json :=
  .obj ((context.map fun context => ("context", Json.str context)).toList ++
    [("error", .str error)])

/-- The details of a cause, with the fields in order of their names. -/
def Cause.details : Cause → Json
  | invalidArgument field value problem =>
    .obj [("field", .str field), ("problem", .str problem), ("value", .str value)]
  | invalidPattern rule problem => rule.details problem
  | invalidTemplate rule problem => rule.details problem
  | zeroWidth rule => rule.details emptyMatchProblem
  | presetNotFound name available =>
    .obj [("available", .strs available), ("name", .str name)]
  | rootNotFound root => .obj [("root", .str root)]
  | invalidJson path error => .obj [("error", .str error), ("path", .str path)]
  | invalidToml path error => .obj [("error", .str error), ("path", .str path)]
  | unsupportedFormat path => .obj [("path", .str path)]
  | io error context => errorDetails error context
  | json error context => errorDetails error context
  | other _ _ details => details.sortKeys

/-- The hints that go with a cause. -/
def Cause.hints : Cause → List String
  | invalidTemplate .. =>
    ["Use \x7b1\x7d or \x7bname\x7d for capture groups, \x7broot\x7d for the root prefix, " ++
      "\x7b\x7b and \x7d\x7d for braces"]
  | zeroWidth .. => ["Every rule must consume at least one character per match"]
  | presetNotFound _ available => ["Available presets: " ++ ", ".intercalate available]
  | rootNotFound _ => ["Pass --dir <path> to choose the directory to scan"]
  | unsupportedFormat _ => ["Rules files must end in .json or .toml"]
  | _ => []

end Failure

/-! ## §3. Failures -/

/-- A failure: its cause, and hints beside those that go with the cause. -/
structure Failure where
  cause : Failure.Cause
  moreHints : List String := []
deriving Repr

namespace Failure

/-- The kind of the failure. -/
def code (failure : Failure) : Code := failure.cause.code

/-- The message of the failure. -/
def message (failure : Failure) : String := failure.cause.message

/-- The details of the failure. -/
def details (failure : Failure) : Json := failure.cause.details

/-- All hints of the failure. -/
def hints (failure : Failure) : List String := failure.cause.hints ++ failure.moreHints

/-- The failure with one more hint. -/
def withHint (failure : Failure) (hint : String) : Failure :=
  { failure with moreHints := failure.moreHints ++ [hint] }

/-- The underlying error or problem, if the details have one that is a text; otherwise the
    message. -/
def reason (failure : Failure) : String :=
  match failure.details.get? "error" <|> failure.details.get? "problem" with
  | some (.str text) => text
  | _ => failure.message

/-- The exit status of a command that fails so. -/
def exitStatus (failure : Failure) : Nat := failure.code.exitStatus

/-- The hints as the answer of a command shows them. -/
def hintsJson (failure : Failure) : Json :=
  .arr (failure.hints.map fun hint => .obj [("message", .str hint)])

/-- The answer of a command that fails so. -/
def envelope (failure : Failure) : Json :=
  let hints := if failure.hints.isEmpty then [] else [("hints", failure.hintsJson)]
  .obj [("success", .bool false),
    ("error", .obj ([("code", .str failure.code.text), ("message", .str failure.message),
      ("details", failure.details)] ++ hints))]

end Failure

end Reroute
