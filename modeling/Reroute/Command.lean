/-
  Reroute.Command — the commands of the program and their answers.

  `Command.run` is the whole program: it reads the arguments, loads the rules before any file is
  touched, lists them or runs the migration, and answers in JSON or as text for a terminal.
-/
import Reroute.CommandLine
import Reroute.Migration
import Reroute.Path.Expansion
import Reroute.Presets
import Reroute.RulesFile

namespace Reroute

namespace Command

/-! ## §1. Loading -/

/-- The rules of a run and the files that it looks at. -/
structure Loaded where
  registry : Registry
  discovery : Discovery.Options

/-- The rules file at a path. -/
def readRulesFile (disk : Disk) (path : String) : Except Failure RulesFile := do
  RulesFile.ofContent path (← disk.read path ("read rules file " ++ path))

/-- The rules, and the extensions and exclusions of the rules file if there is one.  A rules file
    takes the place of a preset. -/
def loadSource (env : Environment) (disk : Disk) (selection : Selection) :
    Except Failure (Registry × Option (List String) × List String) :=
  match selection.rules with
  | some path => do
    let path ← Path.expand env "rules" path
    let file ← readRulesFile disk path
    return (← file.registry path, file.extensions, file.exclude)
  | none => do
    return (← Presets.load (selection.preset.getD Presets.defaultName), none, [])

/-- Loads what is selected.  Extensions of the command line win over those of a rules file, and
    these over the defaults; exclusions of both apply. -/
def load (env : Environment) (disk : Disk) (selection : Selection) : Except Failure Loaded := do
  let (registry, extensions, exclude) ← loadSource env disk selection
  let extensions :=
    if selection.extensions.isEmpty then extensions.getD Discovery.defaultExtensions
    else selection.extensions
  return { registry, discovery := .of extensions (exclude ++ selection.exclude) }

/-! ## §2. Listing rules -/

/-- A rule in a listing. -/
structure ListedRule where
  /-- Counted from 1. -/
  position : Nat
  description : String
  pattern : String
  replacement : String
deriving DecidableEq, Repr

/-- The rules of a registry in order, and the extensions they apply to. -/
structure Listing where
  registry : String
  extensions : List String
  rules : List ListedRule
deriving DecidableEq, Repr

/-- A rule at the given index as it is listed. -/
def ListedRule.of (index : Nat) (rule : Rule) : ListedRule :=
  { position := index + 1, description := rule.description, pattern := rule.pattern.source,
    replacement := rule.replacement.print }

/-- The rules from an index on as they are listed. -/
def listFrom : (index : Nat) → List Rule → List ListedRule
  | _, [] => []
  | index, rule :: rest => .of index rule :: listFrom (index + 1) rest

/-- The listing of what is loaded. -/
def Listing.of (loaded : Loaded) : Listing :=
  { registry := loaded.registry.name, extensions := loaded.discovery.extensions,
    rules := listFrom 0 loaded.registry.rules }

/-- A rule of a listing as JSON. -/
def ListedRule.toJson (rule : ListedRule) : Json :=
  .obj [("position", .nat rule.position), ("description", .str rule.description),
    ("pattern", .str rule.pattern), ("replacement", .str rule.replacement)]

/-- The listing as JSON. -/
def Listing.toJson (listing : Listing) : Json :=
  .obj [("registry", .str listing.registry), ("extensions", .strs listing.extensions),
    ("rules", .arr (listing.rules.map (·.toJson)))]

/-- The number with blanks before it, so that it has at least so many characters. -/
def padNumber (width number : Nat) : String :=
  let digits := Nat.toDigits 10 number
  String.ofList (List.replicate (width - digits.length) ' ' ++ digits)

/-- The lines of a rule in a listing. -/
def ListedRule.render (rule : ListedRule) : String :=
  padNumber 3 rule.position ++ ". " ++ rule.description ++ "\n" ++
    "     " ++ rule.pattern ++ "\n" ++
    "  -> " ++ rule.replacement ++ "\n"

/-- The listing as a text. -/
def Listing.render (listing : Listing) : String :=
  listing.registry ++ " (" ++ Nat.repr listing.rules.length ++ " rule(s), extensions: " ++
    ", ".intercalate listing.extensions ++ ")\n" ++
    "".intercalate (listing.rules.map (·.render))

/-! ## §3. The commands -/

/-- Lists the rules. -/
def rules (env : Environment) (selection : Selection) (disk : Disk) : Except Failure Listing := do
  return .of (← load env disk selection)

/-- Runs the migration.  Also the disk afterwards. -/
def migrate (env : Environment) (selection : Selection) (disk : Disk) :
    Except Failure Report × Disk :=
  match (do
    let loaded ← load env disk selection
    return (loaded, ← Path.expand env "dir" selection.dir) : Except Failure (Loaded × String)) with
  | .error failure => (.error failure, disk)
  | .ok (loaded, root) =>
    let outcome := Migration.run loaded.registry
      { root, dryRun := selection.dryRun, discovery := loaded.discovery } disk
    (outcome.result, outcome.disk)

/-! ## §4. Answers -/

/-- The answer of a command that succeeds, in JSON. -/
def envelope (data : Json) : Json :=
  .obj [("success", .bool true), ("data", data)]

/-- What the program prints and its exit status. -/
structure Answer where
  exitStatus : Nat := 0
  stdout : String := ""
  stderr : String := ""
deriving DecidableEq, Repr

/-- A failure as a text. -/
def renderFailure (colors : Bool) (failure : Failure) : String :=
  let reason := if failure.reason = failure.message then "" else "  " ++ failure.reason ++ "\n"
  Style.redBold.apply colors "error:" ++ " " ++ Style.red.apply colors failure.message ++ "\n" ++
    reason ++ "".intercalate (failure.hints.map fun hint =>
      "  " ++ Style.yellow.apply colors "hint:" ++ " " ++ hint ++ "\n")

/-- The answer to a command with the given result. -/
def answer {α : Type} (json colors : Bool) (toJson : α → Json) (render : α → String) :
    Except Failure α → Answer
  | .ok result =>
    { stdout := if json then (envelope (toJson result)).render ++ "\n" else render result }
  | .error failure =>
    if json then { exitStatus := failure.exitStatus, stdout := failure.envelope.render ++ "\n" }
    else { exitStatus := failure.exitStatus, stderr := renderFailure colors failure }

/-! ## §5. The program -/

/-- The line that tells the version. -/
def versionLine : String := "importshift 0.4.2\n"

/-- How the program is used. -/
def helpText : String :=
  "Rewrite import paths to match a relocated module layout\n\n" ++
  "Usage: importshift [OPTIONS]\n\n" ++
  "Options:\n" ++
  "      --dry-run         Compute and report changes without writing any file\n" ++
  "      --dir <DIR>       Root directory to scan [default: src]\n" ++
  "      --preset <NAME>   Built-in rule table to apply (feature-first, planning, auth-hooks)\n" ++
  "      --rules <FILE>    JSON or TOML file with an ordered rule list (replaces the preset)\n" ++
  "      --ext <EXT>       File extension to scan; repeat or comma-separate " ++
  "(default: ts,tsx,js,jsx)\n" ++
  "      --exclude <GLOB>  Glob (relative to --dir) of paths to leave alone; repeatable\n" ++
  "      --list-rules      Print the active rules in application order and exit\n" ++
  "      --json            Print a JSON envelope instead of the colored report\n" ++
  "  -h, --help            Print help\n" ++
  "  -V, --version         Print version\n"

/-- Colours are on if they are asked for in the environment. -/
def colorsOn (env : Environment) : Bool :=
  match env.value? "CLICOLOR_FORCE" with
  | some value => value != "0"
  | none => false

/-- The answer to arguments that ask for no command. -/
def stopAnswer : CommandLine.Stop → Answer
  | .help => { stdout := helpText }
  | .version => { stdout := versionLine }
  | .misuse misuse => { exitStatus := 2, stderr := misuse.message ++ "\n" }

/-- The answer of the program to its arguments, and the disk afterwards. -/
def run (env : Environment) (arguments : List String) (disk : Disk) : Answer × Disk :=
  let colors := colorsOn env
  match CommandLine.parse arguments with
  | .error stop => (stopAnswer stop, disk)
  | .ok line =>
    if line.listRules then
      (answer line.json colors Listing.toJson Listing.render (rules env line.selection disk), disk)
    else
      let (result, disk) := migrate env line.selection disk
      (answer line.json colors Report.toJson (Report.render colors) result, disk)

end Command

end Reroute
