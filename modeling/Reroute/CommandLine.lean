/-
  Reroute.CommandLine — reading the arguments of the command line.

  Arguments are read from left to right.  The value of an option is kept until the next option that
  is known, or the end; only then is it looked at whether the option has a value and was not used
  before.  So an argument that is not known is named before an option that is used twice.
-/
import Reroute.Text.Pieces

namespace Reroute

namespace CommandLine

/-! ## §1. Options -/

/-- Options without a value. -/
inductive Switch where
  | dryRun
  | listRules
  | json
deriving DecidableEq, Repr

/-- Options with a value. -/
inductive Setting where
  | dir
  | preset
  | rules
  | ext
  | exclude
deriving DecidableEq, Repr

/-- What a word with two dashes asks for. -/
inductive Keyword where
  | switch (switch : Switch)
  | setting (setting : Setting)
  | help
  | version
deriving DecidableEq, Repr

/-- The option as it is written. -/
def Switch.shown : Switch → String
  | dryRun => "--dry-run"
  | listRules => "--list-rules"
  | json => "--json"

/-- The option as it is written, with what its value is called. -/
def Setting.shown : Setting → String
  | dir => "--dir <DIR>"
  | preset => "--preset <NAME>"
  | rules => "--rules <FILE>"
  | ext => "--ext <EXT>"
  | exclude => "--exclude <GLOB>"

/-- May the option be used more than once? -/
def Setting.isRepeatable : Setting → Bool
  | ext | exclude => true
  | _ => false

/-- The option with the given name, which stands after two dashes. -/
def Keyword.ofName? : String → Option Keyword
  | "dry-run" => some (.switch .dryRun)
  | "list-rules" => some (.switch .listRules)
  | "json" => some (.switch .json)
  | "dir" => some (.setting .dir)
  | "preset" => some (.setting .preset)
  | "rules" => some (.setting .rules)
  | "ext" => some (.setting .ext)
  | "exclude" => some (.setting .exclude)
  | "help" => some .help
  | "version" => some .version
  | _ => none

/-! ## §2. Why reading stops -/

/-- What is wrong with the arguments. -/
inductive Misuse where
  | unexpected (argument : String)
  | missingValue (option : String)
  | repeated (option : String)
  | conflict (option other : String)
  | unneededValue (option value : String)
deriving DecidableEq, Repr

/-- The misuse in words. -/
def Misuse.message : Misuse → String
  | unexpected argument => "error: unexpected argument '" ++ argument ++ "' found"
  | missingValue option =>
    "error: a value is required for '" ++ option ++ "' but none was supplied"
  | repeated option => "error: the argument '" ++ option ++ "' cannot be used multiple times"
  | conflict option other =>
    "error: the argument '" ++ option ++ "' cannot be used with '" ++ other ++ "'"
  | unneededValue option value =>
    "error: unexpected value '" ++ value ++ "' for '" ++ option ++
      "' found; no more were expected"

/-- Why there is nothing to run. -/
inductive Stop where
  | help
  | version
  | misuse (misuse : Misuse)
deriving DecidableEq, Repr

/-! ## §3. Uses of options -/

/-- An option that is used. -/
inductive Use where
  | switch (switch : Switch)
  | setting (setting : Setting) (value : String)
deriving DecidableEq, Repr

/-- The value that the use gives the setting. -/
def Use.value? (setting : Setting) : Use → Option String
  | .setting other value => if other = setting then some value else none
  | .switch _ => none

/-- The uses so far and one more. -/
def addUse (uses : List Use) (use : Use) : Except Stop (List Use) :=
  match use with
  | .switch switch =>
    if uses.contains (.switch switch) then .error (.misuse (.repeated switch.shown))
    else .ok (uses ++ [use])
  | .setting setting _ =>
    if !setting.isRepeatable && uses.any (fun use => (use.value? setting).isSome) then
      .error (.misuse (.repeated setting.shown))
    else .ok (uses ++ [use])

/-- An option whose use is not complete yet, with its value if that has been read. -/
abbrev Pending := Option (Setting × Option String)

/-- The uses so far and the one that is now complete. -/
def settle (uses : List Use) : Pending → Except Stop (List Use)
  | none => .ok uses
  | some (setting, none) => .error (.misuse (.missingValue setting.shown))
  | some (setting, some value) => addUse uses (.setting setting value)

/-! ## §4. Arguments -/

/-- The kinds of arguments. -/
inductive Argument where
  /-- Two dashes alone: no options follow. -/
  | escape
  /-- Two dashes and a name, perhaps with a value after an equals sign. -/
  | long (name : String) (value : Option String)
  /-- One dash and a letter. -/
  | short (letter : Char)
  | plain
deriving DecidableEq, Repr

/-- The kind of an argument. -/
def Argument.of (text : String) : Argument :=
  match text.toList with
  | ['-', '-'] => .escape
  | '-' :: '-' :: rest =>
    match rest.span (· != '=') with
    | (name, _ :: value) => .long (String.ofList name) (some (String.ofList value))
    | (name, []) => .long (String.ofList name) none
  | '-' :: letter :: _ => .short letter
  | _ => .plain

/-- The option as messages name it. -/
def Keyword.shown : Keyword → String
  | switch option => option.shown
  | setting option => option.shown
  | help => "--help"
  | version => "--version"

/-- The uses and the pending option after a long option. -/
def readLong (uses : List Use) (pending : Pending) (name : String) (value : Option String) :
    Except Stop (List Use × Pending) :=
  match Keyword.ofName? name, value with
  | none, _ => .error (.misuse (.unexpected ("--" ++ name)))
  | some (.setting setting), none => do
    return (← settle uses pending, some (setting, none))
  | some (.setting setting), some value => do
    return (← addUse (← settle uses pending) (.setting setting value), none)
  | some keyword, some value => .error (.misuse (.unneededValue keyword.shown value))
  | some (.switch switch), none => do
    return (← addUse (← settle uses pending) (.switch switch), none)
  | some .help, none => do
    let _ ← settle uses pending
    .error .help
  | some .version, none => do
    let _ ← settle uses pending
    .error .version

/-- Why reading stops at a short option: there is one for help and one for the version. -/
def readShort (uses : List Use) (pending : Pending) (letter : Char) : Except Stop Unit :=
  if letter = 'h' then do
    let _ ← settle uses pending
    .error .help
  else if letter = 'V' then do
    let _ ← settle uses pending
    .error .version
  else .error (.misuse (.unexpected (String.ofList ['-', letter])))

/-- The uses of options in the arguments. -/
def readUses (uses : List Use) (pending : Pending) : List String → Except Stop (List Use)
  | [] => settle uses pending
  | text :: rest =>
    match Argument.of text with
    | .escape =>
      match rest with
      | [] => settle uses pending
      | extra :: _ => .error (.misuse (.unexpected extra))
    | .long name value => do
      let (uses, pending) ← readLong uses pending name value
      readUses uses pending rest
    | .short letter => do
      readShort uses pending letter
      readUses uses pending rest
    | .plain =>
      match pending with
      | some (setting, none) => readUses uses (some (setting, some text)) rest
      | _ => .error (.misuse (.unexpected text))

/-- A preset and a rules file exclude each other; the one that is used first is named first. -/
def checkConflict (uses : List Use) : Except Stop Unit :=
  match uses.filterMap fun
    | .setting .preset _ => some Setting.preset
    | .setting .rules _ => some Setting.rules
    | _ => none with
  | first :: second :: _ => .error (.misuse (.conflict first.shown second.shown))
  | _ => .ok ()

end CommandLine

/-! ## §5. The command line -/

/-- Which rules apply to which files. -/
structure Selection where
  dryRun : Bool := false
  dir : String := "src"
  preset : Option String := none
  rules : Option String := none
  extensions : List String := []
  exclude : List String := []
deriving DecidableEq, Repr

/-- What the command line asks for. -/
structure CommandLine where
  selection : Selection := {}
  /-- List the rules and change nothing. -/
  listRules : Bool := false
  /-- Answer in JSON. -/
  json : Bool := false
deriving DecidableEq, Repr

namespace CommandLine

/-- The values of a setting, in order. -/
def valuesOf (setting : Setting) (uses : List Use) : List String :=
  uses.filterMap (·.value? setting)

/-- The command line with the given uses of options; extensions may stand together, with commas
    between them. -/
def ofUses (uses : List Use) : CommandLine :=
  let one setting := (valuesOf setting uses).head?
  { selection :=
      { dryRun := uses.contains (.switch .dryRun)
        dir := (one .dir).getD "src"
        preset := one .preset
        rules := one .rules
        extensions := (valuesOf .ext uses).flatMap fun value =>
          (splitAtChar ',' value.toList).map String.ofList
        exclude := valuesOf .exclude uses }
    listRules := uses.contains (.switch .listRules)
    json := uses.contains (.switch .json) }

/-- Reads the arguments. -/
def parse (arguments : List String) : Except Stop CommandLine := do
  let uses ← readUses [] none arguments
  checkConflict uses
  return ofUses uses

end CommandLine

end Reroute
