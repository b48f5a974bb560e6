/-
  Reroute.Path.Expansion — variables and the home directory in paths.

  `$NAME`, `${NAME}` and `${NAME:-default}` stand for variables of the environment; then a tilde at
  the start of the path stands for the home directory.  A tilde that came from a variable is kept.
  The home directory is that of the variable `HOME` or, if that tells none, that of the user.
-/
import Reroute.Failure
import Reroute.Text.Pieces
import Reroute.Unicode.Derived

namespace Reroute

/-- The environment of a program. -/
structure Environment where
  /-- The variables with their values. -/
  assignments : List (String × String) := []
  /-- The home directory that the user database has for the user. -/
  userHome : Option String := none
deriving DecidableEq, Repr

namespace Environment

/-- The value of a variable.  An empty name, or one with an equals sign, is never set. -/
def value? (env : Environment) (name : String) : Option String :=
  if name.isEmpty ∨ '=' ∈ name.toList then none else env.assignments.lookup name

/-- The home directory. -/
def home? (env : Environment) : Option String :=
  ((env.value? "HOME").filter (!·.isEmpty)).or env.userHome

end Environment

namespace Path

/-! ## §1. Variables -/

/-- Can the character stand in the name of a variable that is written without braces? -/
def isVariableChar (c : Char) : Bool :=
  Unicode.isAlphanumeric c || c == '_'

/-- The text before and after the first `:-` in it. -/
def splitDefault : List Char → Option (List Char × List Char)
  | ':' :: '-' :: fallback => some ([], fallback)
  | [] => none
  | c :: rest => (splitDefault rest).map fun (name, fallback) => (c :: name, fallback)

/-- The name and the default of a reference in braces.  A default needs a name before it. -/
def referenceParts (inner : List Char) : String × Option String :=
  match splitDefault inner with
  | some (c :: name, fallback) => (String.ofList (c :: name), some (String.ofList fallback))
  | _ => (String.ofList inner, none)

/-- The text of a reference in braces, or the name that is not set. -/
def bracedValue (env : Environment) (inner : List Char) : Except String String :=
  let (name, fallback) := referenceParts inner
  match env.value? name <|> fallback with
  | some value => .ok value
  | none => .error name

/-- The text with its references replaced, or the first name that is not set.  Each step takes at
    least one character, so the length of the text is enough fuel. -/
def expandVariables (env : Environment) : (fuel : Nat) → List Char → Except String (List Char)
  | 0, _ => .ok []
  | _, [] => .ok []
  | fuel + 1, '$' :: '{' :: rest =>
    match rest.span (· != '}') with
    | (_, []) => do
      let others ← expandVariables env fuel rest
      return '$' :: '{' :: others
    | (inner, _ :: rest) => do
      let value ← bracedValue env inner
      let others ← expandVariables env fuel rest
      return value.toList ++ others
  | fuel + 1, '$' :: '$' :: rest => do
    let others ← expandVariables env fuel rest
    return '$' :: others
  | fuel + 1, '$' :: rest =>
    match rest.span isVariableChar with
    | ([], _) => do
      let others ← expandVariables env fuel rest
      return '$' :: others
    | (name, rest) =>
      match env.value? (String.ofList name) with
      | none => .error (String.ofList name)
      | some value => do
        let others ← expandVariables env fuel rest
        return value.toList ++ others
  | fuel + 1, c :: rest => do
    let others ← expandVariables env fuel rest
    return c :: others

/-- The names of the variables that a path may refer to. -/
def variableNames (path : String) : List String :=
  (splitAtChar '$' path.toList).tail.map fun
    | '{' :: inner => (referenceParts (inner.takeWhile (· != '}'))).1
    | name => String.ofList (name.takeWhile isVariableChar)

/-! ## §2. The home directory -/

/-- The path with a tilde at its start replaced by the home directory. -/
def expandTilde (env : Environment) (path : List Char) : List Char :=
  match path with
  | '~' :: rest =>
    if rest = [] ∨ rest.head? = some '/' then
      match env.home? with
      | some home => home.toList ++ rest
      | none => path
    else path
  | _ => path

/-- The path after expansion, or the first name that is not set. -/
def expandText (env : Environment) (path : List Char) : Except String (List Char) := do
  let expanded ← expandVariables env path.length path
  if path.head? = some '~' then return expandTilde env expanded else return expanded

/-- What a path that refers to a variable that is not set is told. -/
def unsetProblem (name : String) : String :=
  "error looking key '" ++ name ++ "' up: environment variable not found"

/-- The path that the value of a flag writes. -/
def expand (env : Environment) (field path : String) : Except Failure String :=
  match expandText env path.toList with
  | .ok expanded => .ok (String.ofList expanded)
  | .error name => .error { cause := .invalidArgument field path (unsetProblem name) }

end Path

end Reroute
