/-
  Reroute.Presets — the built-in rule tables.

  `feature-first` moves shared hooks and the firebase configuration into a layout by features,
  `planning` mends the planning pages after their move, and `auth-hooks` leads every import of
  `useAuth` to the auth feature, relative to the scan root.
-/
import Reroute.Registry

namespace Reroute

/-! ## §1. Rules for the imports from a path -/

/-- The pattern that matches a text and nothing else. -/
def Presets.literalPattern (text : String) : String :=
  String.ofList (text.toList.flatMap fun c => if Pattern.Escape.isMeta c then ['\\', c] else [c])

/-- A rule for the imports from a path. -/
inductive Move where
  /-- Imports from `old`, in quotes of either kind, become imports from `new` in double quotes. -/
  | relocate (old new description : String)
  /-- Imports from the path in single quotes get double quotes. -/
  | requote (path description : String)
deriving DecidableEq, Repr

/-- The definition of the rule. -/
def Move.definition : Move → RuleDef
  | relocate old new description =>
    { pattern := "from ['\"]" ++ Presets.literalPattern old ++ "['\"]"
      replacement := .literal ("from \"" ++ new ++ "\"")
      description }
  | requote path description =>
    { pattern := "from '" ++ Presets.literalPattern path ++ "'"
      replacement := .literal ("from \"" ++ path ++ "\"")
      description }

namespace Presets

/-! ## §2. Tables -/

/-- The places from which a shared hook used to be imported. -/
def oldHookPaths (hook : String) : List String :=
  ["../hooks/" ++ hook, "../../hooks/" ++ hook, "../" ++ hook, "./" ++ hook]

/-- The moves of a planning hook from all of its old places. -/
def planningHook (hook : String) : List Move :=
  (oldHookPaths hook).map fun old =>
    .relocate old ("../../../features/planning/hooks/" ++ hook) (hook ++ " hook")

/-- The move of a hook into a feature. -/
def featureHook (hook feature : String) : Move :=
  .relocate ("../hooks/" ++ hook) ("../../../features/" ++ feature ++ "/hooks/" ++ hook)
    (hook ++ " hook")

/-- The moves of `feature-first`. -/
def featureFirstMoves : List Move :=
  [.relocate "../lib/firebase/config" "../../../lib/firebase/config" "Firebase config (features)",
    .requote "../../lib/firebase/config" "Firebase config (context)"] ++
  (oldHookPaths "useAuth").map (.relocate · "../../../features/auth/hooks" "useAuth hook") ++
  planningHook "useDesiderata" ++ planningHook "useDesiderataState" ++
  [featureHook "usePlanningPeriod" "planning", featureHook "useShiftAssignments" "planning",
    featureHook "useUserAssignments" "users", featureHook "useCachedUserData" "users"]

/-- The rules of `feature-first`. -/
def featureFirst : List RuleDef :=
  featureFirstMoves.map Move.definition

/-- The moves of `planning` before the rule of the table component. -/
def planningMovesBefore : List Move :=
  [.relocate "../context/shiftExchange" "../../../context/shiftExchange" "shiftExchange context",
    .relocate "../context/planning/PlanningContext" "../../../context/planning/PlanningContext"
      "PlanningContext",
    .requote "../components/common/Switch" "Switch component",
    .requote "../components/common/LoadingSpinner" "LoadingSpinner component",
    .relocate "../components/planning/PlanningTutorial" "../components/PlanningTutorial"
      "PlanningTutorial component",
    .relocate "../components/Toast" "../../../components/Toast" "Toast component"]

/-- The rule of `planning` for the imports of the table component, which keeps their clause. -/
def tableImport : RuleDef :=
  { pattern := "import (.*) from ['\"]\\.\\./components/planning/GeneratedPlanningTable['\"]"
    replacement := ((Template.literal "import ").group 1).text
      " from \"../components/GeneratedPlanningTable\""
    description := "GeneratedPlanningTable component" }

/-- The moves of `planning` after it. -/
def planningMovesAfter : List Move :=
  [.relocate "../types/planning" "../types" "planning types",
    .requote "../utils/timeUtils" "timeUtils",
    .requote "../utils/lazyExporters" "lazyExporters",
    .relocate "../lib/firebase/desiderata" "../../../lib/firebase/desiderata"
      "Firebase desiderata"]

/-- The rules of `planning`. -/
def planning : List RuleDef :=
  planningMovesBefore.map Move.definition ++
    tableImport :: planningMovesAfter.map Move.definition

/-- The rule of `auth-hooks`, whose paths lead to the root from wherever the file is. -/
def authImport : RuleDef :=
  { pattern := "import\\s*\\\x7b\\s*useAuth\\s*\\\x7d\\s*from\\s*['\"][^'\"]*/hooks/useAuth['\"]"
    replacement := ((Template.literal "import \x7b useAuth \x7d from '").rootPrefix).text
      "features/auth/hooks'"
    description := "useAuth import (root-relative)" }

/-- The rules of `auth-hooks`. -/
def authHooks : List RuleDef :=
  [authImport]

/-! ## §3. Presets by name -/

/-- The preset that applies if none is asked for. -/
def defaultName : String := "feature-first"

/-- The presets with their names. -/
def table : List (String × List RuleDef) :=
  [("feature-first", featureFirst), ("planning", planning), ("auth-hooks", authHooks)]

/-- The names of the presets. -/
def names : List String := table.map (·.1)

/-- Loads the preset with the given name. -/
def load (name : String) : Except Failure Registry :=
  match table.lookup name with
  | some definitions => Registry.ofDefs name definitions
  | none => .error { cause := .presetNotFound name names }

end Presets

end Reroute
