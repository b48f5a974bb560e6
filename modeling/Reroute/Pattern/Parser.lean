/-
  Reroute.Pattern.Parser — from text to structure.

  `Node.parse` reads a pattern from left to right with the open groups on a stack.  Each step takes
  at least one character, so the length of the text is enough fuel.  Flags set in the middle of a
  group hold to its end, over the alternatives that follow too.

  What is read is kept with the depth to which it nests.  A group, a repetition and a class are one
  level each, and so are alternatives and a row of more than one item; what a repetition of no
  rounds contains and what only sets flags counts too, though the node has nothing of it.  A text
  that can be read and nests deeper than the limit is no pattern.
-/
import Reroute.Pattern.Class

namespace Reroute.Pattern

open Reroute.Unicode (isBasicDigit isAlphabetic isAlphanumeric)

/-! ## §1. Group names -/

/-- Can a group name start with the character? -/
def isGroupNameStart (c : Char) : Bool :=
  c == '_' || isAlphabetic c

/-- Can the character stand in a group name after the first? -/
def isGroupNameChar (c : Char) : Bool :=
  c == '_' || c == '.' || c == '[' || c == ']' || isAlphanumeric c

/-- Is the text the name of a group? -/
def isGroupName : List Char → Bool
  | [] => false
  | c :: rest => isGroupNameStart c && rest.all isGroupNameChar

/-- A group name up to the angle bracket that closes it. -/
def readGroupName (text : List Char) : Except Fault (String × List Char) :=
  match text.span (· != '>') with
  | (name, _ :: rest) =>
    if isGroupName name then .ok (String.ofList name, rest) else .error .badGroupName
  | (_, []) => .error .badGroupName

/-! ## §2. Repetition -/

/-- The highest count that a repetition may have. -/
def maxCount : Nat := 4294967295

/-- The text after white space, and after comments where they are skipped. -/
def Flags.skipSpaces (flags : Flags) (text : List Char) : List Char :=
  if flags.extended then dropBlanks false text else text.dropWhile Unicode.isSpace

/-- A count with the white space around it. -/
def readCount (flags : Flags) (text : List Char) : Except Fault (Nat × List Char) :=
  let (digits, rest) := flags.collect isBasicDigit false (flags.skipSpaces text)
  let count := numberOf 10 digits
  if digits.isEmpty ∨ maxCount < count then .error .badCount
  else .ok (count, flags.skipSpaces rest)

/-- The bounds of a counted repetition, its opening brace being read already. -/
def readCounts (flags : Flags) (text : List Char) :
    Except Fault (Nat × Option Nat × List Char) := do
  let (min, rest) ← readCount flags (flags.skip text)
  let (max, rest) ← match rest with
    | ',' :: rest =>
      match flags.skip rest with
      | '}' :: rest => pure (none, '}' :: rest)
      | rest => do
        let (max, rest) ← readCount flags rest
        pure (some max, rest)
    | rest => pure (some min, rest)
  match rest with
  | '}' :: rest =>
    match max with
    | some max => if min ≤ max then return (min, some max, rest) else .error .countsOutOfOrder
    | none => return (min, none, rest)
  | _ => .error .unclosedCount

/-- A repetition; one that allows no round at all is the empty pattern. -/
def Node.repeated (body : Node) (min : Nat) (max : Option Nat) (greedy : Bool) : Node :=
  if min = 0 ∧ max = some 0 then .empty else .rep body min max greedy

/-! ## §3. Single characters -/

/-- The node of a character or escape outside of a class. -/
def Atom.node (flags : Flags) : Atom → Except Fault Node
  | .char c byte =>
    if !flags.unicode && byte && !Unicode.isBasic c then .error .partOfCharacter
    else .ok (.set (flags.fold (.single c)))
  | .set members => .ok (.set members)
  | .look assertion => .ok (.look assertion)

/-- The node of the dot. -/
def dotNode (flags : Flags) : Except Fault Node :=
  if !flags.unicode then .error .partOfCharacter
  else if flags.dotAll then .ok (.set .any)
  else if flags.returnLines then .ok (.set (.compl (.union (.single '\r') (.single '\n'))))
  else .ok (.set (.compl (.single '\n')))

/-- The node of `^`. -/
def caretNode (flags : Flags) : Node :=
  .look (if !flags.multiLine then .textStart
    else if flags.returnLines then .returnLineStart else .lineStart)

/-- The node of `$`. -/
def dollarNode (flags : Flags) : Node :=
  .look (if !flags.multiLine then .textEnd
    else if flags.returnLines then .returnLineEnd else .lineEnd)

/-! ## §4. Groups -/

/-- A part of a pattern: its node, and how deep it nests. -/
structure Part where
  node : Node
  depth : Nat
deriving Repr

/-- A part that has no parts itself. -/
def Part.leaf (node : Node) : Part :=
  { node, depth := 0 }

/-- What is known of the group being read. -/
structure Level where
  /-- The number and the name of the group, if it captures. -/
  capture : Option (Nat × Option String)
  /-- The alternatives before the current one, the last first. -/
  alternatives : List Part
  /-- The items of the current alternative, the last first; a setting of flags is no part. -/
  items : List (Option Part)
deriving Repr

namespace Level

/-- The start of a group. -/
def opening (capture : Option (Nat × Option String)) : Level :=
  { capture, alternatives := [], items := [] }

/-- One more item. -/
def push (level : Level) (part : Part) : Level :=
  { level with items := some part :: level.items }

/-- The current alternative. -/
def current (level : Level) : Part :=
  { node := .seq (level.items.reverse.filterMap (·.map Part.node))
    depth := rowDepth (level.items.map fun item => (item.map Part.depth).getD 0) }

/-- The start of the next alternative. -/
def nextAlternative (level : Level) : Level :=
  { level with alternatives := level.current :: level.alternatives, items := [] }

/-- The group as a whole. -/
def node (level : Level) : Node :=
  let body := Node.oneOf ((level.current :: level.alternatives).reverse.map Part.node)
  match level.capture with
  | some (index, name) => .group index name body
  | none => body

/-- How deep the alternatives nest. -/
def depth (level : Level) : Nat :=
  rowDepth ((level.current :: level.alternatives).map Part.depth)

/-- The last item repeated. -/
def repeatLast (level : Level) (min : Nat) (max : Option Nat) (greedy : Bool) :
    Except Fault Level :=
  match level.items with
  | some part :: items =>
    let repeated : Part := { node := part.node.repeated min max greedy, depth := part.depth + 1 }
    .ok { level with items := some repeated :: items }
  | _ => .error .nothingToRepeat

end Level

/-- The state of reading: the group being read, the groups around it with their flags, the flags
    in force, and the names and the number of the capture groups so far. -/
structure Reading where
  level : Level
  outer : List (Level × Flags)
  flags : Flags
  names : List String
  captures : Nat
deriving Repr

namespace Reading

/-- Nothing read yet. -/
def start : Reading :=
  { level := .opening none, outer := [], flags := {}, names := [], captures := 0 }

/-- The state with one more item. -/
def push (state : Reading) (part : Part) : Reading :=
  { state with level := state.level.push part }

/-- The state within a new group. -/
def openGroup (state : Reading) (capture : Option (Nat × Option String)) (flags : Flags) :
    Reading :=
  let outer := (state.level, state.flags) :: state.outer
  { state with level := .opening capture, outer, flags }

/-- The state within a new capture group. -/
def openCapture (state : Reading) (name : Option String) : Reading :=
  let index := state.captures + 1
  { state.openGroup (some (index, name)) state.flags with
    captures := index
    names := name.toList ++ state.names }

/-- The state after a group is closed. -/
def closeGroup (state : Reading) : Except Fault Reading :=
  match state.outer with
  | (level, flags) :: outer =>
    let group : Part := { node := state.level.node, depth := state.level.depth + 1 }
    .ok { state with level := level.push group, outer, flags }
  | [] => .error .unopenedGroup

/-- The state with new flags for the rest of the group. -/
def setFlags (state : Reading) (flags : Flags) : Reading :=
  { state with flags, level := { state.level with items := none :: state.level.items } }

/-- What a parenthesis opens, by the text after it. -/
def readGroup (state : Reading) (text : List Char) : Except Fault (Reading × List Char) :=
  let named (text : List Char) : Except Fault (Reading × List Char) := do
    let (name, rest) ← readGroupName text
    if state.names.contains name then .error (.repeatedGroupName name)
    else return (state.openCapture (some name), rest)
  match state.flags.skip text with
  | '?' :: '=' :: _ | '?' :: '!' :: _ | '?' :: '<' :: '=' :: _ | '?' :: '<' :: '!' :: _ =>
    .error .lookAround
  | '?' :: 'P' :: '<' :: rest => named rest
  | '?' :: '<' :: rest => named rest
  | '?' :: rest => do
    let (settings, rest) ← Flags.readSettings [] false false rest
    let flags := state.flags.setAll settings
    match rest with
    | ')' :: rest =>
      if settings.isEmpty then .error .nothingToRepeat else return (state.setFlags flags, rest)
    | _ :: rest => return (state.openGroup none flags, rest)
    | [] => .error .badFlags
  | rest => .ok (state.openCapture none, rest)

/-- A repetition of the last item: greedy or, with a question mark after it, not. -/
def readRepeat (state : Reading) (min : Nat) (max : Option Nat) (text : List Char) :
    Except Fault (Reading × List Char) := do
  let (lazy, rest) := match text with
    | '?' :: rest => (true, rest)
    | _ => (false, text)
  let level ← state.level.repeatLast min max (lazy == state.flags.swapGreed)
  return ({ state with level }, rest)

/-- One step: the state after the first construct of the text, and what follows it. -/
def step (state : Reading) (c : Char) (rest : List Char) : Except Fault (Reading × List Char) :=
  match c with
  | '(' => state.readGroup rest
  | ')' => return (← state.closeGroup, rest)
  | '|' => .ok ({ state with level := state.level.nextAlternative }, rest)
  | '[' => do
    let (read, rest) ← Class.read state.flags rest
    return (state.push { node := .set read.members, depth := read.depth }, rest)
  | '?' => state.readRepeat 0 (some 1) rest
  | '*' => state.readRepeat 0 none rest
  | '+' => state.readRepeat 1 none rest
  | '{' => do
    let (min, max, rest) ← readCounts state.flags rest
    state.readRepeat min max (state.flags.skip rest)
  | '\\' => do
    let (atom, rest) ← Escape.read state.flags rest
    return (state.push (.leaf (← atom.node state.flags)), rest)
  | '.' => return (state.push (.leaf (← dotNode state.flags)), rest)
  | '^' => .ok (state.push (.leaf (caretNode state.flags)), rest)
  | '$' => .ok (state.push (.leaf (dollarNode state.flags)), rest)
  | c => return (state.push (.leaf (← (Atom.char c false).node state.flags)), rest)

/-- Reads to the end of the text. -/
def run : (fuel : Nat) → Reading → List Char → Except Fault Reading
  | 0, state, _ => .ok state
  | fuel + 1, state, text =>
    match state.flags.skip text with
    | [] => .ok state
    | c :: rest => do
      let (state, rest) ← state.step c rest
      run fuel state rest

end Reading

/-- The structure of the pattern that the text writes. -/
def Node.parse (text : List Char) : Except Fault Node := do
  let state ← Reading.run (text.length + 1) .start text
  if !state.outer.isEmpty then .error .unclosedGroup
  else if maxNesting < state.level.depth then .error (.tooNested maxNesting)
  else return state.level.node

end Reroute.Pattern
