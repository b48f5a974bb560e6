/-
  Reroute.Glob — matching paths against globs.

  A star passes over any bytes but a slash, a double star that is a whole component passes over
  slashes too; there are sets in brackets and alternatives in braces, and an exclamation mark at the
  start negates the glob.  The match is a search with one place to return to for the last star, one
  for the last double star, and a stack of the states at the braces that are open.
-/

namespace Reroute.Glob

/-- The bytes of a text. -/
abbrev Bytes := Array UInt8

/-- Does the byte at the index write the character? -/
def isAt (bytes : Bytes) (index : Nat) (c : Char) : Bool :=
  (bytes[index]?).any (·.toNat == c.toNat)

/-! ## §1. States -/

/-- An index into the glob and one into the path. -/
structure Mark where
  glob : Nat := 0
  path : Nat := 0
deriving DecidableEq, Repr

/-- How far glob and path are matched, and the places to return to for the last star and the last
    double star.  A place whose index into the path is 0 is none. -/
structure State where
  glob : Nat := 0
  path : Nat := 0
  wild : Mark := {}
  star : Mark := {}
deriving DecidableEq, Repr

/-- A search: its state, those at the braces that are open, the innermost first, and the furthest
    that an alternative has come. -/
structure Search where
  state : State := {}
  opened : List State := []
  longest : Nat := 0
deriving DecidableEq, Repr

/-- How many braces may be open at once. -/
def maxOpened : Nat := 10

/-- The search after the innermost brace is closed. -/
def Search.close (search : Search) : Search :=
  match search.opened with
  | [] => search
  | outer :: opened =>
    { state := { search.state with path := search.longest, wild := outer.wild, star := outer.star }
      opened
      longest := if opened.isEmpty then 0 else search.longest }

/-- The state at the place to return to for the last star, if there is one. -/
def State.return? (state : State) (path : Bytes) : Option State :=
  if 0 < state.wild.path ∧ state.wild.path ≤ path.size then
    some { state with glob := state.wild.glob, path := state.wild.path }
  else none

/-! ## §2. Skipping -/

/-- The index after further double stars at the given one.  Each has three bytes, so the size of the
    glob is enough fuel. -/
def skipStars (glob : Bytes) : (fuel : Nat) → (index : Nat) → Nat
  | 0, index => index
  | fuel + 1, index =>
    if isAt glob index '/' && isAt glob (index + 1) '*' && isAt glob (index + 2) '*' then
      skipStars glob fuel (index + 3)
    else index

/-- The index of the last of the double stars that start at the given one. -/
def lastStars (glob : Bytes) (index : Nat) : Nat :=
  skipStars glob glob.size (index + 2) - 2

/-- Where skipping to the end of an alternative ends. -/
inductive Skip where
  /-- After the comma before the next alternative. -/
  | comma (index : Nat)
  /-- After the brace that closes the alternatives. -/
  | brace (index : Nat)
  /-- The brace is missing. -/
  | unclosed
deriving DecidableEq, Repr

/-- Skips from the index to the end of the braces, or of the alternative if `stopAtComma`. -/
def skipBraces (glob : Bytes) (stopAtComma : Bool) : (fuel : Nat) → (index depth : Nat) →
    (bracket : Bool) → Skip
  | 0, _, _, _ => .unclosed
  | fuel + 1, index, depth, bracket =>
    if depth = 0 then .brace index
    else if glob.size ≤ index then .unclosed
    else if isAt glob index '{' && !bracket then
      skipBraces glob stopAtComma fuel (index + 1) (depth + 1) bracket
    else if isAt glob index '}' && !bracket then
      skipBraces glob stopAtComma fuel (index + 1) (depth - 1) bracket
    else if isAt glob index ',' && stopAtComma && depth == 1 && !bracket then .comma (index + 1)
    else if isAt glob index '*' && isAt glob (index + 1) '*' && !bracket then
      skipBraces glob stopAtComma fuel (lastStars glob index + 2) depth bracket
    else if isAt glob index '[' && !bracket then
      skipBraces glob stopAtComma fuel (index + 1) depth true
    else if isAt glob index ']' then
      skipBraces glob stopAtComma fuel (index + 1) depth false
    else if isAt glob index '\\' then
      skipBraces glob stopAtComma fuel (index + 2) depth bracket
    else skipBraces glob stopAtComma fuel (index + 1) depth bracket

/-- Skips from the index within one open brace. -/
def skipFrom (glob : Bytes) (stopAtComma : Bool) (index : Nat) : Skip :=
  skipBraces glob stopAtComma (glob.size + 2) index 1 false

/-! ## §3. Sets -/

/-- The byte that the glob writes at an index, perhaps as an escape, and the index of its last
    byte. -/
def literal? (glob : Bytes) (index : Nat) : Option (UInt8 × Nat) :=
  if isAt glob index '\\' then
    (glob[index + 1]?).map fun byte =>
      let value : UInt8 :=
        if isAt glob (index + 1) 'b' then 8
        else if isAt glob (index + 1) 'n' then 10
        else if isAt glob (index + 1) 'r' then 13
        else if isAt glob (index + 1) 't' then 9
        else byte
      (value, index + 1)
  else (glob[index]?).map (·, index)

/-- Is the byte in the set whose members start at the index?  Also the index after the set.  The
    first member may be a closing bracket. -/
def members? (glob : Bytes) (byte : UInt8) : (fuel : Nat) → (index : Nat) → (first hit : Bool) →
    Option (Bool × Nat)
  | 0, _, _, _ => none
  | fuel + 1, index, first, hit => do
    if !first && isAt glob index ']' then return (hit, index + 1)
    let (low, last) ← literal? glob index
    let next := last + 1
    if isAt glob next '-' && next + 1 < glob.size && !isAt glob (next + 1) ']' then
      let (high, last) ← literal? glob (next + 1)
      members? glob byte fuel (last + 1) false (hit || (low ≤ byte && byte ≤ high))
    else members? glob byte fuel next false (hit || low == byte)

/-- Is the byte in the set that opens at the index?  Also the index after the set. -/
def set? (glob : Bytes) (byte : UInt8) (index : Nat) : Option (Bool × Nat) :=
  let negated := isAt glob (index + 1) '^' || isAt glob (index + 1) '!'
  let start := if negated then index + 2 else index + 1
  (members? glob byte (glob.size + 1) start true false).map fun (hit, next) =>
    (hit != negated, next)

/-! ## §4. Steps -/

/-- What a step of the search comes to. -/
inductive Step where
  /-- The search goes on. -/
  | next (search : Search)
  /-- Glob and path differ. -/
  | differ (search : Search)
  /-- The glob is malformed. -/
  | malformed
deriving DecidableEq, Repr

/-- The state after the stars at the glob's index, before slashes are looked at. -/
def passStars (glob path : Bytes) (state : State) : State :=
  let double := isAt glob (state.glob + 1) '*'
  let index := if double then lastStars glob state.glob else state.glob
  let wild : Mark := { glob := index, path := state.path + 1 }
  if !double then { state with glob := index + 1, wild }
  else
    let after := index + 2
    if after = glob.size then { state with glob := after, wild, star := wild }
    else if (after < 3 || isAt glob (after - 3) '/') && isAt glob after '/' then
      let atStart := state.path == 0 ||
        (state.path < path.size && isAt path (state.path - 1) '/')
      { state with glob := if atStart then after + 1 else after, wild, star := wild }
    else { state with glob := after, wild }

/-- A slash of the path stops a single star; a double star before it is returned to. -/
def stopAtSlash (path : Bytes) (state : State) : State :=
  if state.star.path ≠ state.wild.path ∧ isAt path state.path '/' then
    if 0 < state.star.path ∧ state.path + 1 < path.size then
      { state with glob := state.star.glob, wild := { state.wild with glob := state.star.glob } }
    else { state with wild := { state.wild with path := 0 } }
  else state

/-- The step at a star of the glob. -/
def starStep (glob path : Bytes) (search : Search) : Step :=
  let state := stopAtSlash path (passStars glob path search.state)
  let ends := isAt glob state.glob ',' || isAt glob state.glob '}'
  if !search.opened.isEmpty && ends then
    match skipFrom glob false state.glob with
    | .comma index | .brace index => .next { search with state := { state with glob := index } }
    | .unclosed => .malformed
  else .next { search with state }

/-- The step at a byte of the glob that stands for itself, or an escape. -/
def literalStep (glob path : Bytes) (search : Search) : Step :=
  match literal? glob search.state.glob with
  | none => .malformed
  | some (byte, index) =>
    let search := { search with state := { search.state with glob := index } }
    if path[search.state.path]? = some byte then
      let search :=
        if !search.opened.isEmpty && 0 < index && isAt glob (index - 1) '}' then
          { search with longest := search.state.path }.close
        else search
      let state := search.state
      let star := if byte.toNat = '/'.toNat then state.star else { state.star with path := 0 }
      .next { search with
        state := { state with glob := state.glob + 1, path := state.path + 1, star } }
    else .differ search

/-- The step at the next byte of the glob. -/
def globStep (glob path : Bytes) (search : Search) : Step :=
  let state := search.state
  let index := state.glob
  let furthest := max search.longest state.path
  if isAt glob index '*' then starStep glob path search
  else if isAt glob index '}' && !search.opened.isEmpty then
    .next { search with longest := furthest, state := { state with glob := index + 1 } }.close
  else match isAt glob index ',', search.opened with
    | true, outer :: _ =>
      .next { search with
        longest := furthest
        state := { glob := index + 1, path := outer.path } }
    | _, _ =>
      match path[state.path]? with
      | none => .differ search
      | some byte =>
        if isAt glob index '?' then
          if isAt path state.path '/' then .differ search
          else .next { search with
            state := { state with glob := index + 1, path := state.path + 1 } }
        else if isAt glob index '[' then
          match set? glob byte index with
          | none => .malformed
          | some (hit, next) =>
            let path := if hit then state.path + 1 else state.path
            let search := { search with state := { state with glob := next, path } }
            if hit then .next search else .differ search
        else if isAt glob index '{' then
          if maxOpened ≤ search.opened.length then .malformed
          else .next { search with
            opened := state :: search.opened
            state := { glob := index + 1, path := state.path } }
        else literalStep glob path search

/-- The search after glob and path differ: back to the last star, to the next alternative, or out of
    the braces. -/
def returnStep (glob path : Bytes) (search : Search) : Step :=
  match search.state.return? path, search.opened with
  | some state, _ => .next { search with state }
  | none, [] => .differ search
  | none, outer :: opened =>
    match skipFrom glob true search.state.glob with
    | .unclosed => .malformed
    | .comma index =>
      .next { search with state := { search.state with glob := index, path := outer.path } }
    | .brace index =>
      if 0 < search.longest then
        .next { search with state := { search.state with glob := index } }.close
      else
        match outer.return? path with
        | some state => .next { search with state, opened }
        | none => .differ search

/-! ## §5. Matching -/

/-- Runs the search to its end; `negated` globs answer the other way, unless malformed. -/
def run (glob path : Bytes) (negated : Bool) : (fuel : Nat) → Search → Bool
  | 0, _ => false
  | fuel + 1, search =>
    let state := search.state
    if glob.size ≤ state.glob ∧ path.size ≤ state.path then !negated
    else
      let step := if state.glob < glob.size then globStep glob path search else .differ search
      let step := match step with
        | .differ search => returnStep glob path search
        | step => step
      match step with
      | .next search => run glob path negated fuel search
      | .differ _ => negated
      | .malformed => false

/-- The number of exclamation marks at the start. -/
def bangs (glob : Bytes) : Nat :=
  (glob.toList.takeWhile (·.toNat == '!'.toNat)).length

/-- Does the glob match the path?  Within each brace that can be open a star passes over the path
    once, which bounds the fuel. -/
def isMatch (glob path : String) : Bool :=
  let glob := glob.toUTF8.data
  let path := path.toUTF8.data
  let marks := bangs glob
  run glob path (marks % 2 == 1) ((glob.size + 2) * Nat.pow (path.size + 2) (maxOpened + 2))
    { state := { glob := marks } }

end Reroute.Glob
