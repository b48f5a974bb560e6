/-
  Reroute.Pattern.Flags — the flags that change how a pattern is read.

  Flags are set for the rest of a group by `(?i)`, or for one group by `(?i:…)`; a hyphen clears
  the flags after it.
-/
import Reroute.CharSet
import Reroute.Pattern.Fault

namespace Reroute.Pattern

/-- One flag of a pattern. -/
inductive Flag where
  /-- Letters match both cases. -/
  | ignoreCase
  /-- The anchors hold at every line. -/
  | multiLine
  /-- The dot matches line ends. -/
  | dotAll
  /-- A carriage return ends a line too. -/
  | returnLines
  /-- Repetitions prefer few rounds, and marked ones many. -/
  | swapGreed
  /-- Classes are those of Unicode. -/
  | unicode
  /-- Blanks and comments are skipped. -/
  | extended
deriving DecidableEq, Repr

/-- The flag that a letter stands for. -/
def Flag.ofChar? : Char → Option Flag
  | 'i' => some ignoreCase
  | 'm' => some multiLine
  | 's' => some dotAll
  | 'R' => some returnLines
  | 'U' => some swapGreed
  | 'u' => some unicode
  | 'x' => some extended
  | _ => none

/-- The flags in force at a place of a pattern. -/
structure Flags where
  ignoreCase : Bool := false
  multiLine : Bool := false
  dotAll : Bool := false
  returnLines : Bool := false
  swapGreed : Bool := false
  unicode : Bool := true
  extended : Bool := false
deriving DecidableEq, Repr

namespace Flags

/-- The flags with one of them set or cleared. -/
def set (flags : Flags) : Flag → Bool → Flags
  | .ignoreCase, value => { flags with ignoreCase := value }
  | .multiLine, value => { flags with multiLine := value }
  | .dotAll, value => { flags with dotAll := value }
  | .returnLines, value => { flags with returnLines := value }
  | .swapGreed, value => { flags with swapGreed := value }
  | .unicode, value => { flags with unicode := value }
  | .extended, value => { flags with extended := value }

/-- The flags after a list of settings. -/
def setAll (flags : Flags) (settings : List (Flag × Bool)) : Flags :=
  settings.foldl (fun flags setting => flags.set setting.1 setting.2) flags

/-- The set with both cases of its letters, if case is ignored. -/
def fold (flags : Flags) (members : CharSet) : CharSet :=
  if !flags.ignoreCase then members
  else if flags.unicode then .foldCase members
  else .foldBasicCase members

/-- Settings up to the colon or parenthesis that ends them, and the text from there on.
    `seen` are the flags read so far, `negated` says that a hyphen has been read, `dangling`
    that nothing has followed it yet. -/
def readSettings : (seen : List Flag) → (negated dangling : Bool) → List Char →
    Except Fault (List (Flag × Bool) × List Char)
  | _, _, _, [] => .error .badFlags
  | seen, negated, dangling, c :: rest =>
    if c = ':' ∨ c = ')' then
      if dangling then .error .badFlags else .ok ([], c :: rest)
    else if c = '-' then
      if negated then .error .repeatedFlag else readSettings seen true true rest
    else match Flag.ofChar? c with
      | none => .error .badFlags
      | some flag =>
        if seen.contains flag then .error .repeatedFlag
        else do
          let (settings, rest) ← readSettings (flag :: seen) negated false rest
          return ((flag, !negated) :: settings, rest)

end Flags

/-! ## Blanks -/

/-- The text after leading blanks and comments. -/
def dropBlanks : (comment : Bool) → List Char → List Char
  | _, [] => []
  | comment, c :: rest =>
    if comment then dropBlanks (c != '\n') rest
    else if Unicode.isSpace c then dropBlanks false rest
    else if c = '#' then dropBlanks true rest
    else c :: rest

/-- The text after what is skipped between the parts of a pattern. -/
def Flags.skip (flags : Flags) (text : List Char) : List Char :=
  if flags.extended then dropBlanks false text else text

/-- The longest run of characters that pass the test, and what follows it.  Blanks and comments
    do not count if the pattern skips them. -/
def Flags.collect (flags : Flags) (keep : Char → Bool) : (comment : Bool) → List Char →
    List Char × List Char
  | _, [] => ([], [])
  | comment, c :: rest =>
    if comment then flags.collect keep (c != '\n') rest
    else if flags.extended && Unicode.isSpace c then flags.collect keep false rest
    else if flags.extended && c == '#' then flags.collect keep true rest
    else if keep c then
      let (run, rest) := flags.collect keep false rest
      (c :: run, rest)
    else ([], c :: rest)

end Reroute.Pattern
