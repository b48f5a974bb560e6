/-
  Reroute.Template.Parser — reading a template from its text.

  `{1}` refers to a group by number, `{name}` by name, and `{root}` is the root prefix; `{{` and
  `}}` are literal braces, and any other brace is a fault.  `tokens` cuts the text into literal
  characters and references, `ofTokens` joins the characters to literals.
-/
import Reroute.Template.Printer
import Reroute.Text.Digits
import Reroute.Unicode.Derived

namespace Reroute.Template

/-! ## §1. Faults -/

/-- Why a text is not a template.  Offsets count the bytes before a brace. -/
inductive Fault where
  /-- A reference is not closed. -/
  | unclosed (offset : Nat)
  /-- A reference has nothing in its braces. -/
  | emptyReference (offset : Nat)
  /-- A brace closes nothing. -/
  | unmatched (offset : Nat)
  /-- The number of a group is too large. -/
  | indexOutOfRange (digits : String)
  /-- The text in braces is neither a number nor a name. -/
  | invalidReference (inner : String)
deriving DecidableEq, Repr

/-- The fault in words. -/
def Fault.message : Fault → String
  | unclosed offset => "unclosed '\x7b' at offset " ++ Nat.repr offset
  | emptyReference offset => "empty placeholder at offset " ++ Nat.repr offset
  | unmatched offset => "unmatched '\x7d' at offset " ++ Nat.repr offset
  | indexOutOfRange digits => "group index '" ++ digits ++ "' is out of range"
  | invalidReference inner => "invalid placeholder '\x7b" ++ inner ++ "\x7d'"

/-! ## §2. References -/

/-- The highest number that a group reference may have. -/
def maxIndex : Nat := 18446744073709551615

/-- Can the character stand in a reference by name? -/
def isNameChar (c : Char) : Bool :=
  Unicode.isAlphanumeric c || c == '_'

/-- The segment for the text in the braces of a reference that opens at the offset. -/
def referenceSegment (offset : Nat) (inner : List Char) : Except Fault Segment :=
  let text := String.ofList inner
  if inner.isEmpty then .error (.emptyReference offset)
  else if text = rootWord then .ok .rootPrefix
  else if inner.all Unicode.isBasicDigit then
    let index := numberOf 10 inner
    if index ≤ maxIndex then .ok (.group index) else .error (.indexOutOfRange text)
  else if inner.all isNameChar then .ok (.named text)
  else .error (.invalidReference text)

/-! ## §3. Tokens -/

/-- A literal character or a reference. -/
inductive Token where
  | char (c : Char)
  | reference (segment : Segment)
deriving DecidableEq, Repr

/-- The tokens of the text from the offset on.  Within a reference, `inside` has the offset of its
    brace and the text since then, the last character first. -/
def tokensFrom : (offset : Nat) → (inside : Option (Nat × List Char)) → List Char →
    Except Fault (List Token)
  | _, none, [] => .ok []
  | _, some (opened, _), [] => .error (.unclosed opened)
  | offset, some (opened, inner), c :: rest =>
    if c = '}' then do
      let segment ← referenceSegment opened inner.reverse
      let tokens ← tokensFrom (offset + 1) none rest
      return .reference segment :: tokens
    else tokensFrom (offset + c.utf8Size) (some (opened, c :: inner)) rest
  | offset, none, '{' :: '{' :: rest => do
    let tokens ← tokensFrom (offset + 2) none rest
    return .char '{' :: tokens
  | offset, none, '}' :: '}' :: rest => do
    let tokens ← tokensFrom (offset + 2) none rest
    return .char '}' :: tokens
  | offset, none, c :: rest =>
    if c = '{' then tokensFrom (offset + 1) (some (offset, [])) rest
    else if c = '}' then .error (.unmatched offset)
    else do
      let tokens ← tokensFrom (offset + c.utf8Size) none rest
      return .char c :: tokens

/-- The tokens of a text. -/
def tokens (text : List Char) : Except Fault (List Token) :=
  tokensFrom 0 none text

/-- The template with one more token at its end. -/
def pushToken (template : Template) : Token → Template
  | .char c => template.text (String.singleton c)
  | .reference segment => template.push segment

/-- The template that the tokens write, neighbouring characters being joined. -/
def ofTokens (tokens : List Token) : Template :=
  tokens.foldl pushToken .empty

/-- The template that a text writes. -/
def parse (source : String) : Except Fault Template := do
  return ofTokens (← tokens source.toList)

end Reroute.Template
