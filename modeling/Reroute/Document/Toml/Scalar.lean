/-
  Reroute.Document.Toml.Scalar — numbers, truth values and dates in TOML.

  `isScalar` decides which texts without quotes are values.  Integers must fit into 128 bits, and
  floats may not be so large that they would round to infinity.
-/
import Reroute.Text.Digits

namespace Reroute.Document.Toml

open Reroute.Unicode (isBasicDigit)

/-! ## §1. Rows of digits -/

/-- Digits with single underscores between some of them. -/
def isDigitRow (isDigit : Char → Bool) : List Char → Bool
  | [] => false
  | [c] => isDigit c
  | c :: '_' :: rest => isDigit c && isDigitRow isDigit rest
  | c :: rest => isDigit c && isDigitRow isDigit rest

/-- A row of decimal digits that starts with a zero only if that is all of it. -/
def isWholeRow (digits : List Char) : Bool :=
  isDigitRow isBasicDigit digits && (digits == ['0'] || digits.head? != some '0')

/-- The number that a row of digits writes. -/
def rowValue (base : Nat) (digits : List Char) : Nat :=
  numberOf base (digits.filter (· != '_'))

/-- The sign at the start of a number, `true` for minus, and what follows. -/
def splitSign : List Char → Bool × List Char
  | '-' :: rest => (true, rest)
  | '+' :: rest => (false, rest)
  | text => (false, text)

/-! ## §2. Integers -/

/-- A digit below the given base of at most ten. -/
def isDigitBelow (base : Nat) (c : Char) : Bool :=
  isBasicDigit c && digitValue c < base

/-- A number without sign in another base, after the letter of that base. -/
def isBased (isDigit : Char → Bool) (base : Nat) (digits : List Char) : Bool :=
  isDigitRow isDigit digits && rowValue base digits < Nat.pow 2 128

/-- An integer. -/
def isInteger : List Char → Bool
  | '0' :: 'x' :: digits => isBased isHexDigit 16 digits
  | '0' :: 'o' :: digits => isBased (isDigitBelow 8) 8 digits
  | '0' :: 'b' :: digits => isBased (isDigitBelow 2) 2 digits
  | text =>
    let (negative, digits) := splitSign text
    isWholeRow digits &&
      (if negative then rowValue 10 digits ≤ Nat.pow 2 127
        else rowValue 10 digits < Nat.pow 2 128)

/-! ## §3. Floats -/

/-- The least number that rounds to infinity. -/
def floatLimit : Nat := Nat.pow 2 1024 - Nat.pow 2 970

/-- Is `mantissa * 10 ^ scale` below the least number that rounds to infinity?  Only numbers with as
    many digits as that one need to be compared. -/
def isFinite (mantissa : Nat) (scale : Int) : Bool :=
  let width := (Nat.toDigits 10 mantissa).length + scale
  if mantissa = 0 ∨ width ≤ 308 then true
  else if 309 < width then false
  else if 0 ≤ scale then mantissa * Nat.pow 10 scale.toNat < floatLimit
  else mantissa < floatLimit * Nat.pow 10 (-scale).toNat

/-- The digits of a number without sign: those before the point, those after it and those of the
    exponent with its sign, the latter two if they are there. -/
def floatParts (text : List Char) : List Char × Option (List Char) × Option (List Char) :=
  let (mantissa, exponent) := text.span fun c => c != 'e' && c != 'E'
  let (whole, fraction) := mantissa.span (· != '.')
  (whole, fraction.tail?, exponent.tail?)

/-- A number with a point, an exponent or both. -/
def isDecimal (text : List Char) : Bool :=
  let (whole, fraction, exponent) := floatParts text
  let (negative, digits) := splitSign (exponent.getD ['0'])
  let power : Int := if negative then -(rowValue 10 digits) else rowValue 10 digits
  let places := fraction.getD []
  isWholeRow whole && (fraction.isSome || exponent.isSome) &&
    (fraction.isNone || isDigitRow isBasicDigit places) && isDigitRow isBasicDigit digits &&
    isFinite (rowValue 10 (whole ++ places)) (power - (places.filter (· != '_')).length)

/-- A float. -/
def isFloat (text : List Char) : Bool :=
  let (_, digits) := splitSign text
  digits == ['i', 'n', 'f'] || digits == ['n', 'a', 'n'] || isDecimal digits

/-! ## §4. Dates and times -/

/-- The number in exactly so many digits at the start of a text, and what follows them. -/
def fixedNumber? (width : Nat) (text : List Char) : Option (Nat × List Char) :=
  let (digits, rest) := text.span isBasicDigit
  if digits.length = width then some (numberOf 10 digits, rest) else none

/-- The number of days of a month. -/
def daysOf (year month : Nat) : Nat :=
  if month = 2 then
    if year % 4 = 0 ∧ (year % 100 ≠ 0 ∨ year % 400 = 0) then 29 else 28
  else if month = 4 ∨ month = 6 ∨ month = 9 ∨ month = 11 then 30
  else 31

/-- The text after the given character. -/
def after? (c : Char) : List Char → Option (List Char)
  | d :: rest => if d = c then some rest else none
  | [] => none

/-- The text after a date. -/
def afterDate? (text : List Char) : Option (List Char) := do
  let (year, rest) ← fixedNumber? 4 text
  let (month, rest) ← fixedNumber? 2 (← after? '-' rest)
  let (day, rest) ← fixedNumber? 2 (← after? '-' rest)
  if 1 ≤ month ∧ month ≤ 12 ∧ 1 ≤ day ∧ day ≤ daysOf year month then some rest else none

/-- The text after hours and minutes. -/
def afterMinutes? (text : List Char) : Option (List Char) := do
  let (hour, rest) ← fixedNumber? 2 text
  let (minute, rest) ← fixedNumber? 2 (← after? ':' rest)
  if hour ≤ 23 ∧ minute ≤ 59 then some rest else none

/-- The text after seconds and their fraction. -/
def afterSeconds? (text : List Char) : Option (List Char) := do
  let (second, rest) ← fixedNumber? 2 text
  if 60 < second then none
  match rest with
  | '.' :: rest =>
    match rest.span isBasicDigit with
    | ([], _) => none
    | (_, rest) => some rest
  | rest => some rest

/-- The text after a time; seconds may be left out. -/
def afterTime? (text : List Char) : Option (List Char) := do
  match ← afterMinutes? text with
  | ':' :: rest => afterSeconds? rest
  | rest => some rest

/-- The distance of a time zone, or nothing. -/
def isOffset : List Char → Bool
  | [] => true
  | ['Z'] => true
  | ['z'] => true
  | '+' :: rest => afterMinutes? rest == some []
  | '-' :: rest => afterMinutes? rest == some []
  | _ => false

/-- May the character stand between a date and a time? -/
def isTimeMark (c : Char) : Bool :=
  c == 'T' || c == 't' || c == ' '

/-- A date, a time, or a date with a time and perhaps a time zone. -/
def isDateTime (text : List Char) : Bool :=
  match afterDate? text with
  | some [] => true
  | some (mark :: rest) =>
    isTimeMark mark && (match afterTime? rest with
      | some rest => isOffset rest
      | none => false)
  | none => afterTime? text == some []

/-! ## §5. Scalars -/

/-- A value that is written without quotes and brackets. -/
def isScalar (text : List Char) : Bool :=
  text == ['t', 'r', 'u', 'e'] || text == ['f', 'a', 'l', 's', 'e'] || isInteger text ||
    isFloat text || isDateTime text

end Reroute.Document.Toml
