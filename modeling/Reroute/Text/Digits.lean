/-
  Reroute.Text.Digits — numbers and code points written in digits.
-/
import Reroute.Unicode.Basic

namespace Reroute

open Reroute.Unicode (isBasicDigit)

/-- Is the character a hexadecimal digit? -/
def isHexDigit (c : Char) : Bool :=
  isBasicDigit c || ('a' ≤ c && c ≤ 'f') || ('A' ≤ c && c ≤ 'F')

/-- The value of a digit, of either case of the letters `a` to `f` as well. -/
def digitValue (c : Char) : Nat :=
  if '0' ≤ c ∧ c ≤ '9' then c.toNat - '0'.toNat
  else if 'a' ≤ c ∧ c ≤ 'f' then c.toNat - 'a'.toNat + 10
  else if 'A' ≤ c ∧ c ≤ 'F' then c.toNat - 'A'.toNat + 10
  else 0

/-- The number that a row of digits writes in the given base. -/
def numberOf (base : Nat) (digits : List Char) : Nat :=
  digits.foldl (fun value c => value * base + digitValue c) 0

/-- The character with the given code point, unless that is half of a surrogate pair or beyond the
    last one. -/
def charOfCode? (code : Nat) : Option Char :=
  if code < 0xD800 ∨ (0xDFFF < code ∧ code < 0x110000) then some (Char.ofNat code) else none

/-- The character with the code point that a row of hexadecimal digits writes. -/
def charOfDigits? (digits : List Char) : Option Char :=
  if digits.isEmpty || !digits.all isHexDigit then none else charOfCode? (numberOf 16 digits)

end Reroute
