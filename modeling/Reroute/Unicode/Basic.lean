/-
  Reroute.Unicode.Basic — the basic Latin block.

  The letters, digits and word characters below U+0080, decided by comparison alone.
-/

namespace Reroute.Unicode

/-- Does the character lie in the basic Latin block? -/
def isBasic (c : Char) : Bool :=
  c.toNat < 0x80

/-- A letter `a` to `z` of either case. -/
def isBasicLetter (c : Char) : Bool :=
  ('a' ≤ c && c ≤ 'z') || ('A' ≤ c && c ≤ 'Z')

/-- A digit `0` to `9`. -/
def isBasicDigit (c : Char) : Bool :=
  '0' ≤ c && c ≤ '9'

/-- A letter, digit or underscore of the basic Latin block. -/
def isBasicWord (c : Char) : Bool :=
  isBasicLetter c || isBasicDigit c || c == '_'

/-- The other case of a basic Latin letter. -/
def swapBasicCase (c : Char) : Char :=
  if c ≤ 'Z' then Char.ofNat (c.toNat + 0x20) else Char.ofNat (c.toNat - 0x20)

end Reroute.Unicode
