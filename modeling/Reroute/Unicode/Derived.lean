/-
  Reroute.Unicode.Derived — the character classes that the program itself asks for.

  Letters, numbers, word characters, digits and white space, each as a decision on one character.
  The basic Latin block is decided without a table; `isAlphanumeric` is the class of placeholder
  and variable names, `isWord` that of word boundaries.
-/
import Reroute.Unicode.Basic
import Reroute.Unicode.Category
import Reroute.Unicode.Contributory

namespace Reroute.Unicode

/-- Is the code point in one of the tables? -/
def inTables (tables : List Ranges) (code : Nat) : Bool :=
  tables.any (·.covers code)

/-! ## §1. Letters and numbers -/

/-- The tables whose union is the property Alphabetic. -/
def alphabeticTables : List Ranges :=
  [Category.uppercaseLetter, Category.lowercaseLetter, Category.titlecaseLetter,
    Category.modifierLetter, Category.otherLetter, Category.letterNumber,
    Contributory.otherLowercase, Contributory.otherUppercase, Contributory.otherAlphabetic]

/-- The tables of the numbers of every kind. -/
def numericTables : List Ranges :=
  [Category.decimalNumber, Category.letterNumber, Category.otherNumber]

/-- Has the character the property Alphabetic? -/
def isAlphabetic (c : Char) : Bool :=
  if isBasic c then isBasicLetter c else inTables alphabeticTables c.toNat

/-- Is the character a number of any kind? -/
def isNumeric (c : Char) : Bool :=
  if isBasic c then isBasicDigit c else inTables numericTables c.toNat

/-- A letter or a number. -/
def isAlphanumeric (c : Char) : Bool :=
  isAlphabetic c || isNumeric c

/-! ## §2. Words, digits and white space -/

/-- The tables that make up word characters beside the alphabetic ones. -/
def wordTables : List Ranges :=
  [Category.nonspacingMark, Category.spacingMark, Category.enclosingMark,
    Category.decimalNumber, Category.connectorPunctuation, Contributory.joinControl]

/-- Is the character part of a word? -/
def isWord (c : Char) : Bool :=
  if isBasic c then isBasicWord c
  else inTables alphabeticTables c.toNat || inTables wordTables c.toNat

/-- Is the character a decimal digit of any script? -/
def isDigit (c : Char) : Bool :=
  if isBasic c then isBasicDigit c else Category.decimalNumber.covers c.toNat

/-- Is the character white space? -/
def isSpace (c : Char) : Bool :=
  if isBasic c then c == ' ' || ('\t' ≤ c && c ≤ '\r')
  else Contributory.whiteSpace.covers c.toNat

end Reroute.Unicode
