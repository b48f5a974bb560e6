/-
  Reroute.Pattern.Fault — what can be wrong with the text of a pattern.
-/

namespace Reroute.Pattern

/-- Why a text is not a pattern. -/
inductive Fault where
  /-- A group is not closed. -/
  | unclosedGroup
  /-- A parenthesis closes no group. -/
  | unopenedGroup
  /-- A repetition operator has nothing to repeat. -/
  | nothingToRepeat
  /-- A counted repetition is not closed. -/
  | unclosedCount
  /-- A count is missing, or is too large. -/
  | badCount
  /-- The bounds of a counted repetition are out of order. -/
  | countsOutOfOrder
  /-- Look-around is not supported. -/
  | lookAround
  /-- References back to a group are not supported. -/
  | backreference
  /-- The pattern ends within an escape. -/
  | unfinishedEscape
  /-- No escape of this letter exists. -/
  | unknownEscape (letter : Char)
  /-- A hexadecimal escape that gives no character. -/
  | badCodePoint
  /-- No property with this name exists. -/
  | unknownProperty
  /-- No word boundary with this name exists, or its name is not closed. -/
  | unknownBoundary
  /-- A character class is not closed. -/
  | unclosedClass
  /-- The ends of a character range are out of order. -/
  | rangeOutOfOrder
  /-- An end of a character range is not a character. -/
  | rangeOfClass
  /-- An assertion stands in a character class. -/
  | assertionInClass
  /-- A group name is empty, not closed or has a character that names may not have. -/
  | badGroupName
  /-- Two groups have one name. -/
  | repeatedGroupName (name : String)
  /-- No flag with this letter exists, or the list of flags is not closed. -/
  | badFlags
  /-- A flag or the negation sign occurs twice in one list of flags. -/
  | repeatedFlag
  /-- A set or a dot would match part of a character. -/
  | partOfCharacter
  /-- The pattern nests deeper than the limit. -/
  | tooNested (limit : Nat)
deriving DecidableEq, Repr

/-- The fault in words. -/
def Fault.message : Fault → String
  | unclosedGroup => "unclosed group"
  | unopenedGroup => "unopened group"
  | nothingToRepeat => "repetition operator missing expression"
  | unclosedCount => "unclosed counted repetition"
  | badCount => "repetition quantifier expects a valid decimal"
  | countsOutOfOrder => "the start of a repetition range must not exceed its end"
  | lookAround => "look-around is not supported"
  | backreference => "backreferences are not supported"
  | unfinishedEscape => "incomplete escape sequence"
  | unknownEscape letter => "unrecognized escape sequence '\\" ++ letter.toString ++ "'"
  | badCodePoint => "hexadecimal literal is not a Unicode scalar value"
  | unknownProperty => "Unicode property not found"
  | unknownBoundary => "unrecognized special word boundary assertion"
  | unclosedClass => "unclosed character class"
  | rangeOutOfOrder => "the start of a character range must not exceed its end"
  | rangeOfClass => "a character range needs a character at each end"
  | assertionInClass => "an assertion cannot stand in a character class"
  | badGroupName => "invalid capture group name"
  | repeatedGroupName name => "duplicate capture group name '" ++ name ++ "'"
  | badFlags => "invalid flags"
  | repeatedFlag => "duplicate flag"
  | partOfCharacter => "pattern can match invalid UTF-8"
  | tooNested limit =>
    "exceeds the maximum number of nested parentheses and brackets (" ++ toString limit ++ ")"

end Reroute.Pattern
