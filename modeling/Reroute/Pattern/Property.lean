/-
  Reroute.Pattern.Property — the character properties that a pattern can name.

  `Property.ofName?` answers `\p{name}`, `Property.ofValue?` answers `\p{name=value}`.  Names are
  compared loosely: case, blanks, hyphens, underscores and a leading `is` do not count.  A bare
  name is tried as a binary property, then as a general category, then as a script.
-/
import Reroute.CharSet
import Reroute.Unicode.Script

namespace Reroute.Pattern.Property

open Reroute.Unicode

/-! ## §1. Loose names -/

/-- The characters of a name that count, in lower case. -/
def significant (name : List Char) : List Char :=
  (name.filter fun c => c.toNat < 0x80 && c != ' ' && c != '_' && c != '-').map Char.toLower

/-- A name in the form in which names are compared.  A leading `is` is dropped, except in the
    abbreviation `isc`. -/
def looseName (name : List Char) : String :=
  let startsWithIs : Bool := (name.take 2).map Char.toLower == ['i', 's']
  let kept := significant (if startsWithIs then name.drop 2 else name)
  if startsWithIs && kept == ['c'] then "isc" else String.ofList kept

/-- Do the two spellings agree as loose names? -/
def sameName (listed : String) (asked : String) : Bool :=
  looseName listed.toList == asked

/-- The entry one of whose names is the one asked for. -/
def lookup? (entries : List (List String × CharSet)) (asked : String) : Option CharSet :=
  (entries.find? fun entry => entry.1.any (sameName · asked)).map (·.2)

/-! ## §2. General categories -/

/-- The letters with a case distinction. -/
def casedLetters : List Ranges :=
  [Category.uppercaseLetter, Category.lowercaseLetter, Category.titlecaseLetter]

/-- Letters of every kind. -/
def letters : List Ranges :=
  casedLetters ++ [Category.modifierLetter, Category.otherLetter]

/-- Marks of every kind. -/
def marks : List Ranges :=
  [Category.nonspacingMark, Category.spacingMark, Category.enclosingMark]

/-- Punctuation of every kind. -/
def punctuation : List Ranges :=
  [Category.connectorPunctuation, Category.dashPunctuation, Category.openPunctuation,
    Category.closePunctuation, Category.initialPunctuation, Category.finalPunctuation,
    Category.otherPunctuation]

/-- Symbols of every kind. -/
def symbols : List Ranges :=
  [Category.mathSymbol, Category.currencySymbol, Category.modifierSymbol, Category.otherSymbol]

/-- Separators of every kind. -/
def separators : List Ranges :=
  [Category.spaceSeparator, Category.lineSeparator, Category.paragraphSeparator]

/-- Control, format, private and unassigned characters. -/
def others : List Ranges :=
  [Category.control, Category.format, Category.privateUse, Category.unassigned]

/-- The general categories and their groups, with their names. -/
def categories : List (List String × CharSet) := [
  (["Any"], .any),
  (["Assigned"], .compl (.table Category.unassigned)),
  (["ASCII"], .span (Char.ofNat 0) (Char.ofNat 0x7F)),
  (["L", "Letter"], .ofTables letters),
  (["LC", "Cased_Letter"], .ofTables casedLetters),
  (["Lu", "Uppercase_Letter"], .table Category.uppercaseLetter),
  (["Ll", "Lowercase_Letter"], .table Category.lowercaseLetter),
  (["Lt", "Titlecase_Letter"], .table Category.titlecaseLetter),
  (["Lm", "Modifier_Letter"], .table Category.modifierLetter),
  (["Lo", "Other_Letter"], .table Category.otherLetter),
  (["M", "Mark", "Combining_Mark"], .ofTables marks),
  (["Mn", "Nonspacing_Mark"], .table Category.nonspacingMark),
  (["Mc", "Spacing_Mark"], .table Category.spacingMark),
  (["Me", "Enclosing_Mark"], .table Category.enclosingMark),
  (["N", "Number"], .ofTables numericTables),
  (["Nd", "Decimal_Number", "Digit"], .digit),
  (["Nl", "Letter_Number"], .table Category.letterNumber),
  (["No", "Other_Number"], .table Category.otherNumber),
  (["P", "Punctuation", "Punct"], .ofTables punctuation),
  (["Pc", "Connector_Punctuation"], .table Category.connectorPunctuation),
  (["Pd", "Dash_Punctuation"], .table Category.dashPunctuation),
  (["Ps", "Open_Punctuation"], .table Category.openPunctuation),
  (["Pe", "Close_Punctuation"], .table Category.closePunctuation),
  (["Pi", "Initial_Punctuation"], .table Category.initialPunctuation),
  (["Pf", "Final_Punctuation"], .table Category.finalPunctuation),
  (["Po", "Other_Punctuation"], .table Category.otherPunctuation),
  (["S", "Symbol"], .ofTables symbols),
  (["Sm", "Math_Symbol"], .table Category.mathSymbol),
  (["Sc", "Currency_Symbol"], .table Category.currencySymbol),
  (["Sk", "Modifier_Symbol"], .table Category.modifierSymbol),
  (["So", "Other_Symbol"], .table Category.otherSymbol),
  (["Z", "Separator"], .ofTables separators),
  (["Zs", "Space_Separator"], .table Category.spaceSeparator),
  (["Zl", "Line_Separator"], .table Category.lineSeparator),
  (["Zp", "Paragraph_Separator"], .table Category.paragraphSeparator),
  (["C", "Other"], .ofTables others),
  (["Cc", "Control", "Cntrl"], .table Category.control),
  (["Cf", "Format"], .table Category.format),
  (["Cs", "Surrogate"], .none),
  (["Co", "Private_Use"], .table Category.privateUse),
  (["Cn", "Unassigned"], .table Category.unassigned)]

/-! ## §3. Derived binary properties -/

/-- Small letters and what counts as such. -/
def lowercase : List Ranges := [Category.lowercaseLetter, Contributory.otherLowercase]

/-- Capital letters and what counts as such. -/
def uppercase : List Ranges := [Category.uppercaseLetter, Contributory.otherUppercase]

/-- Characters with a case. -/
def cased : List Ranges := lowercase ++ uppercase ++ [Category.titlecaseLetter]

/-- Characters that case mapping looks through. -/
def caseIgnorable : List Ranges :=
  [Category.nonspacingMark, Category.enclosingMark, Category.format, Category.modifierLetter,
    Category.modifierSymbol, Contributory.caseIgnorablePunctuation]

/-- Characters reserved for the syntax of patterns and programs. -/
def patternReserved : CharSet :=
  .ofTables [Contributory.patternSyntax, Contributory.patternWhiteSpace]

/-- Characters that may start an identifier. -/
def idStart : CharSet :=
  .diff (.ofTables (letters ++ [Category.letterNumber, Contributory.otherIdStart])) patternReserved

/-- Characters that may continue an identifier. -/
def idContinue : CharSet :=
  .diff (.union idStart (.ofTables [Category.nonspacingMark, Category.spacingMark,
    Category.decimalNumber, Category.connectorPunctuation, Contributory.otherIdContinue]))
    patternReserved

/-- Characters that extend a grapheme cluster. -/
def graphemeExtend : List Ranges :=
  [Category.enclosingMark, Category.nonspacingMark, Contributory.otherGraphemeExtend]

/-- Characters that start a grapheme cluster. -/
def graphemeBase : CharSet :=
  .compl (.ofTables (others ++ [Category.lineSeparator, Category.paragraphSeparator] ++
    graphemeExtend))

/-! ## §4. Binary properties -/

/-- The binary properties, with their names. -/
def binary : List (List String × CharSet) := [
  (["Alpha", "Alphabetic"], .ofTables alphabeticTables),
  (["AHex", "ASCII_Hex_Digit"], .table Contributory.asciiHexDigit),
  (["Bidi_C", "Bidi_Control"], .table Contributory.bidiControl),
  (["Bidi_M", "Bidi_Mirrored"], .table Contributory.bidiMirrored),
  (["CI", "Case_Ignorable"], .ofTables caseIgnorable),
  (["Cased"], .ofTables cased),
  (["CWCF", "Changes_When_Casefolded"], .table Contributory.changesWhenCasefolded),
  (["CWCM", "Changes_When_Casemapped"], .ofTables [Contributory.changesWhenLowercased,
    Contributory.changesWhenUppercased, Contributory.changesWhenTitlecased]),
  (["CWL", "Changes_When_Lowercased"], .table Contributory.changesWhenLowercased),
  (["CWT", "Changes_When_Titlecased"], .table Contributory.changesWhenTitlecased),
  (["CWU", "Changes_When_Uppercased"], .table Contributory.changesWhenUppercased),
  (["Dash"], .table Contributory.dash),
  (["DI", "Default_Ignorable_Code_Point"], .table Contributory.defaultIgnorableCodePoint),
  (["Dep", "Deprecated"], .table Contributory.deprecated),
  (["Dia", "Diacritic"], .table Contributory.diacritic),
  (["Emoji"], .table Contributory.emoji),
  (["EComp", "Emoji_Component"], .table Contributory.emojiComponent),
  (["EMod", "Emoji_Modifier"], .table Contributory.emojiModifier),
  (["EBase", "Emoji_Modifier_Base"], .table Contributory.emojiModifierBase),
  (["EPres", "Emoji_Presentation"], .table Contributory.emojiPresentation),
  (["ExtPict", "Extended_Pictographic"], .table Contributory.extendedPictographic),
  (["Ext", "Extender"], .table Contributory.extender),
  (["Gr_Base", "Grapheme_Base"], graphemeBase),
  (["Gr_Ext", "Grapheme_Extend"], .ofTables graphemeExtend),
  (["Hex", "Hex_Digit"], .table Contributory.hexDigit),
  (["Hyphen"], .table Contributory.hyphen),
  (["IDSB", "IDS_Binary_Operator"], .table Contributory.idsBinaryOperator),
  (["IDST", "IDS_Trinary_Operator"], .table Contributory.idsTrinaryOperator),
  (["IDSU", "IDS_Unary_Operator"], .table Contributory.idsUnaryOperator),
  (["ID_Compat_Math_Continue"], .table Contributory.idCompatMathContinue),
  (["ID_Compat_Math_Start"], .table Contributory.idCompatMathStart),
  (["IDC", "ID_Continue"], idContinue),
  (["IDS", "ID_Start"], idStart),
  (["Ideo", "Ideographic"], .table Contributory.ideographic),
  (["Join_C", "Join_Control"], .table Contributory.joinControl),
  (["LOE", "Logical_Order_Exception"], .table Contributory.logicalOrderException),
  (["Lower", "Lowercase"], .ofTables lowercase),
  (["Math"], .ofTables [Category.mathSymbol, Contributory.otherMath]),
  (["MCM", "Modifier_Combining_Mark"], .table Contributory.modifierCombiningMark),
  (["NChar", "Noncharacter_Code_Point"], .table Contributory.noncharacterCodePoint),
  (["OAlpha", "Other_Alphabetic"], .table Contributory.otherAlphabetic),
  (["ODI", "Other_Default_Ignorable_Code_Point"],
    .table Contributory.otherDefaultIgnorableCodePoint),
  (["OGr_Ext", "Other_Grapheme_Extend"], .table Contributory.otherGraphemeExtend),
  (["OIDC", "Other_ID_Continue"], .table Contributory.otherIdContinue),
  (["OIDS", "Other_ID_Start"], .table Contributory.otherIdStart),
  (["OLower", "Other_Lowercase"], .table Contributory.otherLowercase),
  (["OMath", "Other_Math"], .table Contributory.otherMath),
  (["OUpper", "Other_Uppercase"], .table Contributory.otherUppercase),
  (["Pat_Syn", "Pattern_Syntax"], .table Contributory.patternSyntax),
  (["Pat_WS", "Pattern_White_Space"], .table Contributory.patternWhiteSpace),
  (["PCM", "Prepended_Concatenation_Mark"], .table Contributory.prependedConcatenationMark),
  (["QMark", "Quotation_Mark"], .table Contributory.quotationMark),
  (["Radical"], .table Contributory.radical),
  (["RI", "Regional_Indicator"], .table Contributory.regionalIndicator),
  (["STerm", "Sentence_Terminal"], .table Contributory.sentenceTerminal),
  (["SD", "Soft_Dotted"], .table Contributory.softDotted),
  (["Term", "Terminal_Punctuation"], .table Contributory.terminalPunctuation),
  (["UIdeo", "Unified_Ideograph"], .table Contributory.unifiedIdeograph),
  (["Upper", "Uppercase"], .ofTables uppercase),
  (["VS", "Variation_Selector"], .table Contributory.variationSelector),
  (["WSpace", "White_Space", "space"], .space),
  (["XIDC", "XID_Continue"],
    .diff idContinue (.table Contributory.compatContinueExcluded)),
  (["XIDS", "XID_Start"], .diff idStart (.table Contributory.compatStartExcluded))]

/-! ## §5. Scripts -/

/-- The script with the name or code asked for. -/
def script? (asked : String) : Option Script :=
  Script.all.find? fun s => (s.code :: s.names).any (sameName · asked)

/-- The characters used with a script: those that belong to it alone, and the shared ones that
    list it. -/
def withExtensions (s : Script) : CharSet :=
  .union (.diff (.table s.members) (.ofTables (SharedScripts.all.map (·.members))))
    (.ofTables ((SharedScripts.all.filter (·.codes.contains s.code)).map (·.members)))

/-! ## §6. Look-up -/

/-- Abbreviations of categories that are also names of properties without members. -/
def categoryFirst : List String := ["cf", "sc", "lc"]

/-- The set that a bare property name stands for. -/
def ofName? (name : List Char) : Option CharSet :=
  let asked := looseName name
  let asBinary := if categoryFirst.contains asked then none else lookup? binary asked
  asBinary <|> lookup? categories asked <|> (script? asked).map (.table ·.members)

/-- The set that `name=value` stands for. -/
def ofValue? (name value : List Char) : Option CharSet :=
  let property := looseName name
  let asked := looseName value
  if ["gc", "generalcategory"].contains property then lookup? categories asked
  else if ["sc", "script"].contains property then (script? asked).map (.table ·.members)
  else if ["scx", "scriptextensions"].contains property then (script? asked).map withExtensions
  else none

end Reroute.Pattern.Property
