/-
# RecordQuery.Regex.Property.Binary -- properties that a character has or has not

Most binary properties are listed in `Text.propertyTable`; the others are made from
general categories, listed properties and a few more characters, as the Unicode
standard derives them.
-/
import RecordQuery.Regex.Property.Category
import RecordQuery.Text.Property

namespace RecordQuery

set_option autoImplicit false

open Text (Category)

namespace Regex.Property

/-- The set of a property in the table. -/
def listed? (name : String) : Option CharSet :=
  (Text.propertyTable.find? fun entry => entry.1.contains name).map fun entry => .ofText entry.2

/-- The set of a property in the table; what is not in the table has no characters. -/
def listed (name : String) : CharSet := (listed? name).getD .none

end Regex.Property

namespace CharSet

open Regex.Property (listed)

def letter : CharSet := ofCategories [.lu, .ll, .lt, .lm, .lo]

def digit : CharSet := ofCategories [.nd]

def lowercase : CharSet := (ofCategories [.ll]).union (listed "otherlowercase")

def uppercase : CharSet := (ofCategories [.lu]).union (listed "otheruppercase")

def cased : CharSet := unionAll [ofCategories [.lt], lowercase, uppercase]

def alphabetic : CharSet := unionAll [letter, ofCategories [.nl], listed "otheralphabetic"]

def mathematical : CharSet := (ofCategories [.sm]).union (listed "othermath")

def caseIgnorable : CharSet :=
  (ofText Text.wordMiddles).union (ofCategories [.mn, .me, .cf, .lm, .sk])

def graphemeExtend : CharSet := (ofCategories [.mn, .me]).union (listed "othergraphemeextend")

def graphemeBase : CharSet :=
  ((ofCategories [.cc, .cf, .cs, .co, .cn, .zl, .zp]).union graphemeExtend).compl

/-- What a pattern may use as a sign or as a blank. -/
def patternCharacter : CharSet := (listed "patternsyntax").union (listed "patternwhitespace")

def identifierStart : CharSet :=
  (unionAll [listed "otheridstart", letter, ofCategories [.nl]]).diff patternCharacter

def identifierContinue : CharSet :=
  (unionAll [listed "otheridcontinue", ofCategories [.mn, .mc, .nd, .pc], identifierStart]).diff
    patternCharacter

/-- What begins an identifier before and after compatibility normalization. -/
def stableStart : CharSet := identifierStart.diff (ofText Text.unstableStarts)

/-- What continues an identifier before and after compatibility normalization. -/
def stableContinue : CharSet := identifierContinue.diff (ofText Text.unstableContinuations)

/-- Format characters that are seen: the marks of annotations and the joiners of hieroglyphs. -/
def visibleFormat : CharSet := ofRanges [(0xFFF9, 0xFFFB), (0x13430, 0x13440)]

def defaultIgnorable : CharSet :=
  (unionAll [listed "otherdefaultignorablecodepoint", listed "variationselector",
    ofCategories [.cf]]).diff
    (unionAll [blank, visibleFormat, listed "prependedconcatenationmark"])

def changesWhenLowercased : CharSet := listed "changeswhenlowercased"

def changesWhenUppercased : CharSet := listed "changeswhenuppercased"

def changesWhenTitlecased : CharSet :=
  (ofText Text.titlecasedOnly).union (changesWhenUppercased.diff (ofText Text.uppercasedOnly))

def changesWhenCasefolded : CharSet :=
  (ofText Text.casefoldedOnly).union (changesWhenLowercased.diff (ofText Text.lowercasedOnly))

def changesWhenCasemapped : CharSet :=
  unionAll [changesWhenLowercased, changesWhenTitlecased, changesWhenUppercased]

/-- What words are made of: letters with their marks, decimal digits, connectors and joiners. -/
def word : CharSet :=
  unionAll [listed "joincontrol", ofCategories [.mn, .mc, .me, .nd, .pc], alphabetic]

end CharSet

namespace Regex.Property

/-- The set of a property that is made from others. -/
def derived? : String → Option CharSet
  | "alphabetic" | "alpha" => some .alphabetic
  | "lowercase" | "lower" => some .lowercase
  | "uppercase" | "upper" => some .uppercase
  | "cased" => some .cased
  | "caseignorable" | "ci" => some .caseIgnorable
  | "math" => some .mathematical
  | "graphemeextend" | "grext" => some .graphemeExtend
  | "graphemebase" | "grbase" => some .graphemeBase
  | "idstart" | "ids" => some .identifierStart
  | "idcontinue" | "idc" => some .identifierContinue
  | "xidstart" | "xids" => some .stableStart
  | "xidcontinue" | "xidc" => some .stableContinue
  | "defaultignorablecodepoint" | "di" => some .defaultIgnorable
  | "changeswhentitlecased" | "cwt" => some .changesWhenTitlecased
  | "changeswhencasefolded" | "cwcf" => some .changesWhenCasefolded
  | "changeswhencasemapped" | "cwcm" => some .changesWhenCasemapped
  | "whitespace" | "wspace" | "space" => some .blank
  | _ => none

/-- The set of a binary property by either of its names. -/
def binary? (name : String) : Option CharSet := (derived? name).or (listed? name)

end Regex.Property

end RecordQuery
