/-
# RecordQuery.Regex.Property.Segment -- what characters do at the edges of segments

Text can be cut into what a reader takes for single characters, into words and into
sentences.  For each of the three, the Unicode standard gives every character a part
to play at the edges; the sets here are the characters that play one of these parts.
A character for which the standard names no part has no set.
-/
import RecordQuery.Regex.Property.Binary
import RecordQuery.Regex.Property.Script

namespace RecordQuery.Regex.Property

set_option autoImplicit false

namespace Segment

def carriageReturn : CharSet := .single '\r'

def lineFeed : CharSet := .single '\n'

def zeroWidthJoiner : CharSet := .ofCodes [0x200D]

def spacingMark : CharSet := .ofCategories [.mc]

/-- The characters of a script. -/
def scriptSet (name : String) : CharSet := (script? name).getD .none

/-- The signs that stand around a number or word to come. -/
def numberSign : CharSet := listed "prependedconcatenationmark"

/-- The tags that spell out the names of flags. -/
def tag : CharSet := .ofRanges [(0xE0020, 0xE007F)]

/-! ## Clusters -/

namespace Cluster

def extend : CharSet :=
  (CharSet.graphemeExtend.union (listed "emojimodifier")).diff zeroWidthJoiner

def prepended : CharSet :=
  (CharSet.ofText "
    D4E 111C2-111C3 113D1 1193F 11941 11A3A 11A84-11A89 11D46 11F02").union numberSign

def control : CharSet :=
  ((CharSet.ofCategories [.cn]).inter .defaultIgnorable).union
    ((CharSet.ofCategories [.zl, .zp, .cc, .cf]).diff
      (.unionAll [.ofText "A D 200C-200D", numberSign, extend]))

/-- Spacing marks that do not join what is before them. -/
def separateMark : CharSet :=
  .ofText "
    102B-102C 1038 1062-1064 1067-106D 1083 1087-108C 108F 109A-109C 1A61 1A63-1A64 AA7B AA7D
    11720-11721"

def spacing : CharSet :=
  (spacingMark.union (.ofText "E33 EB3")).diff (.unionAll [separateMark, prepended, extend])

def leading : CharSet := .ofText "1100-115F A960-A97C"

def vowel : CharSet := .ofText "1160-11A7 D7B0-D7C6 16D63 16D67-16D6A"

def trailing : CharSet := .ofText "11A8-11FF D7CB-D7FB"

def openSyllable : CharSet := .ofText "AC00-D788/1C"

def closedSyllable : CharSet := (CharSet.ofText "AC00-D7A3").diff openSyllable

end Cluster

/-- The characters that play a part in clusters. -/
def cluster? : String → Option CharSet
  | "control" | "cn" => some Cluster.control
  | "cr" => some carriageReturn
  | "extend" | "ex" => some Cluster.extend
  | "l" => some Cluster.leading
  | "lf" => some lineFeed
  | "lv" => some Cluster.openSyllable
  | "lvt" => some Cluster.closedSyllable
  | "prepend" | "pp" => some Cluster.prepended
  | "regionalindicator" | "ri" => listed? "regionalindicator"
  | "spacingmark" | "sm" => some Cluster.spacing
  | "t" => some Cluster.trailing
  | "v" => some Cluster.vowel
  | "zwj" => some zeroWidthJoiner
  | _ => none

/-! ## Words -/

namespace Word

def extend : CharSet :=
  (CharSet.unionAll [listed "emojimodifier", spacingMark, .graphemeExtend]).diff zeroWidthJoiner

def katakana : CharSet :=
  ((CharSet.ofText "3031-3035 309B-309C 30A0 30FC FF70").union (scriptSet "katakana")).diff extend

def hebrewLetter : CharSet := (scriptSet "hebrew").inter (.ofCategories [.lo])

/-- Signs that are letters of words without being alphabetic. -/
def letterSign : CharSet :=
  .ofText "
    2C2-2C5 2D2-2D7 2DE-2DF 2E5-2EB 2ED 2EF-2FF 55A-55C 55E 58A 5F3 70F A708-A716 A720-A721
    A789-A78A AB5B"

/-- Letters of scripts that do not show where words end. -/
def unspacedLetter : CharSet :=
  .ofText "
    E01-E30 E32-E33 E40-E46 E81-E82 E84 E86-E8A E8C-EA3 EA5 EA7-EB0 EB2-EB3 EBD EC0-EC4 EC6
    EDC-EDF 1000-102A 103F 1050-1055 105A-105D 1061 1065-1066 106E-1070 1075-1081 108E 1780-17B3
    17D7 17DC 1950-196D 1970-1974 1980-19AB 19B0-19C9 1A20-1A54 1AA7 A9E0-A9E4 A9E6-A9EF A9FA-A9FE
    AA60-AA76 AA7A AA7E-AAAF AAB1 AAB5-AAB6 AAB9-AABD AAC0 AAC2 AADB-AADD 11700-1171A 11740-11746"

def letter : CharSet :=
  (letterSign.union .alphabetic).diff
    (.unionAll [unspacedLetter, listed "ideographic", katakana, scriptSet "hiragana", hebrewLetter,
      extend])

def numeric : CharSet :=
  (CharSet.ofText "600-605 66B 6DD 890-891 8E2 110BD 110CD").union .digit

def format : CharSet :=
  (CharSet.ofCategories [.cf]).diff (.unionAll [.ofText "200B-200D", tag, numberSign])

def middleOfLetters : CharSet := .ofText "3A B7 387 55F 5F4 2027 FE13 FE55 FF1A"

def middleOfNumbers : CharSet :=
  .ofText "2C 3B 37E 589 60C-60D 66C 7F8 2044 FE10 FE14 FE50 FE54 FF0C FF1B"

def middleOfBoth : CharSet := .ofText "2E 2018-2019 2024 FE52 FF07 FF0E"

def connector : CharSet := .ofText "5F 202F 203F-2040 2054 FE33-FE34 FE4D-FE4F FF3F"

def newline : CharSet := .ofText "B-C 85 2028-2029"

def space : CharSet := .ofText "20 1680 2000-2006 2008-200A 205F 3000"

end Word

/-- The characters that play a part in words. -/
def word? : String → Option CharSet
  | "aletter" | "le" => some Word.letter
  | "cr" => some carriageReturn
  | "doublequote" | "dq" => some (.ofCodes [0x22])
  | "extend" => some Word.extend
  | "extendnumlet" | "ex" => some Word.connector
  | "format" | "fo" => some Word.format
  | "hebrewletter" | "hl" => some Word.hebrewLetter
  | "katakana" | "ka" => some Word.katakana
  | "lf" => some lineFeed
  | "midletter" | "ml" => some Word.middleOfLetters
  | "midnum" | "mn" => some Word.middleOfNumbers
  | "midnumlet" | "mb" => some Word.middleOfBoth
  | "newline" | "nl" => some Word.newline
  | "numeric" | "nu" => some Word.numeric
  | "regionalindicator" | "ri" => listed? "regionalindicator"
  | "singlequote" | "sq" => some (.ofCodes [0x27])
  | "wsegspace" => some Word.space
  | "zwj" => some zeroWidthJoiner
  | _ => none

/-! ## Sentences -/

namespace Sentence

def extend : CharSet := .unionAll [zeroWidthJoiner, spacingMark, .graphemeExtend]

def lower : CharSet := CharSet.lowercase.diff (.union (.ofText "10D0-10FA 10FD-10FF") .graphemeExtend)

def upper : CharSet :=
  ((CharSet.ofCategories [.lt]).union .uppercase).diff (.ofText "1C90-1CBA 1CBD-1CBF")

def otherLetter : CharSet :=
  ((CharSet.ofText "5F3").union .alphabetic).diff (.unionAll [lower, upper, extend])

def numeric : CharSet := (CharSet.ofText "66C").union Word.numeric

def ambiguousTerminal : CharSet := .ofText "2E 2024 FE52 FF0E"

def terminal : CharSet := (listed "sentenceterminal").diff ambiguousTerminal

def continuation : CharSet :=
  .ofText "
    2C-2D 3A-3B 37E 55D 60C-60D 7F8 1802 1808 2013-2014 3001 FE10-FE11 FE13-FE14 FE31-FE32
    FE50-FE51 FE54-FE55 FE58 FE63 FF0C-FF0D FF1A-FF1B FF64"

def close : CharSet :=
  (CharSet.ofText "22 27 275B-2760 2E00-2E01 2E06-2E08 2E0B 1F676-1F678").union
    (.ofCategories [.ps, .pe, .pf, .pi])

def separator : CharSet := .ofText "85 2028-2029"

def space : CharSet := CharSet.blank.diff (.unionAll [separator, carriageReturn, lineFeed])

def format : CharSet :=
  (CharSet.ofCategories [.cf]).diff
    (.unionAll [.ofText "200C-200D", tag, numberSign.diff (.ofText "70F")])

end Sentence

/-- The characters that play a part in sentences. -/
def sentence? : String → Option CharSet
  | "aterm" | "at" => some Sentence.ambiguousTerminal
  | "close" | "cl" => some Sentence.close
  | "cr" => some carriageReturn
  | "extend" | "ex" => some Sentence.extend
  | "format" | "fo" => some Sentence.format
  | "lf" => some lineFeed
  | "lower" | "lo" => some Sentence.lower
  | "numeric" | "nu" => some Sentence.numeric
  | "oletter" | "le" => some Sentence.otherLetter
  | "scontinue" | "sc" => some Sentence.continuation
  | "sep" | "se" => some Sentence.separator
  | "sp" => some Sentence.space
  | "sterm" | "st" => some Sentence.terminal
  | "upper" | "up" => some Sentence.upper
  | _ => none

end Segment

end RecordQuery.Regex.Property
