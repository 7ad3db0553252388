/-
# RecordQuery.Regex.Property.Name -- what properties are called

Names of properties and of their values are compared without regard to case, spaces,
underscores, hyphens and a leading "is".  Some properties have a name here only so
that a question about their values is known to be one about values.
-/

namespace RecordQuery.Regex.Property

set_option autoImplicit false

/-- The name has a leading "is", of small or capital letters. -/
def beginsWithIs (name : List Char) : Bool :=
  ['i', 's'].isPrefixOf (name.map Char.toLower)

/-- The name without what does not count.  A name that would be left as "c" is "isc". -/
def normalize (name : List Char) : String :=
  let stem := if beginsWithIs name then name.drop 2 else name
  let kept := (stem.filter fun c => c.toNat < 0x80 && !([' ', '_', '-'].contains c)).map Char.toLower
  if beginsWithIs name && kept == ['c'] then "isc" else String.ofList kept

/-- The names of properties that have no set of characters, neither alone nor with a value. -/
def namesWithoutSet : List String := [
  "bidiclass", "bc", "bidimirroringglyph", "bmg", "bidipairedbracket", "bpb",
  "bidipairedbrackettype", "bpt", "block", "blk", "canonicalcombiningclass", "ccc",
  "casefolding", "cf", "changeswhennfkccasefolded", "cwkcf", "compositionexclusion", "ce",
  "decompositionmapping", "dm", "decompositiontype", "dt", "eastasianwidth", "ea",
  "equivalentunifiedideograph", "equideo", "expandsonnfc", "xonfc", "expandsonnfd", "xonfd",
  "expandsonnfkc", "xonfkc", "expandsonnfkd", "xonfkd", "fcnfkcclosure", "fcnfkc",
  "fullcompositionexclusion", "compex", "hangulsyllabletype", "hst", "indicconjunctbreak", "incb",
  "indicpositionalcategory", "inpc", "indicsyllabiccategory", "insc", "isocomment", "isc",
  "jamoshortname", "jsn", "joininggroup", "jg", "joiningtype", "jt", "linebreak", "lb",
  "lowercasemapping", "lc", "name", "na", "namealias", "nfcquickcheck", "nfcqc", "nfdquickcheck",
  "nfdqc", "nfkccasefold", "nfkccf", "nfkcquickcheck", "nfkcqc", "nfkcsimplecasefold", "nfkcscf",
  "nfkdquickcheck", "nfkdqc", "numerictype", "nt", "numericvalue", "nv", "simplecasefolding",
  "scf", "sfc", "simplelowercasemapping", "slc", "simpletitlecasemapping", "stc",
  "simpleuppercasemapping", "suc", "titlecasemapping", "tc", "unicode1name", "na1",
  "unicoderadicalstroke", "cjkrsunicode", "krsunicode", "urs", "uppercasemapping", "uc",
  "verticalorientation", "vo",
  "cjkaccountingnumeric", "kaccountingnumeric", "cjkcompatibilityvariant", "kcompatibilityvariant",
  "cjkiicore", "kiicore", "cjkirggsource", "kirggsource", "cjkirghsource", "kirghsource",
  "cjkirgjsource", "kirgjsource", "cjkirgkpsource", "kirgkpsource", "cjkirgksource", "kirgksource",
  "cjkirgmsource", "kirgmsource", "cjkirgssource", "kirgssource", "cjkirgtsource", "kirgtsource",
  "cjkirguksource", "kirguksource", "cjkirgusource", "kirgusource", "cjkirgvsource", "kirgvsource",
  "cjkothernumeric", "kothernumeric", "cjkprimarynumeric", "kprimarynumeric"]

end RecordQuery.Regex.Property
