/-
# RecordQuery.Regex.Property.Category -- sets of characters by general category

The general categories of version 16.0 of the Unicode standard, alone and in groups,
with their names.  They are those of `Text.generalCategory` but for the code points
that were assigned later and one letter whose category was another then.
-/
import RecordQuery.Regex.CharSet
import RecordQuery.Text.Age
import RecordQuery.Text.Category
import RecordQuery.Text.CodePoints

namespace RecordQuery

set_option autoImplicit false

open Text (Category)

namespace CharSet

/-- The set that a text of ranges gives. -/
def ofText (t : String) : CharSet := ofRanges (Text.codePoints t)

/-- The code points that were assigned after version 16.0. -/
def later : CharSet := ofText Text.laterCodePoints

/-- The letters of the runs in which capital and small letters alternate. -/
def pairLetters (capital : Bool) : List Nat :=
  Text.letterPairs.flatMap fun (first, last) =>
    (List.range (last + 1 - first)).filterMap fun k =>
      if (k % 2 == 0) == capital then some (first + k) else Option.none

/-- The ranges of the tables whose category is one of these. -/
def tableRanges (cs : List Category) : List CodeRange :=
  Text.categoryTables.flatMap fun (_, table) =>
    table.filterMap fun (first, last, c) => if cs.contains c then some (first, last) else Option.none

/-- The code points of these categories, of which `cn` has none here. -/
def tabulated (cs : List Category) : CharSet :=
  unionAll [
    if cs.contains .lu then ofCodes (pairLetters true) else none,
    if cs.contains .ll then ofCodes (pairLetters false) else none,
    ofRanges (tableRanges cs)]

def assigned : CharSet := ((tabulated [.lu, .ll, .lt, .lm, .lo, .mn, .mc, .me, .nd, .nl, .no, .pc,
  .pd, .ps, .pe, .pi, .pf, .po, .sm, .sc, .sk, .so, .zs, .zl, .zp, .cc, .cf, .cs, .co]).diff later)

/-- The letter that was a small letter up to version 16.0 and is none since. -/
def formerSmallLetter : CharSet := single 'ʕ'

/-- The code points of these categories. -/
def ofCategories (cs : List Category) : CharSet :=
  let s := ((tabulated cs).diff later).diff formerSmallLetter
  unionAll [
    if cs.contains .ll then formerSmallLetter else none,
    if cs.contains .cn then assigned.compl else none,
    s]

end CharSet

namespace Regex.Property

/-- The categories and groups of categories with their names. -/
def categoryNames : List (List String × List Category) := [
  (["c", "other"], [.cc, .cf, .cs, .co, .cn]),
  (["cc", "cntrl", "control"], [.cc]),
  (["cf", "format"], [.cf]),
  (["cn", "unassigned"], [.cn]),
  (["co", "privateuse"], [.co]),
  (["l", "letter"], [.lu, .ll, .lt, .lm, .lo]),
  (["lc", "casedletter"], [.lu, .ll, .lt]),
  (["ll", "lowercaseletter"], [.ll]),
  (["lm", "modifierletter"], [.lm]),
  (["lo", "otherletter"], [.lo]),
  (["lt", "titlecaseletter"], [.lt]),
  (["lu", "uppercaseletter"], [.lu]),
  (["m", "mark", "combiningmark"], [.mn, .mc, .me]),
  (["mc", "spacingmark"], [.mc]),
  (["me", "enclosingmark"], [.me]),
  (["mn", "nonspacingmark"], [.mn]),
  (["n", "number"], [.nd, .nl, .no]),
  (["nd", "digit", "decimalnumber"], [.nd]),
  (["nl", "letternumber"], [.nl]),
  (["no", "othernumber"], [.no]),
  (["p", "punct", "punctuation"], [.pc, .pd, .ps, .pe, .pi, .pf, .po]),
  (["pc", "connectorpunctuation"], [.pc]),
  (["pd", "dashpunctuation"], [.pd]),
  (["pe", "closepunctuation"], [.pe]),
  (["pf", "finalpunctuation"], [.pf]),
  (["pi", "initialpunctuation"], [.pi]),
  (["po", "otherpunctuation"], [.po]),
  (["ps", "openpunctuation"], [.ps]),
  (["s", "symbol"], [.sm, .sc, .sk, .so]),
  (["sc", "currencysymbol"], [.sc]),
  (["sk", "modifiersymbol"], [.sk]),
  (["sm", "mathsymbol"], [.sm]),
  (["so", "othersymbol"], [.so]),
  (["z", "separator"], [.zs, .zl, .zp]),
  (["zl", "lineseparator"], [.zl]),
  (["zp", "paragraphseparator"], [.zp]),
  (["zs", "spaceseparator"], [.zs])]

/-- The set called by the name of a category, a group of them or one of three wider classes. -/
def category? (name : String) : Option CharSet :=
  match name with
  | "any" => some .all
  | "ascii" => some .ascii
  | "assigned" => some .assigned
  | _ => (categoryNames.find? fun entry => entry.1.contains name).map fun entry =>
      .ofCategories entry.2

/-- Surrogates have a category of their own, but no character is in it. -/
def isSurrogateName (name : String) : Bool := name == "cs" || name == "surrogate"

end Regex.Property

end RecordQuery
