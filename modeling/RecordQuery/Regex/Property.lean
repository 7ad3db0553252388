/-
# RecordQuery.Regex.Property -- sets of characters by the names of their properties

A set is asked for by the name of a binary property, of a general category or of a
script, or by the name of a property and that of a value.  `ofDescription` reads what
stands between the braces of such a question.
-/
import RecordQuery.Regex.Fault
import RecordQuery.Regex.Property.Age
import RecordQuery.Regex.Property.Name
import RecordQuery.Regex.Property.Segment

namespace RecordQuery.Regex

set_option autoImplicit false

namespace Property

/-- The properties that have values with a set each. -/
inductive Valued where
  | age
  | category
  | cluster
  | script
  | scriptExtension
  | sentence
  | word
deriving DecidableEq

namespace Valued

def ofName? : String → Option Valued
  | "age" => some .age
  | "generalcategory" | "gc" => some .category
  | "graphemeclusterbreak" | "gcb" => some .cluster
  | "script" | "sc" => some .script
  | "scriptextensions" | "scx" => some .scriptExtension
  | "sentencebreak" | "sb" => some .sentence
  | "wordbreak" | "wb" => some .word
  | _ => none

/-- The set of the value with a name. -/
def set? : Valued → String → Option CharSet
  | .age => age?
  | .category => category?
  | .cluster => Segment.cluster?
  | .script => script?
  | .scriptExtension => scriptExtension?
  | .sentence => Segment.sentence?
  | .word => Segment.word?

end Valued

/-- Names of categories that are those of other properties as well; alone they mean the
categories. -/
def isCategoryFirst (name : String) : Bool := ["cf", "lc", "sc"].contains name

/-- A property is called so, be it one with a set or not. -/
def isPropertyName (name : String) : Bool :=
  (binary? name).isSome || (Valued.ofName? name).isSome || namesWithoutSet.contains name

/-- The set called by a name. -/
def ofName (name : List Char) : Except Problem CharSet :=
  let name := normalize name
  if isPropertyName name && !isCategoryFirst name then
    match binary? name with
    | some s => .ok s
    | none => .error .propertyUnknown
  else
    match (category? name).or (script? name) with
    | some s => .ok s
    | none =>
      if isSurrogateName name || isEmptyScriptName name then .error .propertyValueUnknown
      else .error .propertyUnknown

/-- The set called by the name of a property and that of a value. -/
def ofNameAndValue (name value : List Char) : Except Problem CharSet :=
  let name := normalize name
  match Valued.ofName? name with
  | some property =>
    match property.set? (normalize value) with
    | some s => .ok s
    | none => .error .propertyValueUnknown
  | none => .error (if isPropertyName name then .propertyValueUnknown else .propertyUnknown)

/-- Splits a text before the first place where a mark stands and behind the mark. -/
def splitAt? (mark : List Char) : List Char → Option (List Char × List Char)
  | [] => none
  | c :: rest =>
    if mark.isPrefixOf (c :: rest) then some ([], (c :: rest).drop mark.length)
    else (splitAt? mark rest).map fun (front, back) => (c :: front, back)

/-- The set that is described between braces, and whether the complement is meant. -/
def ofDescription (t : List Char) : Except Problem CharSet × Bool :=
  match splitAt? ['!', '='] t with
  | some (name, value) => (ofNameAndValue name value, true)
  | none =>
    match (splitAt? [':'] t).or (splitAt? ['='] t) with
    | some (name, value) => (ofNameAndValue name value, false)
    | none => (ofName t, false)

end Property

end RecordQuery.Regex
