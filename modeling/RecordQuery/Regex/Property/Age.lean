/-
# RecordQuery.Regex.Property.Age -- sets of characters by age

The age of a code point is the version of the Unicode standard that assigned it.  A
set by age has all that was assigned up to a version.
-/
import RecordQuery.Regex.Property.Category
import RecordQuery.Text.Decimal

namespace RecordQuery.Regex.Property

set_option autoImplicit false

/-- The names of a version: `6.1`, or `v61` for the two numbers side by side. -/
def versionNames (major minor : Nat) : List String :=
  let major := Text.ofInt major
  let minor := Text.ofInt minor
  [major ++ "." ++ minor, "v" ++ major ++ minor]

/-- The ages up to the one with this name; none if there is no such age. -/
def agesUpTo? (name : String) : List (Nat × Nat × String) → Option (List String)
  | [] => none
  | (major, minor, codes) :: rest =>
    if (versionNames major minor).contains name then some [codes]
    else (agesUpTo? name rest).map (codes :: ·)

def age? (name : String) : Option CharSet :=
  (agesUpTo? name Text.ages).map fun texts => .unionAll (texts.map CharSet.ofText)

end RecordQuery.Regex.Property
