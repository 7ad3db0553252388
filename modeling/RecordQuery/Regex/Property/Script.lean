/-
# RecordQuery.Regex.Property.Script -- sets of characters by script

A script has the characters that are written with it alone.  Its extension has also
those that it shares with other scripts, and not those of its own characters that a
list of scripts says belong to others.
-/
import RecordQuery.Regex.Property.Category
import RecordQuery.Text.Script

namespace RecordQuery.Regex.Property

set_option autoImplicit false

/-- The names and the text of the script with this name, long or short. -/
def scriptNamed? (name : String) : Option (List String × String) :=
  Text.scripts.find? fun entry => entry.1.contains name

def script? (name : String) : Option CharSet :=
  (scriptNamed? name).map fun entry => .ofText entry.2

/-- What has a list of scripts. -/
def shared : CharSet := .unionAll (Text.scriptExtensions.map fun entry => .ofText entry.1)

/-- What has a list with a script of one of these names in it. -/
def sharedBy (names : List String) : CharSet :=
  .unionAll ((Text.scriptExtensions.filter fun entry => entry.2.any names.contains).map
    fun entry => .ofText entry.1)

def scriptExtension? (name : String) : Option CharSet :=
  (scriptNamed? name).map fun entry =>
    (sharedBy entry.1).union ((CharSet.ofText entry.2).diff shared)

/-- Some names are those of scripts that no character has. -/
def isEmptyScriptName (name : String) : Bool :=
  ["unknown", "zzzz", "katakanaorhiragana", "hrkt"].contains name

end RecordQuery.Regex.Property
