/-
# RecordQuery.Text.Unprintable -- the characters with no visible form of their own

The control, format, private-use, unassigned, surrogate and separator characters,
and the letters that are drawn as nothing.  Of the separators only the space U+20 is
left out.
-/
import RecordQuery.Text.Category

namespace RecordQuery.Text

set_option autoImplicit false

/-- The categories without a visible form. -/
def invisibleCategories : List Category := [.cc, .cf, .cs, .co, .cn, .zs, .zl, .zp]

/-- The Hangul fillers, which stand for a syllable's missing part. -/
def fillers : List Char := ['\u115f', '\u1160', '\u3164', '\uffa0']

def isUnprintable (c : Char) : Bool :=
  c != ' ' && (generalCategory c ∈ invisibleCategories || fillers.contains c)

end RecordQuery.Text
