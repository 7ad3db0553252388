/-
# RecordQuery.Text.Category -- the general categories of characters

Every character has one of the general categories of the Unicode standard, here
under their two-letter names; a code point that no character has been assigned to is
`cn`.  The tables hold the assigned ranges in increasing order, except that the long
stretches in which capital and small letters alternate are listed on their own.
`generalCategory` reads them.
-/

namespace RecordQuery.Text

set_option autoImplicit false

/-- The general categories, by the standard's two-letter names. -/
inductive Category where
  | lu | ll | lt | lm | lo
  | mn | mc | me
  | nd | nl | no
  | pc | pd | ps | pe | pi | pf | po
  | sm | sc | sk | so
  | zs | zl | zp
  | cc | cf | cs | co | cn
deriving DecidableEq

/-- Runs of capital and small letters in turn, beginning with a capital. -/
def letterPairs : List (Nat × Nat) := [
  (0x100, 0x136), (0x139, 0x147), (0x14A, 0x177), (0x17B, 0x17D), (0x184, 0x185), (0x1A2, 0x1A5),
  (0x1AC, 0x1AD), (0x1B5, 0x1B6), (0x1CD, 0x1DB), (0x1DE, 0x1EE), (0x1F4, 0x1F5), (0x1FA, 0x232),
  (0x241, 0x242), (0x248, 0x24E), (0x370, 0x373), (0x376, 0x377), (0x3D8, 0x3EE), (0x3F4, 0x3F5),
  (0x3F7, 0x3F8), (0x460, 0x481), (0x48A, 0x4BF), (0x4C3, 0x4CD), (0x4D0, 0x52F), (0x1C89, 0x1C8A),
  (0x1E00, 0x1E94), (0x1E9E, 0x1EFE), (0x2183, 0x2184), (0x2C60, 0x2C61), (0x2C67, 0x2C6C),
  (0x2C82, 0x2CE2), (0x2CEB, 0x2CEE), (0x2CF2, 0x2CF3), (0xA640, 0xA66D), (0xA680, 0xA69B),
  (0xA722, 0xA72E), (0xA732, 0xA76F), (0xA779, 0xA77C), (0xA780, 0xA787), (0xA78B, 0xA78E),
  (0xA790, 0xA792), (0xA796, 0xA7A9), (0xA7B6, 0xA7C3), (0xA7C9, 0xA7CA), (0xA7CE, 0xA7DC),
  (0xA7F5, 0xA7F6), (0x1D7CA, 0x1D7CB)]

/-- Ranges from U+0 to U+5C6. -/
def categoriesFrom0 : List (Nat × Nat × Category) := [
  (0x0, 0x1F, .cc), (0x20, 0x20, .zs), (0x21, 0x23, .po), (0x24, 0x24, .sc), (0x25, 0x27, .po),
  (0x28, 0x28, .ps), (0x29, 0x29, .pe), (0x2A, 0x2A, .po), (0x2B, 0x2B, .sm), (0x2C, 0x2C, .po),
  (0x2D, 0x2D, .pd), (0x2E, 0x2F, .po), (0x30, 0x39, .nd), (0x3A, 0x3B, .po), (0x3C, 0x3E, .sm),
  (0x3F, 0x40, .po), (0x41, 0x5A, .lu), (0x5B, 0x5B, .ps), (0x5C, 0x5C, .po), (0x5D, 0x5D, .pe),
  (0x5E, 0x5E, .sk), (0x5F, 0x5F, .pc), (0x60, 0x60, .sk), (0x61, 0x7A, .ll), (0x7B, 0x7B, .ps),
  (0x7C, 0x7C, .sm), (0x7D, 0x7D, .pe), (0x7E, 0x7E, .sm), (0x7F, 0x9F, .cc), (0xA0, 0xA0, .zs),
  (0xA1, 0xA1, .po), (0xA2, 0xA5, .sc), (0xA6, 0xA6, .so), (0xA7, 0xA7, .po), (0xA8, 0xA8, .sk),
  (0xA9, 0xA9, .so), (0xAA, 0xAA, .lo), (0xAB, 0xAB, .pi), (0xAC, 0xAC, .sm), (0xAD, 0xAD, .cf),
  (0xAE, 0xAE, .so), (0xAF, 0xAF, .sk), (0xB0, 0xB0, .so), (0xB1, 0xB1, .sm), (0xB2, 0xB3, .no),
  (0xB4, 0xB4, .sk), (0xB5, 0xB5, .ll), (0xB6, 0xB7, .po), (0xB8, 0xB8, .sk), (0xB9, 0xB9, .no),
  (0xBA, 0xBA, .lo), (0xBB, 0xBB, .pf), (0xBC, 0xBE, .no), (0xBF, 0xBF, .po), (0xC0, 0xD6, .lu),
  (0xD7, 0xD7, .sm), (0xD8, 0xDE, .lu), (0xDF, 0xF6, .ll), (0xF7, 0xF7, .sm), (0xF8, 0xFF, .ll),
  (0x137, 0x138, .ll), (0x148, 0x149, .ll), (0x178, 0x179, .lu), (0x17A, 0x17A, .ll),
  (0x17E, 0x180, .ll), (0x181, 0x182, .lu), (0x183, 0x183, .ll), (0x186, 0x187, .lu),
  (0x188, 0x188, .ll), (0x189, 0x18B, .lu), (0x18C, 0x18D, .ll), (0x18E, 0x191, .lu),
  (0x192, 0x192, .ll), (0x193, 0x194, .lu), (0x195, 0x195, .ll), (0x196, 0x198, .lu),
  (0x199, 0x19B, .ll), (0x19C, 0x19D, .lu), (0x19E, 0x19E, .ll), (0x19F, 0x1A0, .lu),
  (0x1A1, 0x1A1, .ll), (0x1A6, 0x1A7, .lu), (0x1A8, 0x1A8, .ll), (0x1A9, 0x1A9, .lu),
  (0x1AA, 0x1AB, .ll), (0x1AE, 0x1AF, .lu), (0x1B0, 0x1B0, .ll), (0x1B1, 0x1B3, .lu),
  (0x1B4, 0x1B4, .ll), (0x1B7, 0x1B8, .lu), (0x1B9, 0x1BA, .ll), (0x1BB, 0x1BB, .lo),
  (0x1BC, 0x1BC, .lu), (0x1BD, 0x1BF, .ll), (0x1C0, 0x1C3, .lo), (0x1C4, 0x1C4, .lu),
  (0x1C5, 0x1C5, .lt), (0x1C6, 0x1C6, .ll), (0x1C7, 0x1C7, .lu), (0x1C8, 0x1C8, .lt),
  (0x1C9, 0x1C9, .ll), (0x1CA, 0x1CA, .lu), (0x1CB, 0x1CB, .lt), (0x1CC, 0x1CC, .ll),
  (0x1DC, 0x1DD, .ll), (0x1EF, 0x1F0, .ll), (0x1F1, 0x1F1, .lu), (0x1F2, 0x1F2, .lt),
  (0x1F3, 0x1F3, .ll), (0x1F6, 0x1F8, .lu), (0x1F9, 0x1F9, .ll), (0x233, 0x239, .ll),
  (0x23A, 0x23B, .lu), (0x23C, 0x23C, .ll), (0x23D, 0x23E, .lu), (0x23F, 0x240, .ll),
  (0x243, 0x246, .lu), (0x247, 0x247, .ll), (0x24F, 0x293, .ll), (0x294, 0x295, .lo),
  (0x296, 0x2AF, .ll), (0x2B0, 0x2C1, .lm), (0x2C2, 0x2C5, .sk), (0x2C6, 0x2D1, .lm),
  (0x2D2, 0x2DF, .sk), (0x2E0, 0x2E4, .lm), (0x2E5, 0x2EB, .sk), (0x2EC, 0x2EC, .lm),
  (0x2ED, 0x2ED, .sk), (0x2EE, 0x2EE, .lm), (0x2EF, 0x2FF, .sk), (0x300, 0x36F, .mn),
  (0x374, 0x374, .lm), (0x375, 0x375, .sk), (0x37A, 0x37A, .lm), (0x37B, 0x37D, .ll),
  (0x37E, 0x37E, .po), (0x37F, 0x37F, .lu), (0x384, 0x385, .sk), (0x386, 0x386, .lu),
  (0x387, 0x387, .po), (0x388, 0x38A, .lu), (0x38C, 0x38C, .lu), (0x38E, 0x38F, .lu),
  (0x390, 0x390, .ll), (0x391, 0x3A1, .lu), (0x3A3, 0x3AB, .lu), (0x3AC, 0x3CE, .ll),
  (0x3CF, 0x3CF, .lu), (0x3D0, 0x3D1, .ll), (0x3D2, 0x3D4, .lu), (0x3D5, 0x3D7, .ll),
  (0x3EF, 0x3F3, .ll), (0x3F6, 0x3F6, .sm), (0x3F9, 0x3FA, .lu), (0x3FB, 0x3FC, .ll),
  (0x3FD, 0x42F, .lu), (0x430, 0x45F, .ll), (0x482, 0x482, .so), (0x483, 0x487, .mn),
  (0x488, 0x489, .me), (0x4C0, 0x4C1, .lu), (0x4C2, 0x4C2, .ll), (0x4CE, 0x4CF, .ll),
  (0x531, 0x556, .lu), (0x559, 0x559, .lm), (0x55A, 0x55F, .po), (0x560, 0x588, .ll),
  (0x589, 0x589, .po), (0x58A, 0x58A, .pd), (0x58D, 0x58E, .so), (0x58F, 0x58F, .sc),
  (0x591, 0x5BD, .mn), (0x5BE, 0x5BE, .pd), (0x5BF, 0x5BF, .mn), (0x5C0, 0x5C0, .po),
  (0x5C1, 0x5C2, .mn), (0x5C3, 0x5C3, .po), (0x5C4, 0x5C5, .mn), (0x5C6, 0x5C6, .po)]

/-- Ranges from U+5C7 to U+B30. -/
def categoriesFrom5C7 : List (Nat × Nat × Category) := [
  (0x5C7, 0x5C7, .mn), (0x5D0, 0x5EA, .lo), (0x5EF, 0x5F2, .lo), (0x5F3, 0x5F4, .po),
  (0x600, 0x605, .cf), (0x606, 0x608, .sm), (0x609, 0x60A, .po), (0x60B, 0x60B, .sc),
  (0x60C, 0x60D, .po), (0x60E, 0x60F, .so), (0x610, 0x61A, .mn), (0x61B, 0x61B, .po),
  (0x61C, 0x61C, .cf), (0x61D, 0x61F, .po), (0x620, 0x63F, .lo), (0x640, 0x640, .lm),
  (0x641, 0x64A, .lo), (0x64B, 0x65F, .mn), (0x660, 0x669, .nd), (0x66A, 0x66D, .po),
  (0x66E, 0x66F, .lo), (0x670, 0x670, .mn), (0x671, 0x6D3, .lo), (0x6D4, 0x6D4, .po),
  (0x6D5, 0x6D5, .lo), (0x6D6, 0x6DC, .mn), (0x6DD, 0x6DD, .cf), (0x6DE, 0x6DE, .so),
  (0x6DF, 0x6E4, .mn), (0x6E5, 0x6E6, .lm), (0x6E7, 0x6E8, .mn), (0x6E9, 0x6E9, .so),
  (0x6EA, 0x6ED, .mn), (0x6EE, 0x6EF, .lo), (0x6F0, 0x6F9, .nd), (0x6FA, 0x6FC, .lo),
  (0x6FD, 0x6FE, .so), (0x6FF, 0x6FF, .lo), (0x700, 0x70D, .po), (0x70F, 0x70F, .cf),
  (0x710, 0x710, .lo), (0x711, 0x711, .mn), (0x712, 0x72F, .lo), (0x730, 0x74A, .mn),
  (0x74D, 0x7A5, .lo), (0x7A6, 0x7B0, .mn), (0x7B1, 0x7B1, .lo), (0x7C0, 0x7C9, .nd),
  (0x7CA, 0x7EA, .lo), (0x7EB, 0x7F3, .mn), (0x7F4, 0x7F5, .lm), (0x7F6, 0x7F6, .so),
  (0x7F7, 0x7F9, .po), (0x7FA, 0x7FA, .lm), (0x7FD, 0x7FD, .mn), (0x7FE, 0x7FF, .sc),
  (0x800, 0x815, .lo), (0x816, 0x819, .mn), (0x81A, 0x81A, .lm), (0x81B, 0x823, .mn),
  (0x824, 0x824, .lm), (0x825, 0x827, .mn), (0x828, 0x828, .lm), (0x829, 0x82D, .mn),
  (0x830, 0x83E, .po), (0x840, 0x858, .lo), (0x859, 0x85B, .mn), (0x85E, 0x85E, .po),
  (0x860, 0x86A, .lo), (0x870, 0x887, .lo), (0x888, 0x888, .sk), (0x889, 0x88F, .lo),
  (0x890, 0x891, .cf), (0x897, 0x89F, .mn), (0x8A0, 0x8C8, .lo), (0x8C9, 0x8C9, .lm),
  (0x8CA, 0x8E1, .mn), (0x8E2, 0x8E2, .cf), (0x8E3, 0x902, .mn), (0x903, 0x903, .mc),
  (0x904, 0x939, .lo), (0x93A, 0x93A, .mn), (0x93B, 0x93B, .mc), (0x93C, 0x93C, .mn),
  (0x93D, 0x93D, .lo), (0x93E, 0x940, .mc), (0x941, 0x948, .mn), (0x949, 0x94C, .mc),
  (0x94D, 0x94D, .mn), (0x94E, 0x94F, .mc), (0x950, 0x950, .lo), (0x951, 0x957, .mn),
  (0x958, 0x961, .lo), (0x962, 0x963, .mn), (0x964, 0x965, .po), (0x966, 0x96F, .nd),
  (0x970, 0x970, .po), (0x971, 0x971, .lm), (0x972, 0x980, .lo), (0x981, 0x981, .mn),
  (0x982, 0x983, .mc), (0x985, 0x98C, .lo), (0x98F, 0x990, .lo), (0x993, 0x9A8, .lo),
  (0x9AA, 0x9B0, .lo), (0x9B2, 0x9B2, .lo), (0x9B6, 0x9B9, .lo), (0x9BC, 0x9BC, .mn),
  (0x9BD, 0x9BD, .lo), (0x9BE, 0x9C0, .mc), (0x9C1, 0x9C4, .mn), (0x9C7, 0x9C8, .mc),
  (0x9CB, 0x9CC, .mc), (0x9CD, 0x9CD, .mn), (0x9CE, 0x9CE, .lo), (0x9D7, 0x9D7, .mc),
  (0x9DC, 0x9DD, .lo), (0x9DF, 0x9E1, .lo), (0x9E2, 0x9E3, .mn), (0x9E6, 0x9EF, .nd),
  (0x9F0, 0x9F1, .lo), (0x9F2, 0x9F3, .sc), (0x9F4, 0x9F9, .no), (0x9FA, 0x9FA, .so),
  (0x9FB, 0x9FB, .sc), (0x9FC, 0x9FC, .lo), (0x9FD, 0x9FD, .po), (0x9FE, 0x9FE, .mn),
  (0xA01, 0xA02, .mn), (0xA03, 0xA03, .mc), (0xA05, 0xA0A, .lo), (0xA0F, 0xA10, .lo),
  (0xA13, 0xA28, .lo), (0xA2A, 0xA30, .lo), (0xA32, 0xA33, .lo), (0xA35, 0xA36, .lo),
  (0xA38, 0xA39, .lo), (0xA3C, 0xA3C, .mn), (0xA3E, 0xA40, .mc), (0xA41, 0xA42, .mn),
  (0xA47, 0xA48, .mn), (0xA4B, 0xA4D, .mn), (0xA51, 0xA51, .mn), (0xA59, 0xA5C, .lo),
  (0xA5E, 0xA5E, .lo), (0xA66, 0xA6F, .nd), (0xA70, 0xA71, .mn), (0xA72, 0xA74, .lo),
  (0xA75, 0xA75, .mn), (0xA76, 0xA76, .po), (0xA81, 0xA82, .mn), (0xA83, 0xA83, .mc),
  (0xA85, 0xA8D, .lo), (0xA8F, 0xA91, .lo), (0xA93, 0xAA8, .lo), (0xAAA, 0xAB0, .lo),
  (0xAB2, 0xAB3, .lo), (0xAB5, 0xAB9, .lo), (0xABC, 0xABC, .mn), (0xABD, 0xABD, .lo),
  (0xABE, 0xAC0, .mc), (0xAC1, 0xAC5, .mn), (0xAC7, 0xAC8, .mn), (0xAC9, 0xAC9, .mc),
  (0xACB, 0xACC, .mc), (0xACD, 0xACD, .mn), (0xAD0, 0xAD0, .lo), (0xAE0, 0xAE1, .lo),
  (0xAE2, 0xAE3, .mn), (0xAE6, 0xAEF, .nd), (0xAF0, 0xAF0, .po), (0xAF1, 0xAF1, .sc),
  (0xAF9, 0xAF9, .lo), (0xAFA, 0xAFF, .mn), (0xB01, 0xB01, .mn), (0xB02, 0xB03, .mc),
  (0xB05, 0xB0C, .lo), (0xB0F, 0xB10, .lo), (0xB13, 0xB28, .lo), (0xB2A, 0xB30, .lo)]

/-- Ranges from U+B32 to U+F7F. -/
def categoriesFromB32 : List (Nat × Nat × Category) := [
  (0xB32, 0xB33, .lo), (0xB35, 0xB39, .lo), (0xB3C, 0xB3C, .mn), (0xB3D, 0xB3D, .lo),
  (0xB3E, 0xB3E, .mc), (0xB3F, 0xB3F, .mn), (0xB40, 0xB40, .mc), (0xB41, 0xB44, .mn),
  (0xB47, 0xB48, .mc), (0xB4B, 0xB4C, .mc), (0xB4D, 0xB4D, .mn), (0xB55, 0xB56, .mn),
  (0xB57, 0xB57, .mc), (0xB5C, 0xB5D, .lo), (0xB5F, 0xB61, .lo), (0xB62, 0xB63, .mn),
  (0xB66, 0xB6F, .nd), (0xB70, 0xB70, .so), (0xB71, 0xB71, .lo), (0xB72, 0xB77, .no),
  (0xB82, 0xB82, .mn), (0xB83, 0xB83, .lo), (0xB85, 0xB8A, .lo), (0xB8E, 0xB90, .lo),
  (0xB92, 0xB95, .lo), (0xB99, 0xB9A, .lo), (0xB9C, 0xB9C, .lo), (0xB9E, 0xB9F, .lo),
  (0xBA3, 0xBA4, .lo), (0xBA8, 0xBAA, .lo), (0xBAE, 0xBB9, .lo), (0xBBE, 0xBBF, .mc),
  (0xBC0, 0xBC0, .mn), (0xBC1, 0xBC2, .mc), (0xBC6, 0xBC8, .mc), (0xBCA, 0xBCC, .mc),
  (0xBCD, 0xBCD, .mn), (0xBD0, 0xBD0, .lo), (0xBD7, 0xBD7, .mc), (0xBE6, 0xBEF, .nd),
  (0xBF0, 0xBF2, .no), (0xBF3, 0xBF8, .so), (0xBF9, 0xBF9, .sc), (0xBFA, 0xBFA, .so),
  (0xC00, 0xC00, .mn), (0xC01, 0xC03, .mc), (0xC04, 0xC04, .mn), (0xC05, 0xC0C, .lo),
  (0xC0E, 0xC10, .lo), (0xC12, 0xC28, .lo), (0xC2A, 0xC39, .lo), (0xC3C, 0xC3C, .mn),
  (0xC3D, 0xC3D, .lo), (0xC3E, 0xC40, .mn), (0xC41, 0xC44, .mc), (0xC46, 0xC48, .mn),
  (0xC4A, 0xC4D, .mn), (0xC55, 0xC56, .mn), (0xC58, 0xC5A, .lo), (0xC5C, 0xC5D, .lo),
  (0xC60, 0xC61, .lo), (0xC62, 0xC63, .mn), (0xC66, 0xC6F, .nd), (0xC77, 0xC77, .po),
  (0xC78, 0xC7E, .no), (0xC7F, 0xC7F, .so), (0xC80, 0xC80, .lo), (0xC81, 0xC81, .mn),
  (0xC82, 0xC83, .mc), (0xC84, 0xC84, .po), (0xC85, 0xC8C, .lo), (0xC8E, 0xC90, .lo),
  (0xC92, 0xCA8, .lo), (0xCAA, 0xCB3, .lo), (0xCB5, 0xCB9, .lo), (0xCBC, 0xCBC, .mn),
  (0xCBD, 0xCBD, .lo), (0xCBE, 0xCBE, .mc), (0xCBF, 0xCBF, .mn), (0xCC0, 0xCC4, .mc),
  (0xCC6, 0xCC6, .mn), (0xCC7, 0xCC8, .mc), (0xCCA, 0xCCB, .mc), (0xCCC, 0xCCD, .mn),
  (0xCD5, 0xCD6, .mc), (0xCDC, 0xCDE, .lo), (0xCE0, 0xCE1, .lo), (0xCE2, 0xCE3, .mn),
  (0xCE6, 0xCEF, .nd), (0xCF1, 0xCF2, .lo), (0xCF3, 0xCF3, .mc), (0xD00, 0xD01, .mn),
  (0xD02, 0xD03, .mc), (0xD04, 0xD0C, .lo), (0xD0E, 0xD10, .lo), (0xD12, 0xD3A, .lo),
  (0xD3B, 0xD3C, .mn), (0xD3D, 0xD3D, .lo), (0xD3E, 0xD40, .mc), (0xD41, 0xD44, .mn),
  (0xD46, 0xD48, .mc), (0xD4A, 0xD4C, .mc), (0xD4D, 0xD4D, .mn), (0xD4E, 0xD4E, .lo),
  (0xD4F, 0xD4F, .so), (0xD54, 0xD56, .lo), (0xD57, 0xD57, .mc), (0xD58, 0xD5E, .no),
  (0xD5F, 0xD61, .lo), (0xD62, 0xD63, .mn), (0xD66, 0xD6F, .nd), (0xD70, 0xD78, .no),
  (0xD79, 0xD79, .so), (0xD7A, 0xD7F, .lo), (0xD81, 0xD81, .mn), (0xD82, 0xD83, .mc),
  (0xD85, 0xD96, .lo), (0xD9A, 0xDB1, .lo), (0xDB3, 0xDBB, .lo), (0xDBD, 0xDBD, .lo),
  (0xDC0, 0xDC6, .lo), (0xDCA, 0xDCA, .mn), (0xDCF, 0xDD1, .mc), (0xDD2, 0xDD4, .mn),
  (0xDD6, 0xDD6, .mn), (0xDD8, 0xDDF, .mc), (0xDE6, 0xDEF, .nd), (0xDF2, 0xDF3, .mc),
  (0xDF4, 0xDF4, .po), (0xE01, 0xE30, .lo), (0xE31, 0xE31, .mn), (0xE32, 0xE33, .lo),
  (0xE34, 0xE3A, .mn), (0xE3F, 0xE3F, .sc), (0xE40, 0xE45, .lo), (0xE46, 0xE46, .lm),
  (0xE47, 0xE4E, .mn), (0xE4F, 0xE4F, .po), (0xE50, 0xE59, .nd), (0xE5A, 0xE5B, .po),
  (0xE81, 0xE82, .lo), (0xE84, 0xE84, .lo), (0xE86, 0xE8A, .lo), (0xE8C, 0xEA3, .lo),
  (0xEA5, 0xEA5, .lo), (0xEA7, 0xEB0, .lo), (0xEB1, 0xEB1, .mn), (0xEB2, 0xEB3, .lo),
  (0xEB4, 0xEBC, .mn), (0xEBD, 0xEBD, .lo), (0xEC0, 0xEC4, .lo), (0xEC6, 0xEC6, .lm),
  (0xEC8, 0xECE, .mn), (0xED0, 0xED9, .nd), (0xEDC, 0xEDF, .lo), (0xF00, 0xF00, .lo),
  (0xF01, 0xF03, .so), (0xF04, 0xF12, .po), (0xF13, 0xF13, .so), (0xF14, 0xF14, .po),
  (0xF15, 0xF17, .so), (0xF18, 0xF19, .mn), (0xF1A, 0xF1F, .so), (0xF20, 0xF29, .nd),
  (0xF2A, 0xF33, .no), (0xF34, 0xF34, .so), (0xF35, 0xF35, .mn), (0xF36, 0xF36, .so),
  (0xF37, 0xF37, .mn), (0xF38, 0xF38, .so), (0xF39, 0xF39, .mn), (0xF3A, 0xF3A, .ps),
  (0xF3B, 0xF3B, .pe), (0xF3C, 0xF3C, .ps), (0xF3D, 0xF3D, .pe), (0xF3E, 0xF3F, .mc),
  (0xF40, 0xF47, .lo), (0xF49, 0xF6C, .lo), (0xF71, 0xF7E, .mn), (0xF7F, 0xF7F, .mc)]

/-- Ranges from U+F80 to U+1ADD. -/
def categoriesFromF80 : List (Nat × Nat × Category) := [
  (0xF80, 0xF84, .mn), (0xF85, 0xF85, .po), (0xF86, 0xF87, .mn), (0xF88, 0xF8C, .lo),
  (0xF8D, 0xF97, .mn), (0xF99, 0xFBC, .mn), (0xFBE, 0xFC5, .so), (0xFC6, 0xFC6, .mn),
  (0xFC7, 0xFCC, .so), (0xFCE, 0xFCF, .so), (0xFD0, 0xFD4, .po), (0xFD5, 0xFD8, .so),
  (0xFD9, 0xFDA, .po), (0x1000, 0x102A, .lo), (0x102B, 0x102C, .mc), (0x102D, 0x1030, .mn),
  (0x1031, 0x1031, .mc), (0x1032, 0x1037, .mn), (0x1038, 0x1038, .mc), (0x1039, 0x103A, .mn),
  (0x103B, 0x103C, .mc), (0x103D, 0x103E, .mn), (0x103F, 0x103F, .lo), (0x1040, 0x1049, .nd),
  (0x104A, 0x104F, .po), (0x1050, 0x1055, .lo), (0x1056, 0x1057, .mc), (0x1058, 0x1059, .mn),
  (0x105A, 0x105D, .lo), (0x105E, 0x1060, .mn), (0x1061, 0x1061, .lo), (0x1062, 0x1064, .mc),
  (0x1065, 0x1066, .lo), (0x1067, 0x106D, .mc), (0x106E, 0x1070, .lo), (0x1071, 0x1074, .mn),
  (0x1075, 0x1081, .lo), (0x1082, 0x1082, .mn), (0x1083, 0x1084, .mc), (0x1085, 0x1086, .mn),
  (0x1087, 0x108C, .mc), (0x108D, 0x108D, .mn), (0x108E, 0x108E, .lo), (0x108F, 0x108F, .mc),
  (0x1090, 0x1099, .nd), (0x109A, 0x109C, .mc), (0x109D, 0x109D, .mn), (0x109E, 0x109F, .so),
  (0x10A0, 0x10C5, .lu), (0x10C7, 0x10C7, .lu), (0x10CD, 0x10CD, .lu), (0x10D0, 0x10FA, .ll),
  (0x10FB, 0x10FB, .po), (0x10FC, 0x10FC, .lm), (0x10FD, 0x10FF, .ll), (0x1100, 0x1248, .lo),
  (0x124A, 0x124D, .lo), (0x1250, 0x1256, .lo), (0x1258, 0x1258, .lo), (0x125A, 0x125D, .lo),
  (0x1260, 0x1288, .lo), (0x128A, 0x128D, .lo), (0x1290, 0x12B0, .lo), (0x12B2, 0x12B5, .lo),
  (0x12B8, 0x12BE, .lo), (0x12C0, 0x12C0, .lo), (0x12C2, 0x12C5, .lo), (0x12C8, 0x12D6, .lo),
  (0x12D8, 0x1310, .lo), (0x1312, 0x1315, .lo), (0x1318, 0x135A, .lo), (0x135D, 0x135F, .mn),
  (0x1360, 0x1368, .po), (0x1369, 0x137C, .no), (0x1380, 0x138F, .lo), (0x1390, 0x1399, .so),
  (0x13A0, 0x13F5, .lu), (0x13F8, 0x13FD, .ll), (0x1400, 0x1400, .pd), (0x1401, 0x166C, .lo),
  (0x166D, 0x166D, .so), (0x166E, 0x166E, .po), (0x166F, 0x167F, .lo), (0x1680, 0x1680, .zs),
  (0x1681, 0x169A, .lo), (0x169B, 0x169B, .ps), (0x169C, 0x169C, .pe), (0x16A0, 0x16EA, .lo),
  (0x16EB, 0x16ED, .po), (0x16EE, 0x16F0, .nl), (0x16F1, 0x16F8, .lo), (0x1700, 0x1711, .lo),
  (0x1712, 0x1714, .mn), (0x1715, 0x1715, .mc), (0x171F, 0x1731, .lo), (0x1732, 0x1733, .mn),
  (0x1734, 0x1734, .mc), (0x1735, 0x1736, .po), (0x1740, 0x1751, .lo), (0x1752, 0x1753, .mn),
  (0x1760, 0x176C, .lo), (0x176E, 0x1770, .lo), (0x1772, 0x1773, .mn), (0x1780, 0x17B3, .lo),
  (0x17B4, 0x17B5, .mn), (0x17B6, 0x17B6, .mc), (0x17B7, 0x17BD, .mn), (0x17BE, 0x17C5, .mc),
  (0x17C6, 0x17C6, .mn), (0x17C7, 0x17C8, .mc), (0x17C9, 0x17D3, .mn), (0x17D4, 0x17D6, .po),
  (0x17D7, 0x17D7, .lm), (0x17D8, 0x17DA, .po), (0x17DB, 0x17DB, .sc), (0x17DC, 0x17DC, .lo),
  (0x17DD, 0x17DD, .mn), (0x17E0, 0x17E9, .nd), (0x17F0, 0x17F9, .no), (0x1800, 0x1805, .po),
  (0x1806, 0x1806, .pd), (0x1807, 0x180A, .po), (0x180B, 0x180D, .mn), (0x180E, 0x180E, .cf),
  (0x180F, 0x180F, .mn), (0x1810, 0x1819, .nd), (0x1820, 0x1842, .lo), (0x1843, 0x1843, .lm),
  (0x1844, 0x1878, .lo), (0x1880, 0x1884, .lo), (0x1885, 0x1886, .mn), (0x1887, 0x18A8, .lo),
  (0x18A9, 0x18A9, .mn), (0x18AA, 0x18AA, .lo), (0x18B0, 0x18F5, .lo), (0x1900, 0x191E, .lo),
  (0x1920, 0x1922, .mn), (0x1923, 0x1926, .mc), (0x1927, 0x1928, .mn), (0x1929, 0x192B, .mc),
  (0x1930, 0x1931, .mc), (0x1932, 0x1932, .mn), (0x1933, 0x1938, .mc), (0x1939, 0x193B, .mn),
  (0x1940, 0x1940, .so), (0x1944, 0x1945, .po), (0x1946, 0x194F, .nd), (0x1950, 0x196D, .lo),
  (0x1970, 0x1974, .lo), (0x1980, 0x19AB, .lo), (0x19B0, 0x19C9, .lo), (0x19D0, 0x19D9, .nd),
  (0x19DA, 0x19DA, .no), (0x19DE, 0x19FF, .so), (0x1A00, 0x1A16, .lo), (0x1A17, 0x1A18, .mn),
  (0x1A19, 0x1A1A, .mc), (0x1A1B, 0x1A1B, .mn), (0x1A1E, 0x1A1F, .po), (0x1A20, 0x1A54, .lo),
  (0x1A55, 0x1A55, .mc), (0x1A56, 0x1A56, .mn), (0x1A57, 0x1A57, .mc), (0x1A58, 0x1A5E, .mn),
  (0x1A60, 0x1A60, .mn), (0x1A61, 0x1A61, .mc), (0x1A62, 0x1A62, .mn), (0x1A63, 0x1A64, .mc),
  (0x1A65, 0x1A6C, .mn), (0x1A6D, 0x1A72, .mc), (0x1A73, 0x1A7C, .mn), (0x1A7F, 0x1A7F, .mn),
  (0x1A80, 0x1A89, .nd), (0x1A90, 0x1A99, .nd), (0x1AA0, 0x1AA6, .po), (0x1AA7, 0x1AA7, .lm),
  (0x1AA8, 0x1AAD, .po), (0x1AB0, 0x1ABD, .mn), (0x1ABE, 0x1ABE, .me), (0x1ABF, 0x1ADD, .mn)]

/-- Ranges from U+1AE0 to U+2106. -/
def categoriesFrom1AE0 : List (Nat × Nat × Category) := [
  (0x1AE0, 0x1AEB, .mn), (0x1B00, 0x1B03, .mn), (0x1B04, 0x1B04, .mc), (0x1B05, 0x1B33, .lo),
  (0x1B34, 0x1B34, .mn), (0x1B35, 0x1B35, .mc), (0x1B36, 0x1B3A, .mn), (0x1B3B, 0x1B3B, .mc),
  (0x1B3C, 0x1B3C, .mn), (0x1B3D, 0x1B41, .mc), (0x1B42, 0x1B42, .mn), (0x1B43, 0x1B44, .mc),
  (0x1B45, 0x1B4C, .lo), (0x1B4E, 0x1B4F, .po), (0x1B50, 0x1B59, .nd), (0x1B5A, 0x1B60, .po),
  (0x1B61, 0x1B6A, .so), (0x1B6B, 0x1B73, .mn), (0x1B74, 0x1B7C, .so), (0x1B7D, 0x1B7F, .po),
  (0x1B80, 0x1B81, .mn), (0x1B82, 0x1B82, .mc), (0x1B83, 0x1BA0, .lo), (0x1BA1, 0x1BA1, .mc),
  (0x1BA2, 0x1BA5, .mn), (0x1BA6, 0x1BA7, .mc), (0x1BA8, 0x1BA9, .mn), (0x1BAA, 0x1BAA, .mc),
  (0x1BAB, 0x1BAD, .mn), (0x1BAE, 0x1BAF, .lo), (0x1BB0, 0x1BB9, .nd), (0x1BBA, 0x1BE5, .lo),
  (0x1BE6, 0x1BE6, .mn), (0x1BE7, 0x1BE7, .mc), (0x1BE8, 0x1BE9, .mn), (0x1BEA, 0x1BEC, .mc),
  (0x1BED, 0x1BED, .mn), (0x1BEE, 0x1BEE, .mc), (0x1BEF, 0x1BF1, .mn), (0x1BF2, 0x1BF3, .mc),
  (0x1BFC, 0x1BFF, .po), (0x1C00, 0x1C23, .lo), (0x1C24, 0x1C2B, .mc), (0x1C2C, 0x1C33, .mn),
  (0x1C34, 0x1C35, .mc), (0x1C36, 0x1C37, .mn), (0x1C3B, 0x1C3F, .po), (0x1C40, 0x1C49, .nd),
  (0x1C4D, 0x1C4F, .lo), (0x1C50, 0x1C59, .nd), (0x1C5A, 0x1C77, .lo), (0x1C78, 0x1C7D, .lm),
  (0x1C7E, 0x1C7F, .po), (0x1C80, 0x1C88, .ll), (0x1C90, 0x1CBA, .lu), (0x1CBD, 0x1CBF, .lu),
  (0x1CC0, 0x1CC7, .po), (0x1CD0, 0x1CD2, .mn), (0x1CD3, 0x1CD3, .po), (0x1CD4, 0x1CE0, .mn),
  (0x1CE1, 0x1CE1, .mc), (0x1CE2, 0x1CE8, .mn), (0x1CE9, 0x1CEC, .lo), (0x1CED, 0x1CED, .mn),
  (0x1CEE, 0x1CF3, .lo), (0x1CF4, 0x1CF4, .mn), (0x1CF5, 0x1CF6, .lo), (0x1CF7, 0x1CF7, .mc),
  (0x1CF8, 0x1CF9, .mn), (0x1CFA, 0x1CFA, .lo), (0x1D00, 0x1D2B, .ll), (0x1D2C, 0x1D6A, .lm),
  (0x1D6B, 0x1D77, .ll), (0x1D78, 0x1D78, .lm), (0x1D79, 0x1D9A, .ll), (0x1D9B, 0x1DBF, .lm),
  (0x1DC0, 0x1DFF, .mn), (0x1E95, 0x1E9D, .ll), (0x1EFF, 0x1F07, .ll), (0x1F08, 0x1F0F, .lu),
  (0x1F10, 0x1F15, .ll), (0x1F18, 0x1F1D, .lu), (0x1F20, 0x1F27, .ll), (0x1F28, 0x1F2F, .lu),
  (0x1F30, 0x1F37, .ll), (0x1F38, 0x1F3F, .lu), (0x1F40, 0x1F45, .ll), (0x1F48, 0x1F4D, .lu),
  (0x1F50, 0x1F57, .ll), (0x1F59, 0x1F59, .lu), (0x1F5B, 0x1F5B, .lu), (0x1F5D, 0x1F5D, .lu),
  (0x1F5F, 0x1F5F, .lu), (0x1F60, 0x1F67, .ll), (0x1F68, 0x1F6F, .lu), (0x1F70, 0x1F7D, .ll),
  (0x1F80, 0x1F87, .ll), (0x1F88, 0x1F8F, .lt), (0x1F90, 0x1F97, .ll), (0x1F98, 0x1F9F, .lt),
  (0x1FA0, 0x1FA7, .ll), (0x1FA8, 0x1FAF, .lt), (0x1FB0, 0x1FB4, .ll), (0x1FB6, 0x1FB7, .ll),
  (0x1FB8, 0x1FBB, .lu), (0x1FBC, 0x1FBC, .lt), (0x1FBD, 0x1FBD, .sk), (0x1FBE, 0x1FBE, .ll),
  (0x1FBF, 0x1FC1, .sk), (0x1FC2, 0x1FC4, .ll), (0x1FC6, 0x1FC7, .ll), (0x1FC8, 0x1FCB, .lu),
  (0x1FCC, 0x1FCC, .lt), (0x1FCD, 0x1FCF, .sk), (0x1FD0, 0x1FD3, .ll), (0x1FD6, 0x1FD7, .ll),
  (0x1FD8, 0x1FDB, .lu), (0x1FDD, 0x1FDF, .sk), (0x1FE0, 0x1FE7, .ll), (0x1FE8, 0x1FEC, .lu),
  (0x1FED, 0x1FEF, .sk), (0x1FF2, 0x1FF4, .ll), (0x1FF6, 0x1FF7, .ll), (0x1FF8, 0x1FFB, .lu),
  (0x1FFC, 0x1FFC, .lt), (0x1FFD, 0x1FFE, .sk), (0x2000, 0x200A, .zs), (0x200B, 0x200F, .cf),
  (0x2010, 0x2015, .pd), (0x2016, 0x2017, .po), (0x2018, 0x2018, .pi), (0x2019, 0x2019, .pf),
  (0x201A, 0x201A, .ps), (0x201B, 0x201C, .pi), (0x201D, 0x201D, .pf), (0x201E, 0x201E, .ps),
  (0x201F, 0x201F, .pi), (0x2020, 0x2027, .po), (0x2028, 0x2028, .zl), (0x2029, 0x2029, .zp),
  (0x202A, 0x202E, .cf), (0x202F, 0x202F, .zs), (0x2030, 0x2038, .po), (0x2039, 0x2039, .pi),
  (0x203A, 0x203A, .pf), (0x203B, 0x203E, .po), (0x203F, 0x2040, .pc), (0x2041, 0x2043, .po),
  (0x2044, 0x2044, .sm), (0x2045, 0x2045, .ps), (0x2046, 0x2046, .pe), (0x2047, 0x2051, .po),
  (0x2052, 0x2052, .sm), (0x2053, 0x2053, .po), (0x2054, 0x2054, .pc), (0x2055, 0x205E, .po),
  (0x205F, 0x205F, .zs), (0x2060, 0x2064, .cf), (0x2066, 0x206F, .cf), (0x2070, 0x2070, .no),
  (0x2071, 0x2071, .lm), (0x2074, 0x2079, .no), (0x207A, 0x207C, .sm), (0x207D, 0x207D, .ps),
  (0x207E, 0x207E, .pe), (0x207F, 0x207F, .lm), (0x2080, 0x2089, .no), (0x208A, 0x208C, .sm),
  (0x208D, 0x208D, .ps), (0x208E, 0x208E, .pe), (0x2090, 0x209C, .lm), (0x20A0, 0x20C1, .sc),
  (0x20D0, 0x20DC, .mn), (0x20DD, 0x20E0, .me), (0x20E1, 0x20E1, .mn), (0x20E2, 0x20E4, .me),
  (0x20E5, 0x20F0, .mn), (0x2100, 0x2101, .so), (0x2102, 0x2102, .lu), (0x2103, 0x2106, .so)]

/-- Ranges from U+2107 to U+2CFF. -/
def categoriesFrom2107 : List (Nat × Nat × Category) := [
  (0x2107, 0x2107, .lu), (0x2108, 0x2109, .so), (0x210A, 0x210A, .ll), (0x210B, 0x210D, .lu),
  (0x210E, 0x210F, .ll), (0x2110, 0x2112, .lu), (0x2113, 0x2113, .ll), (0x2114, 0x2114, .so),
  (0x2115, 0x2115, .lu), (0x2116, 0x2117, .so), (0x2118, 0x2118, .sm), (0x2119, 0x211D, .lu),
  (0x211E, 0x2123, .so), (0x2124, 0x2124, .lu), (0x2125, 0x2125, .so), (0x2126, 0x2126, .lu),
  (0x2127, 0x2127, .so), (0x2128, 0x2128, .lu), (0x2129, 0x2129, .so), (0x212A, 0x212D, .lu),
  (0x212E, 0x212E, .so), (0x212F, 0x212F, .ll), (0x2130, 0x2133, .lu), (0x2134, 0x2134, .ll),
  (0x2135, 0x2138, .lo), (0x2139, 0x2139, .ll), (0x213A, 0x213B, .so), (0x213C, 0x213D, .ll),
  (0x213E, 0x213F, .lu), (0x2140, 0x2144, .sm), (0x2145, 0x2145, .lu), (0x2146, 0x2149, .ll),
  (0x214A, 0x214A, .so), (0x214B, 0x214B, .sm), (0x214C, 0x214D, .so), (0x214E, 0x214E, .ll),
  (0x214F, 0x214F, .so), (0x2150, 0x215F, .no), (0x2160, 0x2182, .nl), (0x2185, 0x2188, .nl),
  (0x2189, 0x2189, .no), (0x218A, 0x218B, .so), (0x2190, 0x2194, .sm), (0x2195, 0x2199, .so),
  (0x219A, 0x219B, .sm), (0x219C, 0x219F, .so), (0x21A0, 0x21A0, .sm), (0x21A1, 0x21A2, .so),
  (0x21A3, 0x21A3, .sm), (0x21A4, 0x21A5, .so), (0x21A6, 0x21A6, .sm), (0x21A7, 0x21AD, .so),
  (0x21AE, 0x21AE, .sm), (0x21AF, 0x21CD, .so), (0x21CE, 0x21CF, .sm), (0x21D0, 0x21D1, .so),
  (0x21D2, 0x21D2, .sm), (0x21D3, 0x21D3, .so), (0x21D4, 0x21D4, .sm), (0x21D5, 0x21F3, .so),
  (0x21F4, 0x22FF, .sm), (0x2300, 0x2307, .so), (0x2308, 0x2308, .ps), (0x2309, 0x2309, .pe),
  (0x230A, 0x230A, .ps), (0x230B, 0x230B, .pe), (0x230C, 0x231F, .so), (0x2320, 0x2321, .sm),
  (0x2322, 0x2328, .so), (0x2329, 0x2329, .ps), (0x232A, 0x232A, .pe), (0x232B, 0x237B, .so),
  (0x237C, 0x237C, .sm), (0x237D, 0x239A, .so), (0x239B, 0x23B3, .sm), (0x23B4, 0x23DB, .so),
  (0x23DC, 0x23E1, .sm), (0x23E2, 0x2429, .so), (0x2440, 0x244A, .so), (0x2460, 0x249B, .no),
  (0x249C, 0x24E9, .so), (0x24EA, 0x24FF, .no), (0x2500, 0x25B6, .so), (0x25B7, 0x25B7, .sm),
  (0x25B8, 0x25C0, .so), (0x25C1, 0x25C1, .sm), (0x25C2, 0x25F7, .so), (0x25F8, 0x25FF, .sm),
  (0x2600, 0x266E, .so), (0x266F, 0x266F, .sm), (0x2670, 0x2767, .so), (0x2768, 0x2768, .ps),
  (0x2769, 0x2769, .pe), (0x276A, 0x276A, .ps), (0x276B, 0x276B, .pe), (0x276C, 0x276C, .ps),
  (0x276D, 0x276D, .pe), (0x276E, 0x276E, .ps), (0x276F, 0x276F, .pe), (0x2770, 0x2770, .ps),
  (0x2771, 0x2771, .pe), (0x2772, 0x2772, .ps), (0x2773, 0x2773, .pe), (0x2774, 0x2774, .ps),
  (0x2775, 0x2775, .pe), (0x2776, 0x2793, .no), (0x2794, 0x27BF, .so), (0x27C0, 0x27C4, .sm),
  (0x27C5, 0x27C5, .ps), (0x27C6, 0x27C6, .pe), (0x27C7, 0x27E5, .sm), (0x27E6, 0x27E6, .ps),
  (0x27E7, 0x27E7, .pe), (0x27E8, 0x27E8, .ps), (0x27E9, 0x27E9, .pe), (0x27EA, 0x27EA, .ps),
  (0x27EB, 0x27EB, .pe), (0x27EC, 0x27EC, .ps), (0x27ED, 0x27ED, .pe), (0x27EE, 0x27EE, .ps),
  (0x27EF, 0x27EF, .pe), (0x27F0, 0x27FF, .sm), (0x2800, 0x28FF, .so), (0x2900, 0x2982, .sm),
  (0x2983, 0x2983, .ps), (0x2984, 0x2984, .pe), (0x2985, 0x2985, .ps), (0x2986, 0x2986, .pe),
  (0x2987, 0x2987, .ps), (0x2988, 0x2988, .pe), (0x2989, 0x2989, .ps), (0x298A, 0x298A, .pe),
  (0x298B, 0x298B, .ps), (0x298C, 0x298C, .pe), (0x298D, 0x298D, .ps), (0x298E, 0x298E, .pe),
  (0x298F, 0x298F, .ps), (0x2990, 0x2990, .pe), (0x2991, 0x2991, .ps), (0x2992, 0x2992, .pe),
  (0x2993, 0x2993, .ps), (0x2994, 0x2994, .pe), (0x2995, 0x2995, .ps), (0x2996, 0x2996, .pe),
  (0x2997, 0x2997, .ps), (0x2998, 0x2998, .pe), (0x2999, 0x29D7, .sm), (0x29D8, 0x29D8, .ps),
  (0x29D9, 0x29D9, .pe), (0x29DA, 0x29DA, .ps), (0x29DB, 0x29DB, .pe), (0x29DC, 0x29FB, .sm),
  (0x29FC, 0x29FC, .ps), (0x29FD, 0x29FD, .pe), (0x29FE, 0x2AFF, .sm), (0x2B00, 0x2B2F, .so),
  (0x2B30, 0x2B44, .sm), (0x2B45, 0x2B46, .so), (0x2B47, 0x2B4C, .sm), (0x2B4D, 0x2B73, .so),
  (0x2B76, 0x2BFF, .so), (0x2C00, 0x2C2F, .lu), (0x2C30, 0x2C5F, .ll), (0x2C62, 0x2C64, .lu),
  (0x2C65, 0x2C66, .ll), (0x2C6D, 0x2C70, .lu), (0x2C71, 0x2C71, .ll), (0x2C72, 0x2C72, .lu),
  (0x2C73, 0x2C74, .ll), (0x2C75, 0x2C75, .lu), (0x2C76, 0x2C7B, .ll), (0x2C7C, 0x2C7D, .lm),
  (0x2C7E, 0x2C80, .lu), (0x2C81, 0x2C81, .ll), (0x2CE3, 0x2CE4, .ll), (0x2CE5, 0x2CEA, .so),
  (0x2CEF, 0x2CF1, .mn), (0x2CF9, 0x2CFC, .po), (0x2CFD, 0x2CFD, .no), (0x2CFE, 0x2CFF, .po)]

/-- Ranges from U+2D00 to U+A795. -/
def categoriesFrom2D00 : List (Nat × Nat × Category) := [
  (0x2D00, 0x2D25, .ll), (0x2D27, 0x2D27, .ll), (0x2D2D, 0x2D2D, .ll), (0x2D30, 0x2D67, .lo),
  (0x2D6F, 0x2D6F, .lm), (0x2D70, 0x2D70, .po), (0x2D7F, 0x2D7F, .mn), (0x2D80, 0x2D96, .lo),
  (0x2DA0, 0x2DA6, .lo), (0x2DA8, 0x2DAE, .lo), (0x2DB0, 0x2DB6, .lo), (0x2DB8, 0x2DBE, .lo),
  (0x2DC0, 0x2DC6, .lo), (0x2DC8, 0x2DCE, .lo), (0x2DD0, 0x2DD6, .lo), (0x2DD8, 0x2DDE, .lo),
  (0x2DE0, 0x2DFF, .mn), (0x2E00, 0x2E01, .po), (0x2E02, 0x2E02, .pi), (0x2E03, 0x2E03, .pf),
  (0x2E04, 0x2E04, .pi), (0x2E05, 0x2E05, .pf), (0x2E06, 0x2E08, .po), (0x2E09, 0x2E09, .pi),
  (0x2E0A, 0x2E0A, .pf), (0x2E0B, 0x2E0B, .po), (0x2E0C, 0x2E0C, .pi), (0x2E0D, 0x2E0D, .pf),
  (0x2E0E, 0x2E16, .po), (0x2E17, 0x2E17, .pd), (0x2E18, 0x2E19, .po), (0x2E1A, 0x2E1A, .pd),
  (0x2E1B, 0x2E1B, .po), (0x2E1C, 0x2E1C, .pi), (0x2E1D, 0x2E1D, .pf), (0x2E1E, 0x2E1F, .po),
  (0x2E20, 0x2E20, .pi), (0x2E21, 0x2E21, .pf), (0x2E22, 0x2E22, .ps), (0x2E23, 0x2E23, .pe),
  (0x2E24, 0x2E24, .ps), (0x2E25, 0x2E25, .pe), (0x2E26, 0x2E26, .ps), (0x2E27, 0x2E27, .pe),
  (0x2E28, 0x2E28, .ps), (0x2E29, 0x2E29, .pe), (0x2E2A, 0x2E2E, .po), (0x2E2F, 0x2E2F, .lm),
  (0x2E30, 0x2E39, .po), (0x2E3A, 0x2E3B, .pd), (0x2E3C, 0x2E3F, .po), (0x2E40, 0x2E40, .pd),
  (0x2E41, 0x2E41, .po), (0x2E42, 0x2E42, .ps), (0x2E43, 0x2E4F, .po), (0x2E50, 0x2E51, .so),
  (0x2E52, 0x2E54, .po), (0x2E55, 0x2E55, .ps), (0x2E56, 0x2E56, .pe), (0x2E57, 0x2E57, .ps),
  (0x2E58, 0x2E58, .pe), (0x2E59, 0x2E59, .ps), (0x2E5A, 0x2E5A, .pe), (0x2E5B, 0x2E5B, .ps),
  (0x2E5C, 0x2E5C, .pe), (0x2E5D, 0x2E5D, .pd), (0x2E80, 0x2E99, .so), (0x2E9B, 0x2EF3, .so),
  (0x2F00, 0x2FD5, .so), (0x2FF0, 0x2FFF, .so), (0x3000, 0x3000, .zs), (0x3001, 0x3003, .po),
  (0x3004, 0x3004, .so), (0x3005, 0x3005, .lm), (0x3006, 0x3006, .lo), (0x3007, 0x3007, .nl),
  (0x3008, 0x3008, .ps), (0x3009, 0x3009, .pe), (0x300A, 0x300A, .ps), (0x300B, 0x300B, .pe),
  (0x300C, 0x300C, .ps), (0x300D, 0x300D, .pe), (0x300E, 0x300E, .ps), (0x300F, 0x300F, .pe),
  (0x3010, 0x3010, .ps), (0x3011, 0x3011, .pe), (0x3012, 0x3013, .so), (0x3014, 0x3014, .ps),
  (0x3015, 0x3015, .pe), (0x3016, 0x3016, .ps), (0x3017, 0x3017, .pe), (0x3018, 0x3018, .ps),
  (0x3019, 0x3019, .pe), (0x301A, 0x301A, .ps), (0x301B, 0x301B, .pe), (0x301C, 0x301C, .pd),
  (0x301D, 0x301D, .ps), (0x301E, 0x301F, .pe), (0x3020, 0x3020, .so), (0x3021, 0x3029, .nl),
  (0x302A, 0x302D, .mn), (0x302E, 0x302F, .mc), (0x3030, 0x3030, .pd), (0x3031, 0x3035, .lm),
  (0x3036, 0x3037, .so), (0x3038, 0x303A, .nl), (0x303B, 0x303B, .lm), (0x303C, 0x303C, .lo),
  (0x303D, 0x303D, .po), (0x303E, 0x303F, .so), (0x3041, 0x3096, .lo), (0x3099, 0x309A, .mn),
  (0x309B, 0x309C, .sk), (0x309D, 0x309E, .lm), (0x309F, 0x309F, .lo), (0x30A0, 0x30A0, .pd),
  (0x30A1, 0x30FA, .lo), (0x30FB, 0x30FB, .po), (0x30FC, 0x30FE, .lm), (0x30FF, 0x30FF, .lo),
  (0x3105, 0x312F, .lo), (0x3131, 0x318E, .lo), (0x3190, 0x3191, .so), (0x3192, 0x3195, .no),
  (0x3196, 0x319F, .so), (0x31A0, 0x31BF, .lo), (0x31C0, 0x31E5, .so), (0x31EF, 0x31EF, .so),
  (0x31F0, 0x31FF, .lo), (0x3200, 0x321E, .so), (0x3220, 0x3229, .no), (0x322A, 0x3247, .so),
  (0x3248, 0x324F, .no), (0x3250, 0x3250, .so), (0x3251, 0x325F, .no), (0x3260, 0x327F, .so),
  (0x3280, 0x3289, .no), (0x328A, 0x32B0, .so), (0x32B1, 0x32BF, .no), (0x32C0, 0x33FF, .so),
  (0x3400, 0x4DBF, .lo), (0x4DC0, 0x4DFF, .so), (0x4E00, 0xA014, .lo), (0xA015, 0xA015, .lm),
  (0xA016, 0xA48C, .lo), (0xA490, 0xA4C6, .so), (0xA4D0, 0xA4F7, .lo), (0xA4F8, 0xA4FD, .lm),
  (0xA4FE, 0xA4FF, .po), (0xA500, 0xA60B, .lo), (0xA60C, 0xA60C, .lm), (0xA60D, 0xA60F, .po),
  (0xA610, 0xA61F, .lo), (0xA620, 0xA629, .nd), (0xA62A, 0xA62B, .lo), (0xA66E, 0xA66E, .lo),
  (0xA66F, 0xA66F, .mn), (0xA670, 0xA672, .me), (0xA673, 0xA673, .po), (0xA674, 0xA67D, .mn),
  (0xA67E, 0xA67E, .po), (0xA67F, 0xA67F, .lm), (0xA69C, 0xA69D, .lm), (0xA69E, 0xA69F, .mn),
  (0xA6A0, 0xA6E5, .lo), (0xA6E6, 0xA6EF, .nl), (0xA6F0, 0xA6F1, .mn), (0xA6F2, 0xA6F7, .po),
  (0xA700, 0xA716, .sk), (0xA717, 0xA71F, .lm), (0xA720, 0xA721, .sk), (0xA72F, 0xA731, .ll),
  (0xA770, 0xA770, .lm), (0xA771, 0xA778, .ll), (0xA77D, 0xA77E, .lu), (0xA77F, 0xA77F, .ll),
  (0xA788, 0xA788, .lm), (0xA789, 0xA78A, .sk), (0xA78F, 0xA78F, .lo), (0xA793, 0xA795, .ll)]

/-- Ranges from U+A7AA to U+FE36. -/
def categoriesFromA7AA : List (Nat × Nat × Category) := [
  (0xA7AA, 0xA7AE, .lu), (0xA7AF, 0xA7AF, .ll), (0xA7B0, 0xA7B4, .lu), (0xA7B5, 0xA7B5, .ll),
  (0xA7C4, 0xA7C7, .lu), (0xA7C8, 0xA7C8, .ll), (0xA7CB, 0xA7CC, .lu), (0xA7CD, 0xA7CD, .ll),
  (0xA7F1, 0xA7F4, .lm), (0xA7F7, 0xA7F7, .lo), (0xA7F8, 0xA7F9, .lm), (0xA7FA, 0xA7FA, .ll),
  (0xA7FB, 0xA801, .lo), (0xA802, 0xA802, .mn), (0xA803, 0xA805, .lo), (0xA806, 0xA806, .mn),
  (0xA807, 0xA80A, .lo), (0xA80B, 0xA80B, .mn), (0xA80C, 0xA822, .lo), (0xA823, 0xA824, .mc),
  (0xA825, 0xA826, .mn), (0xA827, 0xA827, .mc), (0xA828, 0xA82B, .so), (0xA82C, 0xA82C, .mn),
  (0xA830, 0xA835, .no), (0xA836, 0xA837, .so), (0xA838, 0xA838, .sc), (0xA839, 0xA839, .so),
  (0xA840, 0xA873, .lo), (0xA874, 0xA877, .po), (0xA880, 0xA881, .mc), (0xA882, 0xA8B3, .lo),
  (0xA8B4, 0xA8C3, .mc), (0xA8C4, 0xA8C5, .mn), (0xA8CE, 0xA8CF, .po), (0xA8D0, 0xA8D9, .nd),
  (0xA8E0, 0xA8F1, .mn), (0xA8F2, 0xA8F7, .lo), (0xA8F8, 0xA8FA, .po), (0xA8FB, 0xA8FB, .lo),
  (0xA8FC, 0xA8FC, .po), (0xA8FD, 0xA8FE, .lo), (0xA8FF, 0xA8FF, .mn), (0xA900, 0xA909, .nd),
  (0xA90A, 0xA925, .lo), (0xA926, 0xA92D, .mn), (0xA92E, 0xA92F, .po), (0xA930, 0xA946, .lo),
  (0xA947, 0xA951, .mn), (0xA952, 0xA953, .mc), (0xA95F, 0xA95F, .po), (0xA960, 0xA97C, .lo),
  (0xA980, 0xA982, .mn), (0xA983, 0xA983, .mc), (0xA984, 0xA9B2, .lo), (0xA9B3, 0xA9B3, .mn),
  (0xA9B4, 0xA9B5, .mc), (0xA9B6, 0xA9B9, .mn), (0xA9BA, 0xA9BB, .mc), (0xA9BC, 0xA9BD, .mn),
  (0xA9BE, 0xA9C0, .mc), (0xA9C1, 0xA9CD, .po), (0xA9CF, 0xA9CF, .lm), (0xA9D0, 0xA9D9, .nd),
  (0xA9DE, 0xA9DF, .po), (0xA9E0, 0xA9E4, .lo), (0xA9E5, 0xA9E5, .mn), (0xA9E6, 0xA9E6, .lm),
  (0xA9E7, 0xA9EF, .lo), (0xA9F0, 0xA9F9, .nd), (0xA9FA, 0xA9FE, .lo), (0xAA00, 0xAA28, .lo),
  (0xAA29, 0xAA2E, .mn), (0xAA2F, 0xAA30, .mc), (0xAA31, 0xAA32, .mn), (0xAA33, 0xAA34, .mc),
  (0xAA35, 0xAA36, .mn), (0xAA40, 0xAA42, .lo), (0xAA43, 0xAA43, .mn), (0xAA44, 0xAA4B, .lo),
  (0xAA4C, 0xAA4C, .mn), (0xAA4D, 0xAA4D, .mc), (0xAA50, 0xAA59, .nd), (0xAA5C, 0xAA5F, .po),
  (0xAA60, 0xAA6F, .lo), (0xAA70, 0xAA70, .lm), (0xAA71, 0xAA76, .lo), (0xAA77, 0xAA79, .so),
  (0xAA7A, 0xAA7A, .lo), (0xAA7B, 0xAA7B, .mc), (0xAA7C, 0xAA7C, .mn), (0xAA7D, 0xAA7D, .mc),
  (0xAA7E, 0xAAAF, .lo), (0xAAB0, 0xAAB0, .mn), (0xAAB1, 0xAAB1, .lo), (0xAAB2, 0xAAB4, .mn),
  (0xAAB5, 0xAAB6, .lo), (0xAAB7, 0xAAB8, .mn), (0xAAB9, 0xAABD, .lo), (0xAABE, 0xAABF, .mn),
  (0xAAC0, 0xAAC0, .lo), (0xAAC1, 0xAAC1, .mn), (0xAAC2, 0xAAC2, .lo), (0xAADB, 0xAADC, .lo),
  (0xAADD, 0xAADD, .lm), (0xAADE, 0xAADF, .po), (0xAAE0, 0xAAEA, .lo), (0xAAEB, 0xAAEB, .mc),
  (0xAAEC, 0xAAED, .mn), (0xAAEE, 0xAAEF, .mc), (0xAAF0, 0xAAF1, .po), (0xAAF2, 0xAAF2, .lo),
  (0xAAF3, 0xAAF4, .lm), (0xAAF5, 0xAAF5, .mc), (0xAAF6, 0xAAF6, .mn), (0xAB01, 0xAB06, .lo),
  (0xAB09, 0xAB0E, .lo), (0xAB11, 0xAB16, .lo), (0xAB20, 0xAB26, .lo), (0xAB28, 0xAB2E, .lo),
  (0xAB30, 0xAB5A, .ll), (0xAB5B, 0xAB5B, .sk), (0xAB5C, 0xAB5F, .lm), (0xAB60, 0xAB68, .ll),
  (0xAB69, 0xAB69, .lm), (0xAB6A, 0xAB6B, .sk), (0xAB70, 0xABBF, .ll), (0xABC0, 0xABE2, .lo),
  (0xABE3, 0xABE4, .mc), (0xABE5, 0xABE5, .mn), (0xABE6, 0xABE7, .mc), (0xABE8, 0xABE8, .mn),
  (0xABE9, 0xABEA, .mc), (0xABEB, 0xABEB, .po), (0xABEC, 0xABEC, .mc), (0xABED, 0xABED, .mn),
  (0xABF0, 0xABF9, .nd), (0xAC00, 0xD7A3, .lo), (0xD7B0, 0xD7C6, .lo), (0xD7CB, 0xD7FB, .lo),
  (0xD800, 0xDFFF, .cs), (0xE000, 0xF8FF, .co), (0xF900, 0xFA6D, .lo), (0xFA70, 0xFAD9, .lo),
  (0xFB00, 0xFB06, .ll), (0xFB13, 0xFB17, .ll), (0xFB1D, 0xFB1D, .lo), (0xFB1E, 0xFB1E, .mn),
  (0xFB1F, 0xFB28, .lo), (0xFB29, 0xFB29, .sm), (0xFB2A, 0xFB36, .lo), (0xFB38, 0xFB3C, .lo),
  (0xFB3E, 0xFB3E, .lo), (0xFB40, 0xFB41, .lo), (0xFB43, 0xFB44, .lo), (0xFB46, 0xFBB1, .lo),
  (0xFBB2, 0xFBC2, .sk), (0xFBC3, 0xFBD2, .so), (0xFBD3, 0xFD3D, .lo), (0xFD3E, 0xFD3E, .pe),
  (0xFD3F, 0xFD3F, .ps), (0xFD40, 0xFD4F, .so), (0xFD50, 0xFD8F, .lo), (0xFD90, 0xFD91, .so),
  (0xFD92, 0xFDC7, .lo), (0xFDC8, 0xFDCF, .so), (0xFDF0, 0xFDFB, .lo), (0xFDFC, 0xFDFC, .sc),
  (0xFDFD, 0xFDFF, .so), (0xFE00, 0xFE0F, .mn), (0xFE10, 0xFE16, .po), (0xFE17, 0xFE17, .ps),
  (0xFE18, 0xFE18, .pe), (0xFE19, 0xFE19, .po), (0xFE20, 0xFE2F, .mn), (0xFE30, 0xFE30, .po),
  (0xFE31, 0xFE32, .pd), (0xFE33, 0xFE34, .pc), (0xFE35, 0xFE35, .ps), (0xFE36, 0xFE36, .pe)]

/-- Ranges from U+FE37 to U+10A06. -/
def categoriesFromFE37 : List (Nat × Nat × Category) := [
  (0xFE37, 0xFE37, .ps), (0xFE38, 0xFE38, .pe), (0xFE39, 0xFE39, .ps), (0xFE3A, 0xFE3A, .pe),
  (0xFE3B, 0xFE3B, .ps), (0xFE3C, 0xFE3C, .pe), (0xFE3D, 0xFE3D, .ps), (0xFE3E, 0xFE3E, .pe),
  (0xFE3F, 0xFE3F, .ps), (0xFE40, 0xFE40, .pe), (0xFE41, 0xFE41, .ps), (0xFE42, 0xFE42, .pe),
  (0xFE43, 0xFE43, .ps), (0xFE44, 0xFE44, .pe), (0xFE45, 0xFE46, .po), (0xFE47, 0xFE47, .ps),
  (0xFE48, 0xFE48, .pe), (0xFE49, 0xFE4C, .po), (0xFE4D, 0xFE4F, .pc), (0xFE50, 0xFE52, .po),
  (0xFE54, 0xFE57, .po), (0xFE58, 0xFE58, .pd), (0xFE59, 0xFE59, .ps), (0xFE5A, 0xFE5A, .pe),
  (0xFE5B, 0xFE5B, .ps), (0xFE5C, 0xFE5C, .pe), (0xFE5D, 0xFE5D, .ps), (0xFE5E, 0xFE5E, .pe),
  (0xFE5F, 0xFE61, .po), (0xFE62, 0xFE62, .sm), (0xFE63, 0xFE63, .pd), (0xFE64, 0xFE66, .sm),
  (0xFE68, 0xFE68, .po), (0xFE69, 0xFE69, .sc), (0xFE6A, 0xFE6B, .po), (0xFE70, 0xFE74, .lo),
  (0xFE76, 0xFEFC, .lo), (0xFEFF, 0xFEFF, .cf), (0xFF01, 0xFF03, .po), (0xFF04, 0xFF04, .sc),
  (0xFF05, 0xFF07, .po), (0xFF08, 0xFF08, .ps), (0xFF09, 0xFF09, .pe), (0xFF0A, 0xFF0A, .po),
  (0xFF0B, 0xFF0B, .sm), (0xFF0C, 0xFF0C, .po), (0xFF0D, 0xFF0D, .pd), (0xFF0E, 0xFF0F, .po),
  (0xFF10, 0xFF19, .nd), (0xFF1A, 0xFF1B, .po), (0xFF1C, 0xFF1E, .sm), (0xFF1F, 0xFF20, .po),
  (0xFF21, 0xFF3A, .lu), (0xFF3B, 0xFF3B, .ps), (0xFF3C, 0xFF3C, .po), (0xFF3D, 0xFF3D, .pe),
  (0xFF3E, 0xFF3E, .sk), (0xFF3F, 0xFF3F, .pc), (0xFF40, 0xFF40, .sk), (0xFF41, 0xFF5A, .ll),
  (0xFF5B, 0xFF5B, .ps), (0xFF5C, 0xFF5C, .sm), (0xFF5D, 0xFF5D, .pe), (0xFF5E, 0xFF5E, .sm),
  (0xFF5F, 0xFF5F, .ps), (0xFF60, 0xFF60, .pe), (0xFF61, 0xFF61, .po), (0xFF62, 0xFF62, .ps),
  (0xFF63, 0xFF63, .pe), (0xFF64, 0xFF65, .po), (0xFF66, 0xFF6F, .lo), (0xFF70, 0xFF70, .lm),
  (0xFF71, 0xFF9D, .lo), (0xFF9E, 0xFF9F, .lm), (0xFFA0, 0xFFBE, .lo), (0xFFC2, 0xFFC7, .lo),
  (0xFFCA, 0xFFCF, .lo), (0xFFD2, 0xFFD7, .lo), (0xFFDA, 0xFFDC, .lo), (0xFFE0, 0xFFE1, .sc),
  (0xFFE2, 0xFFE2, .sm), (0xFFE3, 0xFFE3, .sk), (0xFFE4, 0xFFE4, .so), (0xFFE5, 0xFFE6, .sc),
  (0xFFE8, 0xFFE8, .so), (0xFFE9, 0xFFEC, .sm), (0xFFED, 0xFFEE, .so), (0xFFF9, 0xFFFB, .cf),
  (0xFFFC, 0xFFFD, .so), (0x10000, 0x1000B, .lo), (0x1000D, 0x10026, .lo), (0x10028, 0x1003A, .lo),
  (0x1003C, 0x1003D, .lo), (0x1003F, 0x1004D, .lo), (0x10050, 0x1005D, .lo),
  (0x10080, 0x100FA, .lo), (0x10100, 0x10102, .po), (0x10107, 0x10133, .no),
  (0x10137, 0x1013F, .so), (0x10140, 0x10174, .nl), (0x10175, 0x10178, .no),
  (0x10179, 0x10189, .so), (0x1018A, 0x1018B, .no), (0x1018C, 0x1018E, .so),
  (0x10190, 0x1019C, .so), (0x101A0, 0x101A0, .so), (0x101D0, 0x101FC, .so),
  (0x101FD, 0x101FD, .mn), (0x10280, 0x1029C, .lo), (0x102A0, 0x102D0, .lo),
  (0x102E0, 0x102E0, .mn), (0x102E1, 0x102FB, .no), (0x10300, 0x1031F, .lo),
  (0x10320, 0x10323, .no), (0x1032D, 0x10340, .lo), (0x10341, 0x10341, .nl),
  (0x10342, 0x10349, .lo), (0x1034A, 0x1034A, .nl), (0x10350, 0x10375, .lo),
  (0x10376, 0x1037A, .mn), (0x10380, 0x1039D, .lo), (0x1039F, 0x1039F, .po),
  (0x103A0, 0x103C3, .lo), (0x103C8, 0x103CF, .lo), (0x103D0, 0x103D0, .po),
  (0x103D1, 0x103D5, .nl), (0x10400, 0x10427, .lu), (0x10428, 0x1044F, .ll),
  (0x10450, 0x1049D, .lo), (0x104A0, 0x104A9, .nd), (0x104B0, 0x104D3, .lu),
  (0x104D8, 0x104FB, .ll), (0x10500, 0x10527, .lo), (0x10530, 0x10563, .lo),
  (0x1056F, 0x1056F, .po), (0x10570, 0x1057A, .lu), (0x1057C, 0x1058A, .lu),
  (0x1058C, 0x10592, .lu), (0x10594, 0x10595, .lu), (0x10597, 0x105A1, .ll),
  (0x105A3, 0x105B1, .ll), (0x105B3, 0x105B9, .ll), (0x105BB, 0x105BC, .ll),
  (0x105C0, 0x105F3, .lo), (0x10600, 0x10736, .lo), (0x10740, 0x10755, .lo),
  (0x10760, 0x10767, .lo), (0x10780, 0x10785, .lm), (0x10787, 0x107B0, .lm),
  (0x107B2, 0x107BA, .lm), (0x10800, 0x10805, .lo), (0x10808, 0x10808, .lo),
  (0x1080A, 0x10835, .lo), (0x10837, 0x10838, .lo), (0x1083C, 0x1083C, .lo),
  (0x1083F, 0x10855, .lo), (0x10857, 0x10857, .po), (0x10858, 0x1085F, .no),
  (0x10860, 0x10876, .lo), (0x10877, 0x10878, .so), (0x10879, 0x1087F, .no),
  (0x10880, 0x1089E, .lo), (0x108A7, 0x108AF, .no), (0x108E0, 0x108F2, .lo),
  (0x108F4, 0x108F5, .lo), (0x108FB, 0x108FF, .no), (0x10900, 0x10915, .lo),
  (0x10916, 0x1091B, .no), (0x1091F, 0x1091F, .po), (0x10920, 0x10939, .lo),
  (0x1093F, 0x1093F, .po), (0x10940, 0x10959, .lo), (0x10980, 0x109B7, .lo),
  (0x109BC, 0x109BD, .no), (0x109BE, 0x109BF, .lo), (0x109C0, 0x109CF, .no),
  (0x109D2, 0x109FF, .no), (0x10A00, 0x10A00, .lo), (0x10A01, 0x10A03, .mn),
  (0x10A05, 0x10A06, .mn)]

/-- Ranges from U+10A0C to U+113C5. -/
def categoriesFrom10A0C : List (Nat × Nat × Category) := [
  (0x10A0C, 0x10A0F, .mn), (0x10A10, 0x10A13, .lo), (0x10A15, 0x10A17, .lo),
  (0x10A19, 0x10A35, .lo), (0x10A38, 0x10A3A, .mn), (0x10A3F, 0x10A3F, .mn),
  (0x10A40, 0x10A48, .no), (0x10A50, 0x10A58, .po), (0x10A60, 0x10A7C, .lo),
  (0x10A7D, 0x10A7E, .no), (0x10A7F, 0x10A7F, .po), (0x10A80, 0x10A9C, .lo),
  (0x10A9D, 0x10A9F, .no), (0x10AC0, 0x10AC7, .lo), (0x10AC8, 0x10AC8, .so),
  (0x10AC9, 0x10AE4, .lo), (0x10AE5, 0x10AE6, .mn), (0x10AEB, 0x10AEF, .no),
  (0x10AF0, 0x10AF6, .po), (0x10B00, 0x10B35, .lo), (0x10B39, 0x10B3F, .po),
  (0x10B40, 0x10B55, .lo), (0x10B58, 0x10B5F, .no), (0x10B60, 0x10B72, .lo),
  (0x10B78, 0x10B7F, .no), (0x10B80, 0x10B91, .lo), (0x10B99, 0x10B9C, .po),
  (0x10BA9, 0x10BAF, .no), (0x10C00, 0x10C48, .lo), (0x10C80, 0x10CB2, .lu),
  (0x10CC0, 0x10CF2, .ll), (0x10CFA, 0x10CFF, .no), (0x10D00, 0x10D23, .lo),
  (0x10D24, 0x10D27, .mn), (0x10D30, 0x10D39, .nd), (0x10D40, 0x10D49, .nd),
  (0x10D4A, 0x10D4D, .lo), (0x10D4E, 0x10D4E, .lm), (0x10D4F, 0x10D4F, .lo),
  (0x10D50, 0x10D65, .lu), (0x10D69, 0x10D6D, .mn), (0x10D6E, 0x10D6E, .pd),
  (0x10D6F, 0x10D6F, .lm), (0x10D70, 0x10D85, .ll), (0x10D8E, 0x10D8F, .sm),
  (0x10E60, 0x10E7E, .no), (0x10E80, 0x10EA9, .lo), (0x10EAB, 0x10EAC, .mn),
  (0x10EAD, 0x10EAD, .pd), (0x10EB0, 0x10EB1, .lo), (0x10EC2, 0x10EC4, .lo),
  (0x10EC5, 0x10EC5, .lm), (0x10EC6, 0x10EC7, .lo), (0x10ED0, 0x10ED0, .po),
  (0x10ED1, 0x10ED8, .so), (0x10EFA, 0x10EFF, .mn), (0x10F00, 0x10F1C, .lo),
  (0x10F1D, 0x10F26, .no), (0x10F27, 0x10F27, .lo), (0x10F30, 0x10F45, .lo),
  (0x10F46, 0x10F50, .mn), (0x10F51, 0x10F54, .no), (0x10F55, 0x10F59, .po),
  (0x10F70, 0x10F81, .lo), (0x10F82, 0x10F85, .mn), (0x10F86, 0x10F89, .po),
  (0x10FB0, 0x10FC4, .lo), (0x10FC5, 0x10FCB, .no), (0x10FE0, 0x10FF6, .lo),
  (0x11000, 0x11000, .mc), (0x11001, 0x11001, .mn), (0x11002, 0x11002, .mc),
  (0x11003, 0x11037, .lo), (0x11038, 0x11046, .mn), (0x11047, 0x1104D, .po),
  (0x11052, 0x11065, .no), (0x11066, 0x1106F, .nd), (0x11070, 0x11070, .mn),
  (0x11071, 0x11072, .lo), (0x11073, 0x11074, .mn), (0x11075, 0x11075, .lo),
  (0x1107F, 0x11081, .mn), (0x11082, 0x11082, .mc), (0x11083, 0x110AF, .lo),
  (0x110B0, 0x110B2, .mc), (0x110B3, 0x110B6, .mn), (0x110B7, 0x110B8, .mc),
  (0x110B9, 0x110BA, .mn), (0x110BB, 0x110BC, .po), (0x110BD, 0x110BD, .cf),
  (0x110BE, 0x110C1, .po), (0x110C2, 0x110C2, .mn), (0x110CD, 0x110CD, .cf),
  (0x110D0, 0x110E8, .lo), (0x110F0, 0x110F9, .nd), (0x11100, 0x11102, .mn),
  (0x11103, 0x11126, .lo), (0x11127, 0x1112B, .mn), (0x1112C, 0x1112C, .mc),
  (0x1112D, 0x11134, .mn), (0x11136, 0x1113F, .nd), (0x11140, 0x11143, .po),
  (0x11144, 0x11144, .lo), (0x11145, 0x11146, .mc), (0x11147, 0x11147, .lo),
  (0x11150, 0x11172, .lo), (0x11173, 0x11173, .mn), (0x11174, 0x11175, .po),
  (0x11176, 0x11176, .lo), (0x11180, 0x11181, .mn), (0x11182, 0x11182, .mc),
  (0x11183, 0x111B2, .lo), (0x111B3, 0x111B5, .mc), (0x111B6, 0x111BE, .mn),
  (0x111BF, 0x111C0, .mc), (0x111C1, 0x111C4, .lo), (0x111C5, 0x111C8, .po),
  (0x111C9, 0x111CC, .mn), (0x111CD, 0x111CD, .po), (0x111CE, 0x111CE, .mc),
  (0x111CF, 0x111CF, .mn), (0x111D0, 0x111D9, .nd), (0x111DA, 0x111DA, .lo),
  (0x111DB, 0x111DB, .po), (0x111DC, 0x111DC, .lo), (0x111DD, 0x111DF, .po),
  (0x111E1, 0x111F4, .no), (0x11200, 0x11211, .lo), (0x11213, 0x1122B, .lo),
  (0x1122C, 0x1122E, .mc), (0x1122F, 0x11231, .mn), (0x11232, 0x11233, .mc),
  (0x11234, 0x11234, .mn), (0x11235, 0x11235, .mc), (0x11236, 0x11237, .mn),
  (0x11238, 0x1123D, .po), (0x1123E, 0x1123E, .mn), (0x1123F, 0x11240, .lo),
  (0x11241, 0x11241, .mn), (0x11280, 0x11286, .lo), (0x11288, 0x11288, .lo),
  (0x1128A, 0x1128D, .lo), (0x1128F, 0x1129D, .lo), (0x1129F, 0x112A8, .lo),
  (0x112A9, 0x112A9, .po), (0x112B0, 0x112DE, .lo), (0x112DF, 0x112DF, .mn),
  (0x112E0, 0x112E2, .mc), (0x112E3, 0x112EA, .mn), (0x112F0, 0x112F9, .nd),
  (0x11300, 0x11301, .mn), (0x11302, 0x11303, .mc), (0x11305, 0x1130C, .lo),
  (0x1130F, 0x11310, .lo), (0x11313, 0x11328, .lo), (0x1132A, 0x11330, .lo),
  (0x11332, 0x11333, .lo), (0x11335, 0x11339, .lo), (0x1133B, 0x1133C, .mn),
  (0x1133D, 0x1133D, .lo), (0x1133E, 0x1133F, .mc), (0x11340, 0x11340, .mn),
  (0x11341, 0x11344, .mc), (0x11347, 0x11348, .mc), (0x1134B, 0x1134D, .mc),
  (0x11350, 0x11350, .lo), (0x11357, 0x11357, .mc), (0x1135D, 0x11361, .lo),
  (0x11362, 0x11363, .mc), (0x11366, 0x1136C, .mn), (0x11370, 0x11374, .mn),
  (0x11380, 0x11389, .lo), (0x1138B, 0x1138B, .lo), (0x1138E, 0x1138E, .lo),
  (0x11390, 0x113B5, .lo), (0x113B7, 0x113B7, .lo), (0x113B8, 0x113BA, .mc),
  (0x113BB, 0x113C0, .mn), (0x113C2, 0x113C2, .mc), (0x113C5, 0x113C5, .mc)]

/-- Ranges from U+113C7 to U+11D45. -/
def categoriesFrom113C7 : List (Nat × Nat × Category) := [
  (0x113C7, 0x113CA, .mc), (0x113CC, 0x113CD, .mc), (0x113CE, 0x113CE, .mn),
  (0x113CF, 0x113CF, .mc), (0x113D0, 0x113D0, .mn), (0x113D1, 0x113D1, .lo),
  (0x113D2, 0x113D2, .mn), (0x113D3, 0x113D3, .lo), (0x113D4, 0x113D5, .po),
  (0x113D7, 0x113D8, .po), (0x113E1, 0x113E2, .mn), (0x11400, 0x11434, .lo),
  (0x11435, 0x11437, .mc), (0x11438, 0x1143F, .mn), (0x11440, 0x11441, .mc),
  (0x11442, 0x11444, .mn), (0x11445, 0x11445, .mc), (0x11446, 0x11446, .mn),
  (0x11447, 0x1144A, .lo), (0x1144B, 0x1144F, .po), (0x11450, 0x11459, .nd),
  (0x1145A, 0x1145B, .po), (0x1145D, 0x1145D, .po), (0x1145E, 0x1145E, .mn),
  (0x1145F, 0x11461, .lo), (0x11480, 0x114AF, .lo), (0x114B0, 0x114B2, .mc),
  (0x114B3, 0x114B8, .mn), (0x114B9, 0x114B9, .mc), (0x114BA, 0x114BA, .mn),
  (0x114BB, 0x114BE, .mc), (0x114BF, 0x114C0, .mn), (0x114C1, 0x114C1, .mc),
  (0x114C2, 0x114C3, .mn), (0x114C4, 0x114C5, .lo), (0x114C6, 0x114C6, .po),
  (0x114C7, 0x114C7, .lo), (0x114D0, 0x114D9, .nd), (0x11580, 0x115AE, .lo),
  (0x115AF, 0x115B1, .mc), (0x115B2, 0x115B5, .mn), (0x115B8, 0x115BB, .mc),
  (0x115BC, 0x115BD, .mn), (0x115BE, 0x115BE, .mc), (0x115BF, 0x115C0, .mn),
  (0x115C1, 0x115D7, .po), (0x115D8, 0x115DB, .lo), (0x115DC, 0x115DD, .mn),
  (0x11600, 0x1162F, .lo), (0x11630, 0x11632, .mc), (0x11633, 0x1163A, .mn),
  (0x1163B, 0x1163C, .mc), (0x1163D, 0x1163D, .mn), (0x1163E, 0x1163E, .mc),
  (0x1163F, 0x11640, .mn), (0x11641, 0x11643, .po), (0x11644, 0x11644, .lo),
  (0x11650, 0x11659, .nd), (0x11660, 0x1166C, .po), (0x11680, 0x116AA, .lo),
  (0x116AB, 0x116AB, .mn), (0x116AC, 0x116AC, .mc), (0x116AD, 0x116AD, .mn),
  (0x116AE, 0x116AF, .mc), (0x116B0, 0x116B5, .mn), (0x116B6, 0x116B6, .mc),
  (0x116B7, 0x116B7, .mn), (0x116B8, 0x116B8, .lo), (0x116B9, 0x116B9, .po),
  (0x116C0, 0x116C9, .nd), (0x116D0, 0x116E3, .nd), (0x11700, 0x1171A, .lo),
  (0x1171D, 0x1171D, .mn), (0x1171E, 0x1171E, .mc), (0x1171F, 0x1171F, .mn),
  (0x11720, 0x11721, .mc), (0x11722, 0x11725, .mn), (0x11726, 0x11726, .mc),
  (0x11727, 0x1172B, .mn), (0x11730, 0x11739, .nd), (0x1173A, 0x1173B, .no),
  (0x1173C, 0x1173E, .po), (0x1173F, 0x1173F, .so), (0x11740, 0x11746, .lo),
  (0x11800, 0x1182B, .lo), (0x1182C, 0x1182E, .mc), (0x1182F, 0x11837, .mn),
  (0x11838, 0x11838, .mc), (0x11839, 0x1183A, .mn), (0x1183B, 0x1183B, .po),
  (0x118A0, 0x118BF, .lu), (0x118C0, 0x118DF, .ll), (0x118E0, 0x118E9, .nd),
  (0x118EA, 0x118F2, .no), (0x118FF, 0x11906, .lo), (0x11909, 0x11909, .lo),
  (0x1190C, 0x11913, .lo), (0x11915, 0x11916, .lo), (0x11918, 0x1192F, .lo),
  (0x11930, 0x11935, .mc), (0x11937, 0x11938, .mc), (0x1193B, 0x1193C, .mn),
  (0x1193D, 0x1193D, .mc), (0x1193E, 0x1193E, .mn), (0x1193F, 0x1193F, .lo),
  (0x11940, 0x11940, .mc), (0x11941, 0x11941, .lo), (0x11942, 0x11942, .mc),
  (0x11943, 0x11943, .mn), (0x11944, 0x11946, .po), (0x11950, 0x11959, .nd),
  (0x119A0, 0x119A7, .lo), (0x119AA, 0x119D0, .lo), (0x119D1, 0x119D3, .mc),
  (0x119D4, 0x119D7, .mn), (0x119DA, 0x119DB, .mn), (0x119DC, 0x119DF, .mc),
  (0x119E0, 0x119E0, .mn), (0x119E1, 0x119E1, .lo), (0x119E2, 0x119E2, .po),
  (0x119E3, 0x119E3, .lo), (0x119E4, 0x119E4, .mc), (0x11A00, 0x11A00, .lo),
  (0x11A01, 0x11A0A, .mn), (0x11A0B, 0x11A32, .lo), (0x11A33, 0x11A38, .mn),
  (0x11A39, 0x11A39, .mc), (0x11A3A, 0x11A3A, .lo), (0x11A3B, 0x11A3E, .mn),
  (0x11A3F, 0x11A46, .po), (0x11A47, 0x11A47, .mn), (0x11A50, 0x11A50, .lo),
  (0x11A51, 0x11A56, .mn), (0x11A57, 0x11A58, .mc), (0x11A59, 0x11A5B, .mn),
  (0x11A5C, 0x11A89, .lo), (0x11A8A, 0x11A96, .mn), (0x11A97, 0x11A97, .mc),
  (0x11A98, 0x11A99, .mn), (0x11A9A, 0x11A9C, .po), (0x11A9D, 0x11A9D, .lo),
  (0x11A9E, 0x11AA2, .po), (0x11AB0, 0x11AF8, .lo), (0x11B00, 0x11B09, .po),
  (0x11B60, 0x11B60, .mn), (0x11B61, 0x11B61, .mc), (0x11B62, 0x11B64, .mn),
  (0x11B65, 0x11B65, .mc), (0x11B66, 0x11B66, .mn), (0x11B67, 0x11B67, .mc),
  (0x11BC0, 0x11BE0, .lo), (0x11BE1, 0x11BE1, .po), (0x11BF0, 0x11BF9, .nd),
  (0x11C00, 0x11C08, .lo), (0x11C0A, 0x11C2E, .lo), (0x11C2F, 0x11C2F, .mc),
  (0x11C30, 0x11C36, .mn), (0x11C38, 0x11C3D, .mn), (0x11C3E, 0x11C3E, .mc),
  (0x11C3F, 0x11C3F, .mn), (0x11C40, 0x11C40, .lo), (0x11C41, 0x11C45, .po),
  (0x11C50, 0x11C59, .nd), (0x11C5A, 0x11C6C, .no), (0x11C70, 0x11C71, .po),
  (0x11C72, 0x11C8F, .lo), (0x11C92, 0x11CA7, .mn), (0x11CA9, 0x11CA9, .mc),
  (0x11CAA, 0x11CB0, .mn), (0x11CB1, 0x11CB1, .mc), (0x11CB2, 0x11CB3, .mn),
  (0x11CB4, 0x11CB4, .mc), (0x11CB5, 0x11CB6, .mn), (0x11D00, 0x11D06, .lo),
  (0x11D08, 0x11D09, .lo), (0x11D0B, 0x11D30, .lo), (0x11D31, 0x11D36, .mn),
  (0x11D3A, 0x11D3A, .mn), (0x11D3C, 0x11D3D, .mn), (0x11D3F, 0x11D45, .mn)]

/-- Ranges from U+11D46 to U+1D539. -/
def categoriesFrom11D46 : List (Nat × Nat × Category) := [
  (0x11D46, 0x11D46, .lo), (0x11D47, 0x11D47, .mn), (0x11D50, 0x11D59, .nd),
  (0x11D60, 0x11D65, .lo), (0x11D67, 0x11D68, .lo), (0x11D6A, 0x11D89, .lo),
  (0x11D8A, 0x11D8E, .mc), (0x11D90, 0x11D91, .mn), (0x11D93, 0x11D94, .mc),
  (0x11D95, 0x11D95, .mn), (0x11D96, 0x11D96, .mc), (0x11D97, 0x11D97, .mn),
  (0x11D98, 0x11D98, .lo), (0x11DA0, 0x11DA9, .nd), (0x11DB0, 0x11DD8, .lo),
  (0x11DD9, 0x11DD9, .lm), (0x11DDA, 0x11DDB, .lo), (0x11DE0, 0x11DE9, .nd),
  (0x11EE0, 0x11EF2, .lo), (0x11EF3, 0x11EF4, .mn), (0x11EF5, 0x11EF6, .mc),
  (0x11EF7, 0x11EF8, .po), (0x11F00, 0x11F01, .mn), (0x11F02, 0x11F02, .lo),
  (0x11F03, 0x11F03, .mc), (0x11F04, 0x11F10, .lo), (0x11F12, 0x11F33, .lo),
  (0x11F34, 0x11F35, .mc), (0x11F36, 0x11F3A, .mn), (0x11F3E, 0x11F3F, .mc),
  (0x11F40, 0x11F40, .mn), (0x11F41, 0x11F41, .mc), (0x11F42, 0x11F42, .mn),
  (0x11F43, 0x11F4F, .po), (0x11F50, 0x11F59, .nd), (0x11F5A, 0x11F5A, .mn),
  (0x11FB0, 0x11FB0, .lo), (0x11FC0, 0x11FD4, .no), (0x11FD5, 0x11FDC, .so),
  (0x11FDD, 0x11FE0, .sc), (0x11FE1, 0x11FF1, .so), (0x11FFF, 0x11FFF, .po),
  (0x12000, 0x12399, .lo), (0x12400, 0x1246E, .nl), (0x12470, 0x12474, .po),
  (0x12480, 0x12543, .lo), (0x12F90, 0x12FF0, .lo), (0x12FF1, 0x12FF2, .po),
  (0x13000, 0x1342F, .lo), (0x13430, 0x1343F, .cf), (0x13440, 0x13440, .mn),
  (0x13441, 0x13446, .lo), (0x13447, 0x13455, .mn), (0x13460, 0x143FA, .lo),
  (0x14400, 0x14646, .lo), (0x16100, 0x1611D, .lo), (0x1611E, 0x16129, .mn),
  (0x1612A, 0x1612C, .mc), (0x1612D, 0x1612F, .mn), (0x16130, 0x16139, .nd),
  (0x16800, 0x16A38, .lo), (0x16A40, 0x16A5E, .lo), (0x16A60, 0x16A69, .nd),
  (0x16A6E, 0x16A6F, .po), (0x16A70, 0x16ABE, .lo), (0x16AC0, 0x16AC9, .nd),
  (0x16AD0, 0x16AED, .lo), (0x16AF0, 0x16AF4, .mn), (0x16AF5, 0x16AF5, .po),
  (0x16B00, 0x16B2F, .lo), (0x16B30, 0x16B36, .mn), (0x16B37, 0x16B3B, .po),
  (0x16B3C, 0x16B3F, .so), (0x16B40, 0x16B43, .lm), (0x16B44, 0x16B44, .po),
  (0x16B45, 0x16B45, .so), (0x16B50, 0x16B59, .nd), (0x16B5B, 0x16B61, .no),
  (0x16B63, 0x16B77, .lo), (0x16B7D, 0x16B8F, .lo), (0x16D40, 0x16D42, .lm),
  (0x16D43, 0x16D6A, .lo), (0x16D6B, 0x16D6C, .lm), (0x16D6D, 0x16D6F, .po),
  (0x16D70, 0x16D79, .nd), (0x16E40, 0x16E5F, .lu), (0x16E60, 0x16E7F, .ll),
  (0x16E80, 0x16E96, .no), (0x16E97, 0x16E9A, .po), (0x16EA0, 0x16EB8, .lu),
  (0x16EBB, 0x16ED3, .ll), (0x16F00, 0x16F4A, .lo), (0x16F4F, 0x16F4F, .mn),
  (0x16F50, 0x16F50, .lo), (0x16F51, 0x16F87, .mc), (0x16F8F, 0x16F92, .mn),
  (0x16F93, 0x16F9F, .lm), (0x16FE0, 0x16FE1, .lm), (0x16FE2, 0x16FE2, .po),
  (0x16FE3, 0x16FE3, .lm), (0x16FE4, 0x16FE4, .mn), (0x16FF0, 0x16FF1, .mc),
  (0x16FF2, 0x16FF3, .lm), (0x16FF4, 0x16FF6, .nl), (0x17000, 0x18CD5, .lo),
  (0x18CFF, 0x18D1E, .lo), (0x18D80, 0x18DF2, .lo), (0x1AFF0, 0x1AFF3, .lm),
  (0x1AFF5, 0x1AFFB, .lm), (0x1AFFD, 0x1AFFE, .lm), (0x1B000, 0x1B122, .lo),
  (0x1B132, 0x1B132, .lo), (0x1B150, 0x1B152, .lo), (0x1B155, 0x1B155, .lo),
  (0x1B164, 0x1B167, .lo), (0x1B170, 0x1B2FB, .lo), (0x1BC00, 0x1BC6A, .lo),
  (0x1BC70, 0x1BC7C, .lo), (0x1BC80, 0x1BC88, .lo), (0x1BC90, 0x1BC99, .lo),
  (0x1BC9C, 0x1BC9C, .so), (0x1BC9D, 0x1BC9E, .mn), (0x1BC9F, 0x1BC9F, .po),
  (0x1BCA0, 0x1BCA3, .cf), (0x1CC00, 0x1CCEF, .so), (0x1CCF0, 0x1CCF9, .nd),
  (0x1CCFA, 0x1CCFC, .so), (0x1CD00, 0x1CEB3, .so), (0x1CEBA, 0x1CED0, .so),
  (0x1CEE0, 0x1CEEF, .so), (0x1CEF0, 0x1CEF0, .sm), (0x1CF00, 0x1CF2D, .mn),
  (0x1CF30, 0x1CF46, .mn), (0x1CF50, 0x1CFC3, .so), (0x1D000, 0x1D0F5, .so),
  (0x1D100, 0x1D126, .so), (0x1D129, 0x1D164, .so), (0x1D165, 0x1D166, .mc),
  (0x1D167, 0x1D169, .mn), (0x1D16A, 0x1D16C, .so), (0x1D16D, 0x1D172, .mc),
  (0x1D173, 0x1D17A, .cf), (0x1D17B, 0x1D182, .mn), (0x1D183, 0x1D184, .so),
  (0x1D185, 0x1D18B, .mn), (0x1D18C, 0x1D1A9, .so), (0x1D1AA, 0x1D1AD, .mn),
  (0x1D1AE, 0x1D1EA, .so), (0x1D200, 0x1D241, .so), (0x1D242, 0x1D244, .mn),
  (0x1D245, 0x1D245, .so), (0x1D2C0, 0x1D2D3, .no), (0x1D2E0, 0x1D2F3, .no),
  (0x1D300, 0x1D356, .so), (0x1D360, 0x1D378, .no), (0x1D400, 0x1D419, .lu),
  (0x1D41A, 0x1D433, .ll), (0x1D434, 0x1D44D, .lu), (0x1D44E, 0x1D454, .ll),
  (0x1D456, 0x1D467, .ll), (0x1D468, 0x1D481, .lu), (0x1D482, 0x1D49B, .ll),
  (0x1D49C, 0x1D49C, .lu), (0x1D49E, 0x1D49F, .lu), (0x1D4A2, 0x1D4A2, .lu),
  (0x1D4A5, 0x1D4A6, .lu), (0x1D4A9, 0x1D4AC, .lu), (0x1D4AE, 0x1D4B5, .lu),
  (0x1D4B6, 0x1D4B9, .ll), (0x1D4BB, 0x1D4BB, .ll), (0x1D4BD, 0x1D4C3, .ll),
  (0x1D4C5, 0x1D4CF, .ll), (0x1D4D0, 0x1D4E9, .lu), (0x1D4EA, 0x1D503, .ll),
  (0x1D504, 0x1D505, .lu), (0x1D507, 0x1D50A, .lu), (0x1D50D, 0x1D514, .lu),
  (0x1D516, 0x1D51C, .lu), (0x1D51E, 0x1D537, .ll), (0x1D538, 0x1D539, .lu)]

/-- Ranges from U+1D53B to U+1F8BB. -/
def categoriesFrom1D53B : List (Nat × Nat × Category) := [
  (0x1D53B, 0x1D53E, .lu), (0x1D540, 0x1D544, .lu), (0x1D546, 0x1D546, .lu),
  (0x1D54A, 0x1D550, .lu), (0x1D552, 0x1D56B, .ll), (0x1D56C, 0x1D585, .lu),
  (0x1D586, 0x1D59F, .ll), (0x1D5A0, 0x1D5B9, .lu), (0x1D5BA, 0x1D5D3, .ll),
  (0x1D5D4, 0x1D5ED, .lu), (0x1D5EE, 0x1D607, .ll), (0x1D608, 0x1D621, .lu),
  (0x1D622, 0x1D63B, .ll), (0x1D63C, 0x1D655, .lu), (0x1D656, 0x1D66F, .ll),
  (0x1D670, 0x1D689, .lu), (0x1D68A, 0x1D6A5, .ll), (0x1D6A8, 0x1D6C0, .lu),
  (0x1D6C1, 0x1D6C1, .sm), (0x1D6C2, 0x1D6DA, .ll), (0x1D6DB, 0x1D6DB, .sm),
  (0x1D6DC, 0x1D6E1, .ll), (0x1D6E2, 0x1D6FA, .lu), (0x1D6FB, 0x1D6FB, .sm),
  (0x1D6FC, 0x1D714, .ll), (0x1D715, 0x1D715, .sm), (0x1D716, 0x1D71B, .ll),
  (0x1D71C, 0x1D734, .lu), (0x1D735, 0x1D735, .sm), (0x1D736, 0x1D74E, .ll),
  (0x1D74F, 0x1D74F, .sm), (0x1D750, 0x1D755, .ll), (0x1D756, 0x1D76E, .lu),
  (0x1D76F, 0x1D76F, .sm), (0x1D770, 0x1D788, .ll), (0x1D789, 0x1D789, .sm),
  (0x1D78A, 0x1D78F, .ll), (0x1D790, 0x1D7A8, .lu), (0x1D7A9, 0x1D7A9, .sm),
  (0x1D7AA, 0x1D7C2, .ll), (0x1D7C3, 0x1D7C3, .sm), (0x1D7C4, 0x1D7C9, .ll),
  (0x1D7CE, 0x1D7FF, .nd), (0x1D800, 0x1D9FF, .so), (0x1DA00, 0x1DA36, .mn),
  (0x1DA37, 0x1DA3A, .so), (0x1DA3B, 0x1DA6C, .mn), (0x1DA6D, 0x1DA74, .so),
  (0x1DA75, 0x1DA75, .mn), (0x1DA76, 0x1DA83, .so), (0x1DA84, 0x1DA84, .mn),
  (0x1DA85, 0x1DA86, .so), (0x1DA87, 0x1DA8B, .po), (0x1DA9B, 0x1DA9F, .mn),
  (0x1DAA1, 0x1DAAF, .mn), (0x1DF00, 0x1DF09, .ll), (0x1DF0A, 0x1DF0A, .lo),
  (0x1DF0B, 0x1DF1E, .ll), (0x1DF25, 0x1DF2A, .ll), (0x1E000, 0x1E006, .mn),
  (0x1E008, 0x1E018, .mn), (0x1E01B, 0x1E021, .mn), (0x1E023, 0x1E024, .mn),
  (0x1E026, 0x1E02A, .mn), (0x1E030, 0x1E06D, .lm), (0x1E08F, 0x1E08F, .mn),
  (0x1E100, 0x1E12C, .lo), (0x1E130, 0x1E136, .mn), (0x1E137, 0x1E13D, .lm),
  (0x1E140, 0x1E149, .nd), (0x1E14E, 0x1E14E, .lo), (0x1E14F, 0x1E14F, .so),
  (0x1E290, 0x1E2AD, .lo), (0x1E2AE, 0x1E2AE, .mn), (0x1E2C0, 0x1E2EB, .lo),
  (0x1E2EC, 0x1E2EF, .mn), (0x1E2F0, 0x1E2F9, .nd), (0x1E2FF, 0x1E2FF, .sc),
  (0x1E4D0, 0x1E4EA, .lo), (0x1E4EB, 0x1E4EB, .lm), (0x1E4EC, 0x1E4EF, .mn),
  (0x1E4F0, 0x1E4F9, .nd), (0x1E5D0, 0x1E5ED, .lo), (0x1E5EE, 0x1E5EF, .mn),
  (0x1E5F0, 0x1E5F0, .lo), (0x1E5F1, 0x1E5FA, .nd), (0x1E5FF, 0x1E5FF, .po),
  (0x1E6C0, 0x1E6DE, .lo), (0x1E6E0, 0x1E6E2, .lo), (0x1E6E3, 0x1E6E3, .mn),
  (0x1E6E4, 0x1E6E5, .lo), (0x1E6E6, 0x1E6E6, .mn), (0x1E6E7, 0x1E6ED, .lo),
  (0x1E6EE, 0x1E6EF, .mn), (0x1E6F0, 0x1E6F4, .lo), (0x1E6F5, 0x1E6F5, .mn),
  (0x1E6FE, 0x1E6FE, .lo), (0x1E6FF, 0x1E6FF, .lm), (0x1E7E0, 0x1E7E6, .lo),
  (0x1E7E8, 0x1E7EB, .lo), (0x1E7ED, 0x1E7EE, .lo), (0x1E7F0, 0x1E7FE, .lo),
  (0x1E800, 0x1E8C4, .lo), (0x1E8C7, 0x1E8CF, .no), (0x1E8D0, 0x1E8D6, .mn),
  (0x1E900, 0x1E921, .lu), (0x1E922, 0x1E943, .ll), (0x1E944, 0x1E94A, .mn),
  (0x1E94B, 0x1E94B, .lm), (0x1E950, 0x1E959, .nd), (0x1E95E, 0x1E95F, .po),
  (0x1EC71, 0x1ECAB, .no), (0x1ECAC, 0x1ECAC, .so), (0x1ECAD, 0x1ECAF, .no),
  (0x1ECB0, 0x1ECB0, .sc), (0x1ECB1, 0x1ECB4, .no), (0x1ED01, 0x1ED2D, .no),
  (0x1ED2E, 0x1ED2E, .so), (0x1ED2F, 0x1ED3D, .no), (0x1EE00, 0x1EE03, .lo),
  (0x1EE05, 0x1EE1F, .lo), (0x1EE21, 0x1EE22, .lo), (0x1EE24, 0x1EE24, .lo),
  (0x1EE27, 0x1EE27, .lo), (0x1EE29, 0x1EE32, .lo), (0x1EE34, 0x1EE37, .lo),
  (0x1EE39, 0x1EE39, .lo), (0x1EE3B, 0x1EE3B, .lo), (0x1EE42, 0x1EE42, .lo),
  (0x1EE47, 0x1EE47, .lo), (0x1EE49, 0x1EE49, .lo), (0x1EE4B, 0x1EE4B, .lo),
  (0x1EE4D, 0x1EE4F, .lo), (0x1EE51, 0x1EE52, .lo), (0x1EE54, 0x1EE54, .lo),
  (0x1EE57, 0x1EE57, .lo), (0x1EE59, 0x1EE59, .lo), (0x1EE5B, 0x1EE5B, .lo),
  (0x1EE5D, 0x1EE5D, .lo), (0x1EE5F, 0x1EE5F, .lo), (0x1EE61, 0x1EE62, .lo),
  (0x1EE64, 0x1EE64, .lo), (0x1EE67, 0x1EE6A, .lo), (0x1EE6C, 0x1EE72, .lo),
  (0x1EE74, 0x1EE77, .lo), (0x1EE79, 0x1EE7C, .lo), (0x1EE7E, 0x1EE7E, .lo),
  (0x1EE80, 0x1EE89, .lo), (0x1EE8B, 0x1EE9B, .lo), (0x1EEA1, 0x1EEA3, .lo),
  (0x1EEA5, 0x1EEA9, .lo), (0x1EEAB, 0x1EEBB, .lo), (0x1EEF0, 0x1EEF1, .sm),
  (0x1F000, 0x1F02B, .so), (0x1F030, 0x1F093, .so), (0x1F0A0, 0x1F0AE, .so),
  (0x1F0B1, 0x1F0BF, .so), (0x1F0C1, 0x1F0CF, .so), (0x1F0D1, 0x1F0F5, .so),
  (0x1F100, 0x1F10C, .no), (0x1F10D, 0x1F1AD, .so), (0x1F1E6, 0x1F202, .so),
  (0x1F210, 0x1F23B, .so), (0x1F240, 0x1F248, .so), (0x1F250, 0x1F251, .so),
  (0x1F260, 0x1F265, .so), (0x1F300, 0x1F3FA, .so), (0x1F3FB, 0x1F3FF, .sk),
  (0x1F400, 0x1F6D8, .so), (0x1F6DC, 0x1F6EC, .so), (0x1F6F0, 0x1F6FC, .so),
  (0x1F700, 0x1F7D9, .so), (0x1F7E0, 0x1F7EB, .so), (0x1F7F0, 0x1F7F0, .so),
  (0x1F800, 0x1F80B, .so), (0x1F810, 0x1F847, .so), (0x1F850, 0x1F859, .so),
  (0x1F860, 0x1F887, .so), (0x1F890, 0x1F8AD, .so), (0x1F8B0, 0x1F8BB, .so)]

/-- Ranges from U+1F8C0 to U+10FFFD. -/
def categoriesFrom1F8C0 : List (Nat × Nat × Category) := [
  (0x1F8C0, 0x1F8C1, .so), (0x1F8D0, 0x1F8D8, .sm), (0x1F900, 0x1FA57, .so),
  (0x1FA60, 0x1FA6D, .so), (0x1FA70, 0x1FA7C, .so), (0x1FA80, 0x1FA8A, .so),
  (0x1FA8E, 0x1FAC6, .so), (0x1FAC8, 0x1FAC8, .so), (0x1FACD, 0x1FADC, .so),
  (0x1FADF, 0x1FAEA, .so), (0x1FAEF, 0x1FAF8, .so), (0x1FB00, 0x1FB92, .so),
  (0x1FB94, 0x1FBEF, .so), (0x1FBF0, 0x1FBF9, .nd), (0x1FBFA, 0x1FBFA, .so),
  (0x20000, 0x2A6DF, .lo), (0x2A700, 0x2B81D, .lo), (0x2B820, 0x2CEAD, .lo),
  (0x2CEB0, 0x2EBE0, .lo), (0x2EBF0, 0x2EE5D, .lo), (0x2F800, 0x2FA1D, .lo),
  (0x30000, 0x3134A, .lo), (0x31350, 0x33479, .lo), (0xE0001, 0xE0001, .cf),
  (0xE0020, 0xE007F, .cf), (0xE0100, 0xE01EF, .mn), (0xF0000, 0xFFFFD, .co),
  (0x100000, 0x10FFFD, .co)]

/-- The assigned ranges outside `letterPairs`, as tables with the first code point of each. -/
def categoryTables : List (Nat × List (Nat × Nat × Category)) := [
  (0x0, categoriesFrom0),
  (0x5C7, categoriesFrom5C7),
  (0xB32, categoriesFromB32),
  (0xF80, categoriesFromF80),
  (0x1AE0, categoriesFrom1AE0),
  (0x2107, categoriesFrom2107),
  (0x2D00, categoriesFrom2D00),
  (0xA7AA, categoriesFromA7AA),
  (0xFE37, categoriesFromFE37),
  (0x10A0C, categoriesFrom10A0C),
  (0x113C7, categoriesFrom113C7),
  (0x11D46, categoriesFrom11D46),
  (0x1D53B, categoriesFrom1D53B),
  (0x1F8C0, categoriesFrom1F8C0)]

/-- The category of the range that holds a code point; a gap between ranges is unassigned. -/
def categoryInTable (code : Nat) : List (Nat × Nat × Category) → Category
  | [] => .cn
  | (first, last, category) :: rest =>
    if code < first then .cn
    else if code ≤ last then category
    else categoryInTable code rest

/-- The table that can hold a code point is the last one that begins at or before it. -/
def categoryInTables (code : Nat) (best : List (Nat × Nat × Category)) :
    List (Nat × List (Nat × Nat × Category)) → Category
  | [] => categoryInTable code best
  | (first, table) :: rest =>
    if code < first then categoryInTable code best else categoryInTables code table rest

/-- In a run of letter pairs capitals stand at even distances from the first. -/
def categoryInPairs? (code : Nat) : Option Category :=
  match letterPairs.find? fun (first, last) => first ≤ code && code ≤ last with
  | some (first, _) => some (if (code - first) % 2 = 0 then .lu else .ll)
  | none => none

def generalCategory (c : Char) : Category :=
  match categoryInPairs? c.toNat with
  | some category => category
  | none => categoryInTables c.toNat [] categoryTables

end RecordQuery.Text
