import BindingRepair.Text.Range

namespace BindingRepair.Native

def nameRanges : List (Nat × Nat) :=
  [(0xa8, 0xa8), (0xaa, 0xaa), (0xad, 0xad), (0xaf, 0xaf), (0xb2, 0xb5), (0xb7, 0xba),
    (0xbc, 0xbe), (0xc0, 0xd6), (0xd8, 0xf6), (0xf8, 0x167f), (0x1681, 0x180d), (0x180f, 0x1fff),
    (0x200b, 0x200d), (0x202a, 0x202e), (0x203f, 0x2040), (0x2054, 0x2054), (0x2060, 0x218f),
    (0x2460, 0x24ff), (0x2776, 0x2793), (0x2c00, 0x2dff), (0x2e80, 0x2fff), (0x3004, 0x3007),
    (0x3021, 0x302f), (0x3031, 0xd7ff), (0xf900, 0xfd3d), (0xfd40, 0xfdcf), (0xfdf0, 0xfe44),
    (0xfe47, 0xfffd), (0x10000, 0x1fffd), (0x20000, 0x2fffd), (0x30000, 0x3fffd),
    (0x40000, 0x4fffd), (0x50000, 0x5fffd), (0x60000, 0x6fffd), (0x70000, 0x7fffd),
    (0x80000, 0x8fffd), (0x90000, 0x9fffd), (0xa0000, 0xafffd), (0xb0000, 0xbfffd),
    (0xc0000, 0xcfffd), (0xd0000, 0xdfffd), (0xe0000, 0xefffd)]

/-- The code points that may stand in a name but not first: marks that combine with others. -/
def combiningRanges : List (Nat × Nat) :=
  [(0x300, 0x36f), (0x1dc0, 0x1dff), (0x20d0, 0x20ff), (0xfe20, 0xfe2f)]

def wideSpaceRanges : List (Nat × Nat) :=
  [(0x85, 0x85), (0xa0, 0xa0), (0x1680, 0x1680), (0x180e, 0x180e), (0x2000, 0x200a),
    (0x2028, 0x2029), (0x202f, 0x202f), (0x205f, 0x205f), (0x3000, 0x3000)]

def isAscii (c : Char) : Bool :=
  c.toNat < 128

def isWideSpace (c : Char) : Bool :=
  Text.inRanges wideSpaceRanges c.toNat

def isNamePart (c : Char) : Bool :=
  c.isAlphanum || c = '_' || c = '$' || (!isAscii c && Text.inRanges nameRanges c.toNat)

def isNameStart (c : Char) : Bool :=
  isNamePart c && !c.isDigit && !Text.inRanges combiningRanges c.toNat

end BindingRepair.Native
