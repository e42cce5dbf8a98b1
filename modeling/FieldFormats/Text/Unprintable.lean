import FieldFormats.Text.Category
/-! # Characters that are not printed as they are

Separators other than the space, control and format characters, private use, unassigned code
points, the characters that extend the one before them, and the fillers of Hangul, which are letters
without a shape. The half-width voicing marks of katakana extend the character before them too but
have a shape of their own, so they are printed.
-/
namespace FieldFormats.Text

/-- Characters other than nonspacing and enclosing marks that extend the one before them. -/
def otherExtenderRanges : Ranges := .ofLines
  [ "9BE 9D7 B3E B57 BBE BD7 CC0 CC2 CC7-CC8 CCA-CCB CD5-CD6 D3E D57 DCF DDF 1715 1734 1B35 1B3B",
    "1B3D 1B43-1B44 1BAA 1BF2-1BF3 200C 302E-302F A953 A9C0 111C0 11235 1133E 1134D 11357 113B8",
    "113C2 113C5 113C7-113C9 113CF 114B0 114BD 115AF 116B6 11930 1193D 11F41 16FF0-16FF1",
    "1D165-1D166 1D16D-1D172 E0020-E007F" ]

def fillerRanges : Ranges := .ofLines [ "115F-1160 3164 FFA0" ]

def isShapeless (c : Char) : Bool :=
  (Category.separators ++ Category.others).any (·.contains c)

/-- Marks that are drawn over the character before them, and what else extends it. -/
def isExtender (c : Char) : Bool :=
  Category.nonspacingMark.contains c || Category.enclosingMark.contains c ||
    otherExtenderRanges.contains c

def isUnprintable (c : Char) : Bool :=
  (isShapeless c && c ≠ ' ') || isExtender c || fillerRanges.contains c

end FieldFormats.Text
