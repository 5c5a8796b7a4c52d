import Formula.Unicode.Ranges

/-!
# Blanks

The Unicode property White_Space, as ascending ranges of code points. Zero-width characters and the
byte order mark are not in it.
-/

namespace Formula.Unicode

/-- Code points with the property White_Space. -/
def blankRanges : List (Nat × Nat) :=
  [(0x9, 0xD), (0x20, 0x20), (0x85, 0x85), (0xA0, 0xA0), (0x1680, 0x1680), (0x2000, 0x200A),
   (0x2028, 0x2029), (0x202F, 0x202F), (0x205F, 0x205F), (0x3000, 0x3000)]

/-- Characters that separate lexemes and are otherwise skipped. -/
def isBlank (c : Char) : Bool := inRanges blankRanges c.toNat

end Formula.Unicode
