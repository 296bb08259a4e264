import Accessors.Text.CodePoints

/-!
# Blank text

The Unicode property White_Space, version 17.0.

* `isBlank`: nothing but white space, or nothing at all.
-/

namespace Accessors.Text

/-- Code points with the property White_Space. -/
def spaceRanges : List (Nat × Nat) :=
  [(0x9, 0xD), (0x20, 0x20), (0x85, 0x85), (0xA0, 0xA0), (0x1680, 0x1680), (0x2000, 0x200A),
   (0x2028, 0x2029), (0x202F, 0x202F), (0x205F, 0x205F), (0x3000, 0x3000)]

/-- A character with the property White_Space. -/
def isSpace (c : Char) : Bool := inRanges spaceRanges c

/-- A text that is empty once its white space is trimmed. -/
def isBlank (s : List Char) : Bool := s.all isSpace

end Accessors.Text
