import AliasBinding.Text.CodePoints

/-!
# Blank characters

The characters with the Unicode property White_Space, and the control characters.
-/

namespace AliasBinding.Text

/-- The code points with the property White_Space. -/
def blank : CodePoints := [
  (0x0009, 0x000D), (0x0020, 0x0020), (0x0085, 0x0085), (0x00A0, 0x00A0), (0x1680, 0x1680),
  (0x2000, 0x200A), (0x2028, 0x2029), (0x202F, 0x202F), (0x205F, 0x205F), (0x3000, 0x3000)]

/-- Whether `c` has the property White_Space. -/
def isBlank (c : Char) : Bool := blank.has c.toNat

/-- Whether `c` is a control character, of the category Cc. -/
def isControl (c : Char) : Bool :=
  c.toNat < 0x20 || (0x7F ≤ c.toNat && c.toNat < 0xA0)

/-- Whether `s` is empty or has only blank characters. -/
def isBlankText (s : String) : Bool := s.toList.all isBlank

end AliasBinding.Text
