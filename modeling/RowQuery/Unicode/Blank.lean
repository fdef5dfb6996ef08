import RowQuery.Unicode.CodeRange

/-! White space. -/

namespace RowQuery.Unicode

/-- The code points with the white space property. -/
def blankRanges : List (Nat × Nat) := [
  (0x9, 0xD), (0x20, 0x20), (0x85, 0x85), (0xA0, 0xA0), (0x1680, 0x1680), (0x2000, 0x200A),
  (0x2028, 0x2029), (0x202F, 0x202F), (0x205F, 0x205F), (0x3000, 0x3000)]

/-- Whether a character is white space. -/
def isBlank (char : Char) : Bool :=
  inRanges blankRanges char.toNat

/-- Drops the leading white space of a text. -/
def dropBlank (text : List Char) : List Char :=
  text.dropWhile isBlank

end RowQuery.Unicode
