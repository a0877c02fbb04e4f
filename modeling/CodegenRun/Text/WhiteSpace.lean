/-
CodegenRun/Text/WhiteSpace.lean

White space of all scripts: the characters of the property White_Space.
-/
import CodegenRun.Text.Ranges

namespace CodegenRun

namespace Text

/-- The ranges of code points that are white space. -/
def whiteSpace : List (Nat × Nat) := [
  (0x9, 0xD), (0x20, 0x20), (0x85, 0x85), (0xA0, 0xA0), (0x1680, 0x1680), (0x2000, 0x200A),
  (0x2028, 0x2029), (0x202F, 0x202F), (0x205F, 0x205F), (0x3000, 0x3000)]

/-- Whether a character is white space. -/
def isWhiteSpace (c : Char) : Bool := inRanges c.toNat whiteSpace

/-- A text without the white space at both ends. -/
def trimmed (s : List Char) : List Char :=
  ((s.dropWhile isWhiteSpace).reverse.dropWhile isWhiteSpace).reverse

end Text

end CodegenRun
