import Mathlib.Data.List.DropRight

/-! # Text as lists of characters

The whitespace of the Unicode standard and the trimming operations that are defined by it.
-/

namespace Foundations.Text

/-- The characters with the property `White_Space`. -/
def isWhitespace (character : Char) : Bool :=
  let code := character.toNat
  (9 ≤ code && code ≤ 13) || code == 0x20 || code == 0x85 || code == 0xA0 || code == 0x1680 ||
    (0x2000 ≤ code && code ≤ 0x200A) || code == 0x2028 || code == 0x2029 || code == 0x202F ||
    code == 0x205F || code == 0x3000

def trim (text : List Char) : List Char :=
  (text.dropWhile isWhitespace).rdropWhile isWhitespace

def trimEndMatches (text : List Char) (removed : Char) : List Char :=
  text.rdropWhile (· == removed)

end Foundations.Text
