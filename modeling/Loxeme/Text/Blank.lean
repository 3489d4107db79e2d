import Loxeme.Text.CodeRange

/-!
# White space

The characters with the Unicode property White_Space, twenty-five of them, and the text between the first and the last
character that is not one.
-/

namespace Loxeme

/-- The white-space characters. -/
def whiteSpaceRanges : List CodeRange :=
  [⟨0x9, 0xD⟩, ⟨0x20, 0x20⟩, ⟨0x85, 0x85⟩, ⟨0xA0, 0xA0⟩, ⟨0x1680, 0x1680⟩, ⟨0x2000, 0x200A⟩, ⟨0x2028, 0x2029⟩,
   ⟨0x202F, 0x202F⟩, ⟨0x205F, 0x205F⟩, ⟨0x3000, 0x3000⟩]

/-- Whether a character is white space. -/
def isWhiteSpace (c : Char) : Bool := covers whiteSpaceRanges c

/-- The text without the white space at its two ends. -/
def trim (t : List Char) : List Char := ((t.dropWhile isWhiteSpace).reverse.dropWhile isWhiteSpace).reverse

example : trim ['\t', 'a', ' ', 'b', ' '] = ['a', ' ', 'b'] := by decide

end Loxeme
