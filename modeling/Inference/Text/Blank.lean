/-
White space.

The characters are those with the property `White_Space` of the Unicode Character
Database: the five ASCII controls, the space, and nineteen more.  Trimming removes
them from both ends of a text and leaves the inside alone.
-/
namespace Inference.Text

/-- Code points of white space, as closed ranges. -/
def blankRanges : List (Nat × Nat) :=
  [(0x09, 0x0D), (0x20, 0x20), (0x85, 0x85), (0xA0, 0xA0), (0x1680, 0x1680), (0x2000, 0x200A),
   (0x2028, 0x2029), (0x202F, 0x202F), (0x205F, 0x205F), (0x3000, 0x3000)]

/-- Whether a character is white space. -/
def isBlank (c : Char) : Bool :=
  blankRanges.any fun (low, high) => low ≤ c.toNat && c.toNat ≤ high

/-- Removes white space from the front. -/
def trimFront (text : List Char) : List Char := text.dropWhile isBlank

/-- Removes white space from the back. -/
def trimBack (text : List Char) : List Char := (text.reverse.dropWhile isBlank).reverse

/-- Removes white space from both ends. -/
def trim (text : List Char) : List Char := trimBack (trimFront text)

end Inference.Text
