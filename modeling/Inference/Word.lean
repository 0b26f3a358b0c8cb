/-
Machine words and the memory they measure.

Sizes are counted in exact natural numbers.  A size is usable if it fits a machine word,
and one region of memory can hold about half as many bytes as there are words.
-/
namespace Inference

/-- Number of distinct machine words: two to the power of 64. -/
def wordLimit : Nat := 0x10000000000000000

/-- Number of distinct short words: two to the power of 32. -/
def shortWordLimit : Nat := 0x100000000

/-- The largest number of bytes one region of memory may have: two to the power of 63, less one. -/
def regionLimit : Nat := 0x7fffffffffffffff

/-- What asking for a larger region ends with. -/
def capacityOverflow : String := "capacity overflow"

/-- The product, if it fits a machine word. -/
def checkedMul (a b : Nat) : Option Nat := if a * b < wordLimit then some (a * b) else none

/-- The sum, if it fits a machine word. -/
def checkedAdd (a b : Nat) : Option Nat := if a + b < wordLimit then some (a + b) else none

end Inference
