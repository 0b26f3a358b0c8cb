/-
Names of the members of a fixed list.

A member has one name that is printed and may have others that are only understood.
Reading ignores the case of the ASCII letters and of no other character.
-/
namespace Inference.Text

/-- The lower case of an ASCII letter; every other character stays. -/
def lowerChar (c : Char) : Char :=
  if 'A'.toNat ≤ c.toNat && c.toNat ≤ 'Z'.toNat then Char.ofNat (c.toNat + 32) else c

/-- The text with its ASCII letters in lower case. -/
def lower (text : List Char) : List Char := text.map lowerChar

/-- Whether two texts differ at most in the case of ASCII letters. -/
def sameName (a b : List Char) : Bool := lower a == lower b

/-- The first member of `members` that goes by `text`. -/
def findByName? {α : Type} (names : α → List String) (members : List α) (text : List Char) :
    Option α :=
  members.find? fun member => (names member).any fun name => sameName name.toList text

end Inference.Text
