/-
Lists written as text.

A list of texts is written with a separator between its entries and read back by
cutting at every separator.  Cutting never yields an empty list: a text without
separator is one entry, and the empty text is one empty entry.
-/
namespace Inference.Text

/-- Puts `c` in front of the first entry. -/
def consFirst (c : Char) : List (List Char) → List (List Char)
  | [] => [[c]]
  | entry :: entries => (c :: entry) :: entries

/-- Cuts a text at every `separator`. -/
def split (separator : Char) : List Char → List (List Char)
  | [] => [[]]
  | c :: rest =>
    if c = separator then [] :: split separator rest else consFirst c (split separator rest)

/-- Writes the entries one after another with `separator` between them. -/
def join (separator : List Char) : List (List Char) → List Char
  | [] => []
  | [entry] => entry
  | entry :: entries => entry ++ separator ++ join separator entries

/-- The two sides of the first `separator`, if there is one. -/
def cut? (separator : Char) : List Char → Option (List Char × List Char)
  | [] => none
  | c :: rest =>
    if c = separator then some ([], rest)
    else (cut? separator rest).map fun (before, after) => (c :: before, after)

theorem split_ne_nil (separator : Char) (text : List Char) : split separator text ≠ [] := by
  cases text with
  | nil => simp [split]
  | cons c rest =>
    unfold split
    split
    · simp
    · cases split separator rest <;> simp [consFirst]

end Inference.Text
