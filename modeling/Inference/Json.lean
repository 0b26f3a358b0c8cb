/-
JSON values.

Numbers are kept apart by how they are written: whole numbers are exact integers, and a
number written with fraction digits is a mantissa scaled by a power of ten.  Objects keep
the order of their fields.
-/
import Inference.Text.Split
import Inference.Text.Numeral

namespace Inference

/-- A JSON value. -/
inductive Json where
  | null
  | bool (value : Bool)
  | whole (value : Int)
  /-- A number written with `places` digits behind the point. -/
  | fraction (mantissa : Int) (places : Nat)
  | text (value : String)
  | list (items : List Json)
  | object (fields : List (String × Json))
  deriving Inhabited

namespace Json

/-- The value of the first field called `name`. -/
def field? (name : String) : List (String × Json) → Option Json
  | [] => none
  | (key, value) :: rest => if key = name then some value else field? name rest

/-! ### Printing

Indented by two blanks per level, one item or field to a line.
-/

/-- A hexadecimal digit in lower case. -/
def hexDigit (n : Nat) : Char :=
  if n % 16 < 10 then Text.digit (n % 16) else Char.ofNat ('a'.toNat + (n % 16 - 10))

/-- A character inside quotes.  Quotes, backslashes and control characters are escaped. -/
def escape (c : Char) : List Char :=
  if c = '"' then ['\\', '"']
  else if c = '\\' then ['\\', '\\']
  else if c = '\n' then ['\\', 'n']
  else if c = '\r' then ['\\', 'r']
  else if c = '\t' then ['\\', 't']
  else if c.toNat = 8 then ['\\', 'b']
  else if c.toNat = 12 then ['\\', 'f']
  else if c.toNat < 32 then ['\\', 'u', '0', '0', hexDigit (c.toNat / 16), hexDigit (c.toNat % 16)]
  else [c]

/-- A text in quotes. -/
def quote (text : String) : List Char := '"' :: text.toList.flatMap escape ++ ['"']

/-- A whole number. -/
def showInt : Int → List Char
  | .ofNat n => Text.decimal n
  | .negSucc n => '-' :: Text.decimal (n + 1)

/-- Blanks in front of a line at the given depth. -/
def indent (depth : Nat) : List Char := List.replicate (2 * depth) ' '

/-- Encloses lines that belong one level deeper. -/
def enclose (opening closing : Char) (depth : Nat) (lines : List (List Char)) : List Char :=
  if lines.isEmpty then [opening, closing]
  else opening :: '\n' :: Text.join [',', '\n'] (lines.map (indent (depth + 1) ++ ·))
    ++ '\n' :: indent depth ++ [closing]

mutual

/-- The value, with lines after the first at the given depth. -/
def print (depth : Nat) : Json → List Char
  | null => ['n', 'u', 'l', 'l']
  | bool true => ['t', 'r', 'u', 'e']
  | bool false => ['f', 'a', 'l', 's', 'e']
  | whole value => showInt value
  | fraction mantissa places => showInt mantissa ++ ['e', '-'] ++ Text.decimal places
  | text value => quote value
  | list items => enclose '[' ']' depth (printItems (depth + 1) items)
  | object fields => enclose '\x7b' '\x7d' depth (printFields (depth + 1) fields)

/-- Each item on its own. -/
def printItems (depth : Nat) : List Json → List (List Char)
  | [] => []
  | item :: rest => print depth item :: printItems depth rest

/-- Each field on its own, name first. -/
def printFields (depth : Nat) : List (String × Json) → List (List Char)
  | [] => []
  | (name, value) :: rest => (quote name ++ [':', ' '] ++ print depth value)
      :: printFields depth rest

end

/-- The value on as many lines as it takes. -/
def pretty (value : Json) : String := String.ofList (print 0 value)

end Json

end Inference
