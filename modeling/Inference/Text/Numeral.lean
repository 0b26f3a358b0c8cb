/-
Whole numbers in decimal.

A number is printed without leading zeros.  The reader takes more than the printer
writes: one `+` in front and any number of zeros.  It refuses signs alone, blanks and
every character that is not an ASCII digit, and it refuses numbers at or above the
bound it is given.
-/
namespace Inference.Text

/-- Whether a character is one of the ten ASCII digits. -/
def isDigit (c : Char) : Bool := '0'.toNat ≤ c.toNat && c.toNat ≤ '9'.toNat

/-- The value of a digit. -/
def digitValue (c : Char) : Nat := c.toNat - '0'.toNat

/-- The digit of a value below ten. -/
def digit (n : Nat) : Char := Char.ofNat ('0'.toNat + n % 10)

/-- The digits of a number, most significant first. -/
def decimal (n : Nat) : List Char :=
  if n < 10 then [digit n] else decimal (n / 10) ++ [digit n]
termination_by n

/-- The digits of a number as a string. -/
def showNat (n : Nat) : String := String.ofList (decimal n)

/-- Reads digits behind a number read so far. -/
def readDigits? (value : Nat) : List Char → Option Nat
  | [] => some value
  | c :: rest => if isDigit c then readDigits? (10 * value + digitValue c) rest else none

/-- Reads a number made of at least one digit and nothing else. -/
def readDecimal? : List Char → Option Nat
  | [] => none
  | digits => readDigits? 0 digits

/-- Reads a number below `bound`, with an optional `+` in front. -/
def readBelow? (bound : Nat) (text : List Char) : Option Nat := do
  let digits := match text with
    | '+' :: rest => rest
    | _ => text
  let value ← readDecimal? digits
  if value < bound then some value else none

end Inference.Text
