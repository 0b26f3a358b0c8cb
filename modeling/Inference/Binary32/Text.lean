/-
Single precision numbers as text.

A number is printed with the fewest digits that read back as the same number, and with
the nearest such digits; of two equally near ones the larger.  The digits always stand
in their places: there is no exponent, and a whole number has no decimal point.

The reader takes an optional sign, digits with at most one decimal point among them, and
an optional exponent; or one of the words for infinity and for NaN.  It rounds the exact
decimal value once.
-/
import Inference.Binary32.Basic
import Inference.Text.Numeral
import Inference.Text.Name

namespace Inference.Binary32

/-! ### Printing -/

/-- The reals that round to a number, in quarters of its last place over a common denominator. -/
structure Interval where
  low : Nat
  value : Nat
  high : Nat
  denominator : Nat
  /-- Whether the two ends round to the number as well. -/
  closed : Bool

/-- The interval of a positive finite number.  Below a power of two numbers lie twice as close. -/
def interval (mantissa : Nat) (exponent : Int) : Interval :=
  let (scaled, denominator) := scale 1 1 (exponent - 2)
  let below := if mantissa = leadingBit ∧ exponent > leastExponent then 1 else 2
  { low := (4 * mantissa - below) * scaled, value := 4 * mantissa * scaled,
    high := (4 * mantissa + 2) * scaled, denominator, closed := mantissa % 2 = 0 }

namespace Interval

/-- The interval in units of `10 ^ place`. -/
def inUnits (i : Interval) (place : Int) : Interval :=
  if 0 ≤ place then { i with denominator := i.denominator * Nat.pow 10 place.toNat }
  else
    let factor := Nat.pow 10 (-place).toNat
    { i with low := i.low * factor, value := i.value * factor, high := i.high * factor }

/-- Whether a whole number lies in the interval. -/
def holds (i : Interval) (n : Nat) : Bool :=
  let n := n * i.denominator
  if i.closed then i.low ≤ n && n ≤ i.high else i.low < n && n < i.high

/-- The whole number in the interval that is nearest to the value, if there is one. -/
def nearest? (i : Interval) : Option Nat :=
  let below := i.value / i.denominator
  let above := below + 1
  let upperNearer := above * i.denominator - i.value ≤ i.value - below * i.denominator
  match i.holds below, i.holds above with
  | true, true => some (if upperNearer then above else below)
  | true, false => some below
  | false, true => some above
  | false, false => none

/-- Tries the powers of ten from `10 ^ place` downwards for the first whose multiples meet the
interval. -/
def coarsest (i : Interval) (place : Int) : Nat → Nat × Int
  | 0 => (0, place)
  | steps + 1 =>
    match (i.inUnits place).nearest? with
    | some n => (n, place)
    | none => coarsest i (place - 1) steps

end Interval

/-- The largest power of ten that is not above the largest finite number. -/
def greatestPlace : Int := 38

/-- The fewest digits that read back as a positive finite number, and the power of ten of the last
digit.  A grid of `10 ^ -46` already meets every interval. -/
def shortest (mantissa : Nat) (exponent : Int) : Nat × Int :=
  (interval mantissa exponent).coarsest (greatestPlace + 1) 90

/-- Digits in their places. -/
def positional (digits : Nat) (place : Int) : List Char :=
  let shown := Text.decimal digits
  if 0 ≤ place then shown ++ List.replicate place.toNat '0'
  else
    let places := (-place).toNat
    let padded := List.replicate (places + 1 - shown.length) '0' ++ shown
    padded.take (padded.length - places) ++ '.' :: padded.drop (padded.length - places)

/-- The text of a number. -/
def render (x : Binary32) : List Char :=
  match x.decode with
  | .nan => ['N', 'a', 'N']
  | .infinite negative => sign negative ++ ['i', 'n', 'f']
  | .finite negative 0 _ => sign negative ++ ['0']
  | .finite negative mantissa exponent =>
    let (digits, place) := shortest mantissa exponent
    sign negative ++ positional digits place
where
  /-- The sign in front. -/
  sign (negative : Bool) : List Char := if negative then ['-'] else []

/-! ### Reading -/

/-- A decimal number: `mantissa * 10 ^ exponent`. -/
structure Decimal where
  mantissa : Nat
  exponent : Int
  deriving DecidableEq, Repr

/-- The digits in front of a text and what follows them. -/
def spanDigits (text : List Char) : List Char × List Char :=
  (text.takeWhile Text.isDigit, text.dropWhile Text.isDigit)

/-- The value of a list of digits. -/
def digitsValue (digits : List Char) : Nat :=
  digits.foldl (fun value c => 10 * value + Text.digitValue c) 0

/-- A sign in front of a text, and the rest. -/
def readSign : List Char → Bool × List Char
  | '-' :: rest => (true, rest)
  | '+' :: rest => (false, rest)
  | text => (false, text)

/-- Reads the exponent behind the digits: nothing, or the letter `e` and a number. -/
def readExponent? : List Char → Option Int
  | [] => some 0
  | c :: rest =>
    if c = 'e' ∨ c = 'E' then
      let (negative, digits) := readSign rest
      (Text.readDecimal? digits).map fun value => if negative then -(value : Int) else value
    else none

/-- Reads a decimal number without a sign. -/
def readDecimal? (text : List Char) : Option Decimal :=
  let (before, rest) := spanDigits text
  let (after, rest) := match rest with
    | '.' :: rest => spanDigits rest
    | _ => ([], rest)
  if before.isEmpty && after.isEmpty then none
  else (readExponent? rest).map fun exponent =>
    { mantissa := digitsValue (before ++ after), exponent := exponent - after.length }

/-- The number nearest to a decimal number.  Numbers far outside the range are settled by their
count of digits. -/
def ofDecimal (negative : Bool) (d : Decimal) : Binary32 :=
  let top : Int := (Text.decimal d.mantissa).length + d.exponent
  if d.mantissa = 0 ∨ top < -46 then zero negative
  else if top > 40 then infinity negative
  else if 0 ≤ d.exponent then
    ofMagnitude negative (roundRatio (d.mantissa * Nat.pow 10 d.exponent.toNat) 1)
  else ofMagnitude negative (roundRatio d.mantissa (Nat.pow 10 (-d.exponent).toNat))

/-- Reads a number. -/
def read? (text : List Char) : Option Binary32 :=
  let (negative, rest) := readSign text
  match readDecimal? rest with
  | some d => some (ofDecimal negative d)
  | none =>
    let word := Text.lower rest
    if word = ['n', 'a', 'n'] then some (nan negative)
    else if word = "inf".toList ∨ word = "infinity".toList then some (infinity negative)
    else none

end Inference.Binary32
