/-
Single precision numbers.

A number is its 32 bits: a sign, eight bits of exponent and twenty-three of fraction.
`decode` says what the bits stand for, and every finite number is exactly an integer
mantissa times a power of two.  `roundRatio` goes the other way: it takes a positive
quotient to the nearest number, ties to an even mantissa.
-/
namespace Inference

/-- A single precision number, as its bits. -/
structure Binary32 where
  bits : UInt32
  deriving DecidableEq, Repr, Inhabited

namespace Binary32

/-- What the bits of a number stand for. -/
inductive Value where
  | nan
  | infinite (negative : Bool)
  /-- `mantissa * 2 ^ exponent`, with a sign that also zero has. -/
  | finite (negative : Bool) (mantissa : Nat) (exponent : Int)
  deriving DecidableEq, Repr

/-- Bits of the fraction. -/
def fractionBits : Nat := 23

/-- The bit in front of the fraction, which every number but the smallest has. -/
def leadingBit : Nat := 0x800000

/-- The exponent of the last place of the smallest numbers. -/
def leastExponent : Int := -149

/-- The bits of positive infinity, above those of every positive finite number. -/
def infinityBits : Nat := 0x7f800000

/-- The bit of the sign. -/
def signBit : Nat := 0x80000000

/-- Whether the sign is set. -/
def isNegative (x : Binary32) : Bool := x.bits.toNat ≥ signBit

/-- The bits without the sign. -/
def magnitude (x : Binary32) : Nat := x.bits.toNat % signBit

/-- The value of a number. -/
def decode (x : Binary32) : Value :=
  let magnitude := x.magnitude
  let fraction := magnitude % leadingBit
  let field := magnitude / leadingBit
  if magnitude > infinityBits then .nan
  else if magnitude = infinityBits then .infinite x.isNegative
  else if field = 0 then .finite x.isNegative fraction leastExponent
  else .finite x.isNegative (fraction + leadingBit) (leastExponent + (field - 1 : Nat))

/-- The number with the given sign and magnitude. -/
def ofMagnitude (negative : Bool) (magnitude : Nat) : Binary32 :=
  ⟨UInt32.ofNat (if negative then signBit + magnitude else magnitude)⟩

/-- The NaN that reading a text gives. -/
def nan (negative : Bool) : Binary32 := ofMagnitude negative 0x7fc00000

/-- Infinity. -/
def infinity (negative : Bool) : Binary32 := ofMagnitude negative infinityBits

/-- Zero. -/
def zero (negative : Bool) : Binary32 := ofMagnitude negative 0

/-! ### Rounding -/

/-- The integer nearest to a quotient; of two equally near ones the even one. -/
def roundQuotient (numerator denominator : Nat) : Nat :=
  let quotient := numerator / denominator
  let rest := numerator % denominator
  if 2 * rest < denominator then quotient
  else if 2 * rest > denominator then quotient + 1
  else quotient + quotient % 2

/-- Numerator and denominator of a quotient multiplied by a power of two. -/
def scale (numerator denominator : Nat) (exponent : Int) : Nat × Nat :=
  if 0 ≤ exponent then (numerator * Nat.pow 2 exponent.toNat, denominator)
  else (numerator, denominator * Nat.pow 2 (-exponent).toNat)

/-- The binary exponent of a positive quotient: the largest `e` with `2 ^ e` not above it. -/
def quotientLog (numerator denominator : Nat) : Int :=
  let guess : Int := (numerator.log2 : Int) - denominator.log2
  let (low, high) := scale 1 1 guess
  if low * denominator ≤ numerator * high then guess else guess - 1

/-- The magnitude of the number nearest to a positive quotient, infinity if that is too large. -/
def roundRatio (numerator denominator : Nat) : Nat :=
  let place := max leastExponent (quotientLog numerator denominator - fractionBits)
  let (numerator, denominator) := scale numerator denominator (-place)
  let mantissa := roundQuotient numerator denominator
  min infinityBits ((place - leastExponent).toNat * leadingBit + mantissa)

/-! ### Bytes -/

/-- The four bytes of a number, least significant first. -/
def toBytes (x : Binary32) : List UInt8 :=
  let n := x.bits.toNat
  [UInt8.ofNat n, UInt8.ofNat (n / 0x100), UInt8.ofNat (n / 0x10000), UInt8.ofNat (n / 0x1000000)]

/-- The number with these four bytes, least significant first. -/
def ofBytes (a b c d : UInt8) : Binary32 :=
  ⟨UInt32.ofNat (a.toNat + b.toNat * 0x100 + c.toNat * 0x10000 + d.toNat * 0x1000000)⟩

/-- The numbers whose bytes stand one behind another; bytes left over at the end are dropped. -/
def listOfBytes : List UInt8 → List Binary32
  | a :: b :: c :: d :: rest => ofBytes a b c d :: listOfBytes rest
  | _ => []

end Binary32

end Inference
