/-
Sums of single precision numbers.

The sum of two finite numbers is the exact sum, rounded once.  An exact sum of zero is
negative only if both numbers are.  A NaN among the numbers is the answer, made quiet,
with its other bits kept.
-/
import Inference.Binary32.Basic

namespace Inference.Binary32

/-- A finite value as an integer multiple of `2 ^ place`, for a `place` not above its exponent. -/
def alignTo (place : Int) (negative : Bool) (mantissa : Nat) (exponent : Int) : Int :=
  let scaled := mantissa * Nat.pow 2 (exponent - place).toNat
  if negative then -(scaled : Int) else scaled

/-- The number nearest to an integer multiple of `2 ^ place`; zero gets the given sign. -/
def ofMultiple (place : Int) (negativeZero : Bool) (multiple : Int) : Binary32 :=
  if multiple = 0 then zero negativeZero
  else
    let (numerator, denominator) := scale multiple.natAbs 1 place
    ofMagnitude (multiple < 0) (roundRatio numerator denominator)

/-- The same NaN with its quiet bit set. -/
def quiet (x : Binary32) : Binary32 := ⟨x.bits ||| 0x00400000⟩

/-- The rounded sum. -/
def add (x y : Binary32) : Binary32 :=
  match x.decode, y.decode with
  | .nan, _ => x.quiet
  | _, .nan => y.quiet
  | .infinite s, .infinite t => if s = t then x else nan true
  | .infinite _, _ => x
  | _, .infinite _ => y
  | .finite s m e, .finite t n f =>
    let place := min e f
    ofMultiple place (s && t) (alignTo place s m e + alignTo place t n f)

/-- Two. -/
def two : Binary32 := ⟨0x40000000⟩

/-- Adds two to every number of a region; bytes left over at the end stay. -/
def addTwoEach : List UInt8 → List UInt8
  | a :: b :: c :: d :: rest => (add (ofBytes a b c d) two).toBytes ++ addTwoEach rest
  | rest => rest

end Inference.Binary32
