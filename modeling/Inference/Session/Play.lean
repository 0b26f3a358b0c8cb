/-
What a scripted pass does.

Most plays fill every output region from the input region in its place, over and over
until it is full, and then change it in some way.  Some fail or crash, before they touch
the regions or after, and some leave a region too short or too long.
-/
import Inference.Backend
import Inference.Binary32.Sum

namespace Inference.Session

/-- What a pass does. -/
inductive Play where
  | copy
  /-- Adds one to every byte. -/
  | increment
  | reverse
  /-- Adds two to every single precision number. -/
  | addTwo
  /-- Leaves out the last byte of the first region. -/
  | shorten
  /-- Appends a byte to the first region. -/
  | lengthen
  | copyThenFail
  | fail
  /-- Fails with a chain of causes. -/
  | failInContext
  | crash
  /-- Crashes with a text that tells the number of inputs. -/
  | crashCounting
  /-- Crashes without a text. -/
  | crashSilently
  /-- Does nothing at all. -/
  | skip
  deriving DecidableEq, Repr, Inhabited

/-- The first `size` bytes of `rest` followed by `whole` again and again; zeros if there are
none. -/
def cycle (whole : Bytes) : Bytes → Nat → Bytes
  | _, 0 => []
  | b :: rest, size + 1 => b :: cycle whole rest size
  | [], size + 1 => match whole with
    | [] => 0 :: cycle whole [] size
    | b :: rest => b :: cycle whole rest size

/-- A region of the given size filled from an input region. -/
def fillFrom (input : Bytes) (size : Nat) : Bytes := cycle input input size

/-- Regions of the given sizes, each filled from the input in its place; inputs are used in turn. -/
def fillAll (inputs : List Bytes) (sizes : List Nat) : List Bytes :=
  sizes.mapIdx fun index size => fillFrom (inputs.getD (index % inputs.length) []) size

/-- Changes the first region. -/
def changeFirst (change : Bytes → Bytes) : List Bytes → List Bytes
  | [] => []
  | region :: rest => change region :: rest

namespace Play

/-- How a play ends. -/
def ending (inputs : List Bytes) : Play → Ending
  | copyThenFail => .failed ["simulated failure after allocating"]
  | fail => .failed ["simulated failure"]
  | failInContext => .failed ["outer", "middle", "root cause"]
  | crash => .crashed (some "backend exploded")
  | crashCounting =>
    .crashed (some ("backend exploded with " ++ Text.showNat inputs.length ++ " inputs"))
  | crashSilently => .crashed none
  | _ => .done

/-- Whether a play fills the output regions. -/
def fills : Play → Bool
  | fail | failInContext | crash | crashCounting | crashSilently | skip => false
  | _ => true

/-- What a play makes of the regions it has filled. -/
def change (filled : List Bytes) : Play → List Bytes
  | increment => filled.map fun region => region.map (· + 1)
  | reverse => filled.map List.reverse
  | addTwo => filled.map Binary32.addTwoEach
  | shorten => changeFirst List.dropLast filled
  | lengthen => changeFirst (· ++ [0xee]) filled
  | _ => filled

/-- Performs a play, given the regions it finds and the sizes it fills.  It crashes at the first
size that is more than a region can hold. -/
def perform (play : Play) (inputs found : List Bytes) (sizes : List Nat) : Pass :=
  if play.fills then
    let fitting := sizes.takeWhile (· ≤ regionLimit)
    let filled := play.change (fillAll inputs fitting)
    if fitting.length = sizes.length then { ending := play.ending inputs, outputs := filled }
    else { ending := .crashed (some capacityOverflow)
           outputs := filled ++ found.drop fitting.length }
  else { ending := play.ending inputs, outputs := found }

end Play

end Inference.Session
