/-
Outputs on lease that no caller has received yet.

The worker enters an output under a fresh number.  It leaves exactly once: a caller
takes it, or it is removed and its memory goes back to the backend.  Operations that
remove frames answer with those that are to be dropped.
-/
import Inference.Tensor.Frame

namespace Inference

/-- Frames awaiting a caller, by number. -/
structure Outstanding where
  entries : List (Nat × Frame) := []
  /-- The last number given out. -/
  last : Nat := 0
  deriving DecidableEq, Inhabited

namespace Outstanding

/-- Enters a frame and answers with its number. -/
def add (o : Outstanding) (frame : Frame) : Nat × Outstanding :=
  (o.last + 1, { entries := o.entries ++ [(o.last + 1, frame)], last := o.last + 1 })

/-- The frame under a number. -/
def find? (o : Outstanding) (number : Nat) : Option Frame :=
  (o.entries.find? fun entry => entry.1 == number).map (·.2)

/-- Takes a number off the list. -/
def erase (o : Outstanding) (number : Nat) : Outstanding :=
  { o with entries := o.entries.filter fun entry => entry.1 != number }

/-- Hands the frame under a number to a caller. -/
def take (o : Outstanding) (number : Nat) : Option Frame × Outstanding :=
  (o.find? number, o.erase number)

/-- Takes out the frame under a number to be dropped. -/
def remove (o : Outstanding) (number : Nat) : Option Frame × Outstanding :=
  (o.find? number, o.erase number)

/-- Takes out every frame but the one to keep. -/
def keepOnly (o : Outstanding) (keep : Option Nat) : List Frame × Outstanding :=
  ((o.entries.filter fun entry => some entry.1 != keep).map (·.2),
    { o with entries := o.entries.filter fun entry => some entry.1 == keep })

/-- Number of frames that wait. -/
def size (o : Outstanding) : Nat := o.entries.length

end Outstanding

end Inference
