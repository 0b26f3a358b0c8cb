/-
The stage: what scripted backends share.

A probe watches backends.  It records what happens to them as lines of text, counts the
passes that have been entered, and has a gate: a gated pass waits until there is a permit
and takes it along.  An actor is what one scripted backend remembers between its calls.
-/
import Inference.Session.Register
import Inference.Tensor.Descriptor
import Inference.Text.Numeral

namespace Inference.Session

/-- A watcher of backends. -/
structure Probe where
  events : List String := []
  /-- Passes entered so far. -/
  passes : Nat := 0
  permits : Nat := 0
  deriving Inhabited

/-- The memory of one scripted backend. -/
structure Actor where
  /-- The output it agreed to last. -/
  output : Descriptor
  properties : Option (Registers String)
  /-- The passes it has entered so far. -/
  turn : Nat := 0
  deriving Inhabited

/-- Everything scripted backends share. -/
structure Stage where
  probes : Registers Probe := []
  actors : List Actor := []

namespace Stage

/-- A probe, which exists as soon as it is named. -/
def probe (stage : Stage) (name : String) : Probe := (stage.probes.get? name).getD {}

/-- Changes a probe. -/
def setProbe (stage : Stage) (name : String) (probe : Probe) : Stage :=
  { stage with probes := stage.probes.put name probe }

/-- Records an event. -/
def note (stage : Stage) (name event : String) : Stage :=
  let probe := stage.probe name
  stage.setProbe name { probe with events := probe.events ++ [event] }

/-- An actor by its number. -/
def actor (stage : Stage) (number : Nat) : Actor := stage.actors.getD number default

/-- Changes an actor. -/
def setActor (stage : Stage) (number : Nat) (actor : Actor) : Stage :=
  { stage with actors := stage.actors.set number actor }

end Stage

/-- Lengths of regions as they are recorded. -/
def showLengths (regions : List (List UInt8)) : String :=
  "[" ++ ",".intercalate (regions.map fun region => Text.showNat region.length) ++ "]"

end Inference.Session
