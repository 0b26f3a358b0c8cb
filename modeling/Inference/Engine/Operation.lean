/-
What can be asked of an engine through its handle.

Each operation is a call, given here at its first step.  An operation that brings a
descriptor along looks at it before anything else: one that cannot be used is refused
even if the handle is closed.
-/
import Inference.Engine.Call

namespace Inference

/-- An operation on a handle. -/
inductive Operation where
  | input
  | output
  | timeout
  | setTimeout (milliseconds : Nat)
  | read (key : String)
  | write (key value : String)
  /-- Gives the engine another input. -/
  | reshape (info : Descriptor)
  /-- Runs a pass, with the default timeout or another. -/
  | infer (input : Frame) (timeout : Option Nat)
  /-- Runs a pass and copies its output into `target`. -/
  | inferInto (input target : Frame)
  /-- Runs a pass on an input of another shape. -/
  | inferShaped (input : Frame) (info : Descriptor)
  | close

namespace Operation

/-- Begins with `part` unless the descriptor cannot be used. -/
def guarded (info : Descriptor) (part : Part) : Call :=
  match info.validate with
  | .error fault => .ended (.failed fault) none
  | .ok () => .checking part

/-- The call an operation makes. -/
def call : Operation → Call
  | input => .checking .readInput
  | output => .checking .readOutput
  | timeout => .checking .readTimeout
  | setTimeout milliseconds => .checking (.writeTimeout milliseconds)
  | read key => .checking (.readProperty key)
  | write key value => .checking (.writeProperty key value)
  | reshape info => guarded info (.reshape info)
  | infer frame none => .checking (.learnTimeout { input := frame })
  | infer frame (some milliseconds) => .checking (.submit { input := frame } milliseconds)
  | inferInto frame target => .checking (.fit { input := frame, target := some target } target)
  | inferShaped frame info =>
    guarded info (.learnTimeout { input := frame, reshape := some info })
  | close => .closing false

end Operation

end Inference
