/-
Why an operation was refused.

A fault is one of seven causes.  Four of them carry a text saying what exactly was
wrong; the other three say all there is to say by themselves.  Every cause has a
message, a status number in the style of `errno`, and a verdict on whether the very
same call may succeed when it is repeated.
-/
namespace Inference

/-- The causes for which an operation of the library is refused. -/
inductive Fault where
  /-- An argument is not acceptable; the text says which rule it breaks. -/
  | invalidParameter (detail : String)
  /-- The backend cannot do what was asked. -/
  | notSupported (detail : String)
  /-- Another pass is in flight on the same engine. -/
  | busy
  /-- The caller's patience ended before the pass did. -/
  | timedOut
  /-- The pass itself failed. -/
  | passFailed (detail : String)
  /-- Something broke that no caller could have prevented. -/
  | unknown (detail : String)
  /-- The handle is closed, or closing. -/
  | closedHandle
  deriving DecidableEq, Repr, Inhabited

namespace Fault

/-- The lowest status number the platform uses for its own errors. -/
def platformStatus : Int := -1073741824

/-- Status number.  A closed handle reports as an invalid parameter does. -/
def status : Fault → Int
  | invalidParameter _ => -22
  | closedHandle => -22
  | busy => -11
  | passFailed _ => -86
  | unknown _ => platformStatus
  | timedOut => platformStatus + 1
  | notSupported _ => platformStatus + 2

/-- Whether the same call, repeated unchanged, may succeed. -/
def transient : Fault → Bool
  | busy => true
  | timedOut => true
  | passFailed _ => true
  | _ => false

/-- The text shown to a person. -/
def message : Fault → String
  | invalidParameter detail => "Invalid parameter: " ++ detail
  | notSupported detail => "Not supported: " ++ detail
  | busy => "The engine is busy with another invocation, try again later"
  | timedOut => "Timed out while waiting for the inference result"
  | passFailed detail => "Failed to invoke the model: " ++ detail
  | unknown detail => "Unknown error: " ++ detail
  | closedHandle => "The handle is closed or does not belong to a live engine"

/-- What a lock says once a task crashed while holding it. -/
def poisonedLock : Fault := unknown "poisoned lock: another task failed inside"

end Fault

/-- How a call ends: with a value, with a refusal, or by crashing in the calling thread. -/
inductive Outcome (ε α : Type) where
  | done (value : α)
  | failed (fault : ε)
  | crashed (message : String)
  deriving Repr, DecidableEq, Inhabited

namespace Outcome

variable {ε ε' α β : Type}

/-- A call that cannot crash. -/
def ofExcept : Except ε α → Outcome ε α
  | .ok value => done value
  | .error fault => failed fault

/-- Applies `f` to the value of a call that ended well. -/
def map (f : α → β) : Outcome ε α → Outcome ε β
  | done value => done (f value)
  | failed fault => failed fault
  | crashed message => crashed message

/-- Tells a refusal in other words. -/
def mapFault (f : ε → ε') : Outcome ε α → Outcome ε' α
  | done value => done value
  | failed fault => failed (f fault)
  | crashed message => crashed message

/-- Goes on with the value of a call that ended well. -/
def bind : Outcome ε α → (α → Outcome ε β) → Outcome ε β
  | done value, next => next value
  | failed fault, _ => failed fault
  | crashed message, _ => crashed message

theorem done_ne_crashed (value : α) (message : String) :
    (done value : Outcome ε α) ≠ crashed message := by
  simp

theorem failed_ne_crashed (fault : ε) (message : String) :
    (failed fault : Outcome ε α) ≠ crashed message := by
  simp

end Outcome

end Inference
