/-
One caller and the worker.

When a single caller uses an engine there is nothing to choose: the call goes on as far
as it can, then the worker does, and so on until the call is over.  A call takes a fixed
number of steps and the worker four for each request, so a small fuel is enough.
-/
import Inference.Engine.Operation

namespace Inference

namespace Call

variable {W : Type}

/-- Runs a call and the worker until the call is over or neither can go on. -/
def runWith : Nat → Call → Host W → Call × Host W
  | 0, call, host => (call, host)
  | fuel + 1, call, host =>
    match call.step host with
    | some (call, host) => runWith fuel call host
    | none => match host.stepWorker with
      | some host => runWith fuel call host
      | none => (call, host)

/-- The answer of a call that is over. -/
def answer? : Call → Option (Outcome Fault Reply)
  | ended answer _ => some answer
  | _ => none

end Call

namespace Host

variable {W : Type}

/-- Steps that are enough for one call: eight of its own at most, and four of the worker. -/
def callSteps : Nat := 24

/-- What a call that cannot end is said to be. -/
def stuck : String := "the call waits without end"

/-- Performs an operation for the only caller. -/
def perform (host : Host W) (operation : Operation) : Outcome Fault Reply × Host W :=
  let (call, host) := operation.call.runWith callSteps host
  (call.answer?.getD (.crashed stuck), host)

end Host

end Inference
