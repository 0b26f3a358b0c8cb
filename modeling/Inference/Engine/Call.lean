/-
Calls on an engine.

Every operation on a handle first checks that the handle is open and then, as a separate
step, takes the lock on the desk.  Between the two anything may happen.  A call is
therefore a machine whose steps are exactly the points at which other callers and the
worker can cut in: a check, one holding of the lock, waiting for an outcome, waiting for
the worker to exit.

A pass is a chain of such steps: the default timeout is read under one holding of the
lock, the request is submitted under another, and the outcome is picked up under a third.
A caller that wakes up may find that it was overtaken.
-/
import Inference.Engine.Properties
import Inference.Engine.Worker

namespace Inference

/-- A pass some caller wants. -/
structure Task where
  input : Frame
  /-- The input shape to negotiate first, unless it is agreed already. -/
  reshape : Option Descriptor := none
  /-- A frame to copy the output into. -/
  target : Option Frame := none
  deriving Inhabited

/-- What a call does while it holds the desk. -/
inductive Part where
  | readInput
  | readOutput
  | readTimeout
  | writeTimeout (milliseconds : Nat)
  | readProperty (key : String)
  | writeProperty (key value : String)
  | reshape (info : Descriptor)
  /-- Checks that the frame to copy into has the sizes of the output. -/
  | fit (task : Task) (target : Frame)
  /-- Reads how long to wait for the outcome. -/
  | learnTimeout (task : Task)
  | submit (task : Task) (timeout : Nat)

/-- What an operation answers with. -/
inductive Reply where
  | none
  | descriptor (info : Descriptor)
  | number (value : Nat)
  | text (value : String)
  | frame (output : Frame)
  /-- An output together with its descriptor. -/
  | shaped (output : Frame) (info : Descriptor)
  deriving Inhabited

/-- Where a call stands. -/
inductive Call where
  /-- About to check that the handle is open. -/
  | checking (part : Part)
  /-- Found the handle open; waits for the lock. -/
  | entering (part : Part)
  /-- Submitted a request and waits for its outcome; a timeout of zero waits without end. -/
  | awaiting (task : Task) (timeout ticket : Nat)
  /-- Copied an output into a frame of the caller, and is about to drop the output. -/
  | dropping (output : Frame) (answer : Outcome Fault Reply) (target : Frame)
  /-- About to close the handle.  The last user of the engine goes on even if it is closed
  already. -/
  | closing (last : Bool)
  /-- Closed the handle; is about to ask the worker to exit. -/
  | dismissing (last : Bool)
  /-- Waits for the worker to exit. -/
  | expecting (last : Bool)
  /-- About to release what nobody waits for and to let go of the backend. -/
  | clearing (last : Bool)
  /-- Over.  A frame that was to be copied into is given back in any case. -/
  | ended (answer : Outcome Fault Reply) (target : Option Frame)

namespace Part

variable {W : Type}

/-- The frame a call has to give back. -/
def target? : Part → Option Frame
  | fit _ target => some target
  | learnTimeout task | submit task _ => task.target
  | _ => .none

/-- What is said of a frame whose sizes are not those that the model takes or makes. -/
def sizeMismatch (frame verb : String) (given wanted : List Nat) : Fault :=
  .invalidParameter ("the " ++ frame ++ " holds tensors of " ++ showSizes given
    ++ " bytes, the model " ++ verb ++ " " ++ showSizes wanted)

/-- Puts a request for a pass on the desk.  An earlier outcome that is still there is forgotten. -/
def submitTask (task : Task) (timeout : Nat) : Act W Call := do
  if let some info := task.reshape then
    if !(← Act.desk).input.agrees info then renegotiate info
  let desk ← Act.desk
  if task.input.sizes ≠ desk.input.sizes then
    Act.fail (sizeMismatch "input" "expects" task.input.sizes desk.input.sizes)
  let _ ← Act.ofExcept task.input.allBytes
  let mode ← Act.ofExcept desk.mode.accept
  let (stale, desk) := { desk with mode }.forget
  Act.setDesk desk
  Act.dropAll stale.toList
  let desk ← Act.desk
  let ticket := desk.ticket + 1
  let request := { ticket, input := task.input.copyFor .engine, output := desk.output }
  Act.setDesk { desk with ticket, request := some request }
  return .awaiting task timeout ticket

/-- One holding of the lock. -/
def run : Part → Act W Call
  | readInput => do return .ended (.done (.descriptor (← Act.desk).input)) .none
  | readOutput => do return .ended (.done (.descriptor (← Act.desk).output)) .none
  | readTimeout => do return .ended (.done (.number (← Act.desk).timeout)) .none
  | writeTimeout milliseconds => do
    Act.setDesk { ← Act.desk with timeout := milliseconds }
    return .ended (.done .none) .none
  | readProperty key => do return .ended (.done (.text (← Act.readProperty key))) .none
  | writeProperty key value => do
    Act.writeProperty key value
    return .ended (.done .none) .none
  | reshape info => do
    renegotiate info
    return .ended (.done .none) .none
  | fit task target => do
    let desk ← Act.desk
    if target.sizes ≠ desk.output.sizes then
      Act.fail (sizeMismatch "output" "produces" target.sizes desk.output.sizes)
    return .checking (.learnTimeout task)
  | learnTimeout task => do return .checking (.submit task (← Act.desk).timeout)
  | submit task timeout => submitTask task timeout

end Part

namespace Call

variable {W : Type}

/-- Gives up the handle: closes it if it is still open, and leaves nothing of the engine behind.
Nobody else may be using the handle. -/
def giveUp : Call := closing true

/-! ### Picking up an outcome -/

/-- Copies tensors into `target`, from `index` on, until one is refused. -/
def copyFrom (source : Frame) (index : Nat) (target : Frame) : Nat → Outcome Fault Reply × Frame
  | 0 => (.done .none, target)
  | steps + 1 =>
    match (Outcome.ofExcept (source.tensor index)).bind (target.write index) with
    | .done target => copyFrom source (index + 1) target steps
    | .failed fault => (.failed fault, target)
    | .crashed message => (.crashed message, target)

/-- Hands a good output to its caller.  Memory of the engine now belongs to the caller. -/
def hand (task : Task) (output : Frame) : Call :=
  let output := if output.owner = .engine then { output with owner := .caller } else output
  match task.target with
  | some target =>
    let (answer, target) := copyFrom output 0 target output.count
    dropping output answer target
  | none =>
    if task.reshape.isSome then ended (.done (.shaped output output.info)) none
    else ended (.done (.frame output)) none

/-- Picks up the outcome of a request. -/
def receive (task : Task) (result : Except Fault Frame) : Call :=
  match result with
  | .error fault => ended (.failed fault) task.target
  | .ok output => hand task output

/-- Looks for the outcome; answers with nothing if it is not there. -/
def tryReceive (task : Task) (ticket : Nat) (host : Host W) : Option (Call × Host W) :=
  if host.engine.deskPoisoned then some (ended (.failed .poisonedLock) task.target, host)
  else if host.desk.hasResponse ticket then
    match host.desk.collect with
    | (some result, desk) => some (receive task result, host.withDesk desk)
    | (none, _) => none
  else none

/-- The patience of a waiting call ends.  An outcome that is there is still received. -/
def expire (call : Call) (host : Host W) : Option (Call × Host W) :=
  match call with
  | awaiting task timeout ticket =>
    if timeout = 0 then none
    else match tryReceive task ticket host with
      | some next => some next
      | none =>
        some (ended (.failed .timedOut) task.target,
          host.withDesk { host.desk with deserted := some ticket })
  | _ => none

/-! ### Steps -/

/-- Ends a call whose work ended in `outcome`, or goes on with the next step. -/
def settle (target : Option Frame) : Outcome Fault Call → Call
  | .done call => call
  | .failed fault => ended (.failed fault) target
  | .crashed message => ended (.crashed message) target

/-- One step of a call, if it can make one. -/
def step (call : Call) (host : Host W) : Option (Call × Host W) :=
  match call with
  | checking part =>
    some (if host.engine.isOpen then entering part
      else ended (.failed .closedHandle) part.target?, host)
  | entering part =>
    (Act.locked part.run host).map fun (outcome, host) => (settle part.target? outcome, host)
  | awaiting task _ ticket => tryReceive task ticket host
  | dropping output answer target =>
    (Act.drop output host).map fun (outcome, host) =>
      (match outcome with
        | .crashed message => ended (.crashed message) (some target)
        | _ => ended answer (some target), host)
  | closing last =>
    some (match host.retire with
      | some host => (dismissing last, host)
      | none => (if last then clearing last else ended (.failed .closedHandle) none, host))
  | dismissing last => some (expecting last, host.withDesk { host.desk with mode := .leaving })
  | expecting last => if host.engine.worker.gone then some (clearing last, host) else none
  | clearing last =>
    let (frames, desk) := if last then host.desk.empty else host.desk.sweep
    (Act.dropAll frames (host.withDesk desk)).map fun (outcome, host) =>
      match outcome with
      | .crashed message =>
        (ended (.crashed message) none, if last then host.detach else host.poisonDesk)
      | _ => (ended (.done .none) none, host.detach)
  | ended .. => none

end Call

end Inference
