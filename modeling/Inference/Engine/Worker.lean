/-
The worker of an engine.

The worker waits for a request, runs it on the backend with the desk unlocked, records the
outcome, and waits again.  Whatever a pass does to the worker counts as an outcome: a
pass that fails or crashes is recorded as failed.  What the worker does not guard are the
allocation of output regions and the return of a failed pass's memory; a crash there is
the end of it.
-/
import Inference.Engine.Host

namespace Inference.Host

variable {W : Type}

/-- The worker crashed.  Locks it held at that moment are poisoned by whoever calls this. -/
def workerDies (host : Host W) : Host W := host.withWorker .died

/-- Wakes up: takes the request there is, exits if asked to, or finds that there is nothing to
do. -/
def wake (host : Host W) : Option (Host W) :=
  let desk := host.desk
  match desk.mode, desk.request with
  | .idle, _ => none
  | _, some request =>
      some ((host.withDesk { desk with request := none }).withWorker (.holding request))
  | .leaving, none => some (host.withWorker .exited)
  | .running, none => some (host.withDesk { desk with mode := desk.mode.finish })

/-- Enters the backend with a request.  The output regions are empty if the backend allocates
them. -/
def beginPass (host : Host W) (request : Request) : Host W :=
  if !host.desk.attached then
    host.withWorker (.returning request (.error (.passFailed "the backend was released")))
  else match request.input.allBytes with
  | .error fault => host.withWorker (.returning request (.error fault))
  | .ok inputs =>
    let backend := host.engine.backend
    let lending := backend.allocates host.world
    let regions := if lending then .done (List.replicate request.output.count [])
      else Frame.allocate request.output.sizes
    match regions with
    | .done outputs =>
      { host with world := backend.enter inputs outputs lending host.world }.withWorker
        (.inPass request outputs lending)
    | .failed fault => host.withWorker (.returning request (.error fault))
    | .crashed _ => host.poisonBackend.workerDies

/-- Leaves the backend with what the pass left behind. -/
def endPass (host : Host W) (request : Request) (lending : Bool) (pass : Pass) : Host W :=
  match pass.failure? request.output with
  | some fault =>
    if lending then
      match host.release pass.outputs with
      | (some _, host) => host.workerDies
      | (none, host) => host.withWorker (.returning request (.error fault))
    else host.withWorker (.returning request (.error fault))
  | none =>
    if lending then
      let frame := Frame.lent request.output pass.outputs ⟨host.engine.id, request.ticket⟩
      { host with engine := { host.engine with lent := host.engine.lent + 1 } }.withWorker
        (.returning request (.ok frame))
    else
      host.withWorker (.returning request
        ((Frame.ofRegions request.output pass.outputs).map fun frame =>
          { frame with owner := .engine }))

/-- The request is recorded and the worker waits again. -/
def complete (host : Host W) : Host W :=
  (host.withDesk { host.desk with mode := host.desk.mode.finish }).withWorker .parked

/-- Records an outcome for its caller. -/
def deliver (host : Host W) (ticket : Nat) (produced : Except Fault Frame) : Host W :=
  let desk := host.desk
  match produced with
  | .error fault => host.withDesk { desk with response := some ⟨ticket, .error fault⟩ }
  | .ok frame =>
    if frame.owner = .backend then
      let (number, outstanding) := desk.outstanding.add frame
      host.withDesk { desk with response := some ⟨ticket, .ok (.tracked number)⟩, outstanding }
    else host.withDesk { desk with response := some ⟨ticket, .ok (.owned frame)⟩ }

/-- Records the outcome of a request, or drops its output if nobody waits for it any more. -/
def record (host : Host W) (request : Request) (produced : Except Fault Frame) : Host W :=
  if host.desk.deserted = some request.ticket then
    let host := host.withDesk { host.desk with deserted := none }
    match produced with
    | .error _ => host.complete
    | .ok frame =>
      if frame.lease.isNone then host.complete
      else match host.takeBack frame with
        | (some _, host) => host.poisonDesk.workerDies
        | (none, host) => host.complete
  else (host.deliver request.ticket produced).complete

/-- One step of the worker, if it can make one. -/
def stepWorker (host : Host W) : Option (Host W) :=
  match host.engine.worker with
  | .parked => host.wake
  | .holding request => some (host.beginPass request)
  | .inPass request outputs lending =>
    match request.input.allBytes with
    | .error _ => none
    | .ok inputs =>
      (host.engine.backend.finish inputs outputs lending host.world).map fun (pass, world) =>
        { host with world }.endPass request lending pass
  | .returning request produced => some (host.record request produced)
  | .exited | .died => none

end Inference.Host
