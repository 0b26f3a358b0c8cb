/-
Engines and what surrounds them.

An engine owns one backend and one worker and lets its callers in one at a time, by the
lock on its desk.  A second lock keeps the backend to one user at a time; during a pass
that is the worker.  A task that crashes while it holds a lock leaves the lock poisoned.

A host is an engine together with what it shares with other engines: the world of the
backends and the table of live handles.  `Act` is the work of one task while it holds
the desk.  It ends in an outcome, or not at all: work that needs the backend during a
pass has to wait, and then nothing of it has happened.
-/
import Inference.Backend
import Inference.Framework
import Inference.Accelerator
import Inference.Engine.Desk

namespace Inference

/-- Where the worker of an engine stands. -/
inductive Worker where
  /-- Waits for something to do. -/
  | parked
  /-- Has taken a request off the desk. -/
  | holding (request : Request)
  /-- Is inside the backend, with these output regions; `lending` tells who allocates them. -/
  | inPass (request : Request) (outputs : List Bytes) (lending : Bool)
  /-- Has an outcome to record. -/
  | returning (request : Request) (produced : Except Fault Frame)
  | exited
  /-- Crashed outside the part of a pass that it guards. -/
  | died
  deriving Inhabited

namespace Worker

/-- Whether the worker holds the backend. -/
def busy : Worker → Bool
  | inPass .. => true
  | _ => false

/-- Whether the worker is gone. -/
def gone : Worker → Bool
  | exited | died => true
  | _ => false

end Worker

/-- An opened model. -/
structure Engine (W : Type) where
  id : Nat
  framework : Framework
  accelerator : Accelerator
  backend : Backend W
  /-- Set from opening until closing begins. -/
  isOpen : Bool := true
  desk : Desk
  deskPoisoned : Bool := false
  backendPoisoned : Bool := false
  worker : Worker := .parked
  /-- Number of frames on lease from the backend. -/
  lent : Nat := 0

/-- An engine, the world of its backend, and the identifiers of all live handles. -/
structure Host (W : Type) where
  engine : Engine W
  world : W
  live : List Nat

namespace Host

variable {W : Type}

/-- The desk of the engine. -/
def desk (host : Host W) : Desk := host.engine.desk

/-- Changes the desk. -/
def withDesk (host : Host W) (desk : Desk) : Host W :=
  { host with engine := { host.engine with desk } }

/-- Changes where the worker stands. -/
def withWorker (host : Host W) (worker : Worker) : Host W :=
  { host with engine := { host.engine with worker } }

/-- The lock on the desk is poisoned. -/
def poisonDesk (host : Host W) : Host W :=
  { host with engine := { host.engine with deskPoisoned := true } }

/-- The lock on the backend is poisoned. -/
def poisonBackend (host : Host W) : Host W :=
  { host with engine := { host.engine with backendPoisoned := true } }

/-- Gives regions back to the backend.  A crash poisons the backend's lock. -/
def release (host : Host W) (regions : List Bytes) : Option String × Host W :=
  let (crash, world) := host.engine.backend.release regions host.world
  let host := { host with world }
  (crash, if crash.isSome then host.poisonBackend else host)

/-- Lets go of the backend once the engine has let go of it and no frame is on lease. -/
def settle (host : Host W) : Host W :=
  if !host.desk.attached && host.engine.lent == 0 then
    { host with world := host.engine.backend.dropped host.world }
  else host

/-- The engine lets go of its backend, unless it has done so before. -/
def detach (host : Host W) : Host W :=
  if host.desk.attached then (host.withDesk { host.desk with attached := false }).settle else host

/-- A frame on lease comes back; a text is that of a crash. -/
def takeBack (host : Host W) (frame : Frame) : Option String × Host W :=
  let (crash, host) := host.release frame.present
  (crash, settle { host with engine := { host.engine with lent := host.engine.lent - 1 } })

/-- Whether the engine's handle can still be used. -/
def isLive (host : Host W) : Bool := host.live.contains host.engine.id

/-- Marks the handle closed and takes it off the table, in one stroke.  Only the first attempt
succeeds. -/
def retire (host : Host W) : Option (Host W) :=
  if host.engine.isOpen then
    some { host with
      engine := { host.engine with isOpen := false },
      live := host.live.filter (· != host.engine.id) }
  else none

end Host

/-! ### Work under the lock -/

/-- The work of one task on a host. -/
def Act (W α : Type) : Type := Host W → Option (Outcome Fault α × Host W)

namespace Act

variable {W α β : Type}

/-- Goes on with the result of work that ended well. -/
def bind (act : Act W α) (next : α → Act W β) : Act W β := fun host =>
  match act host with
  | none => none
  | some (.done value, host) => next value host
  | some (.failed fault, host) => some (.failed fault, host)
  | some (.crashed message, host) => some (.crashed message, host)

instance : Monad (Act W) where
  pure value := fun host => some (.done value, host)
  bind := bind

/-- Gives up. -/
def fail (fault : Fault) : Act W α := fun host => some (.failed fault, host)

/-- A step that cannot crash and changes nothing. -/
def ofExcept (result : Except Fault α) : Act W α := fun host => some (.ofExcept result, host)

/-- Looks at the engine. -/
def engine : Act W (Engine W) := fun host => some (.done host.engine, host)

/-- Looks at the desk. -/
def desk : Act W Desk := fun host => some (.done host.desk, host)

/-- Changes the desk. -/
def setDesk (desk : Desk) : Act W Unit := fun host => some (.done (), host.withDesk desk)

/-- Takes the lock on the desk for the time of the work. -/
def locked (act : Act W α) : Act W α := fun host =>
  if host.engine.deskPoisoned then some (.failed .poisonedLock, host)
  else match act host with
    | some (.crashed message, host) => some (.crashed message, host.poisonDesk)
    | result => result

/-- Uses the backend, which the engine must still hold and the worker must not be using. -/
def useBackend (use : Backend W → W → Outcome Fault α × W) : Act W α := fun host =>
  if !host.desk.attached then some (.failed .closedHandle, host)
  else if host.engine.worker.busy then none
  else if host.engine.backendPoisoned then some (.failed .poisonedLock, host)
  else
    let (outcome, world) := use host.engine.backend host.world
    let host := { host with world }
    match outcome with
    | .crashed message => some (.crashed message, host.poisonBackend)
    | outcome => some (outcome, host)

/-- Drops a frame.  Memory on lease goes back to the backend, which must not be in a pass; a
poisoned lock is no obstacle. -/
def drop (frame : Frame) : Act W Unit := fun host =>
  if frame.lease.isNone then some (.done (), host)
  else if host.engine.worker.busy then none
  else match host.takeBack frame with
    | (some message, host) => some (.crashed message, host)
    | (none, host) => some (.done (), host)

/-- Drops frames one after another. -/
def dropAll : List Frame → Act W Unit
  | [] => pure ()
  | frame :: rest => do
    drop frame
    dropAll rest

end Act

end Inference
