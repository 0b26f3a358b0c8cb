/-
Any number of engines in one process.

What the engines of a process share is the world of their backends, the table of live handles, and
the counter that identifiers are drawn from.  An attempt to open an engine goes by steps: it finds
out what is registered for the framework, loads the model, agrees on shapes, draws an identifier,
is given a worker, enters the table, and hands out the handle.  It can fail at most of them, and
between any two of them other attempts and the users of other engines may move.

A handle that is out is used by a crowd of its own, on what all of them share.
-/
import Inference.Catalog
import Inference.Engine.Crowd

namespace Inference

/-- What all engines of a process share. -/
structure Commons (W : Type) where
  world : W
  catalog : Catalog W := {}
  /-- The next identifier that will be drawn.  No process lives long enough to use up 64 bits of
  them, so they are natural numbers here. -/
  nextId : Nat := 1
  /-- The table of live handles. -/
  live : List Nat := []

/-- A handle that was handed out: its engine, and what its users have done. -/
structure Handle (W : Type) where
  engine : Engine W
  calls : List Call := []
  /-- The calls whose output has been dropped by its caller. -/
  dropped : List Nat := []
  /-- Whether the handle has been given up. -/
  givenUp : Bool := false

/-- Where an attempt to open an engine stands. -/
inductive Attempt (W : Type) where
  /-- About to find out what is registered for the framework. -/
  | asked (options : Options)
  /-- About to load the model. -/
  | found (options : Options) (framework : Framework) (provider : Provider W)
  /-- About to agree on shapes. -/
  | loaded (options : Options) (framework : Framework) (backend : Backend W)
  /-- About to draw an identifier. -/
  | agreed (options : Options) (framework : Framework) (backend : Backend W)
      (input output : Descriptor)
  /-- About to be given a worker. -/
  | numbered (engine : Engine W)
  /-- About to enter the table. -/
  | staffed (engine : Engine W)
  /-- About to hand out the handle. -/
  | listed (engine : Engine W)
  | opened (handle : Handle W)
  | refused (fault : Fault)
  | crashed (message : String)

namespace Handle

variable {W : Type}

/-- Whether nothing is left of the handle: it was given up, and that is over. -/
def isGone (handle : Handle W) : Bool := handle.givenUp && handle.calls.all Call.isOver

/-- The engine and its users, on what all engines share. -/
def crowd (handle : Handle W) (commons : Commons W) : Crowd W where
  host := { engine := handle.engine, world := commons.world, live := commons.live }
  calls := handle.calls
  dropped := handle.dropped
  givenUp := handle.givenUp

end Handle

/-- The handle of a crowd. -/
def Crowd.handle {W : Type} (crowd : Crowd W) : Handle W where
  engine := crowd.host.engine
  calls := crowd.calls
  dropped := crowd.dropped
  givenUp := crowd.givenUp

namespace Attempt

variable {W : Type}

/-- What is said of a model that could not be loaded. -/
def loadFault (options : Options) (framework : Framework) (causes : List String) : Fault :=
  .invalidParameter ("failed to open '" ++ ",".intercalate options.models ++ "' with "
    ++ framework.name ++ ": " ++ ": ".intercalate causes)

/-- What is said when there is no thread for the worker. -/
def threadFault (reason : String) : Fault :=
  .unknown ("failed to spawn the worker thread: " ++ reason)

/-- The next step of an attempt that is not over. -/
def step (attempt : Attempt W) (commons : Commons W) : Option (Attempt W × Commons W) :=
  match attempt with
  | asked options =>
    match commons.catalog.resolve options with
    | .error fault => some (refused fault, commons)
    | .ok (framework, provider) => some (found options framework provider, commons)
  | found options framework provider =>
    match commons.catalog.load options commons.world provider with
    | (.error causes, world) =>
      some (refused (loadFault options framework causes), { commons with world })
    | (.ok backend, world) => some (loaded options framework backend, { commons with world })
  | loaded options framework backend =>
    match backend.agreeShapes options commons.world with
    | (.done (input, output), world) =>
      some (agreed options framework backend input output, { commons with world })
    | (.failed fault, world) =>
        some (refused fault, { commons with world := backend.dropped world })
    | (.crashed message, world) =>
      some (crashed message, { commons with world := backend.dropped world })
  | agreed options framework backend input output =>
    some (numbered {
      id := commons.nextId, framework, accelerator := options.accelerator, backend
      desk := { input, output, timeout := options.timeout } },
      { commons with nextId := commons.nextId + 1 })
  | numbered engine => some (staffed engine, commons)
  | staffed engine => some (listed engine, { commons with live := commons.live ++ [engine.id] })
  | listed engine => some (opened { engine }, commons)
  | opened _ | refused _ | crashed _ => none

/-- There is no thread for the worker of an attempt. -/
def lackThread (attempt : Attempt W) (reason : String) (commons : Commons W) :
    Option (Attempt W × Commons W) :=
  match attempt with
  | numbered engine =>
    some (refused (threadFault reason),
      { commons with world := engine.backend.dropped commons.world })
  | _ => none

/-- One of the users of a handle moves, or its worker. -/
def act (attempt : Attempt W) (move : Move) (commons : Commons W) :
    Option (Attempt W × Commons W) :=
  match attempt with
  | opened handle => ((handle.crowd commons).after? move).map fun crowd =>
    (opened crowd.handle, { commons with world := crowd.host.world, live := crowd.host.live })
  | _ => none

/-- Whether the attempt is over, one way or the other. -/
def isOver : Attempt W → Bool
  | opened _ | refused _ | crashed _ => true
  | _ => false

/-- Whether the attempt has failed. -/
def hasFailed : Attempt W → Bool
  | refused _ | crashed _ => true
  | _ => false

/-- The engine of the attempt, as long as somebody holds on to it. -/
def engine? : Attempt W → Option (Engine W)
  | staffed engine | listed engine => some engine
  | opened handle => if handle.isGone then none else some handle.engine
  | _ => none

end Attempt

/-- All that goes on in a process. -/
structure Runtime (W : Type) where
  commons : Commons W
  /-- The attempts to open an engine, in the order in which they began. -/
  attempts : List (Attempt W) := []

/-- Something that happens in a process. -/
inductive Happening (W : Type) where
  /-- Somebody asks for an engine on a model. -/
  | opens (options : Options)
  /-- Somebody asks for an engine around a backend that is loaded already. -/
  | wraps (backend : Backend W) (options : Options)
  /-- An attempt takes its next step. -/
  | advances (attempt : Nat)
  /-- An attempt is refused a thread for its worker. -/
  | lacksThread (attempt : Nat) (reason : String)
  /-- One of the users of an engine moves, or its worker. -/
  | acts (attempt : Nat) (move : Move)
  /-- What is registered changes, and the world with it. -/
  | changes (catalog : Catalog W) (world : W)

namespace Runtime

variable {W : Type}

/-- Begins an attempt. -/
def begin (runtime : Runtime W) (attempt : Attempt W) : Runtime W :=
  { runtime with attempts := runtime.attempts ++ [attempt] }

/-- Lets one attempt go on. -/
def proceed (runtime : Runtime W) (index : Nat)
    (go : Attempt W → Commons W → Option (Attempt W × Commons W)) : Option (Runtime W) := do
  let attempt ← runtime.attempts[index]?
  let (attempt, commons) ← go attempt runtime.commons
  return { commons, attempts := runtime.attempts.set index attempt }

/-- The process after something has happened, if it can happen. -/
def after? (runtime : Runtime W) : Happening W → Option (Runtime W)
  | .opens options => some (runtime.begin (.asked options))
  | .wraps backend options => some (runtime.begin (.loaded options options.framework backend))
  | .advances index => runtime.proceed index Attempt.step
  | .lacksThread index reason => runtime.proceed index (·.lackThread reason)
  | .acts index move => runtime.proceed index (·.act move)
  | .changes catalog world =>
    some { runtime with commons := { runtime.commons with catalog, world } }

/-- The process after a list of happenings, if they can all happen. -/
def afterAll? (runtime : Runtime W) : List (Happening W) → Option (Runtime W)
  | [] => some runtime
  | happening :: rest => (runtime.after? happening).bind fun runtime => runtime.afterAll? rest

/-- Whether an identifier counts as that of a live handle: it is on the table, and the engine that
it leads to is still there and is marked as open. -/
def isLive (runtime : Runtime W) (id : Nat) : Bool :=
  runtime.commons.live.contains id && runtime.attempts.any fun attempt =>
    attempt.engine?.any fun engine => engine.id == id && engine.isOpen

end Runtime

end Inference
