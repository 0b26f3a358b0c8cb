/-
Scripted backends.

A script says how a backend answers: which shapes it starts with, what it makes of a new
input, what each of its passes does, which properties it has, and where it crashes.  All
it does is recorded by its probe.
-/
import Inference.Options
import Inference.Session.Play
import Inference.Session.Stage
import Inference.Tensor.Notation

namespace Inference.Session

/-- What a scripted backend makes of a new input. -/
inductive Negotiating where
  /-- The output becomes the input. -/
  | echo
  /-- The same, but only single precision numbers are taken. -/
  | floatsOnly
  /-- One byte, whatever the input. -/
  | scalar
  /-- The input with the first axis of each tensor doubled. -/
  | doubled
  /-- A descriptor without tensors. -/
  | nothing
  | refuse (fault : Fault)
  | crash
  deriving DecidableEq, Repr

/-- How a scripted backend behaves. -/
structure Script where
  input : Descriptor := {}
  output : Descriptor := {}
  allocates : Bool := false
  gated : Bool := false
  /-- Without this the backend has a fixed shape. -/
  negotiating : Option Negotiating := none
  /-- What the passes do, one after another; the last one is repeated. -/
  plays : List Play := [.copy]
  /-- Without this the backend has no properties. -/
  properties : Option (Registers String) := none
  releaseCrashes : Bool := false
  probe : String := "p"
  deriving Inhabited

/-- A tensor with its first axis doubled, modulo the word. -/
def doubleFirst (tensor : Tensor) : Tensor :=
  { tensor with shape := Shape.ofList (match tensor.shape.axes with
    | first :: rest => (first + first) :: rest
    | [] => []) }

/-- The answer to a new input. -/
def Negotiating.answer (info : Descriptor) : Negotiating → Outcome Fault Descriptor
  | echo => .done info
  | floatsOnly =>
    if info.tensors.all fun tensor => tensor.type == .float32 then .done info
    else .failed (.invalidParameter "only float32 tensors are supported")
  | scalar => .done { tensors := [{ type := .uint8, shape := Shape.ofList [1] }] }
  | doubled => .done { info with tensors := info.tensors.map doubleFirst }
  | nothing => .done {}
  | refuse fault => .failed fault
  | crash => .crashed "configure exploded"

namespace Script

/-- What the pass of a number, counted from one, does. -/
def play (script : Script) (turn : Nat) : Play :=
  script.plays.getD (turn - 1) (script.plays.getLastD .copy)

/-- Takes up a new input. -/
def adopt (script : Script) (actor : Nat) (info : Descriptor) (stage : Stage) :
    Outcome Fault Descriptor × Stage :=
  match script.negotiating with
  | none => (.failed Backend.fixedShape, stage)
  | some negotiating =>
    let stage := stage.note script.probe
      ("configure " ++ info.dimensionsText ++ " " ++ info.typesText)
    match negotiating.answer info with
    | .done output => (.done output, stage.setActor actor { stage.actor actor with output })
    | outcome => (outcome, stage)

/-- Takes up a pass. -/
def enter (script : Script) (actor : Nat) (inputs outputs : List Bytes) (lending : Bool)
    (stage : Stage) : Stage :=
  let stage := stage.note script.probe ("invoke in=" ++ showLengths inputs ++ " out="
    ++ showLengths outputs ++ " alloc=" ++ (if lending then "true" else "false"))
  let probe := stage.probe script.probe
  let memory := stage.actor actor
  (stage.setProbe script.probe { probe with passes := probe.passes + 1 }).setActor actor
    { memory with turn := memory.turn + 1 }

/-- The sizes a pass fills. -/
def sizesFor (found : List Bytes) (lending : Bool) (agreed : Descriptor) : List Nat :=
  if lending then found.mapIdx fun index _ => agreed.sizes.getD index 0 else found.map List.length

/-- The end of a pass; a gated one waits for a permit. -/
def finish (script : Script) (actor : Nat) (inputs outputs : List Bytes) (lending : Bool)
    (stage : Stage) : Option (Pass × Stage) :=
  let memory := stage.actor actor
  let pass := (script.play memory.turn).perform inputs outputs
    (sizesFor outputs lending memory.output)
  let probe := stage.probe script.probe
  if !script.gated then some (pass, stage)
  else if probe.permits = 0 then none
  else some (pass, stage.setProbe script.probe { probe with permits := probe.permits - 1 })

/-- Takes back regions. -/
def release (script : Script) (regions : List Bytes) (stage : Stage) : Option String × Stage :=
  (if script.releaseCrashes then some "release exploded" else none,
    stage.note script.probe ("release " ++ showLengths regions))

/-- Reads a property. -/
def readProperty (script : Script) (actor : Nat) (key : String) (stage : Stage) :
    Outcome Fault String × Stage :=
  match (stage.actor actor).properties with
  | none =>
    (if key = "boom" then .crashed "get exploded" else .failed (Backend.unknownProperty key), stage)
  | some properties =>
    (if key = "boom" then .crashed "get exploded"
      else match properties.get? key with
        | some value => .done value
        | none => .failed (Backend.unknownProperty key),
      stage.note script.probe ("get " ++ key))

/-- Writes a property. -/
def writeProperty (script : Script) (actor : Nat) (key value : String) (stage : Stage) :
    Outcome Fault Unit × Stage :=
  let memory := stage.actor actor
  match memory.properties with
  | none => (.failed (Backend.unknownProperty key), stage)
  | some properties =>
    let stage := stage.note script.probe ("set " ++ key ++ "=" ++ value)
    if key = "boom" then (.crashed "set exploded", stage)
    else if key = "readonly" then
      (.failed (.invalidParameter "'readonly' cannot be written"), stage)
    else
      (.done (), stage.setActor actor { memory with properties := some (properties.put key value) })

/-- The backend that the actor of a number plays. -/
def backend (script : Script) (actor : Nat) : Backend Stage where
  input _ := script.input
  output _ := script.output
  allocates _ := script.allocates
  adopt := script.adopt actor
  enter := script.enter actor
  finish := script.finish actor
  release := script.release
  readProperty := script.readProperty actor
  writeProperty := script.writeProperty actor
  dropped stage := stage.note script.probe "drop"

/-- A fresh backend for a script. -/
def cast (script : Script) (stage : Stage) : Backend Stage × Stage :=
  (script.backend stage.actors.length,
    { stage with
      actors := stage.actors ++ [{ output := script.output, properties := script.properties }] })

end Script

/-- The event of a model being loaded. -/
def loadEvent (options : Options) : String :=
  "open models=[" ++ "|".intercalate options.models ++ "] nnfw=" ++ options.framework.name
    ++ " hw=" ++ options.accelerator.name ++ " custom=["
    ++ "|".intercalate (options.custom.map fun (key, value) => key ++ "=" ++ value) ++ "]"

end Inference.Session
