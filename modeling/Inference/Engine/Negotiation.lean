/-
Agreeing on shapes.

An engine and its backend agree on an input and an output.  When an engine is opened the
caller may ask for an input, which the backend may take up or refuse, and may state the
output it expects.  An open engine can be given another input as long as no pass is
running.
-/
import Inference.Engine.Host
import Inference.Options
import Inference.Tensor.Notation

namespace Inference

open Act

/-- Refuses a descriptor that cannot be used, saying what it was meant for. -/
def Descriptor.validateAs (d : Descriptor) (role : String) : Except Fault Unit :=
  d.validate.mapError fun fault =>
    .invalidParameter ("the " ++ role ++ " descriptor is not usable: " ++ fault.message)

namespace Backend

variable {W : Type}

/-- The input to start with, the output that goes with it, and the world after asking.  The backend
is asked only if the request differs from what it expects anyway. -/
def agreeInput (backend : Backend W) (requested : Option Descriptor) (world : W) :
    Outcome Fault (Descriptor × Descriptor) × W :=
  match requested with
  | none => (.done (backend.input world, backend.output world), world)
  | some request =>
    match request.validate with
    | .error fault => (.failed fault, world)
    | .ok () =>
      if request.agrees (backend.input world) then (.done (request, backend.output world), world)
      else
        let (answer, after) := backend.adopt request world
        ((answer.map fun output => (request, output)).mapFault fun fault =>
          .invalidParameter ("the model does not accept input " ++ request.dimensionsText ++ ": "
            ++ fault.message), after)

end Backend

/-- The output to start with, which must agree with the one that is expected. -/
def agreeOutput (produced : Descriptor) : Option Descriptor → Except Fault Descriptor
  | none => .ok produced
  | some expected => do
    expected.validate
    if expected.agrees produced then .ok expected
    else .error (.invalidParameter ("the model produces " ++ produced.dimensionsText ++ " but "
      ++ expected.dimensionsText ++ " was requested"))

/-- The descriptors an engine starts with. -/
def Backend.agreeShapes {W : Type} (backend : Backend W) (options : Options) (world : W) :
    Outcome Fault (Descriptor × Descriptor) × W :=
  let (answer, world) := backend.agreeInput options.input world
  (answer.bind fun (input, produced) => .ofExcept do
    let output ← agreeOutput produced options.output
    input.validateAs "input"
    output.validateAs "output"
    return (input, output), world)

/-- Gives an engine without a running pass another input.  The backend is asked only if the shape
changes; otherwise just the names are taken over. -/
def renegotiate {W : Type} (info : Descriptor) : Act W Unit := do
  let desk ← Act.desk
  if desk.mode = .running then fail .busy
  else if info.agrees desk.input then setDesk { desk with input := info }
  else
    let output ← useBackend fun backend => backend.adopt info
    ofExcept (output.validate.mapError fun fault =>
      .passFailed ("the backend negotiated an unusable output: " ++ fault.message))
    setDesk { desk with input := info, output }

end Inference
