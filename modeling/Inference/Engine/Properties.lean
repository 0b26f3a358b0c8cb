/-
Properties of an engine.

Nine keys belong to the engine itself: the dimensions, types and names of input and
output, the timeout, the framework and the accelerator.  Every other key is the
backend's, which cannot be asked while a pass is running.  Writing the dimensions or the
types of the input negotiates a new shape.
-/
import Inference.Engine.Negotiation

namespace Inference

open Act

namespace Engine

variable {W : Type}

/-- The value of a property of the engine itself. -/
def ownProperty? (engine : Engine W) (key : String) : Option String :=
  let desk := engine.desk
  if key = "input" then some desk.input.dimensionsText
  else if key = "inputtype" then some desk.input.typesText
  else if key = "inputname" then some desk.input.namesText
  else if key = "output" then some desk.output.dimensionsText
  else if key = "outputtype" then some desk.output.typesText
  else if key = "outputname" then some desk.output.namesText
  else if key = "timeout" then some (Text.showNat desk.timeout)
  else if key = "framework" then some engine.framework.name
  else if key = "accelerator" then some engine.accelerator.name
  else none

end Engine

variable {W : Type}

/-- Reads a property. -/
def Act.readProperty (key : String) : Act W String := do
  let engine ← Act.engine
  match engine.ownProperty? key with
  | some value => return value
  | none =>
    if engine.desk.mode = .running then fail .busy
    else useBackend fun backend => backend.readProperty key

/-- Gives the engine the input that an edit of the present one leaves. -/
def editInput (edited : Descriptor.Edited Unit) : Act W Unit := do
  ofExcept edited.1
  ofExcept edited.2.validate
  renegotiate edited.2

/-- Reads a timeout. -/
def readTimeout (text : String) : Except Fault Nat :=
  match Text.readBelow? wordLimit (Text.trim text.toList) with
  | some milliseconds => .ok milliseconds
  | none => .error (.invalidParameter ("'" ++ text ++ "' is not a timeout in milliseconds"))

/-- Writes a property.  While a pass is running only the timeout can be written. -/
def Act.writeProperty (key value : String) : Act W Unit := do
  let desk ← Act.desk
  if desk.mode = .running ∧ key ≠ "timeout" then fail .busy
  else if key = "input" then editInput (desk.input.setDimensionsText value)
  else if key = "inputtype" then editInput (desk.input.setTypesText value)
  else if key = "inputname" then
    let (result, input) := desk.input.setNamesText value
    setDesk { desk with input }
    ofExcept result
  else if key = "outputname" then
    let (result, output) := desk.output.setNamesText value
    setDesk { desk with output }
    ofExcept result
  else if key = "timeout" then
    let timeout ← ofExcept (readTimeout value)
    setDesk { desk with timeout }
  else if key = "output" ∨ key = "outputtype" then
    fail (.notSupported "the output shape follows the input shape and cannot be set")
  else if key = "framework" ∨ key = "accelerator" then
    fail (.notSupported ("'" ++ key ++ "' is fixed when the model is opened"))
  else useBackend fun backend => backend.writeProperty key value

end Inference
