/-
What a model is opened with.

The model text may list several files with commas between them.  Options for the backend
are pairs of a key and a value; a key has one value, and setting it again moves it to the
end of the list.
-/
import Inference.Framework
import Inference.Accelerator
import Inference.Fault
import Inference.Tensor.Descriptor
import Inference.Text.Blank

namespace Inference

/-- Everything needed to open an engine.  The timeout is in milliseconds; zero waits without end. -/
structure Options where
  models : List String := []
  input : Option Descriptor := none
  output : Option Descriptor := none
  framework : Framework := .any
  accelerator : Accelerator := .any
  timeout : Nat := 0
  custom : List (String × String) := []
  deriving DecidableEq, Inhabited

namespace Options

/-- The model files listed in a text, without blanks and empty entries. -/
def modelsOf (text : String) : List String :=
  (((Text.split ',' text.toList).map Text.trim).filter fun model =>
    !model.isEmpty).map String.ofList

/-- Options for the given model and nothing else. -/
def ofModel (text : String) : Options := { models := modelsOf text }

/-- Sets an option of the backend, taking away its earlier value. -/
def setCustom (options : Options) (key value : String) : Options :=
  { options with custom := (options.custom.filter fun pair => pair.1 != key) ++ [(key, value)] }

/-- The value of an option of the backend. -/
def valueFor? (options : Options) (key : String) : Option String :=
  (options.custom.find? fun pair => pair.1 == key).map (·.2)

/-- The framework to open the model with.  `any` is resolved by the first model file. -/
def chosenFramework (options : Options) : Except Fault Framework :=
  match options.models with
  | [] => .error (.invalidParameter "no model was given")
  | model :: _ =>
    match options.framework with
    | .any => match Framework.ofModelFile? model.toList with
      | some framework => .ok framework
      | none => .error (.invalidParameter ("cannot tell the framework of '" ++ model
          ++ "' from its extension"))
    | framework => .ok framework

end Options

end Inference
