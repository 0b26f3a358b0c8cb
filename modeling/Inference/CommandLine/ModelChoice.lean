/-
The part of a command line that says which model to open and how.

There is one positional argument, the model.  Shapes are given by their dimensions and
their types together, or not at all.
-/
import Inference.CommandLine.Arguments
import Inference.Options
import Inference.Tensor.Notation

namespace Inference

/-- A model as it is named on the command line. -/
structure ModelChoice where
  model : String
  framework : Framework := .any
  accelerator : Accelerator := .any
  inputDims : Option String := none
  inputTypes : Option String := none
  outputDims : Option String := none
  outputTypes : Option String := none
  timeout : Nat := 0
  custom : List String := []
  deriving DecidableEq, Inhabited

namespace ModelChoice

/-- The options that every command with a model has. -/
def optionNames : List String :=
  ["framework", "hardware", "input-dims", "input-types", "output-dims", "output-types",
   "timeout-ms", "custom"]

/-- Picks the model out of the arguments of a command. -/
def ofArguments? (arguments : Arguments) : Option ModelChoice := do
  let [model] := arguments.positionals | none
  return {
    model
    framework := ← arguments.reading "framework" .any Framework.ofName?
    accelerator := ← arguments.reading "hardware" .any Accelerator.ofName?
    inputDims := ← arguments.atMostOne "input-dims"
    inputTypes := ← arguments.atMostOne "input-types"
    outputDims := ← arguments.atMostOne "output-dims"
    outputTypes := ← arguments.atMostOne "output-types"
    timeout := ← arguments.reading "timeout-ms" 0 (Text.readBelow? wordLimit)
    custom := arguments.valuesOf "custom" }

/-- Reads a command line that consists of a model only. -/
def parse? (arguments : List String) : Option ModelChoice :=
  (Arguments.parse optionNames arguments).bind ofArguments?

/-- Goes on with a descriptor unless the edit that made it was refused. -/
def edited (edit : Descriptor.Edited Unit) : Except Fault Descriptor := edit.1.map fun () => edit.2

/-- The shape given by dimensions and types, if any is given. -/
def shape (what : String) : Option String → Option String → Except Fault (Option Descriptor)
  | none, none => .ok none
  | some dims, some types => do
    let shaped ← edited (({} : Descriptor).setDimensionsText dims)
    let typed ← edited (shaped.setTypesText types)
    if typed.count ≠ shaped.count then
      throw (.invalidParameter (Text.showNat shaped.count ++ " " ++ what ++ " dimensions but "
        ++ Text.showNat typed.count ++ " " ++ what ++ " types"))
    typed.validate
    return some typed
  | _, _ => .error (.invalidParameter
      ("--" ++ what ++ "-dims and --" ++ what ++ "-types must be given together"))

/-- Adds options of the backend, each written `key=value`. -/
def addCustom (options : Options) : List String → Except Fault Options
  | [] => .ok options
  | pair :: rest =>
    match Text.cut? '=' pair.toList with
    | none => .error (.invalidParameter ("custom option '" ++ pair
        ++ "' is not in the form key=value"))
    | some (key, value) =>
      let trimmed (text : List Char) := String.ofList (Text.trim text)
      addCustom (options.setCustom (trimmed key) (trimmed value)) rest

/-- The options to open the model with. -/
def toOptions (arguments : ModelChoice) : Except Fault Options := do
  let options := { Options.ofModel arguments.model with
    framework := arguments.framework
    accelerator := arguments.accelerator
    timeout := arguments.timeout }
  let input ← shape "input" arguments.inputDims arguments.inputTypes
  let output ← shape "output" arguments.outputDims arguments.outputTypes
  addCustom { options with input, output } arguments.custom

end ModelChoice

end Inference
