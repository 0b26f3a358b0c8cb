/-
The commands.

`describe` prints the tensors of a model as JSON, `invoke` runs one pass on values given
on the command line, and `bench` runs many passes one after another and reports how long
they took.  A command answers with a report: what goes to the output, and the error it
ended with, if any.

Commands read a clock, in nanoseconds, from whatever monad they run in.
-/
import Inference.Binary32.Sum
import Inference.CommandLine.ModelChoice
import Inference.CommandLine.Values
import Inference.Engine.Alone
import Inference.Catalog
import Inference.Tensor.Record

namespace Inference

/-- A command line that was understood. -/
inductive Command where
  | describe (model : ModelChoice)
  | invoke (model : ModelChoice) (values : String)
  | bench (model : ModelChoice) (iterations : Nat) (values : Option String)

namespace Command

/-- How many passes `bench` runs unless told otherwise. -/
def defaultIterations : Nat := 100

/-- Reads a command line. -/
def parse? : List String → Option Command
  | "describe" :: rest => do
    let arguments ← Arguments.parse ModelChoice.optionNames rest
    return describe (← ModelChoice.ofArguments? arguments)
  | "invoke" :: rest => do
    let arguments ← Arguments.parse ("values" :: ModelChoice.optionNames) rest
    return invoke (← ModelChoice.ofArguments? arguments) (← (← arguments.atMostOne "values"))
  | "bench" :: rest => do
    let arguments ← Arguments.parse ("values" :: "iterations" :: ModelChoice.optionNames) rest
    return bench (← ModelChoice.ofArguments? arguments)
      (← arguments.reading "iterations" defaultIterations (Arguments.readCount? shortWordLimit))
      (← arguments.atMostOne "values")
  | _ => none

end Command

/-- What a command printed, and the error it ended with. -/
structure Report where
  printed : List String := []
  error : Option String := none
  deriving DecidableEq, Inhabited

namespace Report

/-- The status a program exits with. -/
def exitStatus (report : Report) : Nat := if report.error.isSome then 1 else 0

/-- A piece of information. -/
def info (text : String) : String := "[singleshot] info: " ++ text

/-- A warning. -/
def warning (text : String) : String := "[singleshot] warning: " ++ text

/-- The line an error ends in. -/
def errorLine (text : String) : String := "[singleshot] error: " ++ text

end Report

/-! ### Times -/

/-- The units times are shown in: nanoseconds per unit and its sign, the largest first. -/
def timeUnits : List (Nat × String) := [(1000000000, "s"), (1000000, "ms"), (1000, "µs")]

/-- A fraction of a unit, without the zeros at its end. -/
def showFraction (rest unit : Nat) : List Char :=
  let padded := (Text.decimal (unit + rest)).drop 1
  let digits := (padded.reverse.dropWhile (· == '0')).reverse
  if digits.isEmpty then [] else '.' :: digits

/-- A time in the largest unit it fills. -/
def showTime (nanoseconds : Nat) : String :=
  match timeUnits.find? fun unit => unit.1 ≤ nanoseconds with
  | some (unit, sign) =>
    String.ofList (Text.decimal (nanoseconds / unit) ++ showFraction (nanoseconds % unit) unit)
      ++ sign
  | none => Text.showNat nanoseconds ++ "ns"

/-! ### The built-in models -/

/-- An input and output of `length` single precision numbers. -/
def floatShape (length : UInt32) : Descriptor :=
  { tensors := [{ type := .float32, shape := Shape.ofList [length] }] }

/-- A model that computes each output region from the input region in its place. -/
def regionwise {W : Type} (shape : Descriptor) (compute : Bytes → Bytes) : CustomModel W where
  input := shape
  output := shape
  run inputs _ world := ({ ending := .done, outputs := inputs.map compute }, world)

/-- The catalog the program starts with: a model that adds two to a number, and one that gives
four numbers back. -/
def builtinCatalog {W : Type} : Catalog W :=
  { models := [("add2", regionwise (floatShape 1) Binary32.addTwoEach),
      ("identity4", regionwise (floatShape 4) id)] }

/-! ### Running commands -/

namespace Command

variable {W : Type}

/-- Opens the model of a command line. -/
def openModel (catalog : Catalog W) (model : ModelChoice) (world : W) :
    Outcome String (Host W) :=
  match model.toOptions with
  | .error fault => .failed fault.message
  | .ok options =>
    match catalog.openModel 1 options world [] with
    | .opened host => .done host
    | .refused fault _ => .failed fault.message
    | .crashed message _ => .crashed message

/-- Closes the model. -/
def close (host : Host W) : Outcome String Unit :=
  ((host.perform .close).1.map fun _ => ()).mapFault Fault.message

/-- The text of the error a failed step ended with. -/
def errorOf {α : Type} : Outcome String α → Option String
  | .done _ => none
  | .failed text => some text
  | .crashed text => some text

/-- A report that ends with the error of a step, if there is one. -/
def ending {α : Type} (printed : List String) (outcome : Outcome String α) : Report :=
  { printed, error := errorOf outcome }

/-- Prints the tensors of a model as JSON. -/
def runDescribe (catalog : Catalog W) (world : W) (model : ModelChoice) : Report :=
  match openModel catalog model world with
  | .done host =>
    let engine := host.engine
    let description := Json.object [("accelerator", .text engine.accelerator.name),
      ("framework", .text engine.framework.name), ("input", host.desk.input.toJson),
      ("model", .text model.model), ("output", host.desk.output.toJson)]
    let closed := close host
    ending (if (errorOf closed).isSome then [] else [description.pretty]) closed
  | outcome => ending [] outcome

/-- One pass, with the host it leaves. -/
def onePass (host : Host W) (input : Frame) : Outcome Fault Frame × Host W :=
  match host.perform (.infer input none) with
  | (.done (.frame output), host) => (.done output, host)
  | (.done _, host) => (.failed .closedHandle, host)
  | (.failed fault, host) => (.failed fault, host)
  | (.crashed message, host) => (.crashed message, host)

/-- The lines that show an output. -/
def showOutput (output : Frame) : Except String (List String) :=
  (List.range output.count).mapM fun index => do
    return "output[" ++ Text.showNat index ++ "] = " ++ (← showTensor output index)

/-- Runs one pass on the given values. -/
def runInvoke {m : Type → Type} [Monad m] (clock : m Nat) (catalog : Catalog W) (world : W)
    (model : ModelChoice) (values : String) : m Report := do
  match openModel catalog model world with
  | .done host =>
    match (Outcome.ofExcept (readValues values)).bind (inputOf host.desk.input) with
    | .done input =>
      let start ← clock
      match onePass host input with
      | (.done output, host) =>
        let stop ← clock
        let first := Report.info ("Invoked '" ++ model.model ++ "' in " ++ showTime (stop - start))
        match showOutput output with
        | .ok lines => return ending (first :: lines) (close host)
        | .error text => return { printed := [first], error := some text }
      | (outcome, _) => return ending [] (outcome.mapFault Fault.message)
    | outcome => return ending [] outcome
  | outcome => return ending [] outcome

/-- The passes of a benchmark, counted by how they ended, and the time the good ones took. -/
structure Tally where
  succeeded : Nat := 0
  timeouts : Nat := 0
  failures : Nat := 0
  total : Nat := 0
  slowest : Nat := 0

/-- Counts one pass. -/
def Tally.count {α : Type} (tally : Tally) (outcome : Outcome Fault α) (time : Nat) : Tally :=
  match outcome with
  | .done _ => { tally with
      succeeded := tally.succeeded + 1, total := tally.total + time,
      slowest := max tally.slowest time }
  | .failed .timedOut => { tally with timeouts := tally.timeouts + 1 }
  | _ => { tally with failures := tally.failures + 1 }

/-- Runs passes one after another. -/
def repeatPass {m : Type → Type} [Monad m] (clock : m Nat) (input : Frame) :
    Nat → Host W → Tally → m (Tally × Host W)
  | 0, host, tally => return (tally, host)
  | left + 1, host, tally => do
    let start ← clock
    let (outcome, host) := onePass host input
    let stop ← clock
    repeatPass clock input left host (tally.count outcome (stop - start))

/-- As many zeros as the input has room for.  They are asked for as one region of memory. -/
def zeroValues (info : Descriptor) : Outcome String (List Binary32) :=
  (wordSum info.sizes).bind fun total =>
    let room := Frame.checkRoom [roomFor total * ElementType.float32.width]
    (room.mapFault Fault.message).map fun () => List.replicate (roomFor total) (Binary32.zero false)

/-- The values a benchmark runs on: those given, or zeros. -/
def benchValues (info : Descriptor) : Option String → Outcome String (List Binary32)
  | some values => .ofExcept (readValues values)
  | none => zeroValues info

/-- The lines that sum a benchmark up. -/
def summary (model : String) (iterations : Nat) (tally : Tally) : List String :=
  (if tally.succeeded > 0 then
    [Report.info (Text.showNat tally.succeeded ++ "/" ++ Text.showNat iterations
      ++ " invocations of '"
      ++ model ++ "': mean " ++ showTime (tally.total / tally.succeeded) ++ ", slowest "
      ++ showTime tally.slowest)]
    else [])
  ++ (if tally.timeouts + tally.failures > 0 then
    [Report.warning (Text.showNat tally.timeouts ++ " invocations timed out, "
      ++ Text.showNat tally.failures ++ " failed")]
    else [])

/-- Runs a benchmark. -/
def runBench {m : Type → Type} [Monad m] (clock : m Nat) (catalog : Catalog W) (world : W)
    (model : ModelChoice) (iterations : Nat) (values : Option String) : m Report := do
  if iterations = 0 then return { error := some "at least one iteration is needed" }
  match openModel catalog model world with
  | .done host =>
    let info := host.desk.input
    match (benchValues info values).bind (inputOf info) with
    | .done input =>
      let (tally, host) ← repeatPass clock input iterations host {}
      match close host with
      | .done () =>
        return { printed := summary model.model iterations tally
                 error := if tally.succeeded > 0 then none else some "no invocation succeeded" }
      | outcome => return ending [] outcome
    | outcome => return ending [] outcome
  | outcome => return ending [] outcome

/-- Runs a command. -/
def run {m : Type → Type} [Monad m] (clock : m Nat) (catalog : Catalog W) (world : W) :
    Command → m Report
  | describe model => return runDescribe catalog world model
  | invoke model values => runInvoke clock catalog world model values
  | bench model iterations values => runBench clock catalog world model iterations values

end Command

end Inference
