/-
Tensor contents on the command line.

Input values are numbers with commas between them, filled into the input tensors one
after another; every input tensor must hold single precision numbers.  An output tensor
of single precision numbers is shown as numbers, any other as its bytes.
-/
import Inference.Binary32.Text
import Inference.Tensor.Frame
import Inference.Text.Split
import Inference.Text.Blank
import Inference.Json

namespace Inference

/-- Reads one number. -/
def readValue (text : List Char) : Except String Binary32 :=
  match Binary32.read? text with
  | some value => .ok value
  | none => .error ("'" ++ String.ofList text ++ "' is not a number: invalid float literal")

/-- Reads a list of numbers; empty entries are passed over. -/
def readValues (text : String) : Except String (List Binary32) :=
  (((Text.split ',' text.toList).map Text.trim).filter fun entry => !entry.isEmpty).mapM readValue

/-- How many single precision numbers a size has room for. -/
def roomFor (size : Nat) : Nat := size / ElementType.float32.width

/-- What a sum that leaves the machine word ends with. -/
def sumOverflow : String := "attempt to add with overflow"

/-- The sum of a list, reckoned in a machine word. -/
def wordSum {ε : Type} (counts : List Nat) : Outcome ε Nat :=
  match counts.foldlM checkedAdd 0 with
  | some total => .done total
  | none => .crashed sumOverflow

/-- Refuses the first tensor, from `index` on, that does not hold single precision numbers. -/
def checkFloats (index : Nat) : List Tensor → Except String Unit
  | [] => .ok ()
  | tensor :: rest =>
    if tensor.type = .float32 then checkFloats (index + 1) rest
    else .error ("input tensor " ++ Text.showNat index ++ " is " ++ tensor.type.name
      ++ ", only float32 inputs can be given as values")

/-- What cutting a list beyond its end ends with. -/
def cutBeyondEnd : String := "mid > len"

/-- The first `count` values, of which there must be that many, and those behind them. -/
def cutValues {ε : Type} (count : Nat) (values : List Binary32) :
    Outcome ε (List Binary32 × List Binary32) :=
  if count ≤ values.length then .done (values.take count, values.drop count)
  else .crashed cutBeyondEnd

/-- Writes values into the tensors of the given sizes, from `index` on. -/
def fill (frame : Frame) (index : Nat) (values : List Binary32) : List Nat → Outcome Fault Frame
  | [] => .done frame
  | size :: sizes =>
    (cutValues (roomFor size) values).bind fun (head, tail) =>
    (frame.write index (head.flatMap Binary32.toBytes)).bind fun frame =>
      fill frame (index + 1) tail sizes

/-- An input frame that holds the given values.  Nothing is allocated for values that do not fit. -/
def inputOf (info : Descriptor) (values : List Binary32) : Outcome String Frame :=
  ((Frame.checkZeroed info).mapFault Fault.message).bind fun () =>
  (wordSum (info.sizes.map roomFor)).bind fun expected =>
    (Outcome.ofExcept (checkFloats 0 info.tensors)).bind fun () =>
      if values.length ≠ expected then
        .failed ("the model takes " ++ Text.showNat expected ++ " values, "
          ++ Text.showNat values.length ++ " were given")
      else
        ((Frame.zeroed info).bind fun frame =>
          fill frame 0 values info.sizes).mapFault Fault.message

/-- A byte in hexadecimal, with a mark in front. -/
def showByte (byte : UInt8) : List Char :=
  ['0', 'x', Json.hexDigit (byte.toNat / 16), Json.hexDigit (byte.toNat % 16)]

/-- The contents of a tensor, one text for each element or byte. -/
def showElements (type : ElementType) (bytes : Bytes) : List (List Char) :=
  if type = .float32 then (Binary32.listOfBytes bytes).map Binary32.render else bytes.map showByte

/-- The contents of the tensor at `index` for a person to read. -/
def showTensor (frame : Frame) (index : Nat) : Except String String := do
  let bytes ← (frame.tensor index).mapError Fault.message
  let type ← (frame.info.typeAt index).mapError Fault.message
  return String.ofList ('[' :: Text.join [',', ' '] (showElements type bytes) ++ [']'])

end Inference
