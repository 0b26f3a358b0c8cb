/-
Single questions, asked outside of a session.

What a list of values reads as and how it fills an input, how the contents of a frame are
shown, and what options amount to.  Descriptors are described as in a session whose
registers are all empty.
-/
import Inference.CommandLine.Values
import Inference.Session.Run

namespace Inference.Session

/-- Does work on a session that has just begun. -/
def alone {α : Type} (work : Work α) : Except Answer α := (work.run.run {}).1

/-- Why a single question has no answer: it was answered otherwise, or it was refused with a
text. -/
inductive Refusal where
  | answer (answer : Answer)
  | text (text : String)

/-- A frame filled with values, and the contents of its tensors, or why they cannot be shown. -/
structure Filled where
  frame : Frame
  shown : Except String (List String)

/-- A list of values, and the input filled with them, if an input was described. -/
structure Values where
  numbers : List Binary32
  input : Option (Except String Filled)

/-- The contents of the first tensors of a frame. -/
def showTensors (frame : Frame) (count : Nat) : Except String (List String) :=
  (List.range count).mapM (showTensor frame)

/-- Reads values and fills an input with them.  `past` asks for one tensor more than there are. -/
def readInput (text : String) (source : Option Source) (past : Bool) : Except Refusal Values := do
  let numbers ← (readValues text).mapError .text
  match source with
  | none => return { numbers, input := none }
  | some source =>
    let info ← (alone (resolve source)).mapError .answer
    match inputOf info numbers with
    | .done frame =>
      let shown := showTensors frame (frame.count + if past then 1 else 0)
      return { numbers, input := some (.ok { frame, shown }) }
    | .failed text => return { numbers, input := some (.error text) }
    | .crashed message => throw (.answer (.crashed message))

/-- The contents of a frame made from the given regions. -/
def showRegions (source : Source) (regions : List Bytes) : Except Refusal (List String) := do
  let info ← (alone (resolve source)).mapError .answer
  let frame ← (Frame.ofRegions info regions).mapError fun fault => .answer (.fault fault)
  (showTensors frame frame.count).mapError .text

/-- The options a source stands for, and the values of some keys. -/
def readOptions (source : OptionsSource) (keys : List String) :
    Except Answer (Options × List (Option String)) := do
  let options ← alone (resolveOptions source)
  return (options, keys.map options.valueFor?)

end Inference.Session
