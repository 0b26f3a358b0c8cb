/-
The vocabulary of sessions.

A session is a list of steps that work on named registers: descriptors, frames, engines
and threads.  Each step is answered by exactly one answer.  Steps name types, frameworks
and accelerators by text, since a name that means nothing is itself an answer.
-/
import Inference.Engine.Operation
import Inference.Json
import Inference.Session.Script

namespace Inference.Session

/-! ### What steps are made of -/

/-- A descriptor spelled out: tensors to push, then texts to set. -/
structure Recipe where
  extended : Bool := false
  tensors : List (String × List UInt32) := []
  dims : Option String := none
  types : Option String := none
  names : Option String := none

/-- Where a descriptor comes from. -/
inductive Source where
  | register (name : String)
  | json (value : Json)
  | recipe (recipe : Recipe)

/-- The options of an opening, with names as text. -/
structure OptionsSource where
  model : Option String := none
  framework : Option String := none
  accelerator : Option String := none
  timeout : Option Nat := none
  custom : List (String × String) := []
  input : Option Source := none
  output : Option Source := none

/-- A script whose descriptors have yet to be found. -/
structure ScriptSource where
  input : Source
  output : Source
  rest : Script

/-- How a frame is made. -/
inductive Making where
  | zeroed
  | unallocated
  | regions
  deriving DecidableEq

/-! ### Steps -/

/-- Changes to a descriptor register. -/
inductive Edit where
  | setCount (count : Nat)
  | push (type : String) (extents : List UInt32)
  | setName (index : Nat) (name : Option String)
  | setType (index : Nat) (type : String)
  | setExtents (index : Nat) (extents : List UInt32)
  | setDimensionsText (text : String)
  | setTypesText (text : String)
  | setNamesText (text : String)

/-- Questions to a descriptor register. -/
inductive Question where
  | count
  | name (index : Nat)
  | type (index : Nat)
  | extents (index : Nat)
  /-- The size of one tensor, or of all together. -/
  | size (index : Option Nat)
  | sizes
  | validate
  | isValid
  | rank
  | texts
  | json

/-- What a thread can be given to do. -/
inductive Errand where
  | infer (engine frame : String) (timeout : Option Nat) (keep : Option String)
  | inferShaped (engine frame : String) (info : Source) (keep : Option String)
  | close (engine : String)
  | dropFrame (frame : String)

/-- One step of a session. -/
inductive Step where
  | describe (register : String) (source : Source)
  | edit (register : String) (edit : Edit)
  | ask (register : String) (question : Question)
  | compare (a b : Source)
  | makeFrame (frame : String) (source : Source) (making : Making) (regions : List Bytes)
  | cloneFrame (frame into : String)
  | showFrame (frame : String)
  | frameSizes (frame : String)
  | debugFrame (frame : String)
  | readTensor (frame : String) (index : Nat)
  | hasMemory (frame : String) (index : Nat)
  | writeTensor (frame : String) (index : Nat) (bytes : Bytes)
  | pokeTensor (frame : String) (index position : Nat) (byte : UInt8)
  | registerModel (name : String) (input output : Source) (play : Play) (probe : String)
  | unregisterModel (name : String)
  | available (framework accelerator : String)
  | registerLoader (framework : String) (script : ScriptSource) (fails : Bool)
      (accelerator : Option (List String))
  | unregisterLoader (framework : String)
  | openLoaded (engine : String) (script : ScriptSource) (options : OptionsSource)
  | openModel (engine : String) (options : OptionsSource)
  | dropEngine (engine : String)
  | status (engine : String)
  | compareIds (a b : String)
  | debugEngine (engine : String)
  | operate (engine : String) (operation : Operation)
  | reshape (engine : String) (info : Source)
  | properties (engine : String)
  | inferInto (engine frame target : String)
  | errand (errand : Errand)
  | spawn (thread : String) (errand : Errand)
  | join (thread : String)
  | permit (probe : String) (count : Nat)
  | awaitPass (probe : String) (count : Nat)
  | settle (engine : String)
  | events (probe : String)

/-! ### Answers -/

/-- What a step answers with when it succeeds. -/
inductive Value where
  | none
  | bool (value : Bool)
  | number (value : Nat)
  | text (value : String)
  | optionalText (value : Option String)
  | texts (values : List String)
  | numbers (values : List Nat)
  | bools (values : List Bool)
  | bytes (value : Bytes)
  /-- Everything a descriptor stores. -/
  | record (info : Descriptor)
  /-- What a descriptor looks like. -/
  | shape (info : Descriptor)
  | frame (frame : Frame)
  | shaped (frame : Frame) (info : Descriptor)
  /-- Whether the descriptor is extended, and its rank limit. -/
  | rank (extended : Bool) (limit : Nat)
  | counted (count : Nat) (sizes : List Nat)
  | opened (framework : Framework) (accelerator : Accelerator) (input output : Descriptor)
  | status (valid : Option Bool) (live : Bool)
  deriving Inhabited

/-- What a step answers with. -/
inductive Answer where
  | ok (value : Value)
  | fault (fault : Fault)
  /-- A name that means nothing. -/
  | unknownName
  /-- A JSON value that is no descriptor. -/
  | undecodable
  /-- The register of a name is empty. -/
  | noSuch (name : String)
  /-- The step crashed. -/
  | crashed (message : String)
  /-- The answer of a thread. -/
  | joined (answer : Answer)
  deriving Inhabited

/-- An answer, and for steps that change a descriptor register what it holds afterwards. -/
structure Result where
  answer : Answer
  record : Option Descriptor := none

end Inference.Session
