/-
What an engine expects of a backend.

A backend is a bundle of operations on a world of states `W`, which several backends may
share.  Whatever a backend remembers, logs or waits for lives in that world, so an
operation is a function from one world to the next.

A pass has two ends: `enter` when the backend takes up the work, `finish` when it has
done it.  Between the two other things may happen in the world, and as long as `finish`
gives nothing the pass is still going on.  Operations other than a pass never wait.

A pass, a new input, a property and memory that comes back are where a backend may crash, and its
answers say so.  For the rest it is assumed that it does not: what it says of its shapes and of who
allocates, being let go, and the dropping of whatever a crash or a failure carried with it have no
way to crash here.
-/
import Inference.Fault
import Inference.Tensor.Frame

namespace Inference

/-- How a pass of a backend ends. -/
inductive Ending where
  | done
  /-- The causes, the outermost first. -/
  | failed (causes : List String)
  /-- The backend crashed, leaving a text or not. -/
  | crashed (text : Option String)
  deriving DecidableEq, Repr, Inhabited

/-- What a pass leaves behind: how it ended, and the regions as it left them. -/
structure Pass where
  ending : Ending
  outputs : List Bytes
  deriving DecidableEq, Inhabited

/-- A loaded model, ready to run.  `input`, `output`, `allocates` and `dropped` always answer. -/
structure Backend (W : Type) where
  /-- The input the model expects before anything is negotiated. -/
  input : W → Descriptor
  /-- The output that goes with it. -/
  output : W → Descriptor
  /-- Whether passes allocate their own output regions. -/
  allocates : W → Bool
  /-- Takes up a new input and answers with the output that goes with it. -/
  adopt : Descriptor → W → Outcome Fault Descriptor × W
  /-- Takes up a pass on input regions, given the output regions and whether to replace them. -/
  enter : List Bytes → List Bytes → Bool → W → W
  /-- The end of that pass, once it has come. -/
  finish : List Bytes → List Bytes → Bool → W → Option (Pass × W)
  /-- Takes back regions the backend allocated; a text is that of a crash. -/
  release : List Bytes → W → Option String × W
  readProperty : String → W → Outcome Fault String × W
  writeProperty : String → String → W → Outcome Fault Unit × W
  /-- The backend is let go. -/
  dropped : W → W

namespace Backend

/-- What a backend of fixed shape says to a new input. -/
def fixedShape : Fault :=
  .notSupported "the backend does not support changing its input shape"

/-- What a backend says of a property it does not have. -/
def unknownProperty (key : String) : Fault := .notSupported ("unknown property '" ++ key ++ "'")

end Backend

namespace Pass

/-- What stands in for the text of a crash that left none. -/
def unknownCrash : String := "unknown panic payload"

/-- Why the pass counts as failed.  A pass that ended well still fails if its regions do not have
the sizes that were agreed. -/
def failure? (pass : Pass) (info : Descriptor) : Option Fault :=
  match pass.ending with
  | .done => match Frame.checkRegions info pass.outputs with
    | .ok () => none
    | .error fault =>
      some (.passFailed ("the backend produced a malformed output: " ++ fault.message))
  | .failed causes => some (.passFailed (": ".intercalate causes))
  | .crashed text => some (.passFailed ("the backend panicked: " ++ text.getD unknownCrash))

end Pass

end Inference
