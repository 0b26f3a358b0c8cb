/-
Frameworks that can stand behind a model.

`any` asks for the framework to be told from the name of the model file.  The file's
extension decides, in any case of its letters; directories and earlier dots in the name
play no part.
-/
import Inference.Text.Name
import Inference.Text.Split

namespace Inference

/-- The framework behind a model. -/
inductive Framework where
  | any | custom | tensorflowLite | tensorflow | nnfw | mvnc | openvino | vivante | edgetpu | armnn
  | snpe | pytorch | nntrainer | vdAifw | trixEngine | mxnet | tvm | snap
  deriving DecidableEq, Repr, Inhabited

namespace Framework

/-- Every framework, in the order they are listed to users. -/
def all : List Framework :=
  [any, custom, tensorflowLite, tensorflow, nnfw, mvnc, openvino, vivante, edgetpu, armnn, snpe,
   pytorch, nntrainer, vdAifw, trixEngine, mxnet, tvm, snap]

/-- The printed name. -/
def name : Framework → String
  | any => "any"
  | custom => "custom"
  | tensorflowLite => "tensorflow-lite"
  | tensorflow => "tensorflow"
  | nnfw => "nnfw"
  | mvnc => "mvnc"
  | openvino => "openvino"
  | vivante => "vivante"
  | edgetpu => "edgetpu"
  | armnn => "armnn"
  | snpe => "snpe"
  | pytorch => "pytorch"
  | nntrainer => "nntrainer"
  | vdAifw => "vd-aifw"
  | trixEngine => "trix-engine"
  | mxnet => "mxnet"
  | tvm => "tvm"
  | snap => "snap"

/-- Every name that is understood, the printed one first. -/
def names : Framework → List String
  | custom => ["custom", "custom-filter", "custom-easy"]
  | tensorflowLite => ["tensorflow-lite", "tflite"]
  | framework => [framework.name]

/-- The framework that goes by `text`, in any case of its letters. -/
def ofName? (text : List Char) : Option Framework := Text.findByName? names all text

/-! ### Model files -/

/-- File extensions and the framework whose models carry them. -/
def extensions : List (String × Framework) :=
  [("tflite", tensorflowLite), ("pb", tensorflow), ("pt", pytorch), ("so", custom),
   ("dylib", custom), ("circle", nnfw), ("nnpackage", nnfw), ("xml", openvino), ("bin", openvino),
   ("dlc", snpe), ("tvn", trixEngine), ("nb", vivante), ("graph", mvnc), ("ini", nntrainer),
   ("params", mxnet), ("json", mxnet)]

/-- The parts of a path that count: empty parts do not, and a lone dot does only at the very start
of a path, where it cannot be left out. -/
def pathParts (path : List Char) : List (List Char) :=
  match Text.split '/' path with
  | [] => []
  | first :: rest =>
    (if first.isEmpty then [] else [first]) ++ rest.filter fun part => !part.isEmpty
      && part != ['.']

/-- The name of the file a path leads to; a path that ends in a dot or two dots leads to none. -/
def fileName? (path : List Char) : Option (List Char) :=
  match (pathParts path).getLast? with
  | none => none
  | some part => if part = ['.'] ∨ part = ['.', '.'] then none else some part

/-- What follows the last dot of a file name, unless that dot comes first. -/
def extension? (fileName : List Char) : Option (List Char) :=
  match Text.split '.' fileName with
  | [] | [_] => none
  | [[], _] => none
  | parts => parts.getLast?

/-- The framework told from the name of a model file. -/
def ofModelFile? (path : List Char) : Option Framework := do
  let extension ← extension? (← fileName? path)
  (extensions.find? fun entry => entry.1.toList == Text.lower extension).map (·.2)

end Framework

end Inference
