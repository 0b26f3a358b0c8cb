/-
Accelerators a backend may run on.

`any` and `auto` leave the choice to the backend.  One accelerator goes by two names.
-/
import Inference.Text.Name

namespace Inference

/-- The accelerator asked for. -/
inductive Accelerator where
  | any | auto | cpu | cpuSimd | gpu | npu | npuMovidius | npuEdgetpu | npuVivante | npuSlsi | npuSr
  deriving DecidableEq, Repr, Inhabited

namespace Accelerator

/-- Every accelerator, in the order they are listed to users. -/
def all : List Accelerator :=
  [any, auto, cpu, cpuSimd, gpu, npu, npuMovidius, npuEdgetpu, npuVivante, npuSlsi, npuSr]

/-- The printed name. -/
def name : Accelerator → String
  | any => "any"
  | auto => "auto"
  | cpu => "cpu"
  | cpuSimd => "cpu.simd"
  | gpu => "gpu"
  | npu => "npu"
  | npuMovidius => "npu.movidius"
  | npuEdgetpu => "npu.edgetpu"
  | npuVivante => "npu.vivante"
  | npuSlsi => "npu.slsi"
  | npuSr => "npu.sr"

/-- Every name that is understood, the printed one first. -/
def names : Accelerator → List String
  | cpuSimd => ["cpu.simd", "cpu.neon"]
  | accelerator => [accelerator.name]

/-- The accelerator that goes by `text`, in any case of its letters. -/
def ofName? (text : List Char) : Option Accelerator := Text.findByName? names all text

/-- What a backend runs on unless it says otherwise. -/
def isOrdinary : Accelerator → Bool
  | any | auto | cpu => true
  | _ => false

end Accelerator

end Inference
