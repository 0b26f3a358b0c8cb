/-
Element types of tensors.

Eleven types have a width in bytes.  The twelfth, `unknown`, marks a tensor whose type
has not been set yet; its width counts as zero.
-/
import Inference.Text.Name

namespace Inference

/-- The type of the elements of a tensor. -/
inductive ElementType where
  | int32 | uint32 | int16 | uint16 | int8 | uint8 | float64 | float32 | int64 | uint64 | float16
  /-- Not set yet. -/
  | unknown
  deriving DecidableEq, Repr, Inhabited

namespace ElementType

/-- Every element type, in the order they are listed to users. -/
def all : List ElementType :=
  [int32, uint32, int16, uint16, int8, uint8, float64, float32, int64, uint64, float16, unknown]

/-- Bytes of one element. -/
def width : ElementType → Nat
  | int8 | uint8 => 1
  | int16 | uint16 | float16 => 2
  | int32 | uint32 | float32 => 4
  | int64 | uint64 | float64 => 8
  | unknown => 0

/-- Whether the type has been set. -/
def isSet : ElementType → Bool
  | unknown => false
  | _ => true

/-- The printed name. -/
def name : ElementType → String
  | int32 => "int32"
  | uint32 => "uint32"
  | int16 => "int16"
  | uint16 => "uint16"
  | int8 => "int8"
  | uint8 => "uint8"
  | float64 => "float64"
  | float32 => "float32"
  | int64 => "int64"
  | uint64 => "uint64"
  | float16 => "float16"
  | unknown => "unknown"

/-- The type that goes by `text`, in any case of its letters. -/
def ofName? (text : List Char) : Option ElementType :=
  Text.findByName? (fun type => [type.name]) all text

/-- The type whose printed name is exactly `text`. -/
def ofExactName? (text : String) : Option ElementType := all.find? fun type => type.name == text

end ElementType

end Inference
