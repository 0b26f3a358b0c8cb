/-
Descriptors as JSON.

What is written holds everything a descriptor stores: the rank class, and for every
tensor its name, its type and all sixteen axes.  The reader also takes the positional
form, a list of the fields in their order, and a type given as an object with the type's
name as its only field.  Fields it does not know are skipped; a missing name is no name.
-/
import Inference.Json
import Inference.Tensor.Descriptor

namespace Inference

open Json (field?)

/-! ### Writing -/

/-- One tensor. -/
def Tensor.toJson (tensor : Tensor) : Json :=
  .object [("dimension", .list (tensor.shape.axes.map fun axis => .whole axis.toNat)),
    ("name", match tensor.name with | some name => .text name | none => .null),
    ("type", .text tensor.type.name)]

/-- A whole descriptor. -/
def Descriptor.toJson (d : Descriptor) : Json :=
  .object [("extended", .bool (d.rank == .extended)),
    ("tensors", .list (d.tensors.map Tensor.toJson))]

/-! ### Reading -/

/-- A type, by its exact name. -/
def ElementType.ofJson? : Json → Option ElementType
  | .text name => ofExactName? name
  | .object [(name, .null)] => ofExactName? name
  | _ => none

/-- A name, which may be missing. -/
def Tensor.nameOfJson? : Json → Option (Option String)
  | .null => some none
  | .text name => some (some name)
  | _ => none

/-- One extent: a whole number that fits 32 bits. -/
def Shape.extentOfJson? : Json → Option UInt32
  | .whole value =>
    if 0 ≤ value ∧ value < shortWordLimit then some (UInt32.ofNat value.toNat) else none
  | _ => none

/-- A shape: a list of exactly sixteen extents. -/
def Shape.ofJson? : Json → Option Shape
  | .list items => (items.mapM extentOfJson?).bind ofAxes?
  | _ => none

/-- A tensor from its three fields. -/
def Tensor.ofFields? (name type dimension : Json) : Option Tensor := do
  return {
    name := ← nameOfJson? name
    type := ← ElementType.ofJson? type
    shape := ← Shape.ofJson? dimension }

/-- One tensor. -/
def Tensor.ofJson? : Json → Option Tensor
  | .object fields => do
    ofFields? ((field? "name" fields).getD .null) (← field? "type" fields)
      (← field? "dimension" fields)
  | .list [name, type, dimension] => ofFields? name type dimension
  | _ => none

/-- The rank class, told by a truth value. -/
def RankClass.ofJson? : Json → Option RankClass
  | .bool true => some .extended
  | .bool false => some .standard
  | _ => none

/-- A list of tensors. -/
def Tensor.listOfJson? : Json → Option (List Tensor)
  | .list items => items.mapM ofJson?
  | _ => none

/-- A descriptor from its two fields. -/
def Descriptor.ofFields? (extended tensors : Json) : Option Descriptor := do
  return { rank := ← RankClass.ofJson? extended, tensors := ← Tensor.listOfJson? tensors }

/-- A whole descriptor. -/
def Descriptor.ofJson? : Json → Option Descriptor
  | .object fields => do ofFields? (← field? "extended" fields) (← field? "tensors" fields)
  | .list [extended, tensors] => ofFields? extended tensors
  | _ => none

end Inference
