/-
Descriptors: the types and shapes of a group of tensors.

A descriptor starts empty and is filled entry by entry.  It may be in any state while
it is being filled; `validate` says when it can be used.  Edits are total: they give
back the descriptor they leave behind whether they succeed or are refused, since a
refused edit may already have written some entries.

Two descriptors agree when they have the same rank class, as many entries, and in each
entry the same type and the same used axes.  Names never matter for agreement.
-/
import Inference.Fault
import Inference.Tensor.ElementType
import Inference.Tensor.Shape
import Inference.Text.Numeral
import Inference.Word

namespace Inference

/-- The largest number of tensors a usable descriptor holds. -/
def tensorLimit : Nat := 16

/-- One entry of a descriptor. -/
structure Tensor where
  name : Option String := none
  type : ElementType := .unknown
  shape : Shape := .unset
  deriving DecidableEq, Inhabited

/-- The tensors of a frame, in order. -/
structure Descriptor where
  rank : RankClass := .standard
  tensors : List Tensor := []
  deriving DecidableEq, Inhabited

namespace Tensor

/-- Bytes of the tensor; none if the running product leaves the machine word. -/
def size? (tensor : Tensor) (rank : RankClass) : Option Nat :=
  (tensor.shape.used rank).foldlM (fun size axis => checkedMul size axis.toNat) tensor.type.width

/-- The first rule a tensor breaks. -/
def defect? (tensor : Tensor) (rank : RankClass) : Option String :=
  if !tensor.type.isSet then some "the tensor type is not set"
  else match tensor.shape.axes.findIdx? (· == 0) with
    | some axis => some ("dimension " ++ Text.showNat axis ++ " is zero")
    | none => match (tensor.shape.unused rank).findIdx? (· != 1) with
      | some axis =>
        some ("dimension " ++ Text.showNat (axis + rank.limit) ++ " exceeds the rank limit "
          ++ Text.showNat rank.limit ++ " and must be 1")
      | none =>
        if (tensor.size? rank).isNone then some "the tensor size does not fit in memory" else none

/-- Same type and same used axes. -/
def agrees (a b : Tensor) (rank : RankClass) : Bool :=
  a.type == b.type && a.shape.used rank == b.shape.used rank

end Tensor

namespace Descriptor

/-! ### Reading -/

/-- Number of tensors. -/
def count (d : Descriptor) : Nat := d.tensors.length

/-- Agreement up to names and unused axes. -/
def agrees (a b : Descriptor) : Bool :=
  a.rank == b.rank && a.count == b.count
    && (a.tensors.zip b.tensors).all fun (x, y) => x.agrees y a.rank

/-- What is said of an index beyond the last entry. -/
def outOfBounds (d : Descriptor) (index : Nat) : Fault :=
  .invalidParameter ("index " ++ Text.showNat index ++ " is out of bounds, the descriptor holds "
    ++ Text.showNat d.count ++ " tensors")

/-- The entry at `index`. -/
def tensorAt (d : Descriptor) (index : Nat) : Except Fault Tensor :=
  match d.tensors[index]? with
  | some tensor => .ok tensor
  | none => .error (d.outOfBounds index)

/-- The name at `index`, if that tensor has one. -/
def nameAt (d : Descriptor) (index : Nat) : Except Fault (Option String) :=
  (d.tensorAt index).map (·.name)

/-- The type at `index`. -/
def typeAt (d : Descriptor) (index : Nat) : Except Fault ElementType :=
  (d.tensorAt index).map (·.type)

/-- The used axes at `index`. -/
def extentsAt (d : Descriptor) (index : Nat) : Except Fault (List UInt32) :=
  (d.tensorAt index).map (·.shape.used d.rank)

/-- Bytes of all tensors together, if they fit a machine word. -/
def sizeOfAll? (d : Descriptor) : Option Nat :=
  d.tensors.foldlM (fun total tensor => (tensor.size? d.rank).bind (checkedAdd total)) 0

/-- What is said of a size beyond the machine word. -/
def tooLarge : Fault := .invalidParameter "the tensor size does not fit in memory"

/-- A size, or the complaint that it does not fit. -/
def sizeOrFault : Option Nat → Except Fault Nat
  | some size => .ok size
  | none => .error tooLarge

/-- Bytes of the tensor at `index`. -/
def sizeAt (d : Descriptor) (index : Nat) : Except Fault Nat :=
  (d.tensorAt index).bind fun tensor => sizeOrFault (tensor.size? d.rank)

/-- Bytes of all tensors together. -/
def sizeOfAll (d : Descriptor) : Except Fault Nat := sizeOrFault d.sizeOfAll?

/-- Bytes of every tensor, in order; a size that does not fit counts as the largest word. -/
def sizes (d : Descriptor) : List Nat :=
  d.tensors.map fun tensor => (tensor.size? d.rank).getD (wordLimit - 1)

/-! ### Validity -/

/-- The first tensor that breaks a rule, with its index and the rule. -/
def firstDefect? (rank : RankClass) (index : Nat) : List Tensor → Option String
  | [] => none
  | tensor :: rest =>
    match tensor.defect? rank with
    | some reason => some ("tensor " ++ Text.showNat index ++ ": " ++ reason)
    | none => firstDefect? rank (index + 1) rest

/-- The first rule the descriptor breaks. -/
def defect? (d : Descriptor) : Option String :=
  if d.tensors.isEmpty then some "the descriptor holds no tensors"
  else if d.count > tensorLimit then
    some ("the descriptor holds " ++ Text.showNat d.count ++ " tensors, the limit is "
      ++ Text.showNat tensorLimit)
  else match firstDefect? d.rank 0 d.tensors with
    | some reason => some reason
    | none =>
      if d.sizeOfAll?.isNone then some "the total tensor size does not fit in memory" else none

/-- Refuses a descriptor that cannot be used, naming the first rule it breaks. -/
def validate (d : Descriptor) : Except Fault Unit :=
  match d.defect? with
  | some reason => .error (.invalidParameter reason)
  | none => .ok ()

/-- Whether the descriptor can be used. -/
def isValid (d : Descriptor) : Bool := d.defect?.isNone

/-! ### Editing -/

/-- The result of an edit, with the descriptor it leaves behind. -/
abbrev Edited (α : Type) := Except Fault α × Descriptor

/-- Cuts the list of tensors at `count`, or fills it up with tensors that are not set. -/
def resize (d : Descriptor) (count : Nat) : Descriptor :=
  { d with tensors := d.tensors.take count ++ List.replicate (count - d.count) {} }

/-- Sets the number of tensors, keeping those that stay. -/
def setCount (d : Descriptor) (count : Nat) : Edited Unit :=
  if count = 0 ∨ count > tensorLimit then
    (.error (.invalidParameter ("the number of tensors should be between 1 and "
      ++ Text.showNat tensorLimit ++ ", got " ++ Text.showNat count)), d)
  else (.ok (), d.resize count)

/-- Changes the entry at `index`. -/
def editAt (d : Descriptor) (index : Nat) (change : Tensor → Tensor) : Edited Unit :=
  if index < d.count then (.ok (), { d with tensors := d.tensors.modify index change })
  else (.error (d.outOfBounds index), d)

/-- Names the tensor at `index`, or takes its name away. -/
def setName (d : Descriptor) (index : Nat) (name : Option String) : Edited Unit :=
  d.editAt index fun tensor => { tensor with name := name }

/-- Sets the type at `index`; a type cannot be unset again. -/
def setType (d : Descriptor) (index : Nat) (type : ElementType) : Edited Unit :=
  if type.isSet then d.editAt index fun tensor => { tensor with type := type }
  else (.error (.invalidParameter "the tensor type cannot be set to unknown"), d)

/-- Sets the extents at `index`; axes not given become one. -/
def setExtents (d : Descriptor) (index : Nat) (extents : List UInt32) : Edited Unit :=
  if extents.length > d.rank.limit then
    (.error (.invalidParameter ("rank " ++ Text.showNat extents.length
      ++ " exceeds the rank limit " ++ Text.showNat d.rank.limit ++ " of this descriptor")), d)
  else d.editAt index fun tensor => { tensor with shape := Shape.ofList extents }

/-- Goes on with a second edit unless the first was refused. -/
def Edited.andThen {α β : Type} : Edited α → (Descriptor → Edited β) → Edited β
  | (.ok _, d), next => next d
  | (.error fault, d), _ => (.error fault, d)

/-- Appends a tensor and answers with its index.  A refused tensor is taken off again. -/
def push (d : Descriptor) (type : ElementType) (extents : List UInt32) : Edited Nat :=
  let index := d.count
  match d.setCount (index + 1) with
  | (.error fault, d) => (.error fault, d)
  | (.ok (), d) =>
    match (d.setType index type).andThen fun d => d.setExtents index extents with
    | (.ok (), d) => (.ok index, d)
    | (.error fault, d) => (.error fault, { d with tensors := d.tensors.take index })

end Descriptor

end Inference
