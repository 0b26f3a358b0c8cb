/-
Frames: the memory of a group of tensors.

A frame has one region of bytes for every tensor of its descriptor.  A region may be
missing until something is written to it.  Memory that a backend allocated is on lease:
when such a frame is dropped the regions go back to the backend, and the lease says to
which engine and for which pass.  A copy of a frame never carries a lease.
-/
import Inference.Tensor.Descriptor

namespace Inference

/-- The contents of one region of memory. -/
abbrev Bytes := List UInt8

/-- Who is responsible for the memory of a frame. -/
inductive Owner where
  /-- The application. -/
  | caller
  /-- An engine, for its own use. -/
  | engine
  /-- The backend that allocated it. -/
  | backend
  deriving DecidableEq, Repr, Inhabited

/-- The printed name. -/
def Owner.name : Owner → String
  | caller => "caller"
  | engine => "engine"
  | backend => "backend"

/-- Names the pass whose output a backend lent out, and the engine that ran it. -/
structure Lease where
  engine : Nat
  pass : Nat
  deriving DecidableEq, Repr, Inhabited

/-- One frame of tensor memory. -/
structure Frame where
  info : Descriptor
  regions : List (Option Bytes)
  owner : Owner := .caller
  lease : Option Lease := none
  deriving DecidableEq, Inhabited

/-- Sizes as they are shown in messages. -/
def showSizes (sizes : List Nat) : String :=
  "[" ++ ", ".intercalate (sizes.map Text.showNat) ++ "]"

namespace Frame

/-! ### Making frames -/

/-- Asks for regions of the given sizes, none of which may be more than one region can hold. -/
def checkRoom (sizes : List Nat) : Outcome Fault Unit :=
  if sizes.all (· ≤ regionLimit) then .done () else .crashed capacityOverflow

/-- Zero bytes for every size. -/
def allocate (sizes : List Nat) : Outcome Fault (List Bytes) :=
  (checkRoom sizes).map fun () => sizes.map fun size => List.replicate size 0

/-- Whether there can be a frame with all its memory. -/
def checkZeroed (info : Descriptor) : Outcome Fault Unit :=
  (Outcome.ofExcept info.validate).bind fun () => checkRoom info.sizes

/-- A frame with all its memory set to zero. -/
def zeroed (info : Descriptor) : Outcome Fault Frame :=
  (Outcome.ofExcept info.validate).bind fun () =>
    (allocate info.sizes).map fun regions => { info, regions := regions.map some }

/-- A frame without memory. -/
def unallocated (info : Descriptor) : Except Fault Frame :=
  info.validate.map fun () => { info, regions := List.replicate info.count none }

/-- Refuses the first region, from `index` on, that is not as long as it should be. -/
def checkLengths (index : Nat) : List Nat → List Bytes → Except Fault Unit
  | size :: sizes, region :: regions =>
    if region.length = size then checkLengths (index + 1) sizes regions
    else .error (.invalidParameter ("tensor " ++ Text.showNat index ++ " should hold "
      ++ Text.showNat size ++ " bytes, got " ++ Text.showNat region.length))
  | _, _ => .ok ()

/-- Refuses regions that do not match the descriptor in number or length. -/
def checkRegions (info : Descriptor) (regions : List Bytes) : Except Fault Unit :=
  if regions.length = info.count then checkLengths 0 info.sizes regions
  else .error (.invalidParameter ("expected " ++ Text.showNat info.count ++ " tensors, got "
    ++ Text.showNat regions.length))

/-- A frame around existing memory. -/
def ofRegions (info : Descriptor) (regions : List Bytes) : Except Fault Frame := do
  info.validate
  checkRegions info regions
  return { info, regions := regions.map some }

/-- A frame around memory that a backend allocated. -/
def lent (info : Descriptor) (regions : List Bytes) (lease : Lease) : Frame :=
  { info, regions := regions.map some, owner := .backend, lease := some lease }

/-- A copy of the memory for another owner. -/
def copyFor (frame : Frame) (owner : Owner) : Frame :=
  { info := frame.info, regions := frame.regions, owner }

/-- A copy that belongs to the application. -/
def clone (frame : Frame) : Frame := frame.copyFor .caller

/-! ### Reading -/

/-- Number of tensors. -/
def count (frame : Frame) : Nat := frame.regions.length

/-- The sizes the descriptor implies. -/
def sizes (frame : Frame) : List Nat := frame.info.sizes

/-- Whether the tensor at `index` has memory. -/
def hasMemory (frame : Frame) (index : Nat) : Bool :=
  match frame.regions[index]? with
  | some (some _) => true
  | _ => false

/-- The region at `index`, which may be missing. -/
def region (frame : Frame) (index : Nat) : Except Fault (Option Bytes) :=
  match frame.regions[index]? with
  | some region => .ok region
  | none => .error (.invalidParameter ("index " ++ Text.showNat index
      ++ " is out of bounds, the set holds " ++ Text.showNat frame.count ++ " tensors"))

/-- The bytes of the tensor at `index`. -/
def tensor (frame : Frame) (index : Nat) : Except Fault Bytes := do
  match ← frame.region index with
  | some bytes => return bytes
  | none => .error (.invalidParameter ("tensor " ++ Text.showNat index ++ " has no memory"))

/-- The bytes of all tensors; refused at the first that has no memory. -/
def allBytes (frame : Frame) : Except Fault (List Bytes) :=
  (List.range frame.count).mapM frame.tensor

/-- The regions that are there. -/
def present (frame : Frame) : List Bytes := frame.regions.filterMap id

/-! ### Writing -/

/-- Replaces the region at `index`. -/
def setRegion (frame : Frame) (index : Nat) (bytes : Bytes) : Frame :=
  { frame with regions := frame.regions.set index (some bytes) }

/-- The old contents of a region that is about to be written; a missing one is allocated first. -/
def contents (region : Option Bytes) (size : Nat) : Outcome Fault Bytes :=
  match region with
  | some old => .done old
  | none => (checkRoom [size]).map fun () => List.replicate size 0

/-- Writes `bytes` over the start of the tensor at `index`, allocating it first if it has no
memory.  Nothing is written if there is nothing to write or not enough room. -/
def write (frame : Frame) (index : Nat) (bytes : Bytes) : Outcome Fault Frame :=
  (Outcome.ofExcept (frame.region index)).bind fun region =>
  (Outcome.ofExcept (frame.info.sizeAt index)).bind fun size =>
    if bytes.isEmpty || bytes.length > size then
      .failed (.invalidParameter ("tensor " ++ Text.showNat index ++ " holds " ++ Text.showNat size
        ++ " bytes, cannot write " ++ Text.showNat bytes.length))
    else
      (contents region size).map fun old => frame.setRegion index (bytes ++ old.drop bytes.length)

/-- What looking for a position in an empty region ends with. -/
def zeroDivision : String := "attempt to calculate the remainder with a divisor of zero"

/-- Changes one byte of the tensor at `index`; positions wrap around at its end. -/
def setByte (frame : Frame) (index position : Nat) (byte : UInt8) : Outcome Fault Frame :=
  (Outcome.ofExcept (frame.tensor index)).bind fun bytes =>
    if bytes.isEmpty then .crashed zeroDivision
    else .done (frame.setRegion index (bytes.set (position % bytes.length) byte))

end Frame

end Inference
