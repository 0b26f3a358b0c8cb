/-
Sizes, counted exactly.

The size of a tensor is reckoned axis by axis, and given up as soon as it leaves the machine word;
so is the size of all tensors together.  No axis of a usable tensor is zero, so its size never
falls again on the way: it is given up only if it does not fit in the end (`foldlM_checkedMul`,
`foldlM_checkedAdd`).  The sizes that a usable descriptor tells are therefore the exact ones, and
to be usable is to have a few tensors that are filled in and together fit a machine word
(`Descriptor.validate_iff_filled`).
-/
import Mathlib.Algebra.BigOperators.Group.List.Basic
import Mathlib.Algebra.GroupWithZero.Nat
import Mathlib.Algebra.Order.BigOperators.Group.List
import Mathlib.Algebra.Order.Group.Nat
import Inference.Proofs.Tensor.ReadBack

namespace Inference

/-- Bytes of the tensor, however many they are. -/
def Tensor.bytes (tensor : Tensor) : Nat :=
  tensor.type.width * (tensor.shape.axes.map UInt32.toNat).prod

/-- Bytes of all tensors together, however many they are. -/
def Descriptor.bytes (d : Descriptor) : Nat := (d.tensors.map Tensor.bytes).sum

/-- A tensor that is filled in: its type is known, no axis is zero, and those not in use are one. -/
structure Tensor.Filled (tensor : Tensor) (rank : RankClass) : Prop where
  typed : tensor.type ≠ .unknown
  nonzero : ∀ axis ∈ tensor.shape.axes, axis ≠ 0
  ones : ∀ axis ∈ tensor.shape.unused rank, axis = 1

/-! ### Running products and sums -/

theorem prod_pos_of_nonzero {axes : List UInt32} (nonzero : ∀ axis ∈ axes, axis ≠ 0) :
    0 < (axes.map UInt32.toNat).prod := by
  rw [List.prod_pos_iff_forall_pos_nat, List.forall_mem_map]
  intro axis member
  exact Nat.pos_of_ne_zero fun zero => nonzero axis member (UInt32.toNat_inj.1 zero)

theorem foldlM_checkedMul {axes : List UInt32} (nonzero : ∀ axis ∈ axes, axis ≠ 0) {size : Nat}
    (fits : size < wordLimit) :
    axes.foldlM (fun size axis => checkedMul size axis.toNat) size
      = if size * (axes.map UInt32.toNat).prod < wordLimit
        then some (size * (axes.map UInt32.toNat).prod) else none := by
  induction axes generalizing size with
  | nil => simp [fits]
  | cons axis rest ih =>
      have others := fun other member => nonzero other (List.mem_cons_of_mem axis member)
      rw [List.foldlM_cons, List.map_cons, List.prod_cons, ← Nat.mul_assoc, checkedMul]
      by_cases further : size * axis.toNat < wordLimit
      · rw [if_pos further]
        exact ih others further
      · -- The product is at least as large as this part of it.
        have grows : size * axis.toNat ≤ size * axis.toNat * (rest.map UInt32.toNat).prod :=
          Nat.le_mul_of_pos_right _ (prod_pos_of_nonzero others)
        rw [if_neg further, if_neg (by omega)]
        rfl

theorem foldlM_checkedAdd {α : Type} {size? : α → Option Nat} {bytes : α → Nat} {xs : List α}
    (sized : ∀ x ∈ xs, size? x = if bytes x < wordLimit then some (bytes x) else none) {total : Nat}
    (fits : total < wordLimit) :
    xs.foldlM (fun total x => (size? x).bind (checkedAdd total)) total
      = if total + (xs.map bytes).sum < wordLimit then some (total + (xs.map bytes).sum)
        else none := by
  induction xs generalizing total with
  | nil => simp [fits]
  | cons x rest ih =>
      have others := fun other member => sized other (List.mem_cons_of_mem x member)
      have next : (size? x).bind (checkedAdd total) = checkedAdd total (bytes x) := by
        rw [sized x List.mem_cons_self]
        by_cases small : bytes x < wordLimit
        · rw [if_pos small]
          rfl
        · rw [if_neg small, checkedAdd, if_neg (by omega)]
          rfl
      rw [List.foldlM_cons, List.map_cons, List.sum_cons, ← Nat.add_assoc, next, checkedAdd]
      by_cases further : total + bytes x < wordLimit
      · rw [if_pos further]
        exact ih others further
      · rw [if_neg further, if_neg (by omega)]
        rfl

namespace Tensor

variable {tensor : Tensor} {rank : RankClass}

theorem isSet_iff : tensor.type.isSet = true ↔ tensor.type ≠ .unknown := by
  cases tensor.type <;> decide

theorem width_bounds {type : ElementType} (typed : type ≠ .unknown) :
    0 < type.width ∧ type.width < wordLimit := by
  cases type <;> first | decide | exact absurd rfl typed

/-- The axes not in use do not count. -/
theorem Filled.prod_used (filled : tensor.Filled rank) :
    ((tensor.shape.used rank).map UInt32.toNat).prod
      = (tensor.shape.axes.map UInt32.toNat).prod := by
  have ones : ((tensor.shape.unused rank).map UInt32.toNat).prod = 1 := by
    refine List.prod_eq_one ?_
    rw [List.forall_mem_map]
    intro axis member
    rw [filled.ones axis member]
    rfl
  have all : tensor.shape.axes = tensor.shape.used rank ++ tensor.shape.unused rank :=
    (List.take_append_drop rank.limit tensor.shape.axes).symm
  rw [all, List.map_append, List.prod_append, ones, Nat.mul_one]

theorem Filled.size?_eq (filled : tensor.Filled rank) :
    tensor.size? rank = if tensor.bytes < wordLimit then some tensor.bytes else none := by
  have nonzero : ∀ axis ∈ tensor.shape.used rank, axis ≠ 0 := fun axis member =>
    filled.nonzero axis (List.mem_of_mem_take member)
  unfold size? bytes
  rw [foldlM_checkedMul nonzero (width_bounds filled.typed).2, filled.prod_used]

theorem Filled.bytes_pos (filled : tensor.Filled rank) : 0 < tensor.bytes :=
  Nat.mul_pos (width_bounds filled.typed).1 (prod_pos_of_nonzero filled.nonzero)

/-- A tensor breaks no rule if it is filled in and not too large. -/
theorem defect?_eq_none_iff_filled :
    tensor.defect? rank = none ↔ tensor.Filled rank ∧ tensor.bytes < wordLimit := by
  rw [defect?_eq_none_iff, isSet_iff]
  constructor
  · rintro ⟨typed, nonzero, ones, sized⟩
    have filled : tensor.Filled rank := ⟨typed, nonzero, ones⟩
    refine ⟨filled, ?_⟩
    by_contra large
    rw [filled.size?_eq, if_neg large] at sized
    cases sized
  · rintro ⟨filled, fits⟩
    refine ⟨filled.typed, filled.nonzero, filled.ones, ?_⟩
    rw [filled.size?_eq, if_pos fits]
    rfl

end Tensor

namespace Descriptor

variable {d : Descriptor}

/-- All tensors are filled in. -/
def Filled (d : Descriptor) : Prop := ∀ tensor ∈ d.tensors, tensor.Filled d.rank

/-- The size of all tensors together is exact, if it fits. -/
theorem Filled.sizeOfAll?_eq (filled : d.Filled) :
    d.sizeOfAll? = if d.bytes < wordLimit then some d.bytes else none := by
  have counted := foldlM_checkedAdd (fun tensor member => (filled tensor member).size?_eq)
    (show 0 < wordLimit by decide)
  rwa [Nat.zero_add] at counted

theorem bytes_le {tensor : Tensor} (member : tensor ∈ d.tensors) : tensor.bytes ≤ d.bytes :=
  List.le_sum_of_mem (List.mem_map_of_mem member)

/-- A descriptor can be used if it holds some tensors, but not too many, all of them are filled in,
and they fit a machine word together. -/
theorem validate_iff_filled :
    d.validate = .ok () ↔ 1 ≤ d.count ∧ d.count ≤ tensorLimit ∧ d.Filled ∧ d.bytes < wordLimit := by
  rw [validate_eq_ok_iff]
  have some : d.tensors ≠ [] ↔ 1 ≤ d.count := List.length_pos_iff.symm
  rw [some]
  refine and_congr_right fun _ => and_congr_right fun _ => ?_
  constructor
  · rintro ⟨sound, sized⟩
    have filled : d.Filled := fun tensor member =>
      (Tensor.defect?_eq_none_iff_filled.1 (sound tensor member)).1
    refine ⟨filled, ?_⟩
    by_contra large
    rw [filled.sizeOfAll?_eq, if_neg large] at sized
    cases sized
  · rintro ⟨filled, fits⟩
    constructor
    · intro tensor member
      exact Tensor.defect?_eq_none_iff_filled.2
        ⟨filled tensor member, Nat.lt_of_le_of_lt (bytes_le member) fits⟩
    · rw [filled.sizeOfAll?_eq, if_pos fits]
      rfl

/-- The sizes that are listed of tensors that are filled in are exact, if they fit. -/
theorem sizes_eq_bytes (filled : d.Filled) (fits : d.bytes < wordLimit) :
    d.sizes = d.tensors.map Tensor.bytes := by
  refine List.map_congr_left fun tensor member => ?_
  rw [(filled tensor member).size?_eq, if_pos (Nat.lt_of_le_of_lt (bytes_le member) fits)]
  rfl

/-- The size that is told of one of several tensors that are filled in is exact. -/
theorem sizeAt_eq_bytes (filled : d.Filled) (fits : d.bytes < wordLimit) {index : Nat}
    {tensor : Tensor} (found : d.tensors[index]? = some tensor) :
    d.sizeAt index = .ok tensor.bytes := by
  have member := List.mem_of_getElem? found
  have counted := (filled tensor member).size?_eq
  rw [if_pos (Nat.lt_of_le_of_lt (bytes_le member) fits)] at counted
  unfold sizeAt tensorAt
  rw [found]
  show sizeOrFault (tensor.size? d.rank) = _
  rw [counted]
  rfl

/-- A descriptor can be used exactly if it holds one to sixteen tensors that are filled in and have
no more bytes together than a machine word can count.  Whatever it then says of its sizes is exact:
of one tensor, of each of them, and of all together; and no tensor is empty. -/
theorem usable_iff_filled_and_sizes_exact (d : Descriptor) :
    (d.validate = .ok () ↔
        (1 ≤ d.count ∧ d.count ≤ 16) ∧ (∀ tensor ∈ d.tensors, tensor.Filled d.rank)
          ∧ d.bytes ≤ 2 ^ 64 - 1)
      ∧ (d.validate = .ok () →
        (∀ index tensor, d.tensors[index]? = some tensor → d.sizeAt index = .ok tensor.bytes)
          ∧ d.sizes = d.tensors.map Tensor.bytes
          ∧ d.sizeOfAll = .ok d.bytes
          ∧ ∀ size ∈ d.sizes, 1 ≤ size) := by
  constructor
  · rw [validate_iff_filled, and_assoc]
    have words : d.bytes < wordLimit ↔ d.bytes ≤ 2 ^ 64 - 1 := by
      unfold wordLimit
      omega
    rw [words]
    rfl
  · intro valid
    obtain ⟨-, -, filled, fits⟩ := validate_iff_filled.1 valid
    have listed := sizes_eq_bytes filled fits
    refine ⟨fun _ _ found => sizeAt_eq_bytes filled fits found, listed, ?_, ?_⟩
    · rw [sizeOfAll, filled.sizeOfAll?_eq, if_pos fits]
      rfl
    · rw [listed, List.forall_mem_map]
      exact fun tensor member => (filled tensor member).bytes_pos

/-- As many bytes as a machine word can count, in one tensor. -/
def wordful : Descriptor where
  tensors := [{ type := .uint8, shape := .ofList [0xffffffff, 641, 6700417] }]

/-- The largest size of all is counted exactly. -/
theorem wordful_sizes_exact : wordful.validate = .ok ()
    ∧ wordful.sizeAt 0 = .ok (2 ^ 64 - 1) ∧ wordful.sizes = [2 ^ 64 - 1]
    ∧ wordful.sizeOfAll = .ok (2 ^ 64 - 1) := by
  obtain ⟨usable, sized⟩ := usable_iff_filled_and_sizes_exact wordful
  have filled : ∀ tensor ∈ wordful.tensors, tensor.Filled wordful.rank := by
    intro tensor member
    rw [List.mem_singleton.1 member]
    exact ⟨by decide, List.forall_iff_forall_mem.1 (by decide),
      List.forall_iff_forall_mem.1 (by decide)⟩
  have valid := usable.2 ⟨by decide, filled, by decide +kernel⟩
  obtain ⟨one, each, all, -⟩ := sized valid
  have counted : wordful.tensors.map Tensor.bytes = [2 ^ 64 - 1] := by decide +kernel
  have first := one 0 _ rfl
  rw [(List.cons.inj counted).1] at first
  rw [counted] at each
  rw [bytes, counted] at all
  exact ⟨valid, first, each, all⟩

end Descriptor

end Inference
