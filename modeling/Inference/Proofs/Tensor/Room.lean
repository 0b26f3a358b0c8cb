/-
Descriptors whose tensors can be allocated.

One region of memory holds about half as many bytes as a machine word can count, so the sizes of a
usable descriptor need not all be available.  `Descriptor.Fits` says that they are.  Agreement
keeps it (`Descriptor.fits_of_agrees`), since agreeing tensors have the same sizes, and so does
naming the tensors (`Descriptor.setNamesText_fits`), since tensors that are added for their names
are empty.
-/
import Inference.Proofs.Tensor.Naming
import Inference.Tensor.Frame

namespace Inference

/-- A region of memory can hold the tensor. -/
def Tensor.Fits (tensor : Tensor) (rank : RankClass) : Prop :=
  (tensor.size? rank).getD (wordLimit - 1) ≤ regionLimit

/-- Every tensor can be held by a region of memory. -/
def Descriptor.Fits (d : Descriptor) : Prop := ∀ tensor ∈ d.tensors, tensor.Fits d.rank

theorem Tensor.fits_unset (rank : RankClass) : Tensor.Fits {} rank := by
  unfold Fits
  cases rank <;> decide

namespace Descriptor

/-- Only the sizes of the tensors matter. -/
theorem fits_iff {d : Descriptor} : d.Fits ↔ ∀ size ∈ d.sizes, size ≤ regionLimit := by
  unfold Fits sizes
  rw [List.forall_mem_map]
  rfl

theorem fits_of_sizes {a b : Descriptor} (same : a.sizes = b.sizes) (h : b.Fits) : a.Fits := by
  rw [fits_iff, same, ← fits_iff]
  exact h

/-- There is room for a frame of a descriptor that fits. -/
theorem checkRoom_of_fits {d : Descriptor} (h : d.Fits) : Frame.checkRoom d.sizes = .done () := by
  have all : (d.sizes.all (· ≤ regionLimit)) = true := by
    rw [List.all_eq_true]
    intro size member
    exact decide_eq_true (fits_iff.1 h size member)
  rw [Frame.checkRoom, if_pos all]

theorem fits_of_agrees {a b : Descriptor} (agrees : a.agrees b = true) (h : b.Fits) : a.Fits :=
  fits_of_sizes (sizes_of_agrees agrees) h

theorem resize_fits {d : Descriptor} (h : d.Fits) (count : Nat) : (d.resize count).Fits := by
  intro tensor member
  rcases List.mem_append.1 member with kept | added
  · exact h tensor (List.mem_of_mem_take kept)
  · rw [List.eq_of_mem_replicate added]
    exact Tensor.fits_unset _

/-- Naming tensors keeps a descriptor in bounds. -/
theorem setNamesText_fits {d : Descriptor} (h : d.Fits) (text : String) :
    (d.setNamesText text).2.Fits := by
  by_cases many : tensorLimit < nameCount text
  · obtain ⟨fault, same⟩ := setNamesText_of_lt (d := d) many
    rw [same]
    exact h
  · have named : (d.setNamesText text).2.unnamed = (d.resize (nameCount text)).unnamed :=
      unnamed_setNamesText (Nat.not_lt.1 many)
    exact fits_of_sizes (sizes_of_unnamed named) (resize_fits h _)

end Descriptor

end Inference
