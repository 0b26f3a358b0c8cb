/-
Agreement of descriptors.

Agreement looks at the rank class of a descriptor and at the type and the used axes of each tensor,
and at nothing else.  That is the `form` of a descriptor, and to agree is to have the same one
(`Descriptor.agrees_iff`); so agreement is an equivalence.
-/
import Inference.Tensor.Descriptor

namespace Inference.Descriptor

/-- All that agreement looks at. -/
def form (d : Descriptor) : RankClass × List (ElementType × List UInt32) :=
  (d.rank, d.tensors.map fun tensor => (tensor.type, tensor.shape.used d.rank))

theorem all_agree_iff {rank : RankClass} {xs ys : List Tensor} (h : xs.length = ys.length) :
    ((xs.zip ys).all fun (x, y) => x.agrees y rank) = true
      ↔ (xs.map fun tensor => (tensor.type, tensor.shape.used rank))
        = ys.map fun tensor => (tensor.type, tensor.shape.used rank) := by
  induction xs generalizing ys with
  | nil =>
      cases List.eq_nil_of_length_eq_zero h.symm
      simp
  | cons x xs ih =>
      cases ys with
      | nil => cases h
      | cons y ys =>
          have rest := ih (Nat.succ.inj h)
          rw [List.zip_cons_cons, List.all_cons, Bool.and_eq_true, rest]
          simp [Tensor.agrees]

/-- To agree is to have the same form. -/
theorem agrees_iff {a b : Descriptor} : a.agrees b = true ↔ a.form = b.form := by
  simp only [agrees, Bool.and_eq_true, beq_iff_eq, form, Prod.mk.injEq]
  constructor
  · rintro ⟨⟨rank, count⟩, tensors⟩
    refine ⟨rank, ?_⟩
    rw [← rank]
    exact (all_agree_iff count).1 tensors
  · rintro ⟨rank, forms⟩
    have count : a.tensors.length = b.tensors.length := by
      simpa using congrArg List.length forms
    refine ⟨⟨rank, count⟩, (all_agree_iff count).2 ?_⟩
    rw [forms, rank]

theorem agrees_refl (d : Descriptor) : d.agrees d = true := agrees_iff.2 rfl

theorem agrees_trans {a b c : Descriptor} (h : a.agrees b = true) (h' : b.agrees c = true) :
    a.agrees c = true := agrees_iff.2 ((agrees_iff.1 h).trans (agrees_iff.1 h'))

theorem agrees_comm (a b : Descriptor) : a.agrees b = b.agrees a := by
  rw [Bool.eq_iff_iff, agrees_iff, agrees_iff]
  exact eq_comm

/-- The sizes of a descriptor can be told from its form. -/
theorem sizes_eq_form (d : Descriptor) : d.sizes = d.form.2.map fun (type, axes) =>
    (axes.foldlM (fun size axis => checkedMul size axis.toNat) type.width).getD
      (wordLimit - 1) := by
  unfold sizes form
  rw [List.map_map]
  rfl

theorem sizes_of_agrees {a b : Descriptor} (h : a.agrees b = true) : a.sizes = b.sizes := by
  rw [sizes_eq_form, sizes_eq_form, agrees_iff.1 h]

end Inference.Descriptor
