/-
What a descriptor or a frame is refused for.

Whether a descriptor can be used, and whether a frame has the memory its descriptor speaks of,
depends on nothing but what the caller brought.  So the cause of every refusal is an invalid
parameter (`Descriptor.invalid_of_validate`, `Frame.invalid_of_ofRegions`), and never that
something broke or that somebody else was in the way.
-/
import Inference.Tensor.Frame

namespace Inference

/-- The cause lies in what the caller brought. -/
inductive Fault.Invalid : Fault → Prop where
  | intro (detail : String) : Invalid (.invalidParameter detail)

/-- A traversal is refused for one of the things on its way. -/
theorem exists_of_mapM_eq_error {α β : Type} {f : α → Except Fault β} {xs : List α} {fault : Fault}
    (h : xs.mapM f = .error fault) : ∃ x ∈ xs, f x = .error fault := by
  induction xs with
  | nil => cases h
  | cons x rest ih =>
      rw [List.mapM_cons] at h
      cases first : f x with
      | error cause =>
          rw [first] at h
          cases h
          exact ⟨x, List.mem_cons_self, first⟩
      | ok y =>
          cases others : rest.mapM f with
          | error cause =>
              rw [first, others] at h
              cases h
              obtain ⟨x', inside, refused⟩ := ih others
              exact ⟨x', List.mem_cons_of_mem x inside, refused⟩
          | ok ys =>
              rw [first, others] at h
              cases h

theorem Descriptor.defect_of_validate {d : Descriptor} {fault : Fault}
    (h : d.validate = .error fault) :
    ∃ reason, d.defect? = some reason ∧ fault = .invalidParameter reason := by
  unfold validate at h
  split at h <;> cases h
  exact ⟨_, ‹_›, rfl⟩

theorem Descriptor.invalid_of_validate {d : Descriptor} {fault : Fault}
    (h : d.validate = .error fault) : fault.Invalid := by
  obtain ⟨reason, -, rfl⟩ := d.defect_of_validate h
  exact .intro reason

/-- A size is not told of a tensor that is not there, or that is too large. -/
theorem Descriptor.invalid_of_sizeAt {d : Descriptor} {index : Nat} {fault : Fault}
    (h : d.sizeAt index = .error fault) : fault.Invalid := by
  unfold sizeAt tensorAt at h
  cases found : d.tensors[index]? with
  | none =>
      rw [found] at h
      cases h
      exact .intro _
  | some tensor =>
      simp only [found, Except.bind] at h
      cases counted : tensor.size? d.rank with
      | none =>
          rw [counted] at h
          cases h
          exact .intro _
      | some size =>
          rw [counted] at h
          cases h

namespace Frame

theorem invalid_of_region {frame : Frame} {index : Nat} {fault : Fault}
    (h : frame.region index = .error fault) : fault.Invalid := by
  unfold region at h
  split at h <;> cases h
  exact .intro _

theorem invalid_of_tensor {frame : Frame} {index : Nat} {fault : Fault}
    (h : frame.tensor index = .error fault) : fault.Invalid := by
  unfold tensor at h
  cases found : frame.region index with
  | error cause =>
      rw [found] at h
      cases h
      exact invalid_of_region found
  | ok present =>
      rw [found] at h
      cases present with
      | none =>
          cases h
          exact .intro _
      | some bytes => cases h

theorem invalid_of_allBytes {frame : Frame} {fault : Fault} (h : frame.allBytes = .error fault) :
    fault.Invalid := by
  obtain ⟨index, -, refused⟩ := exists_of_mapM_eq_error h
  exact invalid_of_tensor refused

theorem invalid_of_checkLengths {index : Nat} {sizes : List Nat} {regions : List Bytes}
    {fault : Fault} (h : checkLengths index sizes regions = .error fault) : fault.Invalid := by
  induction sizes generalizing index regions with
  | nil => cases h
  | cons size sizes ih =>
      cases regions with
      | nil => cases h
      | cons region regions =>
          unfold checkLengths at h
          split at h
          · exact ih h
          · cases h
            exact .intro _

/-- Regions are refused for their number or their lengths. -/
theorem invalid_of_ofRegions {info : Descriptor} {regions : List Bytes} {fault : Fault}
    (h : ofRegions info regions = .error fault) : fault.Invalid := by
  unfold ofRegions at h
  cases valid : info.validate with
  | error cause =>
      rw [valid] at h
      cases h
      exact Descriptor.invalid_of_validate valid
  | ok =>
      cases fits : checkRegions info regions with
      | ok =>
          rw [valid, fits] at h
          cases h
      | error cause =>
          rw [valid, fits] at h
          cases h
          unfold checkRegions at fits
          split at fits
          · exact invalid_of_checkLengths fits
          · cases fits
            exact .intro _

/-- Memory is allocated or there is not enough of it. -/
theorem allocate_ne_failed (sizes : List Nat) (fault : Fault) : allocate sizes ≠ .failed fault := by
  unfold allocate checkRoom
  split <;> nofun

end Frame

end Inference
