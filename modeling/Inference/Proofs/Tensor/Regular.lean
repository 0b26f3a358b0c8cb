/-
Regions of the right length.

Every frame is made with one region for each tensor of its descriptor, which is missing at first or
as long as the descriptor says.  Writing to a frame changes no length (`Frame.Regular.write`), so
it stays like that for good: `Frame.Regular` is what can be relied on of any frame that a caller
may bring.

A frame is full if none of its regions is missing.  Its bytes can then be read, and only then
(`Frame.regions_of_allBytes`).
-/
import Mathlib.Data.List.Basic
import Inference.Proofs.Tensor.Overlay

namespace Inference

theorem Descriptor.getElem?_sizes {d : Descriptor} {index size : Nat}
    (h : d.sizeAt index = .ok size) : d.sizes[index]? = some size := by
  unfold sizeAt tensorAt at h
  unfold sizes
  rw [List.getElem?_map]
  cases found : d.tensors[index]? with
  | none =>
      rw [found] at h
      cases h
  | some tensor =>
      rw [found] at h
      cases counted : tensor.size? d.rank with
      | none =>
          simp only [Except.bind, counted] at h
          cases h
      | some size' =>
          simp only [Except.bind, counted] at h
          cases h
          rw [Option.map_some, counted]
          rfl

namespace Frame

/-! ### Full frames -/

/-- Every tensor has as many bytes as the descriptor says. -/
def Full (frame : Frame) : Prop :=
  frame.regions.map (Option.map List.length) = frame.sizes.map some

theorem lengths_of_checkLengths {index : Nat} {sizes : List Nat} {regions : List Bytes}
    (same : regions.length = sizes.length) (h : checkLengths index sizes regions = .ok ()) :
    regions.map List.length = sizes := by
  induction sizes generalizing index regions with
  | nil =>
      cases List.eq_nil_of_length_eq_zero same
      rfl
  | cons size sizes ih =>
      cases regions with
      | nil => cases same
      | cons region regions =>
          unfold checkLengths at h
          split at h
          · rename_i fits
            rw [List.map_cons, fits, ih (Nat.succ.inj same) h]
          · cases h

theorem lengths_of_checkRegions {info : Descriptor} {regions : List Bytes}
    (h : checkRegions info regions = .ok ()) : regions.map List.length = info.sizes := by
  unfold checkRegions at h
  split at h
  · rename_i count
    refine lengths_of_checkLengths ?_ h
    rw [count, Descriptor.sizes, List.length_map]
    rfl
  · cases h

/-- A frame around regions is full if they have the right sizes, and only then. -/
theorem full_iff {frame : Frame} {regions : List Bytes}
    (around : frame.regions = regions.map some) :
    frame.Full ↔ regions.map List.length = frame.sizes := by
  have lengths : frame.regions.map (Option.map List.length)
      = (regions.map List.length).map some := by
    rw [around]
    simp
  unfold Full
  rw [lengths]
  constructor
  · exact fun same => List.map_injective_iff.2 (fun _ _ => Option.some.inj) same
  · exact fun same => by rw [same]

/-! ### Regular frames -/

/-- A frame as it can be made and written to. -/
structure Regular (frame : Frame) : Prop where
  /-- There is a region for every tensor. -/
  count : frame.regions.length = frame.sizes.length
  /-- A region that is not missing is as long as the descriptor says. -/
  lengths : ∀ (index : Nat) (bytes : Bytes), frame.regions[index]? = some (some bytes) →
    frame.sizes[index]? = some bytes.length

theorem Full.regular {frame : Frame} (h : frame.Full) : frame.Regular where
  count := by
    have same := congrArg List.length h
    rwa [List.length_map, List.length_map] at same
  lengths index bytes found := by
    have same : (frame.regions.map (Option.map List.length))[index]?
        = (frame.sizes.map some)[index]? := by rw [h]
    rw [List.getElem?_map, found, List.getElem?_map] at same
    obtain ⟨size, sized, same⟩ := Option.map_eq_some_iff.1 same.symm
    rw [sized]
    exact same

/-- A frame with all its memory is made of a usable descriptor. -/
theorem eq_of_zeroed {info : Descriptor} {frame : Frame} (h : zeroed info = .done frame) :
    info.validate = .ok ()
      ∧ frame = { info, regions := (info.sizes.map fun size =>
        List.replicate size 0).map some } := by
  unfold zeroed allocate at h
  cases valid : info.validate with
  | error fault =>
      rw [valid] at h
      cases h
  | ok =>
      cases room : checkRoom info.sizes with
      | done =>
          rw [valid, room] at h
          cases h
          exact ⟨rfl, rfl⟩
      | failed fault =>
          rw [valid, room] at h
          cases h
      | crashed message =>
          rw [valid, room] at h
          cases h

theorem eq_of_unallocated {info : Descriptor} {frame : Frame} (h : unallocated info = .ok frame) :
    info.validate = .ok () ∧ frame = { info, regions := List.replicate info.count none } := by
  unfold unallocated at h
  cases valid : info.validate with
  | error fault =>
      rw [valid] at h
      cases h
  | ok =>
      rw [valid] at h
      cases h
      exact ⟨rfl, rfl⟩

theorem eq_of_ofRegions {info : Descriptor} {regions : List Bytes} {frame : Frame}
    (h : ofRegions info regions = .ok frame) :
    info.validate = .ok () ∧ checkRegions info regions = .ok ()
      ∧ frame = { info, regions := regions.map some } := by
  unfold ofRegions at h
  cases valid : info.validate with
  | error fault =>
      rw [valid] at h
      cases h
  | ok =>
      cases fit : checkRegions info regions with
      | error fault =>
          rw [valid, fit] at h
          cases h
      | ok =>
          rw [valid, fit] at h
          cases h
          exact ⟨rfl, rfl, rfl⟩

theorem regular_of_zeroed {info : Descriptor} {frame : Frame} (h : zeroed info = .done frame) :
    frame.Regular := by
  obtain ⟨-, rfl⟩ := eq_of_zeroed h
  refine Full.regular ((full_iff rfl).2 ?_)
  rw [List.map_map]
  exact List.map_id'' (fun size => List.length_replicate) _

theorem regular_of_unallocated {info : Descriptor} {frame : Frame}
    (h : unallocated info = .ok frame) : frame.Regular := by
  obtain ⟨-, rfl⟩ := eq_of_unallocated h
  constructor
  · simp [sizes, Descriptor.sizes, Descriptor.count]
  · intro index bytes found
    simp [List.getElem?_replicate] at found

theorem regular_of_ofRegions {info : Descriptor} {regions : List Bytes} {frame : Frame}
    (h : ofRegions info regions = .ok frame) : frame.Regular := by
  obtain ⟨-, fit, rfl⟩ := eq_of_ofRegions h
  exact Full.regular ((full_iff rfl).2 (lengths_of_checkRegions fit))

namespace Regular

variable {frame after : Frame}

/-- A copy is as regular as the frame. -/
theorem copyFor (h : frame.Regular) (owner : Owner) : (frame.copyFor owner).Regular :=
  ⟨h.count, h.lengths⟩

theorem setRegion (h : frame.Regular) {index : Nat} {bytes : Bytes}
    (sized : frame.sizes[index]? = some bytes.length) : (frame.setRegion index bytes).Regular where
  count := by
    rw [Frame.setRegion, List.length_set]
    exact h.count
  lengths other region found := by
    unfold Frame.setRegion at found
    by_cases here : index = other
    · subst here
      rw [List.getElem?_set_self'] at found
      obtain ⟨_, -, same⟩ := Option.map_eq_some_iff.1 found
      cases same
      exact sized
    · rw [List.getElem?_set_ne here] at found
      exact h.lengths other region found

theorem length_of_holds (h : frame.Regular) {index size : Nat} {old : Bytes}
    (holds : frame.Holds index old) (sized : frame.info.sizeAt index = .ok size) :
    old.length = size := by
  rcases holds with there | ⟨-, size', sized', rfl⟩
  · have listed := h.lengths index old there
    exact Option.some.inj (listed.symm.trans (Descriptor.getElem?_sizes sized))
  · cases sized.symm.trans sized'
    exact List.length_replicate

/-- What is written is no longer than the tensor, and what was there behind it stays. -/
theorem write (h : frame.Regular) {index : Nat} {bytes : Bytes}
    (written : frame.write index bytes = .done after) : after.Regular := by
  obtain ⟨old, size, holds, counted, fits, rfl⟩ := write_eq_done written
  have sized : frame.sizes[index]? = some size := Descriptor.getElem?_sizes counted
  have length := h.length_of_holds holds counted
  refine h.setRegion ?_
  rw [sized, List.length_append, List.length_drop, length]
  congr 1
  omega

end Regular

/-! ### Reading all bytes -/

/-- Reading tensors one after another, from `start` on to the end. -/
theorem drop_of_mapM_tensor {frame : Frame} {start steps : Nat} {bytes : List Bytes}
    (length : start + steps = frame.regions.length)
    (h : (List.range' start steps).mapM frame.tensor = .ok bytes) :
    frame.regions.drop start = bytes.map some := by
  induction steps generalizing start bytes with
  | zero =>
      cases h
      exact List.drop_eq_nil_of_le (by omega)
  | succ steps ih =>
      rw [List.range'_succ, List.mapM_cons] at h
      cases read : frame.tensor start with
      | error fault =>
          rw [read] at h
          cases h
      | ok first =>
          cases others : (List.range' (start + 1) steps).mapM frame.tensor with
          | error fault =>
              rw [read, others] at h
              cases h
          | ok rest =>
              rw [read, others] at h
              cases h
              have there := tensor_eq_ok.1 read
              have inside := (List.getElem?_eq_some_iff.1 there).1
              rw [List.map_cons, ← ih (by omega) others, List.drop_eq_getElem_cons inside,
                (List.getElem_eq_iff inside).2 there]

/-- All bytes can be read only where no region is missing. -/
theorem regions_of_allBytes {frame : Frame} {bytes : List Bytes} (h : frame.allBytes = .ok bytes) :
    frame.regions = bytes.map some := by
  unfold allBytes count at h
  rw [List.range_eq_range'] at h
  exact drop_of_mapM_tensor (Nat.zero_add _) h

/-- What is read of a regular frame has the sizes that its descriptor says. -/
theorem Regular.lengths_of_allBytes {frame : Frame} (h : frame.Regular) {bytes : List Bytes}
    (read : frame.allBytes = .ok bytes) : bytes.map List.length = frame.sizes := by
  have around := regions_of_allBytes read
  have count : bytes.length = frame.sizes.length := by
    rw [← h.count, around, List.length_map]
  refine List.ext_getElem? fun index => ?_
  rw [List.getElem?_map]
  cases found : bytes[index]? with
  | none =>
      have beyond := List.getElem?_eq_none_iff.1 found
      exact (List.getElem?_eq_none (by omega)).symm
  | some region =>
      refine (h.lengths index region ?_).symm
      rw [around, List.getElem?_map, found]
      rfl

end Frame

end Inference
