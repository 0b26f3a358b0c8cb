/-
Writing over a frame.

A tensor that is written keeps what lies beyond the bytes that are written to it.  `Frame.Overlaid`
says what becomes of a frame when the first of its tensors are written, one region to each.
Nothing of the old contents is left if the regions are as long as the tensors they are written to;
and such regions are refused only where they are empty (`Frame.write_done`, `Frame.Overlaid.next`).
-/
import Inference.Proofs.Tensor.Room

namespace Inference

theorem Tensor.size?_of_fits {tensor : Tensor} {rank : RankClass} (h : tensor.Fits rank) :
    ∃ size, tensor.size? rank = some size ∧ size ≤ regionLimit := by
  unfold Fits at h
  cases counted : tensor.size? rank with
  | some size =>
      rw [counted] at h
      exact ⟨size, rfl, h⟩
  | none =>
      rw [counted] at h
      exact absurd h (by decide)

namespace Frame

/-- A frame as it can be made: each of its tensors has a region of its size or none at all, and
there is room for those that are missing. -/
structure Sound (frame : Frame) : Prop where
  count : frame.regions.length = frame.info.count
  fits : frame.info.Fits
  lengths : ∀ (index : Nat) (tensor : Tensor) (bytes : Bytes),
    frame.info.tensors[index]? = some tensor → frame.regions[index]? = some (some bytes) →
      tensor.size? frame.info.rank = some bytes.length

/-- What the tensor at `index` holds when it is written to; a missing region counts as zeros. -/
def Holds (frame : Frame) (index : Nat) (old : Bytes) : Prop :=
  frame.regions[index]? = some (some old)
    ∨ frame.regions[index]? = some none
      ∧ ∃ size, frame.info.sizeAt index = .ok size ∧ old = List.replicate size 0

/-- The regions have been written to the first tensors of a frame, one to each. -/
structure Overlaid (frame : Frame) (written : List Bytes) (after : Frame) : Prop where
  same : after = { frame with regions := after.regions }
  count : after.regions.length = frame.regions.length
  /-- What was written, and behind it what was there. -/
  covered : ∀ (index : Nat) (bytes : Bytes), written[index]? = some bytes → ∃ old,
    frame.Holds index old ∧ after.regions[index]? = some (some (bytes ++ old.drop bytes.length))
  beyond : ∀ index, written.length ≤ index → after.regions[index]? = frame.regions[index]?

theorem Overlaid.refl (frame : Frame) : frame.Overlaid [] frame where
  same := rfl
  count := rfl
  covered := by
    intro index bytes found
    simp at found
  beyond _ _ := rfl

theorem region_eq_ok {frame : Frame} {index : Nat} {region : Option Bytes} :
    frame.region index = .ok region ↔ frame.regions[index]? = some region := by
  unfold Frame.region
  cases frame.regions[index]? <;> simp

theorem tensor_eq_ok {frame : Frame} {index : Nat} {bytes : Bytes} :
    frame.tensor index = .ok bytes ↔ frame.regions[index]? = some (some bytes) := by
  rw [← region_eq_ok]
  unfold tensor
  cases frame.region index with
  | error fault => exact ⟨nofun, nofun⟩
  | ok region =>
      cases region with
      | none => exact ⟨nofun, nofun⟩
      | some old => exact ⟨by rintro ⟨⟩; rfl, by rintro ⟨⟩; rfl⟩

theorem holds_of_contents {frame : Frame} {index size : Nat} {region : Option Bytes} {old : Bytes}
    (there : frame.regions[index]? = some region) (sized : frame.info.sizeAt index = .ok size)
    (held : contents region size = .done old) : frame.Holds index old := by
  cases region with
  | some bytes =>
      cases held
      exact .inl there
  | none =>
      cases room : checkRoom [size] with
      | done =>
          simp only [contents, room, Outcome.map] at held
          cases held
          exact .inr ⟨there, size, sized, rfl⟩
      | failed fault =>
          simp only [contents, room, Outcome.map] at held
          cases held
      | crashed message =>
          simp only [contents, room, Outcome.map] at held
          cases held

/-- What is written fits the tensor, and goes in front of what was there. -/
theorem write_eq_done {frame after : Frame} {index : Nat} {bytes : Bytes}
    (h : frame.write index bytes = .done after) :
    ∃ old size, frame.Holds index old ∧ frame.info.sizeAt index = .ok size ∧ bytes.length ≤ size
      ∧ after = frame.setRegion index (bytes ++ old.drop bytes.length) := by
  unfold write at h
  cases hregion : frame.region index with
  | error fault =>
      rw [hregion] at h
      cases h
  | ok region =>
      have there := region_eq_ok.1 hregion
      rw [hregion] at h
      cases hsize : frame.info.sizeAt index with
      | error fault =>
          rw [hsize] at h
          cases h
      | ok size =>
          rw [hsize] at h
          simp only [Outcome.ofExcept, Outcome.bind] at h
          split at h
          · cases h
          rename_i room
          have fits : bytes.length ≤ size := by
            simp at room
            omega
          cases held : contents region size with
          | done old =>
              rw [held] at h
              cases h
              exact ⟨old, size, holds_of_contents there hsize held, rfl, fits, rfl⟩
          | failed fault =>
              rw [held] at h
              cases h
          | crashed message =>
              rw [held] at h
              cases h

/-- Bytes that fit a tensor are written to it, unless there are none. -/
theorem write_done {frame : Frame} {index size : Nat} {bytes : Bytes} {region : Option Bytes}
    (there : frame.regions[index]? = some region) (sized : frame.info.sizeAt index = .ok size)
    (room : size ≤ regionLimit) (some : 0 < bytes.length) (fits : bytes.length ≤ size) :
    ∃ after, frame.write index bytes = .done after := by
  have hempty : (bytes.isEmpty || decide (bytes.length > size)) = false := by
    rw [Bool.or_eq_false_iff, List.isEmpty_eq_false_iff, decide_eq_false_iff_not]
    exact ⟨List.length_pos_iff.1 some, by omega⟩
  have hroom : checkRoom [size] = .done () := by
    rw [checkRoom, if_pos (by simpa using room)]
  unfold write
  rw [region_eq_ok.2 there, sized]
  simp only [Outcome.ofExcept, Outcome.bind, hempty, Bool.false_eq_true, if_false]
  cases region with
  | some old => exact ⟨_, rfl⟩
  | none =>
      simp only [contents, hroom, Outcome.map]
      exact ⟨_, rfl⟩

/-- One more tensor is written. -/
theorem Overlaid.next {frame middle after : Frame} {written : List Bytes} {bytes : Bytes}
    (h : frame.Overlaid written middle) (write : middle.write written.length bytes = .done after) :
    frame.Overlaid (written ++ [bytes]) after := by
  obtain ⟨old, -, holds, -, -, rfl⟩ := write_eq_done write
  have untouched := h.beyond written.length (Nat.le_refl _)
  have info : middle.info = frame.info := by rw [h.same]
  have inside : written.length < middle.regions.length := by
    rcases holds with there | ⟨there, -⟩ <;> exact (List.getElem?_eq_some_iff.1 there).1
  have before : frame.Holds written.length old := by
    unfold Holds at holds ⊢
    rwa [untouched, info] at holds
  exact {
    same := by
      rw [h.same]
      rfl
    count := by
      rw [← h.count]
      exact List.length_set
    covered := by
      intro index other found
      rcases Nat.lt_or_ge index written.length with earlier | later
      · rw [List.getElem?_append_left earlier] at found
        obtain ⟨old', holds', there⟩ := h.covered index other found
        refine ⟨old', holds', ?_⟩
        rw [setRegion, List.getElem?_set_ne (by omega)]
        exact there
      · have last : index = written.length := by
          have bound := (List.getElem?_eq_some_iff.1 found).1
          rw [List.length_append, List.length_singleton] at bound
          omega
        subst last
        rw [List.getElem?_concat_length] at found
        cases found
        exact ⟨old, before, List.getElem?_set_self inside⟩
    beyond := by
      intro index later
      rw [List.length_append, List.length_singleton] at later
      rw [← h.beyond index (by omega), setRegion, List.getElem?_set_ne (by omega)] }

namespace Sound

variable {frame after : Frame} {written : List Bytes}

theorem sizeAt (h : frame.Sound) {index size : Nat} (sized : frame.sizes[index]? = some size) :
    frame.info.sizeAt index = .ok size ∧ size ≤ regionLimit := by
  unfold Frame.sizes Descriptor.sizes at sized
  rw [List.getElem?_map] at sized
  obtain ⟨tensor, found, sized⟩ := Option.map_eq_some_iff.1 sized
  obtain ⟨size', counted, room⟩ := Tensor.size?_of_fits (h.fits tensor (List.mem_of_getElem? found))
  rw [counted] at sized
  cases sized
  refine ⟨?_, room⟩
  unfold Descriptor.sizeAt Descriptor.tensorAt
  rw [found]
  show Descriptor.sizeOrFault (tensor.size? frame.info.rank) = _
  rw [counted]
  rfl

theorem drop_of_holds (h : frame.Sound) {index : Nat} {bytes old : Bytes}
    (sized : frame.sizes[index]? = some bytes.length) (holds : frame.Holds index old) :
    old.drop bytes.length = [] := by
  rcases holds with there | ⟨-, size, counted, rfl⟩
  · unfold Frame.sizes Descriptor.sizes at sized
    rw [List.getElem?_map] at sized
    obtain ⟨tensor, found, sized⟩ := Option.map_eq_some_iff.1 sized
    rw [h.lengths index tensor old found there] at sized
    have same : old.length = bytes.length := sized
    rw [← same, List.drop_length]
  · cases (h.sizeAt sized).1.symm.trans counted
    exact List.drop_eq_nil_of_le (Nat.le_of_eq List.length_replicate)

/-- A frame all of whose tensors have been filled holds what was written, and nothing else. -/
theorem regions_of_overlaid (h : frame.Sound) (overlaid : frame.Overlaid written after)
    (sized : written.map List.length = frame.sizes) : after.regions = written.map some := by
  have lengths (index : Nat) (bytes : Bytes) (found : written[index]? = some bytes) :
      frame.sizes[index]? = some bytes.length := by
    rw [← sized, List.getElem?_map, found]
    rfl
  have count : written.length = frame.regions.length := by
    have same := congrArg List.length sized
    rw [List.length_map, Frame.sizes, Descriptor.sizes, List.length_map] at same
    rw [h.count, same]
    rfl
  refine List.ext_getElem? fun index => ?_
  rw [List.getElem?_map]
  cases found : written[index]? with
  | some bytes =>
      obtain ⟨old, holds, there⟩ := overlaid.covered index bytes found
      rw [there, h.drop_of_holds (lengths index bytes found) holds, List.append_nil]
      rfl
  | none =>
      have beyond := List.getElem?_eq_none_iff.1 found
      rw [overlaid.beyond index beyond]
      exact List.getElem?_eq_none (by omega)

/-- The next tensor of a partly written frame takes bytes that fill it. -/
theorem write_done (h : frame.Sound) (overlaid : frame.Overlaid written after) {bytes : Bytes}
    (sized : frame.sizes[written.length]? = some bytes.length) (some : 0 < bytes.length) :
    ∃ next, after.write written.length bytes = .done next := by
  have inside : written.length < frame.regions.length := by
    have bound := (List.getElem?_eq_some_iff.1 sized).1
    rw [Frame.sizes, Descriptor.sizes, List.length_map] at bound
    rw [h.count]
    exact bound
  have there := overlaid.beyond written.length (Nat.le_refl _)
  rw [List.getElem?_eq_getElem inside] at there
  have info : after.info = frame.info := by rw [overlaid.same]
  refine Frame.write_done there ?_ (h.sizeAt sized).2 some (Nat.le_refl _)
  rw [info]
  exact (h.sizeAt sized).1

end Sound

end Frame

end Inference
