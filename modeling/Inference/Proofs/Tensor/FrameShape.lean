/-
Frames keep their shape.

A frame is made of a descriptor that can be used, and changed afterwards by writing over the start
of a tensor, by changing the memory of one where it is, and by copying the frame.  `Frame.Made` are
the frames that come of this, whatever was refused on the way, and `Frame.Made.shaped` is the
induction over them.  Their regions stay as long as the descriptor says, so a write is refused only
for what the caller brought.

`write` answers with the frame as it is in the end.  Memory is changed step by step: a missing
region is put in, and then the bytes are copied over its start, which crashes if it is too short
for them.  `overwrite` is written like that.  The two come to the same, because no region is too
short (`Frame.Regular.overwrite_eq`); and so a write that was refused has changed nothing.
-/
import Inference.Proofs.Tensor.Refusal
import Inference.Proofs.Tensor.Regular
import Inference.Proofs.Tensor.Sizes

namespace Inference.Frame

variable {info : Descriptor} {frame after : Frame} {index : Nat} {bytes old : Bytes}

/-! ### Writing step by step -/

/-- What copying bytes over a region that is too short for them ends with. -/
def outOfRange (bytes room : Nat) : String :=
  "range end index " ++ Text.showNat bytes ++ " out of range for slice of length "
    ++ Text.showNat room

/-- Copies `bytes` over the start of the region at `index`, which holds `old`. -/
def copyOver (frame : Frame) (index : Nat) (bytes old : Bytes) : Outcome Fault Unit × Frame :=
  if bytes.length ≤ old.length then
    (.done (), frame.setRegion index (bytes ++ old.drop bytes.length))
  else (.crashed (outOfRange bytes.length old.length), frame)

/-- Writes `bytes` over the start of the tensor at `index`, and says what is left of the frame
however that ends. -/
def overwrite (frame : Frame) (index : Nat) (bytes : Bytes) : Outcome Fault Unit × Frame :=
  match frame.region index with
  | .error fault => (.failed fault, frame)
  | .ok region =>
    match frame.info.sizeAt index with
    | .error fault => (.failed fault, frame)
    | .ok size =>
      if bytes.isEmpty || bytes.length > size then
        (.failed (.invalidParameter ("tensor " ++ Text.showNat index ++ " holds "
          ++ Text.showNat size ++ " bytes, cannot write " ++ Text.showNat bytes.length)), frame)
      else
        match contents region size with
        | .done old => (frame.setRegion index old).copyOver index bytes old
        | .failed fault => (.failed fault, frame)
        | .crashed message => (.crashed message, frame)

theorem copyOver_setRegion (fits : bytes.length ≤ old.length) :
    (frame.setRegion index old).copyOver index bytes old
      = (.done (), frame.setRegion index (bytes ++ old.drop bytes.length)) := by
  rw [copyOver, if_pos fits]
  unfold setRegion
  rw [List.set_set]

/-- Step by step a write of a regular frame comes to the same; and if it does not succeed, nothing
has been changed. -/
theorem Regular.overwrite_eq (h : frame.Regular) (index : Nat) (bytes : Bytes) :
    frame.overwrite index bytes = match frame.write index bytes with
      | .done after => (.done (), after)
      | .failed fault => (.failed fault, frame)
      | .crashed message => (.crashed message, frame) := by
  unfold overwrite Frame.write
  cases there : frame.region index with
  | error fault => rfl
  | ok region =>
      cases sized : frame.info.sizeAt index with
      | error fault => rfl
      | ok size =>
          simp only [Outcome.ofExcept, Outcome.bind]
          split
          · rfl
          rename_i writable
          cases held : contents region size with
          | failed fault => rfl
          | crashed message => rfl
          | done old =>
              refine copyOver_setRegion ?_
              rw [h.length_of_holds (holds_of_contents (region_eq_ok.1 there) sized held) sized]
              simp at writable
              omega

/-! ### What is written -/

/-- The tensor is there, and `bytes` are some bytes that it has room for. -/
def Takes (frame : Frame) (index : Nat) (bytes : Bytes) : Prop :=
  index < frame.count ∧ ∃ size, frame.info.sizeAt index = .ok size
    ∧ 1 ≤ bytes.length ∧ bytes.length ≤ size

/-- Bytes that a tensor does not take are refused. -/
theorem write_refused (h : ¬ frame.Takes index bytes) :
    ∃ detail, frame.write index bytes = .failed (.invalidParameter detail) := by
  unfold write
  cases there : frame.region index with
  | error fault =>
      obtain ⟨detail⟩ := invalid_of_region there
      exact ⟨detail, rfl⟩
  | ok region =>
      cases sized : frame.info.sizeAt index with
      | error fault =>
          obtain ⟨detail⟩ := Descriptor.invalid_of_sizeAt sized
          exact ⟨detail, rfl⟩
      | ok size =>
          have inside : index < frame.count :=
            (List.getElem?_eq_some_iff.1 (region_eq_ok.1 there)).1
          have unfit : (bytes.isEmpty || decide (bytes.length > size)) = true := by
            by_contra writable
            refine h ⟨inside, size, sized, ?_⟩
            simp only [Bool.or_eq_true, List.isEmpty_iff, decide_eq_true_eq, not_or] at writable
            exact ⟨List.length_pos_iff.2 writable.1, Nat.not_lt.1 writable.2⟩
          simp only [Outcome.ofExcept, Outcome.bind, if_pos unfit]
          exact ⟨_, rfl⟩

theorem takes_of_write (h : frame.write index bytes = .done after) : frame.Takes index bytes := by
  by_contra refused
  obtain ⟨detail, failed⟩ := write_refused refused
  cases h.symm.trans failed

/-- Bytes that a tensor takes are written to it, if there is room for its memory. -/
theorem Takes.write (h : frame.Takes index bytes) (fits : frame.info.Fits) :
    ∃ after, frame.write index bytes = .done after := by
  obtain ⟨inside, size, sized, some, few⟩ := h
  have room := Descriptor.fits_iff.1 fits size
    (List.mem_of_getElem? (Descriptor.getElem?_sizes sized))
  exact write_done (List.getElem?_eq_getElem inside) sized room some few

/-- What is written stands in front of what was there, and everything else is as it was. -/
theorem Regular.write_over (h : frame.Regular) (written : frame.write index bytes = .done after) :
    (∃ old, frame.Holds index old ∧ bytes.length ≤ old.length
        ∧ after.tensor index = .ok (bytes ++ old.drop bytes.length))
      ∧ (∀ other, other ≠ index → after.regions[other]? = frame.regions[other]?)
      ∧ after = { frame with regions := after.regions } := by
  obtain ⟨old, size, holds, sized, fits, rfl⟩ := write_eq_done written
  have inside := (takes_of_write written).1
  refine ⟨⟨old, holds, h.length_of_holds holds sized ▸ fits, ?_⟩, fun other apart => ?_, rfl⟩
  · rw [tensor_eq_ok, Frame.setRegion, List.getElem?_set_self inside]
  · rw [Frame.setRegion, List.getElem?_set_ne apart.symm]

/-! ### Frames as they can come about -/

/-- A frame that was made of a descriptor and changed since. -/
inductive Made (info : Descriptor) : Frame → Prop where
  | zeroed {frame : Frame} (made : Frame.zeroed info = .done frame) : Made info frame
  | unallocated {frame : Frame} (made : Frame.unallocated info = .ok frame) : Made info frame
  | ofRegions {regions : List Bytes} {frame : Frame}
      (made : Frame.ofRegions info regions = .ok frame) : Made info frame
  /-- A write, whether it succeeded or not. -/
  | overwrite {frame : Frame} (before : Made info frame) (index : Nat) (bytes : Bytes) :
      Made info (frame.overwrite index bytes).2
  /-- Any change of the bytes of a tensor that leaves them as many as they were. -/
  | inPlace {frame : Frame} (before : Made info frame) {index : Nat} {old new : Bytes}
      (there : frame.tensor index = .ok old) (same : new.length = old.length) :
      Made info (frame.setRegion index new)
  | clone {frame : Frame} (before : Made info frame) : Made info frame.clone

/-- It is regular, and still has the descriptor that it was made of. -/
structure Shaped (info : Descriptor) (frame : Frame) : Prop where
  info_eq : frame.info = info
  valid : info.validate = .ok ()
  regular : frame.Regular

namespace Shaped

theorem overwrite (h : frame.Shaped info) (index : Nat) (bytes : Bytes) :
    (frame.overwrite index bytes).2.Shaped info := by
  rw [h.regular.overwrite_eq]
  cases written : frame.write index bytes with
  | failed fault => exact h
  | crashed message => exact h
  | done after =>
      refine ⟨?_, h.valid, h.regular.write written⟩
      obtain ⟨-, -, same⟩ := h.regular.write_over written
      rw [same]
      exact h.info_eq

theorem inPlace (h : frame.Shaped info) {new : Bytes} (there : frame.tensor index = .ok old)
    (same : new.length = old.length) : (frame.setRegion index new).Shaped info := by
  refine ⟨h.info_eq, h.valid, h.regular.setRegion ?_⟩
  rw [same]
  exact h.regular.lengths index old (tensor_eq_ok.1 there)

theorem sizeAt (h : frame.Shaped info) (there : frame.tensor index = .ok bytes) :
    info.sizeAt index = .ok bytes.length := by
  have listed := h.regular.lengths index bytes (tensor_eq_ok.1 there)
  rw [Frame.sizes, h.info_eq] at listed
  obtain ⟨-, -, filled, counted⟩ := Descriptor.validate_iff_filled.1 h.valid
  rw [Descriptor.sizes_eq_bytes filled counted, List.getElem?_map] at listed
  obtain ⟨tensor, found, size⟩ := Option.map_eq_some_iff.1 listed
  rw [← size]
  exact Descriptor.sizeAt_eq_bytes filled counted found

end Shaped

/-- No change makes a frame lose its shape. -/
theorem Made.shaped (made : frame.Made info) : frame.Shaped info := by
  induction made with
  | zeroed made =>
      obtain ⟨valid, same⟩ := eq_of_zeroed made
      exact ⟨congrArg Frame.info same, valid, regular_of_zeroed made⟩
  | unallocated made =>
      obtain ⟨valid, same⟩ := eq_of_unallocated made
      exact ⟨congrArg Frame.info same, valid, regular_of_unallocated made⟩
  | ofRegions made =>
      obtain ⟨valid, -, same⟩ := eq_of_ofRegions made
      exact ⟨congrArg Frame.info same, valid, regular_of_ofRegions made⟩
  | overwrite before index bytes shaped => exact shaped.overwrite index bytes
  | inPlace before there same shaped => exact shaped.inPlace there same
  | clone before shaped => exact ⟨shaped.info_eq, shaped.valid, shaped.regular.copyFor _⟩

theorem Made.write (made : frame.Made info) (written : frame.write index bytes = .done after) :
    after.Made info := by
  have step := made.overwrite index bytes
  rw [made.shaped.regular.overwrite_eq, written] at step
  exact step

theorem Made.setByte (made : frame.Made info) {position : Nat} {byte : UInt8}
    (written : frame.setByte index position byte = .done after) : after.Made info := by
  unfold Frame.setByte at written
  cases there : frame.tensor index with
  | error fault =>
      rw [there] at written
      cases written
  | ok old =>
      simp only [there, Outcome.ofExcept, Outcome.bind] at written
      split at written
      · cases written
      · cases written
        exact made.inPlace there List.length_set

/-- A frame that was made of a descriptor still has it, has one region for each tensor, and every
region that is there is as long as the descriptor says.  Bytes are written to a tensor exactly if
there is such a tensor, and they are at least one and not more than its size; then they stand in
front of what was there, or of zeros, and the other tensors are as they were.  Otherwise the caller
is told why, and nothing has been changed. -/
theorem made_frames_keep_shape (made : frame.Made info) :
    (frame.info = info ∧ info.validate = .ok () ∧ frame.count = info.count)
      ∧ (∀ index bytes, frame.tensor index = .ok bytes → info.sizeAt index = .ok bytes.length)
      ∧ (info.Fits → ∀ index bytes,
        ((∃ after, frame.write index bytes = .done after) ↔ index < frame.count
          ∧ ∃ size, info.sizeAt index = .ok size ∧ 1 ≤ bytes.length ∧ bytes.length ≤ size)
        ∧ (∀ after, frame.write index bytes = .done after →
          frame.overwrite index bytes = (.done (), after)
            ∧ (∃ old, frame.Holds index old ∧ bytes.length ≤ old.length
              ∧ after.tensor index = .ok (bytes ++ old.drop bytes.length))
            ∧ (∀ other, other ≠ index → after.regions[other]? = frame.regions[other]?)
            ∧ after = { frame with regions := after.regions })
        ∧ ((∀ after, frame.write index bytes ≠ .done after) → ∃ detail,
          frame.write index bytes = .failed (.invalidParameter detail)
            ∧ frame.overwrite index bytes = (.failed (.invalidParameter detail), frame))) := by
  have shaped := made.shaped
  have regular := shaped.regular
  refine ⟨⟨shaped.info_eq, shaped.valid, ?_⟩, fun _ _ => shaped.sizeAt, fun fits index bytes =>
    ⟨?_, fun after written => ?_, fun refused => ?_⟩⟩
  · rw [count, regular.count, Frame.sizes, Descriptor.sizes, List.length_map, shaped.info_eq]
    rfl
  · have takes : frame.Takes index bytes ↔ index < frame.count
        ∧ ∃ size, info.sizeAt index = .ok size ∧ 1 ≤ bytes.length ∧ bytes.length ≤ size := by
      unfold Takes
      rw [shaped.info_eq]
    rw [← takes]
    constructor
    · rintro ⟨after, written⟩
      exact takes_of_write written
    · intro taken
      exact taken.write (shaped.info_eq ▸ fits)
  · refine ⟨?_, regular.write_over written⟩
    rw [regular.overwrite_eq, written]
  · have untaken : ¬ frame.Takes index bytes := fun taken => by
      obtain ⟨after, written⟩ := taken.write (shaped.info_eq ▸ fits)
      exact refused after written
    obtain ⟨detail, failed⟩ := write_refused untaken
    refine ⟨detail, failed, ?_⟩
    rw [regular.overwrite_eq, failed]

/-- A matrix of sixteen bytes and a code of three. -/
def matrixAndCode : Descriptor where
  tensors := [{ type := .float32, shape := .ofList [2, 2] },
    { type := .uint8, shape := .ofList [3] }]

/-- The start of the matrix has been written, and nothing of the code. -/
def started : Frame where
  info := matrixAndCode
  regions := [some ([1, 2, 9, 4] ++ List.replicate 12 0), none]

/-- Such a frame comes of one without memory by a write, a copy, a change of a byte, and a write
that is refused.  Two bytes of the code can be written to it, and four cannot. -/
theorem started_keeps_shape :
    started.Made matrixAndCode ∧ started.count = 2 ∧ matrixAndCode.sizeAt 0 = .ok 16
      ∧ (∃ after, started.overwrite 1 [7, 8] = (.done (), after)
        ∧ after.tensor 1 = .ok [7, 8, 0] ∧ after.regions[0]? = started.regions[0]?)
      ∧ ∃ detail, started.overwrite 1 [7, 8, 9, 10] = (.failed (.invalidParameter detail), started)
        := by
  have bare : Frame.unallocated matrixAndCode
      = .ok { info := matrixAndCode, regions := [none, none] } := rfl
  have first : Frame.write { info := matrixAndCode, regions := [none, none] } 0 [1, 2, 3, 4]
      = .done { info := matrixAndCode
                regions := [some ([1, 2, 3, 4] ++ List.replicate 12 0), none] } := rfl
  have third : Frame.setByte
      { info := matrixAndCode
        regions := [some ([1, 2, 3, 4] ++ List.replicate 12 0), none] } 0 18 9
      = .done started := rfl
  have changed : started.Made matrixAndCode :=
    (Made.unallocated bare |>.write first).clone.setByte third
  have made : started.Made matrixAndCode := changed.overwrite 1 [7, 8, 9, 10]
  have fits : matrixAndCode.Fits := Descriptor.fits_iff.2 (by decide)
  obtain ⟨⟨-, -, count⟩, sizes, writes⟩ := made_frames_keep_shape made
  obtain ⟨takes, leaves, -⟩ := writes fits 1 [7, 8]
  obtain ⟨after, done⟩ := takes.2 ⟨by decide, 3, by rfl, by decide, by decide⟩
  obtain ⟨inPlace, ⟨old, holds, -, there⟩, others, -⟩ := leaves after done
  obtain ⟨many, -, refused⟩ := writes fits 1 [7, 8, 9, 10]
  refine ⟨made, count, sizes 0 _ rfl, ⟨after, inPlace, ?_, others 0 (by decide)⟩, ?_⟩
  · rcases holds with present | ⟨-, size, sized, rfl⟩
    · cases present
    · cases sized
      exact there
  · obtain ⟨detail, -, same⟩ := refused fun after written => by
      obtain ⟨-, size, sized, -, few⟩ := many.1 ⟨after, written⟩
      cases sized
      exact absurd few (by decide)
    exact ⟨detail, same⟩

end Inference.Frame
