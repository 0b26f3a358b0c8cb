/-
Descriptors that can be used and not allocated.

The bytes of a usable descriptor fit a machine word, but one region of memory holds only about half
as many.  Wherever memory is asked for, for a whole frame, for the first bytes that are written to
a tensor, or for the output of a pass, it is there exactly if every region it is asked for can be
that large; otherwise whoever asks crashes (`checkRoom_sizes`), and the worker does not survive it
(`stepWorker_holding`).
-/
import Inference.Proofs.Engine.Survival
import Inference.Proofs.Tensor.Overlay
import Inference.Proofs.Tensor.Sizes

namespace Inference

/-! ### Regions of zeros -/

namespace Descriptor

variable {d : Descriptor}

instance (d : Descriptor) : Decidable d.Fits :=
  inferInstanceAs (Decidable (∀ tensor ∈ d.tensors,
    (tensor.size? d.rank).getD (wordLimit - 1) ≤ regionLimit))

theorem fits_iff_bytes (valid : d.validate = .ok ()) :
    d.Fits ↔ ∀ tensor ∈ d.tensors, tensor.bytes ≤ regionLimit := by
  obtain ⟨-, -, filled, counted⟩ := validate_iff_filled.1 valid
  rw [fits_iff, sizes_eq_bytes filled counted, List.forall_mem_map]

/-- A region of zeros for every tensor. -/
def zeros (d : Descriptor) : List Bytes :=
  d.tensors.map fun tensor => List.replicate tensor.bytes 0

end Descriptor

namespace Frame

variable {d : Descriptor}

/-- Either there is room for regions of these sizes, or asking for them crashes. -/
theorem checkRoom_sizes (d : Descriptor) :
    checkRoom d.sizes = if d.Fits then .done () else .crashed capacityOverflow := by
  by_cases fits : d.Fits
  · rw [if_pos fits, Descriptor.checkRoom_of_fits fits]
  · have all : ¬ (d.sizes.all (· ≤ regionLimit)) = true := fun all => fits <| by
      simpa [Descriptor.fits_iff] using all
    rw [if_neg fits, checkRoom, if_neg all]

theorem allocate_eq (valid : d.validate = .ok ()) :
    allocate d.sizes = if d.Fits then .done d.zeros else .crashed capacityOverflow := by
  obtain ⟨-, -, filled, counted⟩ := Descriptor.validate_iff_filled.1 valid
  have zeros : (d.sizes.map fun size => List.replicate size 0) = d.zeros := by
    rw [Descriptor.sizes_eq_bytes filled counted, List.map_map]
    rfl
  rw [allocate, checkRoom_sizes, zeros]
  split <;> rfl

theorem zeroed_eq (valid : d.validate = .ok ()) :
    zeroed d = if d.Fits then .done { info := d, regions := d.zeros.map some }
      else .crashed capacityOverflow := by
  rw [zeroed, valid, allocate_eq valid]
  split <;> rfl

/-- A frame that has no memory yet. -/
def bare (d : Descriptor) : Frame := { info := d, regions := List.replicate d.count none }

theorem unallocated_eq (valid : d.validate = .ok ()) : unallocated d = .ok (bare d) := by
  rw [unallocated, valid]
  rfl

/-- The first bytes that are written to a tensor make it as long as it should be, with zeros behind
them, if there is room for it. -/
theorem write_bare (valid : d.validate = .ok ()) {index : Nat} {tensor : Tensor} {bytes : Bytes}
    (found : d.tensors[index]? = some tensor) (some : 1 ≤ bytes.length)
    (few : bytes.length ≤ tensor.bytes) :
    (bare d).write index bytes = if tensor.bytes ≤ regionLimit
      then .done ((bare d).setRegion index
        (bytes ++ List.replicate (tensor.bytes - bytes.length) 0))
      else .crashed capacityOverflow := by
  obtain ⟨-, -, filled, counted⟩ := Descriptor.validate_iff_filled.1 valid
  have inside : index < d.count := (List.getElem?_eq_some_iff.1 found).1
  have missing : (bare d).region index = .ok none := by
    rw [region_eq_ok, bare, List.getElem?_replicate, if_pos inside]
  have sized : (bare d).info.sizeAt index = .ok tensor.bytes :=
    Descriptor.sizeAt_eq_bytes filled counted found
  have writable : (bytes.isEmpty || decide (bytes.length > tensor.bytes)) = false := by
    rw [Bool.or_eq_false_iff, List.isEmpty_eq_false_iff, decide_eq_false_iff_not]
    exact ⟨List.length_pos_iff.1 some, Nat.not_lt.2 few⟩
  have room : checkRoom [tensor.bytes] = if tensor.bytes ≤ regionLimit then .done ()
      else .crashed capacityOverflow := by
    simp [checkRoom]
  rw [write, missing, sized]
  simp only [Outcome.ofExcept, Outcome.bind, writable, Bool.false_eq_true, if_false, contents, room]
  split
  · simp only [Outcome.map, List.drop_replicate]
  · rfl

end Frame

namespace Host

variable {W : Type} {host : Host W} {request : Request} {inputs : List Bytes}

/-- With a request in its hands and a backend that does not allocate, the worker enters the pass
with regions of zeros if there is room for them, and dies if there is not. -/
theorem stepWorker_holding (holding : host.engine.worker = .holding request)
    (attached : host.desk.attached = true) (bytes : request.input.allBytes = .ok inputs)
    (plain : host.engine.backend.allocates host.world = false)
    (valid : request.output.validate = .ok ()) :
    host.stepWorker = some (if request.output.Fits
      then { host with
        world := host.engine.backend.enter inputs request.output.zeros false host.world }.withWorker
          (.inPass request request.output.zeros false)
      else host.poisonBackend.workerDies) := by
  unfold stepWorker
  rw [holding]
  simp only [beginPass, attached, bytes, plain, Frame.allocate_eq valid]
  by_cases fits : request.output.Fits
  · simp only [if_pos fits]
    rfl
  · simp only [if_neg fits]
    rfl

end Host

/-! ### What can be allocated -/

/-- Memory for a usable descriptor is there exactly if none of its tensors has more bytes than one
region holds: as zeros for a whole frame, for the first bytes that are written to one of its
tensors, and as zeros for the output of a pass.  If it is not, whoever asks for it crashes; the
worker dies of it. -/
theorem Descriptor.usable_allocated_iff_fits {d : Descriptor} (valid : d.validate = .ok ()) :
    (d.Fits ↔ ∀ tensor ∈ d.tensors, tensor.bytes ≤ 2 ^ 63 - 1)
      ∧ Frame.zeroed d = (if d.Fits then .done { info := d, regions := d.zeros.map some }
        else .crashed capacityOverflow)
      ∧ (∃ frame, Frame.unallocated d = .ok frame ∧ ∀ index tensor bytes,
        d.tensors[index]? = some tensor → 1 ≤ bytes.length → bytes.length ≤ tensor.bytes →
          frame.write index bytes = if tensor.bytes ≤ 2 ^ 63 - 1
            then .done (frame.setRegion index
              (bytes ++ List.replicate (tensor.bytes - bytes.length) 0))
            else .crashed capacityOverflow)
      ∧ ∀ {W : Type} (host : Host W) (request : Request) (inputs : List Bytes),
        host.engine.worker = .holding request → request.output = d → host.desk.attached = true →
        request.input.allBytes = .ok inputs → host.engine.backend.allocates host.world = false →
          host.stepWorker = some (if d.Fits
            then { host with
              world := host.engine.backend.enter inputs d.zeros false host.world }.withWorker
                (.inPass request d.zeros false)
            else host.poisonBackend.workerDies) := by
  refine ⟨fits_iff_bytes valid, Frame.zeroed_eq valid, ?_, ?_⟩
  · refine ⟨Frame.bare d, Frame.unallocated_eq valid, ?_⟩
    intro index tensor bytes found some few
    exact Frame.write_bare valid found some few
  · intro W host request inputs holding output attached bytes plain
    subst output
    exact Host.stepWorker_holding holding attached bytes plain valid

/-- Two tensors of two to the power of 62 bytes, together more than one region holds. -/
def twoLarge : Descriptor where
  tensors := List.replicate 2 { type := .uint8, shape := .ofList [65536, 65536, 65536, 16384] }

/-- One byte more than a region holds. -/
def oversized : Descriptor where
  tensors := [{ type := .uint8, shape := .ofList [65536, 65536, 65536, 32768] }]

namespace CustomModel

/-- A worker that holds a request for the two large tensors. -/
def largeRequest : Request where
  ticket := 1
  input := (byteTask 7).input
  output := twoLarge

/-- There is room for both tensors, since each of them has its own region; a byte can be written to
the second, and the worker goes on. -/
theorem twoLarge_allocated : twoLarge.validate = .ok () ∧ twoLarge.bytes = 2 ^ 63
    ∧ Frame.zeroed twoLarge = .done { info := twoLarge, regions := twoLarge.zeros.map some }
    ∧ (∃ frame after, Frame.unallocated twoLarge = .ok frame ∧ frame.write 1 [7] = .done after)
    ∧ ∃ after, (echoEngine.withWorker (.holding largeRequest)).stepWorker = some after
      ∧ after.engine.worker = .inPass largeRequest twoLarge.zeros false := by
  have valid : twoLarge.validate = .ok () := by rfl
  obtain ⟨fits, whole, ⟨frame, bare, written⟩, entered⟩ :=
    Descriptor.usable_allocated_iff_fits valid
  have held : twoLarge.Fits := fits.2 (by decide +kernel)
  rw [if_pos held] at whole
  have byte := written 1 _ [7] rfl (by decide) (by decide +kernel)
  rw [if_pos (by decide +kernel)] at byte
  have step := entered (echoEngine.withWorker (.holding largeRequest)) largeRequest
    [[7]] rfl rfl rfl
    rfl rfl
  rw [if_pos held] at step
  exact ⟨valid, by decide +kernel, whole, ⟨frame, _, bare, byte⟩, _, step, rfl⟩

/-- A model that answers with that many bytes. -/
def boundless : CustomModel Unit := { echoByte with output := oversized }

/-- An engine on that model. -/
def boundlessEngine : Host Unit where
  engine := {
    id := 0, framework := .custom, accelerator := .any, backend := boundless.backend
    desk := { input := boundless.input, output := oversized, timeout := 0 } }
  world := ()
  live := [0]

end CustomModel

open CustomModel in
/-- A descriptor of two to the power of 63 bytes can be used.  But asking for a frame of zeros
crashes, so does writing a byte to a frame without memory, and the worker of an engine that is
opened with such an output dies of the first request and leaves its caller waiting. -/
theorem Crowd.oversized_not_allocated : oversized.validate = .ok ()
    ∧ Frame.zeroed oversized = .crashed capacityOverflow
    ∧ (∃ frame, Frame.unallocated oversized = .ok frame
      ∧ frame.write 0 [7] = .crashed capacityOverflow)
    ∧ boundless.backend.openAs 0 {} .custom () [] = .opened boundlessEngine
    ∧ ∃ crowd : Crowd Unit, Reachable { host := boundlessEngine } crowd
      ∧ crowd.host.engine.worker = .died ∧ crowd.waiting? 0 = some 1 := by
  refine ⟨rfl, rfl, ⟨_, rfl, rfl⟩, rfl, ?_⟩
  have run : (Crowd.afterAll? { host := boundlessEngine }
      [.begins (.infer (byteTask 7).input (some 0)), .steps 0, .steps 0, .works, .works]).map
      (fun crowd => (crowd.host.engine.worker.hasDied, crowd.waiting? 0))
        = some (true, some 1) := by
    decide +kernel
  obtain ⟨crowd, reached, seen⟩ := Option.map_eq_some_iff.1 run
  obtain ⟨died, waits⟩ := Prod.mk.inj seen
  exact ⟨crowd, reachable_of_afterAll? reached, Worker.eq_of_hasDied died, waits⟩

end Inference
