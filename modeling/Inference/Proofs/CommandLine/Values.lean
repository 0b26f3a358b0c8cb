/-
Values that fill an input.

How many values an input takes is reckoned in three ways: tensor by tensor for the check, tensor by
tensor again when they are cut up, and of all bytes together for the zeros of a benchmark.  Of a
usable input of single precision numbers they come to the same, the number of its elements
(`Descriptor.sum_roomFor_of_floats`), because every such tensor has four bytes for each of its
elements.  So nothing is cut beyond its end, no tensor refuses its bytes, and no sum leaves the
machine word; `fill_done` is the induction, over the tensors that are still to be filled.

What is written is read back: the words of the first tensor, then those of the second, and so on,
are the values.
-/
import Mathlib.Algebra.BigOperators.Ring.List
import Mathlib.Algebra.Ring.Nat
import Inference.CommandLine.Command
import Inference.Proofs.Engine.Allocation
import Inference.Proofs.Engine.Usability
import Inference.Proofs.Tensor.Regular

namespace Inference

/-! ### Words -/

namespace Binary32

/-- A number is read back from its four bytes, whatever stands behind them. -/
theorem listOfBytes_toBytes_append (x : Binary32) (rest : Bytes) :
    listOfBytes (x.toBytes ++ rest) = x :: listOfBytes rest := by
  have word : ofBytes (UInt8.ofNat x.bits.toNat) (UInt8.ofNat (x.bits.toNat / 0x100))
      (UInt8.ofNat (x.bits.toNat / 0x10000)) (UInt8.ofNat (x.bits.toNat / 0x1000000)) = x := by
    have bound := x.bits.toNat_lt
    unfold ofBytes
    simp only [UInt8.toNat_ofNat']
    have digits : x.bits.toNat % 2 ^ 8 + x.bits.toNat / 0x100 % 2 ^ 8 * 0x100
        + x.bits.toNat / 0x10000 % 2 ^ 8 * 0x10000
        + x.bits.toNat / 0x1000000 % 2 ^ 8 * 0x1000000 = x.bits.toNat := by
      omega
    rw [digits, UInt32.ofNat_toNat]
  simp only [toBytes, List.cons_append, List.nil_append, listOfBytes, word]

theorem listOfBytes_flatMap_toBytes (values : List Binary32) :
    listOfBytes (values.flatMap toBytes) = values := by
  induction values with
  | nil => rfl
  | cons x rest ih => rw [List.flatMap_cons, listOfBytes_toBytes_append, ih]

theorem length_flatMap_toBytes (values : List Binary32) :
    (values.flatMap toBytes).length = 4 * values.length := by
  induction values with
  | nil => rfl
  | cons x rest ih =>
      simp only [List.flatMap_cons, List.length_append, ih, List.length_cons]
      simp only [toBytes, List.length_cons, List.length_nil]
      omega

end Binary32

/-! ### Elements -/

/-- How many elements the tensor has. -/
def Tensor.elements (tensor : Tensor) : Nat := (tensor.shape.axes.map UInt32.toNat).prod

/-- How many elements all tensors have together. -/
def Descriptor.elements (d : Descriptor) : Nat := (d.tensors.map Tensor.elements).sum

theorem Tensor.bytes_of_float {tensor : Tensor} (float : tensor.type = .float32) :
    tensor.bytes = 4 * tensor.elements := by
  unfold bytes elements
  rw [float]
  rfl

theorem wordSum_eq {ε : Type} {counts : List Nat} (fits : counts.sum < wordLimit) :
    (wordSum counts : Outcome ε Nat) = .done counts.sum := by
  have small : ∀ count ∈ counts, some count = if id count < wordLimit then some (id count) else none
      := by
    intro count member
    have below := List.le_sum_of_mem member
    rw [if_pos (show id count < wordLimit by simp only [id]; omega), id]
  have reckoned := foldlM_checkedAdd small (show 0 < wordLimit by decide)
  rw [List.map_id, Nat.zero_add, if_pos fits] at reckoned
  unfold wordSum
  rw [show counts.foldlM checkedAdd 0 = some counts.sum from reckoned]

namespace Descriptor

variable {d : Descriptor}

/-- A tensor has no more room for single precision numbers than it has bytes, so their number never
leaves the machine word. -/
theorem sum_roomFor_le (sizes : List Nat) : (sizes.map roomFor).sum ≤ sizes.sum := by
  induction sizes with
  | nil => exact Nat.le_refl 0
  | cons size rest ih =>
      have fewer : roomFor size ≤ size := Nat.div_le_self size _
      simp only [List.map_cons, List.sum_cons]
      omega

theorem sum_sizes (valid : d.validate = .ok ()) : d.sizes.sum = d.bytes ∧ d.bytes < wordLimit := by
  obtain ⟨-, -, filled, counted⟩ := validate_iff_filled.1 valid
  exact ⟨congrArg List.sum (sizes_eq_bytes filled counted), counted⟩

theorem sizes_of_floats (valid : d.validate = .ok ())
    (floats : ∀ tensor ∈ d.tensors, tensor.type = .float32) :
    d.sizes = d.tensors.map (fun tensor => 4 * tensor.elements)
      ∧ ∀ tensor ∈ d.tensors, 1 ≤ tensor.elements := by
  obtain ⟨-, -, filled, counted⟩ := validate_iff_filled.1 valid
  constructor
  · rw [sizes_eq_bytes filled counted]
    exact List.map_congr_left fun tensor member => Tensor.bytes_of_float (floats tensor member)
  · intro tensor member
    exact prod_pos_of_nonzero (filled tensor member).nonzero

theorem bytes_of_floats (floats : ∀ tensor ∈ d.tensors, tensor.type = .float32) :
    d.bytes = 4 * d.elements := by
  unfold bytes elements
  rw [List.map_congr_left fun tensor member => Tensor.bytes_of_float (floats tensor member),
    List.sum_map_mul_left]

theorem roomFor_four_mul (count : Nat) : roomFor (4 * count) = count :=
  Nat.mul_div_cancel_left count (by decide)

/-- The number of values that the input is checked against is that of its elements. -/
theorem sum_roomFor_of_floats (valid : d.validate = .ok ())
    (floats : ∀ tensor ∈ d.tensors, tensor.type = .float32) :
    (d.sizes.map roomFor).sum = d.elements := by
  rw [(sizes_of_floats valid floats).1, List.map_map]
  unfold elements
  congr 1
  exact List.map_congr_left fun tensor _ => roomFor_four_mul tensor.elements

end Descriptor

/-! ### The types of the tensors -/

theorem checkFloats_iff {index : Nat} {tensors : List Tensor} :
    checkFloats index tensors = .ok () ↔ ∀ tensor ∈ tensors, tensor.type = .float32 := by
  induction tensors generalizing index with
  | nil => simp [checkFloats]
  | cons tensor rest ih =>
      rw [checkFloats, List.forall_mem_cons]
      by_cases float : tensor.type = .float32
      · simp [float, ih]
      · simp [float]

theorem checkFloats_refused {index : Nat} {tensors : List Tensor} {text : String} :
    checkFloats index tensors = .error text ↔ ∃ before tensor after,
      tensors = before ++ tensor :: after ∧ (∀ float ∈ before, float.type = .float32)
        ∧ tensor.type ≠ .float32
        ∧ text = "input tensor " ++ Text.showNat (index + before.length) ++ " is "
          ++ tensor.type.name ++ ", only float32 inputs can be given as values" := by
  induction tensors generalizing index with
  | nil => simp [checkFloats]
  | cons tensor rest ih =>
      rw [checkFloats]
      by_cases float : tensor.type = .float32
      · rw [if_pos float, ih]
        constructor
        · rintro ⟨before, other, after, rfl, floats, apart, rfl⟩
          refine ⟨tensor :: before, other, after, rfl, ?_, apart, ?_⟩
          · exact List.forall_mem_cons.2 ⟨float, floats⟩
          · rw [List.length_cons, Nat.add_right_comm, Nat.add_assoc]
        · rintro ⟨before, other, after, cut, floats, apart, rfl⟩
          cases before with
          | nil =>
              cases cut
              exact absurd float apart
          | cons first before =>
              cases cut
              refine ⟨before, other, after, rfl, (List.forall_mem_cons.1 floats).2, apart, ?_⟩
              rw [List.length_cons, Nat.add_right_comm, Nat.add_assoc]
      · rw [if_neg float]
        constructor
        · rintro ⟨⟩
          exact ⟨[], tensor, rest, rfl, by simp, float, rfl⟩
        · rintro ⟨before, other, after, cut, floats, apart, rfl⟩
          cases before with
          | nil =>
              cases cut
              rfl
          | cons first before =>
              cases cut
              exact absurd (floats _ List.mem_cons_self) float

/-! ### Filling tensor after tensor -/

theorem Frame.Regular.sound {frame : Frame} (h : frame.Regular) (fits : frame.info.Fits) :
    frame.Sound where
  count := by
    rw [h.count, Frame.sizes, Descriptor.sizes, List.length_map]
    rfl
  fits := fits
  lengths index tensor bytes found there := by
    have sized := h.lengths index bytes there
    obtain ⟨size, counted, -⟩ := Tensor.size?_of_fits (fits tensor (List.mem_of_getElem? found))
    rw [Frame.sizes, Descriptor.sizes, List.getElem?_map, found, Option.map_some, counted] at sized
    rw [counted]
    exact sized

/-- The remaining tensors of a frame are filled with as many values as they have elements.  By
induction on their sizes: the next tensor takes the first values, which fill it. -/
theorem fill_done {frame middle : Frame} (sound : frame.Sound) {written : List Bytes}
    (overlaid : frame.Overlaid written middle) {counts : List Nat} {values : List Binary32}
    (sizes : frame.sizes = written.map List.length ++ counts.map (4 * ·))
    (some : ∀ count ∈ counts, 1 ≤ count) (length : values.length = counts.sum) :
    ∃ after regions, fill middle written.length values (counts.map (4 * ·)) = .done after
      ∧ frame.Overlaid (written ++ regions) after
      ∧ regions.map List.length = counts.map (4 * ·)
      ∧ regions.flatMap Binary32.listOfBytes = values := by
  induction counts generalizing middle written values with
  | nil =>
      rw [List.sum_nil, List.length_eq_zero_iff] at length
      exact ⟨middle, [], rfl, by simpa using overlaid, rfl, length.symm⟩
  | cons count counts ih =>
      rw [List.sum_cons] at length
      have enough : count ≤ values.length := by omega
      have bytes : ((values.take count).flatMap Binary32.toBytes).length = 4 * count := by
        rw [Binary32.length_flatMap_toBytes, List.length_take, Nat.min_eq_left enough]
      have sized : frame.sizes[written.length]?
          = .some ((values.take count).flatMap Binary32.toBytes).length := by
        rw [sizes, bytes, List.getElem?_append_right (by simp)]
        simp
      have positive := some count List.mem_cons_self
      obtain ⟨next, wrote⟩ := sound.write_done overlaid sized (by omega)
      have later : (values.drop count).length = counts.sum := by
        rw [List.length_drop]
        omega
      obtain ⟨after, regions, filled, whole, lengths, words⟩ := ih (overlaid.next wrote)
        (by simp [sizes, bytes]) (fun other member =>
          some other (List.mem_cons_of_mem _ member)) later
      rw [List.length_append, List.length_singleton] at filled
      refine ⟨after, (values.take count).flatMap Binary32.toBytes :: regions, ?_, ?_, ?_, ?_⟩
      · rw [List.map_cons, fill, Descriptor.roomFor_four_mul, cutValues, if_pos enough]
        simp only [Outcome.bind, wrote]
        exact filled
      · rwa [List.append_assoc, List.singleton_append] at whole
      · rw [List.map_cons, List.map_cons, bytes, lengths]
      · rw [List.flatMap_cons, Binary32.listOfBytes_flatMap_toBytes, words, List.take_append_drop]

/-! ### Inputs -/

section

variable {info : Descriptor} {values : List Binary32}

theorem inputOf_unusable {fault : Fault} (invalid : info.validate = .error fault) :
    inputOf info values = .failed fault.message := by
  unfold inputOf Frame.checkZeroed
  rw [invalid]
  rfl

/-- A usable descriptor whose memory can be allocated gets as far as the check of its types, and the
number of values is reckoned without leaving the machine word. -/
theorem inputOf_usable (valid : info.validate = .ok ()) (fits : info.Fits) :
    inputOf info values = (Outcome.ofExcept (checkFloats 0 info.tensors)).bind fun () =>
      if values.length ≠ (info.sizes.map roomFor).sum then
        .failed ("the model takes " ++ Text.showNat (info.sizes.map roomFor).sum ++ " values, "
          ++ Text.showNat values.length ++ " were given")
      else
        (fill { info, regions := info.zeros.map some } 0 values info.sizes).mapFault Fault.message
    := by
  obtain ⟨total, counted⟩ := Descriptor.sum_sizes valid
  have fewer := Descriptor.sum_roomFor_le info.sizes
  unfold inputOf Frame.checkZeroed
  rw [valid, Frame.checkRoom_sizes, if_pos fits, Frame.zeroed_eq valid, if_pos fits,
    wordSum_eq (by omega)]
  rfl

/-- Values of the right number fill the tensors, word for word in their order. -/
theorem inputOf_filled (valid : info.validate = .ok ()) (fits : info.Fits)
    (floats : ∀ tensor ∈ info.tensors, tensor.type = .float32)
    (length : values.length = info.elements) :
    ∃ regions : List Bytes, inputOf info values = .done { info, regions := regions.map some }
      ∧ regions.map List.length = info.sizes
      ∧ regions.flatMap Binary32.listOfBytes = values := by
  have zeroed : Frame.zeroed info = .done { info, regions := info.zeros.map some } := by
    rw [Frame.zeroed_eq valid, if_pos fits]
  have sound := (Frame.regular_of_zeroed zeroed).sound fits
  obtain ⟨sizes, some⟩ := Descriptor.sizes_of_floats valid floats
  have sized : info.sizes = (info.tensors.map Tensor.elements).map (4 * ·) := by
    rw [sizes, List.map_map]
    rfl
  obtain ⟨after, regions, filled, whole, lengths, words⟩ :=
    fill_done sound (.refl _) sized (List.forall_mem_map.2 some) length
  have all := sound.regions_of_overlaid whole (lengths.trans sized.symm)
  refine ⟨regions, ?_, lengths.trans sized.symm, words⟩
  rw [inputOf_usable valid fits, checkFloats_iff.2 floats,
    Descriptor.sum_roomFor_of_floats valid floats]
  simp only [Outcome.ofExcept, Outcome.bind]
  rw [if_neg (not_not.2 length), sized]
  have same : after = { info, regions := regions.map .some } := by
    rw [whole.same, all]
    rfl
  rw [← same]
  exact congrArg (Outcome.mapFault Fault.message) filled

theorem inputOf_miscounted (valid : info.validate = .ok ()) (fits : info.Fits)
    (floats : ∀ tensor ∈ info.tensors, tensor.type = .float32)
    (length : values.length ≠ info.elements) :
    inputOf info values = .failed ("the model takes " ++ Text.showNat info.elements ++ " values, "
      ++ Text.showNat values.length ++ " were given") := by
  rw [inputOf_usable valid fits, checkFloats_iff.2 floats,
    Descriptor.sum_roomFor_of_floats valid floats]
  exact if_pos length

theorem inputOf_mistyped {text : String} (valid : info.validate = .ok ()) (fits : info.Fits)
    (refused : checkFloats 0 info.tensors = .error text) : inputOf info values = .failed text := by
  rw [inputOf_usable valid fits, refused]
  rfl

/-- Why values do not make an input, and what is said of it. -/
inductive Unfilled (info : Descriptor) (values : List Binary32) : String → Prop where
  | unusable {fault : Fault} (invalid : info.validate = .error fault) :
      Unfilled info values fault.message
  | mistyped {before after : List Tensor} {tensor : Tensor} (valid : info.validate = .ok ())
      (cut : info.tensors = before ++ tensor :: after)
      (floats : ∀ float ∈ before, float.type = .float32) (apart : tensor.type ≠ .float32) :
      Unfilled info values ("input tensor " ++ Text.showNat before.length ++ " is "
        ++ tensor.type.name ++ ", only float32 inputs can be given as values")
  | miscounted (valid : info.validate = .ok ())
      (floats : ∀ tensor ∈ info.tensors, tensor.type = .float32)
      (length : values.length ≠ info.elements) :
      Unfilled info values ("the model takes " ++ Text.showNat info.elements ++ " values, "
        ++ Text.showNat values.length ++ " were given")

/-- Values that do not make an input are refused, and nothing crashes. -/
theorem Unfilled.failed {text : String} (h : Unfilled info values text)
    (room : info.validate = .ok () → info.Fits) : inputOf info values = .failed text := by
  cases h with
  | unusable invalid => exact inputOf_unusable invalid
  | mistyped valid cut floats apart =>
      refine inputOf_mistyped valid (room valid) (checkFloats_refused.2 ?_)
      exact ⟨_, _, _, cut, floats, apart, by rw [Nat.zero_add]⟩
  | miscounted valid floats length => exact inputOf_miscounted valid (room valid) floats length

/-- Values fill an input, or they are refused; what becomes of them is told by the descriptor and
their number. -/
theorem inputOf_cases (room : info.validate = .ok () → info.Fits) (values : List Binary32) :
    (info.validate = .ok () ∧ (∀ tensor ∈ info.tensors, tensor.type = .float32)
        ∧ values.length = info.elements)
        ∧ (∃ regions : List Bytes, inputOf info values = .done { info, regions := regions.map some }
          ∧ regions.map List.length = info.sizes ∧ regions.flatMap Binary32.listOfBytes = values)
      ∨ ∃ text, Unfilled info values text := by
  cases valid : info.validate with
  | error fault => exact .inr ⟨_, .unusable valid⟩
  | ok =>
      cases types : checkFloats 0 info.tensors with
      | error text =>
          obtain ⟨before, tensor, after, cut, floats, apart, -⟩ := checkFloats_refused.1 types
          exact .inr ⟨_, .mistyped valid cut floats apart⟩
      | ok =>
          have floats := checkFloats_iff.1 types
          by_cases length : values.length = info.elements
          · exact .inl ⟨⟨rfl, floats, length⟩, inputOf_filled valid (room valid) floats length⟩
          · exact .inr ⟨_, .miscounted valid floats length⟩

end

/-! ### The zeros of a benchmark -/

namespace Command

/-- There is a zero for every four bytes of the input, if one region of memory can hold them all. -/
theorem benchValues_none {info : Descriptor} (valid : info.validate = .ok ())
    (floats : ∀ tensor ∈ info.tensors, tensor.type = .float32) :
    benchValues info none = if info.bytes ≤ regionLimit
      then .done (List.replicate (info.bytes / 4) (Binary32.zero false))
      else .crashed capacityOverflow := by
  obtain ⟨total, counted⟩ := Descriptor.sum_sizes valid
  have whole : info.bytes / 4 * ElementType.float32.width = info.bytes :=
    Nat.div_mul_cancel ⟨info.elements, Descriptor.bytes_of_floats floats⟩
  have room : roomFor info.bytes = info.bytes / 4 := rfl
  show zeroValues info = _
  unfold zeroValues
  rw [wordSum_eq (by omega), total]
  simp only [Outcome.bind, room, whole, Frame.checkRoom]
  by_cases fits : info.bytes ≤ regionLimit <;> simp [fits, Outcome.mapFault, Outcome.map]

theorem usable_of_openModel {W : Type} {catalog : Catalog W} {model : ModelChoice} {world : W}
    {host : Host W} (h : openModel catalog model world = .done host) : host.desk.Usable := by
  unfold openModel at h
  split at h
  · cases h
  rename_i options _
  split at h
  · rename_i opened
    cases h
    unfold Catalog.openModel at opened
    split at opened
    · cases opened
    split at opened
    · cases opened
    · exact Backend.usable_of_opened opened
  · cases h
  · cases h

/-- The zeros make an input of every model that takes single precision numbers. -/
theorem zeros_fill_input {info : Descriptor} (room : info.validate = .ok () → info.Fits)
    {W : Type} (catalog : Catalog W) (model : ModelChoice) (world : W) (host : Host W)
    (opened : openModel catalog model world = .done host) (input : host.desk.input = info)
    (floats : ∀ tensor ∈ info.tensors, tensor.type = .float32) :
    (∃ frame, inputOf info (List.replicate (info.bytes / 4) (.zero false)) = .done frame)
      ∧ benchValues info none = if info.bytes ≤ regionLimit
        then .done (List.replicate (info.bytes / 4) (.zero false))
        else .crashed capacityOverflow := by
  have valid : info.validate = .ok () := by
    rw [← input]
    exact (usable_of_openModel opened).input
  have count : info.bytes / 4 = info.elements := by
    have bytes := Descriptor.bytes_of_floats floats
    omega
  obtain ⟨regions, made, -⟩ := inputOf_filled valid (room valid) floats
    (List.length_replicate.trans count)
  exact ⟨⟨_, made⟩, benchValues_none valid floats⟩

end Command

/-! ### Values fill an input exactly -/

/-- For every descriptor whose memory can be allocated if it is usable: values make an input
exactly if the descriptor is usable, all its tensors are of single precision, and there are as many
values as elements.  Then every tensor is there with all its bytes, and their words, tensor after
tensor, are the values.  Otherwise the values are refused for what is wrong with them; nothing
crashes.  As many zeros as there are four bytes make an input of every model that was opened and
takes such numbers, and a benchmark without values runs on them, unless no region of memory can
hold them all. -/
theorem values_fill_input_exactly {info : Descriptor} (room : info.validate = .ok () → info.Fits)
    (values : List Binary32) :
    ((∃ frame, inputOf info values = .done frame) ↔
        info.validate = .ok () ∧ (∀ tensor ∈ info.tensors, tensor.type = .float32)
          ∧ values.length = info.elements)
      ∧ (∀ frame, inputOf info values = .done frame → ∃ regions : List Bytes,
        frame = { info, regions := regions.map some } ∧ regions.map List.length = info.sizes
          ∧ regions.flatMap Binary32.listOfBytes = values)
      ∧ (∀ text, inputOf info values = .failed text ↔ Unfilled info values text)
      ∧ (∀ message, inputOf info values ≠ .crashed message)
      ∧ ∀ {W : Type} (catalog : Catalog W) (model : ModelChoice) (world : W) (host : Host W),
        Command.openModel catalog model world = .done host → host.desk.input = info →
        (∀ tensor ∈ info.tensors, tensor.type = .float32) →
          (∃ frame, inputOf info (List.replicate (info.bytes / 4) (.zero false)) = .done frame)
            ∧ Command.benchValues info none = if info.bytes ≤ regionLimit
              then .done (List.replicate (info.bytes / 4) (.zero false))
              else .crashed capacityOverflow := by
  rcases inputOf_cases room values with ⟨filled, regions, made, lengths, words⟩ | ⟨text, unfilled⟩
  · refine ⟨⟨fun _ => filled, fun _ => ⟨_, made⟩⟩, ?_, ?_, ?_, Command.zeros_fill_input room⟩
    · intro frame same
      cases made.symm.trans same
      exact ⟨regions, rfl, lengths, words⟩
    · intro text
      constructor
      · intro refused
        cases made.symm.trans refused
      · exact fun unfilled => unfilled.failed room
    · intro message crashed
      cases made.symm.trans crashed
  · have refused := unfilled.failed room
    refine ⟨⟨?_, ?_⟩, ?_, ?_, ?_, Command.zeros_fill_input room⟩
    · rintro ⟨frame, made⟩
      cases made.symm.trans refused
    · rintro ⟨valid, floats, length⟩
      obtain ⟨regions, made, -⟩ := inputOf_filled valid (room valid) floats length
      exact ⟨_, made⟩
    · intro frame made
      cases made.symm.trans refused
    · intro other
      constructor
      · intro same
        cases refused.symm.trans same
        exact unfilled
      · exact fun unfilled => unfilled.failed room
    · intro message crashed
      cases refused.symm.trans crashed

/-- A pair of numbers, and a single one. -/
def pairAndOne : Descriptor where
  tensors := [{ type := .float32, shape := .ofList [2] },
    { type := .float32, shape := .ofList [1] }]

/-- A model that gives them back is all that is registered. -/
def pairAndOneCatalog : Catalog Unit where
  models := [("pair", regionwise pairAndOne id)]

/-- One, two and three fill the pair and the single number; one alone is refused; and a benchmark
has three zeros. -/
theorem three_values_fill_pair_and_one :
    (∃ regions : List Bytes, inputOf pairAndOne [⟨0x3f800000⟩, ⟨0x40000000⟩, ⟨0x40400000⟩]
        = .done { info := pairAndOne, regions := regions.map some }
      ∧ regions.map List.length = [8, 4]
      ∧ regions.flatMap Binary32.listOfBytes = [⟨0x3f800000⟩, ⟨0x40000000⟩, ⟨0x40400000⟩])
    ∧ inputOf pairAndOne [⟨0x3f800000⟩]
      = .failed ("the model takes " ++ Text.showNat 3 ++ " values, " ++ Text.showNat 1
        ++ " were given")
    ∧ ∃ host frame, Command.openModel pairAndOneCatalog { model := "pair", framework := .custom } ()
        = .done host
      ∧ Command.benchValues host.desk.input none = .done (List.replicate 3 (.zero false))
      ∧ inputOf host.desk.input (List.replicate 3 (.zero false)) = .done frame := by
  have valid : pairAndOne.validate = .ok () := by rfl
  have fits : pairAndOne.Fits := by decide
  have floats : ∀ tensor ∈ pairAndOne.tensors, tensor.type = .float32 := by decide
  have elements : pairAndOne.elements = 3 := by decide
  obtain ⟨made, filled, -, -, bench⟩ := values_fill_input_exactly (fun _ => fits)
    [⟨0x3f800000⟩, ⟨0x40000000⟩, ⟨0x40400000⟩]
  obtain ⟨frame, done⟩ := made.2 ⟨valid, floats, elements.symm⟩
  obtain ⟨regions, rfl, lengths, words⟩ := filled frame done
  obtain ⟨-, -, refused, -⟩ := values_fill_input_exactly (fun _ => fits) [⟨0x3f800000⟩]
  have few := (refused _).2 (.miscounted valid floats (by rw [elements]; decide))
  rw [elements] at few
  obtain ⟨host, opened⟩ : ∃ host, Command.openModel pairAndOneCatalog
      { model := "pair", framework := .custom } () = .done host := ⟨_, rfl⟩
  have input : host.desk.input = pairAndOne := by
    cases opened
    rfl
  obtain ⟨⟨frame, run⟩, benched⟩ := bench _ _ _ host opened input floats
  have three : pairAndOne.bytes / 4 = 3 := by decide
  rw [three, if_pos (by decide), ← input] at benched
  rw [three, ← input] at run
  exact ⟨⟨regions, done, lengths, words⟩, few, host, frame, opened, benched, run⟩

end Inference
