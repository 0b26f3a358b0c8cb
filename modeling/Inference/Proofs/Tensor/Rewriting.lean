/-
What a text changes.

A text that is taken writes one field of the tensors and leaves the other two alone: tensors that
stay keep them, and tensors that are added have not set them.  What is printed afterwards is the
text in its plainest form.  Names and types lose the white space around them and types are written
in lower case (`Descriptor.typesText_of_taken`, `Descriptor.namesText_of_taken`); dimensions are
printed so that reading them again changes nothing
(`Descriptor.Shaped.unchanged_by_dimensionsText`).
-/
import Inference.Proofs.Tensor.Dimensions

namespace Inference

/-- A shape that is given by some extents has been set if none of them is zero and they are not too
many. -/
theorem Shape.given_ofList {extents : List UInt32} {rank : RankClass}
    (nonzero : ∀ extent ∈ extents, extent ≠ 0) (few : extents.length ≤ rank.limit) :
    (ofList extents).Given rank := by
  refine ⟨fun axis member => ?_, ones_ofList few⟩
  rw [axes_ofList (Nat.le_trans few rank.limit_le)] at member
  rcases List.mem_append.1 member with given | one
  · exact nonzero axis given
  · rw [List.eq_of_mem_replicate one]
    decide

namespace Descriptor

variable {d r after : Descriptor} {text : String}

/-! ### The fields that are left alone -/

/-- A text has been written into the tensors, one part into each, and has left `others` of them
alone. -/
structure Rewritten {β : Type} (d : Descriptor) (text : String) (others : Tensor → β)
    (after : Descriptor) : Prop where
  rank : after.rank = d.rank
  /-- There are as many tensors as the text has parts. -/
  count : after.count = (Text.split ',' text.toList).length
  kept : ∀ index tensor, d.tensors[index]? = some tensor → index < after.count →
    ∃ written, after.tensors[index]? = some written ∧ others written = others tensor
  added : ∀ index written, d.count ≤ index → after.tensors[index]? = some written →
    others written = others {}

theorem rewritten_withEach {α β : Type} {change : Tensor → α → Tensor} {values : List α}
    {others : Tensor → β} (spared : ∀ tensor value, others (change tensor value) = others tensor)
    (counted : values.length = (entries text.toList).length) :
    d.Rewritten text others (withEach change values d) where
  rank := rfl
  count := by rw [count_withEach, counted, entries, List.length_map]
  kept index tensor found inside := by
    rw [count_withEach] at inside
    refine ⟨_, getElem?_withEach (List.getElem?_eq_getElem inside), ?_⟩
    rw [spared, tensorOrUnset_of_getElem? found]
  added index written beyond found := by
    have inside := (List.getElem?_eq_some_iff.1 found).1
    rw [← Descriptor.count, count_withEach] at inside
    rw [getElem?_withEach (List.getElem?_eq_getElem inside)] at found
    cases found
    rw [spared, tensorOrUnset_of_le beyond]

/-! ### What is printed of names and types -/

theorem lower_name (type : ElementType) : Text.lower type.name.toList = type.name.toList := by
  cases type <;> rfl

/-- A type is read from nothing but its name, in upper or lower case. -/
theorem name_of_readType {text : List Char} {type : ElementType} (read : readType text = .ok type) :
    type.name.toList = Text.lower text := by
  unfold readType at read
  cases found : ElementType.ofName? text with
  | none =>
      rw [found] at read
      cases read
  | some named =>
      rw [found] at read
      cases read
      unfold ElementType.ofName? Text.findByName? at found
      have same := List.find?_some found
      rw [List.any_cons, List.any_nil, Bool.or_false, Text.sameName, beq_iff_eq, lower_name] at same
      exact same

theorem getD_readName (text : List Char) : ((readName text).getD "").toList = text := by
  cases text <;> simp [readName]

/-- The types that are taken are printed in lower case. -/
theorem typesText_of_taken (taken : d.setTypesText text = (.ok (), after)) :
    after.typesText
      = String.ofList (Text.join [','] ((entries text.toList).map Text.lower)) := by
  obtain ⟨types, read, -, -, rfl⟩ := setTypesText_eq_ok_iff.1 taken
  have names : (withEach retype types d).tensors.map (fun tensor => tensor.type.name.toList)
      = types.map fun type => type.name.toList := map_withEach fun _ _ => rfl
  have lowered : (entries text.toList).map Text.lower = types.map fun type => type.name.toList := by
    rw [← List.forall₂_eq_eq_eq, List.forall₂_map_left_iff, List.forall₂_map_right_iff]
    exact read.imp fun _ _ made => (name_of_readType made).symm
  rw [typesText, names, lowered]

/-- The names that are taken are printed as they are. -/
theorem namesText_of_taken (taken : d.setNamesText text = (.ok (), after)) :
    after.namesText = String.ofList (Text.join [','] (entries text.toList)) := by
  obtain ⟨-, rfl⟩ := setNamesText_eq_ok_iff.1 taken
  have names : (withEach rename (namesOf text) d).tensors.map
        (fun tensor => (tensor.name.getD "").toList)
      = (namesOf text).map fun name => (name.getD "").toList := map_withEach fun _ _ => rfl
  have same : (namesOf text).map (fun name => (name.getD "").toList) = entries text.toList := by
    rw [namesOf, List.map_map]
    exact (List.map_congr_left fun entry _ => getD_readName entry).trans (List.map_id _)
  rw [namesText, names, same]

/-! ### What is printed of dimensions -/

theorem ne_zero_of_readExtents {rank : RankClass} {entry : List Char} {extents : List UInt32}
    (read : readExtents rank entry = .ok extents) : ∀ extent ∈ extents, extent ≠ 0 := by
  obtain ⟨spelled, -⟩ := readExtents_eq_ok_iff.1 read
  rw [numbers, List.forall₂_map_right_iff] at spelled
  refine forall_mem_of_forall₂ spelled fun part extent each => ?_
  obtain ⟨_, -, -, positive, -⟩ := each
  rintro rfl
  cases positive

/-- Dimensions that are taken give every tensor a shape. -/
theorem shaped_of_taken (taken : d.setDimensionsText text = (.ok (), after)) : after.Shaped := by
  obtain ⟨shapes, read, few, rfl⟩ := setDimensionsText_eq_ok_iff.1 taken
  have count : (withEach reshape shapes d).tensors.length = shapes.length := count_withEach
  have written : (withEach reshape shapes d).tensors.map (·.shape) = shapes.map Shape.ofList :=
    map_withEach fun _ _ => rfl
  refine ⟨?_, ?_, fun tensor member => ?_⟩
  · rw [← List.length_pos_iff, count]
    exact length_pos_of_entries read
  · rw [count_withEach]
    exact few
  · have shape := List.mem_map_of_mem member (f := fun tensor => tensor.shape)
    rw [written] at shape
    obtain ⟨extents, inside, same⟩ := List.mem_map.1 shape
    obtain ⟨entry, -, made⟩ := exists_of_mapM_eq_ok (mapM_eq_ok_iff.2 read) inside
    rw [← same]
    exact Shape.given_ofList (ne_zero_of_readExtents made) (length_le_of_readExtents made)

theorem withShapes_self (d : Descriptor) : d.withShapes (d.tensors.map (·.shape)) = d := by
  rw [withShapes, List.zipWith_map_right, List.zipWith_self]
  exact congrArg (Descriptor.mk d.rank) (List.map_id _)

theorem dimensionsText_of_shapes {a b : Descriptor} (rank : a.rank = b.rank)
    (shapes : a.tensors.map (·.shape) = b.tensors.map (·.shape)) :
    a.dimensionsText = b.dimensionsText := by
  have used (d : Descriptor) : d.tensors.map (fun tensor => showExtents (tensor.shape.used d.rank))
      = (d.tensors.map (·.shape)).map fun shape => showExtents (shape.used d.rank) := by
    rw [List.map_map]
    rfl
  rw [dimensionsText, used, rank, shapes, ← used]
  rfl

/-- Printed dimensions are printed again once they were read, whatever the descriptor. -/
theorem Shaped.printed_again (shaped : d.Shaped) (same : r.rank = d.rank) :
    ∃ again, r.setDimensionsText d.dimensionsText = (.ok (), again)
      ∧ again.dimensionsText = d.dimensionsText := by
  refine ⟨_, shaped.setDimensionsText_dimensionsText same, dimensionsText_of_shapes same ?_⟩
  have each : (r.resize d.count).withShapes (d.tensors.map (·.shape))
      = withEach (fun tensor shape => { tensor with shape }) (d.tensors.map (·.shape)) r := by
    rw [withEach, List.length_map]
    rfl
  rw [each]
  exact (map_withEach fun _ shape => (rfl : shape = id shape)).trans (List.map_id _)

/-- Reading dimensions where they were printed changes nothing. -/
theorem Shaped.unchanged_by_dimensionsText (shaped : d.Shaped) :
    d.setDimensionsText d.dimensionsText = (.ok (), d) := by
  rw [shaped.setDimensionsText_dimensionsText rfl, resize_count, withShapes_self]

/-! ### The three texts -/

/-- A text that is taken gives the descriptor as many tensors as it has parts, and leaves two of
three fields alone: tensors that stay keep them, and those that are added have them unset.  Types
are then printed as the parts in lower case, and names as the parts, without the white space around
them.  Dimensions are printed as a text that changes nothing where it is read again, and that is
printed unchanged wherever it is read. -/
theorem texts_rewrite_one_field (d after : Descriptor) (text : String) :
    (d.setDimensionsText text = (.ok (), after) →
        d.Rewritten text (fun tensor => (tensor.name, tensor.type)) after
          ∧ after.setDimensionsText after.dimensionsText = (.ok (), after)
          ∧ ∀ r : Descriptor, r.rank = d.rank → ∃ again,
            r.setDimensionsText after.dimensionsText = (.ok (), again)
              ∧ again.dimensionsText = after.dimensionsText)
      ∧ (d.setTypesText text = (.ok (), after) →
        d.Rewritten text (fun tensor => (tensor.name, tensor.shape)) after
          ∧ after.typesText = String.ofList (Text.join [',']
            ((Text.split ',' text.toList).map fun part => Text.lower (Text.trim part))))
      ∧ (d.setNamesText text = (.ok (), after) →
        d.Rewritten text (fun tensor => (tensor.type, tensor.shape)) after
          ∧ after.namesText = String.ofList (Text.join [',']
            ((Text.split ',' text.toList).map Text.trim))) := by
  refine ⟨fun taken => ?_, fun taken => ?_, fun taken => ?_⟩
  · have shaped := shaped_of_taken taken
    obtain ⟨shapes, read, -, rfl⟩ := setDimensionsText_eq_ok_iff.1 taken
    exact ⟨rewritten_withEach (fun _ _ => rfl) read.length_eq.symm,
      shaped.unchanged_by_dimensionsText, fun r rank => shaped.printed_again rank⟩
  · have printed := typesText_of_taken taken
    obtain ⟨types, read, -, -, rfl⟩ := setTypesText_eq_ok_iff.1 taken
    rw [entries, List.map_map] at printed
    exact ⟨rewritten_withEach (fun _ _ => rfl) read.length_eq.symm, printed⟩
  · have printed := namesText_of_taken taken
    obtain ⟨-, rfl⟩ := setNamesText_eq_ok_iff.1 taken
    exact ⟨rewritten_withEach (fun _ _ => rfl) (List.length_map _), printed⟩

/-- A vector without a name, and a picture. -/
def vectorAndPicture : Descriptor where
  rank := .extended
  tensors := [
    { type := .float32, shape := .ofList [10] },
    { name := some "picture", type := .uint8, shape := .ofList [3, 224, 224] }]

theorem eq_of_fst_eq_ok {edited : Edited Unit} (h : edited.1 = .ok ()) :
    edited = (.ok (), edited.2) := by
  rw [← h]

/-- Dimensions that cut the picture off, types for three tensors, and a name for the first of
two. -/
theorem vectorAndPicture_rewritten :
    (∃ after, vectorAndPicture.setDimensionsText " 2:1:1:1:+03 " = (.ok (), after)
        ∧ vectorAndPicture.Rewritten " 2:1:1:1:+03 " (fun tensor =>
          (tensor.name, tensor.type)) after
        ∧ after.dimensionsText = "2:1:1:1:3"
        ∧ after.setDimensionsText "2:1:1:1:3" = (.ok (), after))
      ∧ (∃ after, vectorAndPicture.setTypesText "INT8, Uint16 ,int64" = (.ok (), after)
        ∧ vectorAndPicture.Rewritten "INT8, Uint16 ,int64" (fun tensor =>
          (tensor.name, tensor.shape))
          after
        ∧ after.typesText = "int8,uint16,int64")
      ∧ ∃ after, vectorAndPicture.setNamesText "left ear, " = (.ok (), after)
        ∧ vectorAndPicture.Rewritten "left ear, " (fun tensor => (tensor.type, tensor.shape)) after
        ∧ after.namesText = "left ear," := by
  have dims : vectorAndPicture.setDimensionsText " 2:1:1:1:+03 " = (.ok (), _) :=
    eq_of_fst_eq_ok (by decide +kernel)
  have types : vectorAndPicture.setTypesText "INT8, Uint16 ,int64" = (.ok (), _) :=
    eq_of_fst_eq_ok (by decide +kernel)
  have names : vectorAndPicture.setNamesText "left ear, " = (.ok (), _) :=
    eq_of_fst_eq_ok (by decide +kernel)
  obtain ⟨reshaped, -⟩ := texts_rewrite_one_field vectorAndPicture
    (vectorAndPicture.setDimensionsText " 2:1:1:1:+03 ").2 " 2:1:1:1:+03 "
  obtain ⟨-, retyped, -⟩ := texts_rewrite_one_field vectorAndPicture
    (vectorAndPicture.setTypesText "INT8, Uint16 ,int64").2 "INT8, Uint16 ,int64"
  obtain ⟨-, -, renamed⟩ := texts_rewrite_one_field vectorAndPicture
    (vectorAndPicture.setNamesText "left ear, ").2 "left ear, "
  refine ⟨⟨_, dims, ?_⟩, ⟨_, types, ?_⟩, ⟨_, names, ?_⟩⟩
  · obtain ⟨rewritten, again, -⟩ := reshaped dims
    have printed : (vectorAndPicture.setDimensionsText " 2:1:1:1:+03 ").2.dimensionsText
        = "2:1:1:1:3" := by decide +kernel
    rw [printed] at again
    exact ⟨rewritten, printed, again⟩
  · obtain ⟨rewritten, printed⟩ := retyped types
    exact ⟨rewritten, printed.trans (by decide +kernel)⟩
  · obtain ⟨rewritten, printed⟩ := renamed names
    exact ⟨rewritten, printed.trans (by decide +kernel)⟩

end Descriptor

end Inference
