/-
Texts in normal form.

A text that is taken can be spelled in many ways and is printed in one.  Types are printed in lower
case.  Extents are printed as decimals: ones at the end are left out, and if fewer than four are
left there are as many ones as it takes (`Descriptor.dimensionsText_of_taken`).  That is the same
for both rank classes.

If the descriptor that is left can be used, the text has not added any tensors, since those would
not be set completely.  All that the text does not speak of is then what it was on the tensors that
stay (`Descriptor.kept_by_dimensions`, `Descriptor.kept_by_types`).
-/
import Inference.Proofs.Tensor.Rewriting

namespace Inference.Descriptor

variable {d after : Descriptor} {text : String}

/-! ### Extents -/

/-- The extents that are printed. -/
def normalExtents (extents : List Nat) : List Nat :=
  let needed := (extents.reverse.dropWhile (· == 1)).length
  extents.take needed ++ List.replicate (4 - needed) 1

/-- The dimensions that are printed. -/
def normalDimensions (shapes : List (List Nat)) : String :=
  String.ofList (Text.join [','] (shapes.map fun extents =>
    Text.join [':'] ((normalExtents extents).map Text.decimal)))

/-- How many extents are needed does not depend on the ones at the end. -/
theorem needed_append_ones (extents : List UInt32) (ones : Nat) :
    ((extents ++ List.replicate ones 1).reverse.dropWhile (· == 1)).length
      = (extents.reverse.dropWhile (· == 1)).length := by
  have blank : ∀ axis ∈ List.replicate ones (1 : UInt32), (axis == 1) = true := fun axis member =>
    beq_iff_eq.2 (List.eq_of_mem_replicate member)
  rw [List.reverse_append, List.reverse_replicate, List.dropWhile_append_of_pos blank]

theorem needed_numbers (extents : List UInt32) :
    ((numbers extents).reverse.dropWhile (· == 1)).length
      = (extents.reverse.dropWhile (· == 1)).length := by
  have same : ((fun extent => extent == 1) ∘ UInt32.toNat) = fun axis : UInt32 => axis == 1 := by
    funext axis
    show (axis.toNat == (1 : UInt32).toNat) = (axis == 1)
    rw [Bool.eq_iff_iff, beq_iff_eq, beq_iff_eq, UInt32.toNat_inj]
  rw [numbers, ← List.map_reverse, List.dropWhile_map, List.length_map, same]

theorem used_ofList {rank : RankClass} {extents : List UInt32} (few : extents.length ≤ rank.limit) :
    (Shape.ofList extents).used rank
      = extents ++ List.replicate (rank.limit - extents.length) 1 := by
  have enough := rank.limit_le
  rw [Shape.used, Shape.axes_ofList (Nat.le_trans few enough), List.take_append,
    List.take_of_length_le few, List.take_replicate,
    Nat.min_eq_left (Nat.sub_le_sub_right enough extents.length)]

theorem shownAxes_ofList {rank : RankClass} {extents : List UInt32}
    (few : extents.length ≤ rank.limit) :
    (shownAxes ((Shape.ofList extents).used rank)).map UInt32.toNat
      = normalExtents (numbers extents) := by
  have four : 4 ≤ rank.limit := by cases rank <;> decide
  let needed := (extents.reverse.dropWhile (· == 1)).length
  have within : needed ≤ extents.length := by
    exact Nat.le_trans (List.dropWhile_sublist _).length_le (Nat.le_of_eq List.length_reverse)
  -- The extents themselves may end in ones, which are then no different from those behind them.
  obtain ⟨ones, cut⟩ : ∃ ones, extents = extents.take needed ++ List.replicate ones 1 :=
    eq_take_append_ones (Nat.le_refl needed)
  have front : (extents.take needed).length = needed := List.length_take_of_le within
  have count : ones + (rank.limit - extents.length) = rank.limit - needed := by
    have length := congrArg List.length cut
    rw [List.length_append, front, List.length_replicate] at length
    omega
  have whole : (Shape.ofList extents).used rank
      = extents.take needed ++ List.replicate (rank.limit - needed) 1 := by
    rw [used_ofList few]
    nth_rewrite 1 [cut]
    rw [List.append_assoc, List.replicate_append_replicate, count]
  have shown : shownAxes ((Shape.ofList extents).used rank)
      = extents.take needed ++ List.replicate (4 - needed) 1 := by
    have length : ((Shape.ofList extents).used rank).length = rank.limit := by
      rw [whole, List.length_append, front, List.length_replicate]
      omega
    have last : (((Shape.ofList extents).used rank).reverse.dropWhile (· == 1)).length
      = needed := by
      rw [used_ofList few, needed_append_ones]
    have standard : RankClass.standard.limit = 4 := rfl
    have bound : max (max needed 1) (min rank.limit 4) = needed + (4 - needed) := by omega
    have fits : min (4 - needed) (rank.limit - needed) = 4 - needed := by omega
    rw [shownAxes, last, length, standard, bound, whole, List.take_append, front,
      List.take_of_length_le (by omega), Nat.add_sub_cancel_left, List.take_replicate, fits]
  rw [shown, List.map_append, List.map_take, List.map_replicate, normalExtents, needed_numbers]
  rfl

/-! ### What is printed -/

/-- Dimensions that are taken are printed in normal form. -/
theorem dimensionsText_of_taken (taken : d.setDimensionsText text = (.ok (), after)) :
    ∃ shapes, SpellsDimensions d.rank text.toList shapes ∧ after.count = shapes.length
      ∧ after.dimensionsText = normalDimensions shapes := by
  obtain ⟨words, read, few, rfl⟩ := setDimensionsText_eq_ok_iff.1 taken
  refine ⟨words.map numbers, readDimensions_iff.1 ⟨read, few⟩, ?_, ?_⟩
  · rw [count_withEach, List.length_map]
  have short : ∀ extents ∈ words, extents.length ≤ d.rank.limit := fun extents member => by
    obtain ⟨entry, -, made⟩ := exists_of_mapM_eq_ok (mapM_eq_ok_iff.2 read) member
    exact length_le_of_readExtents made
  have written : (withEach reshape words d).tensors.map
        (fun tensor => showExtents (tensor.shape.used d.rank))
      = words.map fun extents => showExtents ((Shape.ofList extents).used d.rank) :=
    map_withEach fun _ _ => rfl
  rw [dimensionsText, rank_withEach, written, normalDimensions, List.map_map]
  refine congrArg (fun entries => String.ofList (Text.join [','] entries)) ?_
  refine List.map_congr_left fun extents member => ?_
  show _ = Text.join [':'] ((normalExtents (numbers extents)).map Text.decimal)
  rw [← shownAxes_ofList (short extents member), List.map_map]
  rfl

example : normalDimensions [[3, 224, 1], [1], [2, 1, 1, 1, 5, 1]]
    = "3:224:1:1,1:1:1:1,2:1:1:1:5" := by
  decide +kernel

/-! ### What is left alone -/

/-- Whatever the values say nothing about is as before. -/
theorem map_spared {α β : Type} {change : Tensor → α → Tensor} {values : List α}
    {others : Tensor → β} (spared : ∀ tensor value, others (change tensor value) = others tensor) :
    (withEach change values d).tensors.map others
      = (d.resize values.length).tensors.map others := by
  refine List.ext_getElem? fun index => ?_
  rw [List.getElem?_map, List.getElem?_map]
  by_cases inside : index < values.length
  · rw [getElem?_withEach (List.getElem?_eq_getElem inside), getElem?_resize d inside,
      Option.map_some, Option.map_some, spared]
  · have beyond {r : Descriptor} (count : r.count = values.length) : r.tensors[index]? = none :=
      List.getElem?_eq_none (by rw [← Descriptor.count, count]; exact Nat.not_lt.1 inside)
    rw [beyond count_withEach, beyond (count_resize d _)]

theorem count_le_of_valid {α : Type} {change : Tensor → α → Tensor} {values : List α}
    (unset : ∀ value, ((change {} value).defect? d.rank) ≠ none)
    (valid : (withEach change values d).validate = .ok ()) :
    (withEach change values d).count ≤ d.count := by
  rw [count_withEach]
  refine Nat.not_lt.1 fun added => ?_
  obtain ⟨-, -, sound, -⟩ := validate_eq_ok_iff.1 valid
  have there : (withEach change values d).tensors[d.count]? = some (change {} values[d.count]) := by
    rw [getElem?_withEach (List.getElem?_eq_getElem added), tensorOrUnset_of_le (Nat.le_refl _)]
  exact unset _ (sound _ (List.mem_of_getElem? there))

/-- Dimensions that leave a usable descriptor add no tensors, and change neither types nor names. -/
theorem kept_by_dimensions (taken : d.setDimensionsText text = (.ok (), after))
    (valid : after.validate = .ok ()) : after.count ≤ d.count
      ∧ after.typesText = (d.resize after.count).typesText
      ∧ after.namesText = (d.resize after.count).namesText := by
  obtain ⟨words, -, -, rfl⟩ := setDimensionsText_eq_ok_iff.1 taken
  refine ⟨count_le_of_valid (fun _ => ?_) valid, ?_, ?_⟩
  · rw [Ne, Tensor.defect?_eq_none_iff]
    rintro ⟨set, -⟩
    cases set
  · have types : (withEach reshape words d).tensors.map (fun tensor => tensor.type.name.toList)
        = (d.resize words.length).tensors.map _ := map_spared fun _ _ => rfl
    rw [typesText, types, count_withEach]
    rfl
  · have names : (withEach reshape words d).tensors.map (fun tensor => (tensor.name.getD "").toList)
        = (d.resize words.length).tensors.map _ := map_spared fun _ _ => rfl
    rw [namesText, names, count_withEach]
    rfl

/-- Types that leave a usable descriptor add no tensors, and change neither dimensions nor names. -/
theorem kept_by_types (taken : d.setTypesText text = (.ok (), after))
    (valid : after.validate = .ok ()) : after.count ≤ d.count
      ∧ after.dimensionsText = (d.resize after.count).dimensionsText
      ∧ after.namesText = (d.resize after.count).namesText := by
  obtain ⟨types, -, -, -, rfl⟩ := setTypesText_eq_ok_iff.1 taken
  refine ⟨count_le_of_valid (fun _ => ?_) valid, ?_, ?_⟩
  · rw [Ne, Tensor.defect?_eq_none_iff]
    rintro ⟨-, nonzero, -⟩
    have zero : (0 : UInt32) ∈ Shape.unset.axes := by decide
    exact nonzero 0 zero rfl
  · have shapes : (withEach retype types d).tensors.map (·.shape)
        = (d.resize types.length).tensors.map _ := map_spared fun _ _ => rfl
    rw [count_withEach]
    exact dimensionsText_of_shapes rfl shapes
  · have names : (withEach retype types d).tensors.map (fun tensor => (tensor.name.getD "").toList)
        = (d.resize types.length).tensors.map _ := map_spared fun _ _ => rfl
    rw [namesText, names, count_withEach]
    rfl

/-! ### What is written back -/

/-- Types that are read where they were printed change nothing. -/
theorem unchanged_by_typesText (valid : d.validate = .ok ()) :
    d.setTypesText d.typesText = (.ok (), d) := by
  have same : d.withTypes (d.tensors.map (·.type)) = d := by
    rw [withTypes, List.zipWith_map_right, List.zipWith_self]
    exact congrArg (Descriptor.mk d.rank) (List.map_id _)
  rw [setTypesText_typesText valid, resize_count, same]

end Inference.Descriptor
