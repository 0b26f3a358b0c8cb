/-
Descriptors that are read back from their text.

A usable descriptor is printed without its trailing ones, as far as they are left out, and reading
puts just those ones back: the axes beyond those in use are ones in any case.  So the dimensions
and the types that a usable descriptor prints make any descriptor of its rank class the same, up to
the names, whatever was in it before (`Descriptor.unnamed_of_texts`).
-/
import Mathlib.Data.List.Forall2
import Inference.Proofs.Tensor.Naming
import Inference.Proofs.Text.Reading

namespace Inference

/-- A traversal gives what each of the things on its way is made into. -/
theorem mapM_eq_ok_iff {α β : Type} {f : α → Except Fault β} {xs : List α} {ys : List β} :
    xs.mapM f = .ok ys ↔ List.Forall₂ (fun x y => f x = .ok y) xs ys := by
  induction xs generalizing ys with
  | nil =>
      rw [List.forall₂_nil_left_iff]
      exact ⟨by rintro ⟨⟩; rfl, by rintro rfl; rfl⟩
  | cons x rest ih =>
      rw [List.forall₂_cons_left_iff, List.mapM_cons]
      cases first : f x with
      | error fault => exact ⟨nofun, nofun⟩
      | ok y =>
          cases others : rest.mapM f with
          | error fault =>
              refine ⟨nofun, ?_⟩
              rintro ⟨_, ys', -, made, -⟩
              cases others.symm.trans (ih.2 made)
          | ok ys' =>
              constructor
              · rintro ⟨⟩
                exact ⟨y, ys', rfl, ih.1 others, rfl⟩
              · rintro ⟨_, _, ⟨⟩, made, rfl⟩
                cases others.symm.trans (ih.2 made)
                rfl

/-! ### Shapes -/

theorem Shape.axes_ofList {extents : List UInt32} (few : extents.length ≤ axisCount) :
    (ofList extents).axes = extents ++ List.replicate (axisCount - extents.length) 1 := by
  show (extents ++ List.replicate axisCount 1).take axisCount = _
  rw [List.take_append, List.take_of_length_le few, List.take_replicate,
    Nat.min_eq_left (Nat.sub_le _ _)]

theorem Shape.ones_ofList {extents : List UInt32} {rank : RankClass}
    (few : extents.length ≤ rank.limit) : ∀ axis ∈ (ofList extents).unused rank, axis = 1 := by
  intro axis member
  rw [unused, axes_ofList (Nat.le_trans few rank.limit_le), List.drop_append,
    List.drop_of_length_le few, List.nil_append] at member
  exact List.eq_of_mem_replicate (List.mem_of_mem_drop member)

/-- A shape is told by its axes up to the last that is not one. -/
theorem Shape.ofList_of_axes {shape : Shape} {extents : List UInt32} (ones : Nat)
    (h : shape.axes = extents ++ List.replicate ones 1) : ofList extents = shape := by
  obtain ⟨axes, length⟩ := shape
  subst h
  rw [List.length_append, List.length_replicate] at length
  have few : extents.length ≤ axisCount := by omega
  rw [Shape.mk.injEq, axes_ofList few, ← length, Nat.add_sub_cancel_left]

theorem Shape.used_ne_nil (shape : Shape) (rank : RankClass) : shape.used rank ≠ [] := by
  refine List.length_pos_iff.1 ?_
  rw [used, List.length_take, shape.length_axes]
  cases rank <;> decide

namespace Descriptor

/-- What stands behind the last axis that is not one can be told from its number. -/
theorem eq_take_append_ones {axes : List UInt32} {shown : Nat}
    (h : (axes.reverse.dropWhile (· == 1)).length ≤ shown) :
    ∃ ones, axes = axes.take shown ++ List.replicate ones 1 := by
  have cut : axes = (axes.reverse.dropWhile (· == 1)).reverse
      ++ (axes.reverse.takeWhile (· == 1)).reverse := by
    rw [← List.reverse_append, List.takeWhile_append_dropWhile, List.reverse_reverse]
  have ones : ∀ axis ∈ axes.drop shown, axis = 1 := by
    intro axis dropped
    rw [cut, List.drop_append, List.drop_eq_nil_of_le (by simpa using h), List.nil_append]
      at dropped
    have last := List.mem_reverse.1 (List.mem_of_mem_drop dropped)
    exact eq_of_beq (List.all_eq_true.1 List.all_takeWhile axis last)
  refine ⟨(axes.drop shown).length, ?_⟩
  rw [← List.eq_replicate_of_mem ones, List.take_append_drop]

theorem eq_shownAxes_append (axes : List UInt32) :
    ∃ ones, axes = shownAxes axes ++ List.replicate ones 1 :=
  eq_take_append_ones (Nat.le_trans (Nat.le_max_left _ 1) (Nat.le_max_left _ _))

theorem length_shownAxes_le (axes : List UInt32) : (shownAxes axes).length ≤ axes.length :=
  List.length_take_le' _ _

theorem mem_of_mem_shownAxes {axes : List UInt32} {axis : UInt32} (h : axis ∈ shownAxes axes) :
    axis ∈ axes := List.mem_of_mem_take h

/-- At least one axis is shown. -/
theorem shownAxes_ne_nil {axes : List UInt32} (some : axes ≠ []) : shownAxes axes ≠ [] := by
  have pos := List.length_pos_iff.2 some
  refine List.length_pos_iff.1 ?_
  rw [shownAxes, List.length_take]
  omega

end Descriptor

/-- A tensor breaks no rule if its type is set, no axis is zero, those not in use are one, and its
size fits. -/
theorem Tensor.defect?_eq_none_iff {tensor : Tensor} {rank : RankClass} :
    tensor.defect? rank = none ↔ tensor.type.isSet = true
      ∧ (∀ axis ∈ tensor.shape.axes, axis ≠ 0) ∧ (∀ axis ∈ tensor.shape.unused rank, axis = 1)
      ∧ (tensor.size? rank).isSome = true := by
  have nonzero : (∀ axis ∈ tensor.shape.axes, axis ≠ 0)
      ↔ tensor.shape.axes.findIdx? (· == 0) = none := by
    simp [List.findIdx?_eq_none_iff]
  have ones : (∀ axis ∈ tensor.shape.unused rank, axis = 1)
      ↔ (tensor.shape.unused rank).findIdx? (· != 1) = none := by
    simp [List.findIdx?_eq_none_iff]
  rw [nonzero, ones]
  unfold defect?
  cases tensor.type.isSet with
  | false => simp
  | true =>
      cases tensor.shape.axes.findIdx? (· == 0) with
      | some axis => simp
      | none =>
          cases (tensor.shape.unused rank).findIdx? (· != 1) with
          | some axis => simp
          | none => simp [Option.isSome_iff_ne_none]

theorem Tensor.sound_of_defect? {tensor : Tensor} {rank : RankClass}
    (h : tensor.defect? rank = none) :
    tensor.type.isSet = true ∧ (∀ axis ∈ tensor.shape.axes, axis ≠ 0)
      ∧ ∀ axis ∈ tensor.shape.unused rank, axis = 1 := by
  obtain ⟨isSet, nonzero, ones, -⟩ := defect?_eq_none_iff.1 h
  exact ⟨isSet, nonzero, ones⟩

/-- The shape has been set: no axis is zero, and those not in use are one. -/
structure Shape.Given (shape : Shape) (rank : RankClass) : Prop where
  nonzero : ∀ axis ∈ shape.axes, axis ≠ 0
  ones : ∀ axis ∈ shape.unused rank, axis = 1

/-- The axes that are shown of a shape tell all of it. -/
theorem Shape.Given.ofList_shown {shape : Shape} {rank : RankClass} (given : shape.Given rank) :
    ofList (Descriptor.shownAxes (shape.used rank)) = shape := by
  obtain ⟨ones, used⟩ := Descriptor.eq_shownAxes_append (shape.used rank)
  refine ofList_of_axes (ones + (shape.unused rank).length) ?_
  rw [← List.replicate_append_replicate, ← List.append_assoc, ← used,
    ← List.eq_replicate_of_mem given.ones]
  exact (List.take_append_drop rank.limit shape.axes).symm

namespace Descriptor

/-! ### Entries -/

theorem mapM_map_eq_ok {α β : Type} {write : α → List Char} {read : List Char → Except Fault β}
    (made : α → β) {xs : List α} (h : ∀ x ∈ xs, read (write x) = .ok (made x)) :
    (xs.map write).mapM read = .ok (xs.map made) := by
  rw [mapM_eq_ok_iff, List.forall₂_map_left_iff, List.forall₂_map_right_iff, List.forall₂_same]
  exact h

/-- Texts that a list can be made of: they have no comma in them and no white space. -/
def Plain (text : List Char) : Prop := ∀ c ∈ text, c ≠ ',' ∧ Text.isBlank c = false

theorem entries_join {texts : List (List Char)} (some : texts ≠ [])
    (plain : ∀ text ∈ texts, Plain text) : entries (Text.join [','] texts) = texts := by
  have uncut : ∀ text ∈ texts, ',' ∉ text := fun text member comma =>
    (plain text member ',' comma).1 rfl
  rw [entries, Text.split_join some uncut]
  have trimmed : ∀ text ∈ texts, Text.trim text = text := fun text member =>
    Text.trim_of_unblank fun c inside => (plain text member c inside).2
  rw [List.map_congr_left trimmed]
  exact List.map_id texts

/-! ### Extents -/

theorem plain_decimal (n : Nat) : Plain (Text.decimal n) := by
  intro c member
  have isDigit := Text.isDigit_of_mem_decimal member
  refine ⟨?_, Text.isBlank_of_isDigit isDigit⟩
  rintro rfl
  cases isDigit

theorem plain_showExtents (axes : List UInt32) : Plain (showExtents axes) := by
  intro c member
  rcases Text.mem_of_mem_join member with colon | ⟨text, shown, inside⟩
  · rw [List.mem_singleton.1 colon]
    decide
  · obtain ⟨axis, -, rfl⟩ := List.mem_map.1 shown
    exact plain_decimal axis.toNat c inside

theorem readExtent?_decimal {axis : UInt32} (h : axis ≠ 0) :
    readExtent? (Text.decimal axis.toNat) = some axis := by
  have read : Text.readBelow? shortWordLimit (Text.decimal axis.toNat) = some axis.toNat :=
    Text.readBelow?_decimal axis.toNat_lt
  have nonzero : axis.toNat ≠ 0 := fun zero => h (UInt32.toNat_inj.1 zero)
  unfold readExtent?
  rw [Text.trim_of_unblank fun c member => (plain_decimal _ c member).2, read]
  simp only [if_neg nonzero, UInt32.ofNat_toNat]

/-- The axes that were shown are read back. -/
theorem readExtents_showExtents {rank : RankClass} {axes : List UInt32} (some : axes ≠ [])
    (few : axes.length ≤ rank.limit) (nonzero : ∀ axis ∈ axes, axis ≠ 0) :
    readExtents rank (showExtents axes) = .ok (shownAxes axes) := by
  have uncut : ∀ text ∈ (shownAxes axes).map fun axis => Text.decimal axis.toNat, ':' ∉ text := by
    intro text member colon
    obtain ⟨axis, -, rfl⟩ := List.mem_map.1 member
    cases Text.isDigit_of_mem_decimal colon
  have shown : ((shownAxes axes).map fun axis => Text.decimal axis.toNat) ≠ [] := by
    simpa using shownAxes_ne_nil some
  have short : ¬ (shownAxes axes).length > rank.limit :=
    Nat.not_lt.2 (Nat.le_trans (length_shownAxes_le axes) few)
  unfold readExtents
  rw [showExtents, Text.split_join shown uncut, mapM_map_eq_ok fun axis => axis]
  · rw [List.map_id']
    simp only [bind, Except.bind, if_neg short]
  · intro axis member
    rw [readExtent?_decimal (nonzero axis (mem_of_mem_shownAxes member))]

/-! ### Types -/

/-- Every type goes by its printed name. -/
theorem readType_name (type : ElementType) : readType type.name.toList = .ok type := by
  cases type <;> rfl

theorem plain_name (type : ElementType) : Plain type.name.toList := by
  have checked : (type.name.toList.all fun c => c != ',' && !Text.isBlank c) = true := by
    cases type <;> rfl
  intro c member
  simpa using List.all_eq_true.1 checked c member

/-! ### Descriptors -/

/-- The descriptor with these shapes for its tensors, one after another. -/
def withShapes (d : Descriptor) (shapes : List Shape) : Descriptor :=
  { d with tensors := List.zipWith (fun tensor shape => { tensor with shape }) d.tensors shapes }

/-- The descriptor with these types for its tensors, one after another. -/
def withTypes (d : Descriptor) (types : List ElementType) : Descriptor :=
  { d with tensors := List.zipWith (fun tensor type => { tensor with type }) d.tensors types }

variable {d r : Descriptor}

/-- Values that are all accepted are written one into each tensor. -/
theorem writeAll_eq {α : Type} (write : Descriptor → Nat → α → Edited Unit)
    (change : Tensor → α → Tensor) {values : List α}
    (counted : 0 < values.length ∧ values.length ≤ tensorLimit)
    (writes : ∀ value ∈ values, ∀ (d : Descriptor) (index : Nat), d.rank = r.rank →
      write d index value = d.editAt index fun tensor => change tensor value) :
    writeAll write values r = (.ok (), { r with
      tensors := List.zipWith change (r.resize values.length).tensors values }) := by
  have resized : r.setCount values.length = (.ok (), r.resize values.length) := if_neg (by omega)
  rw [writeAll, resized]
  exact writeFrom_eq [] (count_resize r _).symm writes

/-- The shapes of all tensors have been set, and there are some tensors but not too many. -/
structure Shaped (d : Descriptor) : Prop where
  some : d.tensors ≠ []
  few : d.count ≤ tensorLimit
  given : ∀ tensor ∈ d.tensors, tensor.shape.Given d.rank

theorem shaped_of_valid (valid : d.validate = .ok ()) : d.Shaped := by
  obtain ⟨some, few, sound, -⟩ := validate_eq_ok_iff.1 valid
  refine ⟨some, few, fun tensor member => ?_⟩
  obtain ⟨-, nonzero, ones⟩ := Tensor.sound_of_defect? (sound tensor member)
  exact ⟨nonzero, ones⟩

theorem Shaped.length_map {α : Type} (shaped : d.Shaped) (value : Tensor → α) :
    0 < (d.tensors.map value).length ∧ (d.tensors.map value).length ≤ tensorLimit := by
  rw [List.length_map]
  exact ⟨List.length_pos_iff.2 shaped.some, shaped.few⟩

theorem Shaped.read_dimensionsText (shaped : d.Shaped) :
    (entries d.dimensionsText.toList).mapM (readExtents d.rank)
      = .ok (d.tensors.map fun tensor => shownAxes (tensor.shape.used d.rank)) := by
  rw [dimensionsText, String.toList_ofList, entries_join (by simpa using shaped.some)]
  · refine mapM_map_eq_ok _ fun tensor member => ?_
    have nonzero := (shaped.given tensor member).nonzero
    exact readExtents_showExtents (tensor.shape.used_ne_nil d.rank) (List.length_take_le _ _)
      fun axis inside => nonzero axis (List.mem_of_mem_take inside)
  · intro text member
    obtain ⟨tensor, -, rfl⟩ := List.mem_map.1 member
    exact plain_showExtents _

/-- The types of a usable descriptor are read back. -/
theorem read_typesText (valid : d.validate = .ok ()) :
    (entries d.typesText.toList).mapM readType = .ok (d.tensors.map (·.type)) := by
  obtain ⟨some, -⟩ := validate_eq_ok_iff.1 valid
  rw [typesText, String.toList_ofList, entries_join (by simpa using some)]
  · exact mapM_map_eq_ok _ fun tensor _ => readType_name tensor.type
  · intro text member
    obtain ⟨tensor, -, rfl⟩ := List.mem_map.1 member
    exact plain_name _

/-- The dimensions that are printed are written over those of any descriptor of the same rank
class. -/
theorem Shaped.setDimensionsText_dimensionsText (shaped : d.Shaped) (same : r.rank = d.rank) :
    r.setDimensionsText d.dimensionsText
      = (.ok (), (r.resize d.count).withShapes (d.tensors.map (·.shape))) := by
  have short : ∀ extents ∈ d.tensors.map fun tensor => shownAxes (tensor.shape.used d.rank),
      extents.length ≤ r.rank.limit := by
    intro extents member
    obtain ⟨tensor, -, rfl⟩ := List.mem_map.1 member
    rw [same]
    exact Nat.le_trans (length_shownAxes_le _) (List.length_take_le _ _)
  have written := writeAll_eq (r := r) setExtents
    (fun tensor extents => { tensor with shape := Shape.ofList extents })
    (shaped.length_map fun tensor => shownAxes (tensor.shape.used d.rank))
    (fun extents member _ _ rank => by
      rw [setExtents, rank, if_neg (Nat.not_lt.2 (short extents member))])
  have shapes : d.tensors.map (·.shape)
      = (d.tensors.map fun tensor => shownAxes (tensor.shape.used d.rank)).map Shape.ofList := by
    rw [List.map_map]
    exact List.map_congr_left fun tensor member => (shaped.given tensor member).ofList_shown.symm
  unfold setDimensionsText
  rw [same, shaped.read_dimensionsText]
  simp only [written, withShapes, shapes, List.zipWith_map_right, List.length_map]
  rfl

/-- Its types are written over those of any descriptor. -/
theorem setTypesText_typesText (valid : d.validate = .ok ()) :
    r.setTypesText d.typesText
      = (.ok (), (r.resize d.count).withTypes (d.tensors.map (·.type))) := by
  obtain ⟨-, -, sound, -⟩ := validate_eq_ok_iff.1 valid
  have isSet : ∀ type ∈ d.tensors.map (·.type), type.isSet = true := by
    intro type member
    obtain ⟨tensor, inside, rfl⟩ := List.mem_map.1 member
    exact (Tensor.sound_of_defect? (sound tensor inside)).1
  have written := writeAll_eq (r := r) setType (fun tensor type => { tensor with type })
    ((shaped_of_valid valid).length_map (·.type))
    (fun type member _ _ _ => by rw [setType, if_pos (isSet type member)])
  unfold setTypesText
  rw [read_typesText valid]
  simp only [written, withTypes, List.length_map]
  rfl

theorem agrees_of_unnamed {a b : Descriptor} (h : a.unnamed = b.unnamed) : a.agrees b = true := by
  rw [agrees_iff, ← form_unnamed a, h, form_unnamed]

theorem map_unnamed_of_written {before tensors : List Tensor} (h : before.length = tensors.length) :
    (List.zipWith (fun tensor type => { tensor with type })
      (List.zipWith (fun tensor shape => { tensor with shape }) before (tensors.map (·.shape)))
      (tensors.map (·.type))).map Tensor.unnamed = tensors.map Tensor.unnamed := by
  induction tensors generalizing before with
  | nil =>
      cases List.eq_nil_of_length_eq_zero h
      rfl
  | cons tensor rest ih =>
      cases before with
      | nil => cases h
      | cons first before =>
          simp only [List.map_cons, List.zipWith_cons_cons, ih (Nat.succ.inj h)]
          rfl

/-- A descriptor into which dimensions and types are read, one after the other, is the same as that
which printed them, up to the names. -/
theorem unnamed_of_texts (valid : d.validate = .ok ()) (same : r.rank = d.rank) :
    ∃ shaped typed, r.setDimensionsText d.dimensionsText = (.ok (), shaped)
      ∧ shaped.setTypesText d.typesText = (.ok (), typed) ∧ shaped.count = d.count
      ∧ typed.unnamed = d.unnamed := by
  have count : ((r.resize d.count).withShapes (d.tensors.map (·.shape))).count = d.count := by
    rw [Descriptor.count, withShapes, List.length_zipWith, List.length_map]
    exact (congrArg (min · d.tensors.length) (count_resize r d.count)).trans (Nat.min_self _)
  refine ⟨_, _, (shaped_of_valid valid).setDimensionsText_dimensionsText same,
    setTypesText_typesText valid, count, ?_⟩
  have kept {a : Descriptor} (counted : a.count = d.count) : a.resize d.count = a := by
    rw [← counted, resize_count]
  rw [kept count]
  unfold unnamed
  rw [Descriptor.mk.injEq]
  exact ⟨same, map_unnamed_of_written (count_resize r d.count)⟩

end Descriptor

end Inference
