/-
Texts that are taken.

A text that is taken gives the descriptor as many tensors as it has entries, and writes into each
of them what its entry stands for.  Nothing else of the tensors changes, and those that are added
start as tensors that are not set.  This is the same for dimensions, types and names; they differ
in how an entry is read, and in that a type may be read but not written
(`Descriptor.setDimensionsText_eq_ok_iff`, `Descriptor.setTypesText_eq_ok_iff`,
`Descriptor.setNamesText_eq_ok_iff`).
-/
import Inference.Proofs.Tensor.RefusedText

namespace Inference.Descriptor

variable {d after : Descriptor} {text : String}

/-! ### A value for each tensor -/

/-- The entry at `index`, or one that is not set if there is none. -/
def tensorOrUnset (d : Descriptor) (index : Nat) : Tensor := d.tensors[index]?.getD {}

theorem tensorOrUnset_of_getElem? {index : Nat} {tensor : Tensor}
    (found : d.tensors[index]? = some tensor) : d.tensorOrUnset index = tensor := by
  rw [tensorOrUnset, found, Option.getD_some]

theorem tensorOrUnset_of_le {index : Nat} (beyond : d.count ≤ index) :
    d.tensorOrUnset index = {} := by
  rw [tensorOrUnset, List.getElem?_eq_none beyond, Option.getD_none]

theorem getElem?_resize (d : Descriptor) {count index : Nat} (inside : index < count) :
    (d.resize count).tensors[index]? = some (d.tensorOrUnset index) := by
  unfold resize
  rcases Nat.lt_or_ge index d.count with there | beyond
  · have kept : index < (d.tensors.take count).length := by
      rw [List.length_take]
      exact Nat.lt_min.2 ⟨inside, there⟩
    have found : d.tensors[index]? = some d.tensors[index] := List.getElem?_eq_getElem there
    rw [List.getElem?_append_left kept, List.getElem?_take_of_lt inside, found,
      tensorOrUnset_of_getElem? found]
  · have whole : d.tensors.take count = d.tensors :=
      List.take_of_length_le (Nat.le_trans beyond (Nat.le_of_lt inside))
    have added : index - d.tensors.length < count - d.count := Nat.sub_lt_sub_right beyond inside
    rw [whole, List.getElem?_append_right beyond, List.getElem?_replicate, if_pos added,
      tensorOrUnset_of_le beyond]

/-- The descriptor with one value written into each of as many tensors as there are values. -/
def withEach {α : Type} (change : Tensor → α → Tensor) (values : List α) (d : Descriptor) :
    Descriptor :=
  { d with tensors := List.zipWith change (d.resize values.length).tensors values }

section withEach

variable {α β : Type} {change : Tensor → α → Tensor} {values : List α}

@[simp] theorem rank_withEach : (withEach change values d).rank = d.rank := rfl

@[simp] theorem count_withEach : (withEach change values d).count = values.length := by
  have resized := count_resize d values.length
  unfold Descriptor.count at resized
  rw [withEach, Descriptor.count, List.length_zipWith, resized, Nat.min_self]

theorem getElem?_withEach {index : Nat} {value : α} (found : values[index]? = some value) :
    (withEach change values d).tensors[index]? = some (change (d.tensorOrUnset index) value) := by
  have inside := (List.getElem?_eq_some_iff.1 found).1
  rw [withEach, List.getElem?_zipWith, getElem?_resize d inside, found]

theorem map_withEach {field : Tensor → β} {read : α → β}
    (own : ∀ tensor value, field (change tensor value) = read value) :
    (withEach change values d).tensors.map field = values.map read := by
  refine List.ext_getElem? fun index => ?_
  rw [List.getElem?_map, List.getElem?_map]
  cases found : values[index]? with
  | some value => rw [getElem?_withEach found, Option.map_some, own, Option.map_some]
  | none =>
      have beyond : (withEach change values d).tensors.length ≤ index := by
        rw [← Descriptor.count, count_withEach]
        exact List.getElem?_eq_none_iff.1 found
      rw [List.getElem?_eq_none beyond]
      rfl

/-- Values that are all accepted are written, unless there are none or too many of them. -/
theorem writeAll_eq_ok_iff {write : Descriptor → Nat → α → Edited Unit}
    (writes : ∀ value ∈ values, ∀ (r : Descriptor) (index : Nat), r.rank = d.rank →
      write r index value = r.editAt index fun tensor => change tensor value) :
    writeAll write values d = (.ok (), after)
      ↔ (0 < values.length ∧ values.length ≤ tensorLimit) ∧ after = withEach change values d := by
  by_cases counted : 0 < values.length ∧ values.length ≤ tensorLimit
  · rw [writeAll_eq write change counted writes]
    simp only [counted, true_and, Prod.mk.injEq, eq_comm (a := after)]
    rfl
  · obtain ⟨fault, refused⟩ := writeAll_uncounted (r := d) write counted
    rw [refused]
    simp [counted]

end withEach

/-! ### The three texts -/

/-- The tensor with other extents. -/
def reshape (tensor : Tensor) (extents : List UInt32) : Tensor :=
  { tensor with shape := Shape.ofList extents }

theorem length_pos_of_entries {α : Type} {R : List Char → α → Prop} {text : List Char}
    {values : List α} (read : List.Forall₂ R (entries text) values) : 0 < values.length := by
  rw [← read.length_eq, entries, List.length_map]
  exact List.length_pos_iff.2 (Text.split_ne_nil ',' text)

/-- Dimensions are taken if all entries can be read and there are not too many of them. -/
theorem setDimensionsText_eq_ok_iff : d.setDimensionsText text = (.ok (), after)
    ↔ ∃ shapes, List.Forall₂ (fun entry extents => readExtents d.rank entry = .ok extents)
        (entries text.toList) shapes
      ∧ shapes.length ≤ tensorLimit ∧ after = withEach reshape shapes d := by
  unfold setDimensionsText
  cases read : (entries text.toList).mapM (readExtents d.rank) with
  | error fault =>
      refine ⟨nofun, ?_⟩
      rintro ⟨shapes, made, -⟩
      cases read.symm.trans (mapM_eq_ok_iff.2 made)
  | ok shapes =>
      have made := mapM_eq_ok_iff.1 read
      have writes : ∀ extents ∈ shapes, ∀ (r : Descriptor) (index : Nat), r.rank = d.rank →
          r.setExtents index extents = r.editAt index fun tensor => reshape tensor extents := by
        intro extents member r index rank
        obtain ⟨entry, -, made⟩ := exists_of_mapM_eq_ok read member
        rw [setExtents, rank, if_neg (Nat.not_lt.2 (length_le_of_readExtents made))]
        rfl
      refine (writeAll_eq_ok_iff writes).trans ?_
      constructor
      · rintro ⟨⟨-, few⟩, same⟩
        exact ⟨shapes, made, few, same⟩
      · rintro ⟨shapes', made', few, same⟩
        cases read.symm.trans (mapM_eq_ok_iff.2 made')
        exact ⟨⟨length_pos_of_entries made, few⟩, same⟩

theorem refused_of_unset {types : List ElementType}
    (read : (entries text.toList).mapM readType = .ok types) (unset : .unknown ∈ types)
    (d : Descriptor) : ∃ fault after, d.setTypesText text = (.error fault, after) := by
  by_cases counted : 0 < types.length ∧ types.length ≤ tensorLimit
  · obtain ⟨before, behind, rfl, set⟩ := List.eq_append_cons_of_mem unset
    rw [List.length_append, List.length_cons] at counted
    have unsets : Unsets text before behind := ⟨read, set, by omega⟩
    exact ⟨_, _, unsets.setTypesText_eq d⟩
  · obtain ⟨fault, refused⟩ := writeAll_uncounted (r := d) setType counted
    refine ⟨fault, d, ?_⟩
    rw [setTypesText, read]
    exact refused

/-- Types are taken as dimensions are, unless one of them is `unknown`. -/
theorem setTypesText_eq_ok_iff : d.setTypesText text = (.ok (), after)
    ↔ ∃ types, List.Forall₂ (fun entry type => readType entry = .ok type)
        (entries text.toList) types
      ∧ .unknown ∉ types ∧ types.length ≤ tensorLimit ∧ after = withEach retype types d := by
  cases read : (entries text.toList).mapM readType with
  | error fault =>
      rw [setTypesText, read]
      constructor
      · rintro ⟨⟩
      · rintro ⟨types, made, -⟩
        cases read.symm.trans (mapM_eq_ok_iff.2 made)
  | ok types =>
      have made := mapM_eq_ok_iff.1 read
      by_cases unset : .unknown ∈ types
      · obtain ⟨fault, kept, refused⟩ := refused_of_unset read unset d
        rw [refused]
        constructor
        · rintro ⟨⟩
        · rintro ⟨types', made', set, -⟩
          cases read.symm.trans (mapM_eq_ok_iff.2 made')
          exact absurd unset set
      · have writes : ∀ type ∈ types, ∀ (r : Descriptor) (index : Nat), r.rank = d.rank →
            r.setType index type = r.editAt index fun tensor => retype tensor type :=
          fun type member r index _ => setType_eq (fun same => unset (same ▸ member)) r index
        rw [setTypesText, read]
        refine (writeAll_eq_ok_iff writes).trans ?_
        constructor
        · rintro ⟨⟨-, few⟩, same⟩
          exact ⟨types, made, unset, few, same⟩
        · rintro ⟨types', made', -, few, same⟩
          cases read.symm.trans (mapM_eq_ok_iff.2 made')
          exact ⟨⟨length_pos_of_entries made, few⟩, same⟩

/-- Every entry is a name or stands for none, so names are taken unless there are too many. -/
theorem setNamesText_eq_ok_iff : d.setNamesText text = (.ok (), after)
    ↔ nameCount text ≤ tensorLimit ∧ after = withEach rename (namesOf text) d := by
  refine (writeAll_eq_ok_iff fun _ _ _ _ _ => rfl).trans ?_
  exact ⟨fun ⟨⟨_, few⟩, same⟩ => ⟨few, same⟩, fun ⟨few, same⟩ => ⟨⟨nameCount_pos text, few⟩, same⟩⟩

end Inference.Descriptor
