/-
Which texts are dimensions.

A text of dimensions has one to sixteen parts between its commas.  Each part has one extent or more
between its colons, up to the rank limit, and each extent is a numeral between one and the largest
short word.  White space may stand around a part and around an extent, and nowhere else.  These
texts are taken and no others (`Descriptor.readDimensions_iff`), and the tensors get just the
extents that are spelled, with ones behind them.
-/
import Mathlib.Data.Set.List
import Inference.Proofs.Tensor.TakenText
import Inference.Proofs.Text.Spelling

namespace Inference.Descriptor

/-! ### How dimensions are spelled -/

/-- How an extent is spelled. -/
def SpellsExtent (text : List Char) (extent : Nat) : Prop :=
  ∃ core, Text.Core text core ∧ Text.Numeral core extent ∧ 1 ≤ extent ∧ extent ≤ 2 ^ 32 - 1

/-- How the extents of a tensor are spelled. -/
def SpellsExtents (rank : RankClass) (text : List Char) (extents : List Nat) : Prop :=
  ∃ core parts, Text.Core text core ∧ Text.Parts ':' core parts
    ∧ (1 ≤ parts.length ∧ parts.length ≤ rank.limit) ∧ List.Forall₂ SpellsExtent parts extents

/-- How the extents of all tensors are spelled. -/
def SpellsDimensions (rank : RankClass) (text : List Char) (shapes : List (List Nat)) : Prop :=
  ∃ parts, Text.Parts ',' text parts ∧ (1 ≤ parts.length ∧ parts.length ≤ 16)
    ∧ List.Forall₂ (SpellsExtents rank) parts shapes

/-! ### Reading what is spelled -/

/-- The extents as numbers. -/
def numbers (extents : List UInt32) : List Nat := extents.map UInt32.toNat

theorem readExtent?_eq_some_iff {text : List Char} {extent : UInt32} :
    readExtent? text = some extent ↔ SpellsExtent text extent.toNat := by
  constructor
  · intro read
    unfold readExtent? at read
    split at read
    · rename_i value spelled
      obtain ⟨numeral, below⟩ := Text.readBelow?_eq_some_iff.1 spelled
      split at read
      · cases read
      · rename_i nonzero
        cases read
        rw [UInt32.toNat_ofNat_of_lt' below]
        have word : value < 2 ^ 32 := below
        exact ⟨_, Text.trim_eq_iff.1 rfl, numeral, Nat.pos_of_ne_zero nonzero, by omega⟩
    · cases read
  · rintro ⟨core, trimmed, numeral, positive, -⟩
    have spelled : Text.readBelow? shortWordLimit core = some extent.toNat :=
      Text.readBelow?_eq_some_iff.2 ⟨numeral, extent.toNat_lt⟩
    have nonzero : extent.toNat ≠ 0 := Nat.ne_of_gt positive
    rw [readExtent?, trimmed.trim_eq]
    simp only [spelled, if_neg nonzero, UInt32.ofNat_toNat]

/-- An extent of a tensor, or the complaint about it. -/
def readPart (text part : List Char) : Except Fault UInt32 :=
  match readExtent? part with
  | some extent => .ok extent
  | none => .error (.invalidParameter ("invalid dimension " ++ quoted part ++ " in "
      ++ quoted text))

theorem readPart_eq_ok_iff {text part : List Char} {extent : UInt32} :
    readPart text part = .ok extent ↔ SpellsExtent part extent.toNat := by
  rw [← readExtent?_eq_some_iff, readPart]
  cases readExtent? part <;> simp

theorem readExtents_eq_ok_iff {rank : RankClass} {text : List Char} {extents : List UInt32} :
    readExtents rank text = .ok extents
      ↔ List.Forall₂ SpellsExtent (Text.split ':' text) (numbers extents)
        ∧ extents.length ≤ rank.limit := by
  have parts : (Text.split ':' text).mapM (readPart text) = .ok extents
      ↔ List.Forall₂ SpellsExtent (Text.split ':' text) (numbers extents) := by
    rw [mapM_eq_ok_iff, numbers, List.forall₂_map_right_iff]
    simp only [readPart_eq_ok_iff]
  have counted : readExtents rank text
    = (Text.split ':' text).mapM (readPart text) >>= fun extents =>
      if extents.length > rank.limit then
        .error (.invalidParameter (quoted text ++ " has rank " ++ Text.showNat extents.length
          ++ ", the limit is " ++ Text.showNat rank.limit))
      else .ok extents := rfl
  rw [counted, ← parts]
  cases (Text.split ':' text).mapM (readPart text) with
  | error fault => exact ⟨nofun, nofun⟩
  | ok extents' =>
      simp only [bind, Except.bind]
      split
      · rename_i long
        refine ⟨nofun, ?_⟩
        rintro ⟨⟨⟩, short⟩
        exact absurd short (Nat.not_le.2 long)
      · rename_i short
        constructor
        · rintro ⟨⟩
          exact ⟨rfl, Nat.not_lt.1 short⟩
        · rintro ⟨⟨⟩, -⟩
          rfl

theorem readExtents_trim_eq_ok_iff {rank : RankClass} {part : List Char} {extents : List UInt32} :
    readExtents rank (Text.trim part) = .ok extents
      ↔ SpellsExtents rank part (numbers extents) := by
  rw [readExtents_eq_ok_iff]
  have length : (numbers extents).length = extents.length := List.length_map _
  constructor
  · rintro ⟨spelled, short⟩
    have count := spelled.length_eq
    have some := List.length_pos_iff.2 (Text.split_ne_nil ':' (Text.trim part))
    exact ⟨_, _, Text.trim_eq_iff.1 rfl, Text.parts_split ':' _, ⟨some, by omega⟩, spelled⟩
  · rintro ⟨core, parts, trimmed, cut, ⟨-, short⟩, spelled⟩
    have count := spelled.length_eq
    rw [trimmed.trim_eq, Text.split_eq_iff.2 cut]
    exact ⟨spelled, by omega⟩

/-- All entries are read, and there are not too many of them, if they spell dimensions. -/
theorem readDimensions_iff {rank : RankClass} {text : List Char} {shapes : List (List UInt32)} :
    List.Forall₂ (fun entry extents => readExtents rank entry = .ok extents) (entries text) shapes
        ∧ shapes.length ≤ tensorLimit
      ↔ SpellsDimensions rank text (shapes.map numbers) := by
  have parts : List.Forall₂ (fun entry extents => readExtents rank entry = .ok extents)
        (entries text) shapes
      ↔ List.Forall₂ (SpellsExtents rank) (Text.split ',' text) (shapes.map numbers) := by
    rw [entries, List.forall₂_map_left_iff, List.forall₂_map_right_iff]
    simp only [readExtents_trim_eq_ok_iff]
  rw [parts]
  constructor
  · rintro ⟨spelled, few⟩
    have count := spelled.length_eq
    rw [List.length_map] at count
    have some := List.length_pos_iff.2 (Text.split_ne_nil ',' text)
    exact ⟨_, Text.parts_split ',' text, ⟨some, count ▸ few⟩, spelled⟩
  · rintro ⟨parts, cut, ⟨-, few⟩, spelled⟩
    have count := spelled.length_eq
    rw [List.length_map] at count
    rw [Text.split_eq_iff.2 cut]
    exact ⟨spelled, count ▸ few⟩

/-! ### Words -/

theorem forall_mem_of_forall₂ {α β : Type} {R : α → β → Prop} {P : β → Prop} {xs : List α}
    {ys : List β} (pairs : List.Forall₂ R xs ys) (each : ∀ x y, R x y → P y) : ∀ y ∈ ys, P y := by
  induction pairs with
  | nil => exact nofun
  | cons first _ ih => exact List.forall_mem_cons.2 ⟨each _ _ first, ih⟩

theorem SpellsDimensions.exists_words {rank : RankClass} {text : List Char}
    {shapes : List (List Nat)} (h : SpellsDimensions rank text shapes) :
    ∃ words : List (List UInt32), words.map numbers = shapes := by
  obtain ⟨parts, -, -, spelled⟩ := h
  have word {part : List Char} {extent : Nat} (spelled : SpellsExtent part extent) :
      extent ∈ Set.range UInt32.toNat := by
    obtain ⟨_, -, -, -, high⟩ := spelled
    have fits : extent < 2 ^ 32 := by omega
    exact ⟨UInt32.ofNat extent, UInt32.toNat_ofNat_of_lt' fits⟩
  have words {part : List Char} {extents : List Nat} (spelled : SpellsExtents rank part extents) :
      extents ∈ Set.range numbers := by
    obtain ⟨_, _, -, -, -, spelled⟩ := spelled
    show extents ∈ Set.range (List.map UInt32.toNat)
    rw [Set.range_list_map]
    exact forall_mem_of_forall₂ spelled fun _ _ => word
  show shapes ∈ Set.range (List.map numbers)
  rw [Set.range_list_map]
  exact forall_mem_of_forall₂ spelled fun _ _ => words

/-! ### Dimensions -/

/-- The extents of a shape that is given some of its axes are those, and ones behind them. -/
theorem numbers_ofList {extents : List UInt32} (few : extents.length ≤ axisCount) :
    numbers (Shape.ofList extents).axes
      = numbers extents ++ List.replicate (16 - (numbers extents).length) 1 := by
  rw [Shape.axes_ofList few, numbers, numbers, List.map_append, List.map_replicate, List.length_map]
  rfl

/-- The dimensions that are taken are those that are spelled as they should be, and every tensor has
the extents that are spelled for it, followed by ones. -/
theorem dimensions_taken_iff_spelled (d : Descriptor) (text : String) :
    ((∃ after, d.setDimensionsText text = (.ok (), after))
        ↔ ∃ shapes, SpellsDimensions d.rank text.toList shapes)
      ∧ ∀ shapes, SpellsDimensions d.rank text.toList shapes →
        ∃ after, d.setDimensionsText text = (.ok (), after) ∧ after.count = shapes.length
          ∧ after.tensors.map (fun tensor => numbers tensor.shape.axes)
            = shapes.map fun extents => extents ++ List.replicate (16 - extents.length) 1 := by
  have taken : ∀ shapes, SpellsDimensions d.rank text.toList shapes →
      ∃ after, d.setDimensionsText text = (.ok (), after) ∧ after.count = shapes.length
        ∧ after.tensors.map (fun tensor => numbers tensor.shape.axes)
          = shapes.map fun extents => extents ++ List.replicate (16 - extents.length) 1 := by
    intro shapes spelled
    obtain ⟨words, rfl⟩ := spelled.exists_words
    obtain ⟨read, few⟩ := readDimensions_iff.2 spelled
    refine ⟨_, setDimensionsText_eq_ok_iff.2 ⟨words, read, few, rfl⟩, ?_, ?_⟩
    · rw [count_withEach, List.length_map]
    · have short : ∀ extents ∈ words, extents.length ≤ axisCount := fun extents member => by
        obtain ⟨entry, -, made⟩ := exists_of_mapM_eq_ok (mapM_eq_ok_iff.2 read) member
        exact Nat.le_trans (length_le_of_readExtents made) d.rank.limit_le
      have each : (withEach reshape words d).tensors.map (fun tensor => numbers tensor.shape.axes)
          = words.map fun extents => numbers (Shape.ofList extents).axes :=
        map_withEach fun _ _ => rfl
      rw [each, List.map_map]
      exact List.map_congr_left fun extents member => numbers_ofList (short extents member)
  refine ⟨⟨?_, ?_⟩, taken⟩
  · rintro ⟨after, set⟩
    obtain ⟨words, read, few, -⟩ := setDimensionsText_eq_ok_iff.1 set
    exact ⟨_, readDimensions_iff.1 ⟨read, few⟩⟩
  · rintro ⟨shapes, spelled⟩
    obtain ⟨after, set, -⟩ := taken shapes spelled
    exact ⟨after, set⟩

/-- Signs, leading zeros and white space of any kind do not matter. -/
theorem padded_dimensions_taken : ∃ after,
    fourBytes.setDimensionsText " 3 : +224:0224\t,\u00a05" = (.ok (), after) ∧ after.count = 2
      ∧ after.tensors.map (fun tensor => numbers tensor.shape.axes)
        = [[3, 224, 224] ++ List.replicate 13 1, [5] ++ List.replicate 15 1] := by
  have extent {text : List Char} (digits : List Char) (value : Nat)
      (spelled : Text.trim text = digits ∨ Text.trim text = '+' :: digits)
      (ascii : digits ≠ [] ∧ digits.all Text.isDigit = true)
      (valued : Text.valueOf digits = value ∧ 1 ≤ value ∧ value ≤ 2 ^ 32 - 1) :
      SpellsExtent text value := by
    obtain ⟨rfl, bounds⟩ := valued
    have all := List.all_eq_true.1 ascii.2
    rcases spelled with plain | signed
    · exact ⟨digits, Text.trim_eq_iff.1 plain, .plain ascii.1 all, bounds⟩
    · exact ⟨'+' :: digits, Text.trim_eq_iff.1 signed, .signed ascii.1 all, bounds⟩
  have spelled : SpellsDimensions .standard " 3 : +224:0224\t,\u00a05".toList
      [[3, 224, 224], [5]] := by
    refine ⟨_, Text.parts_split ',' _, by decide, .cons ?_ (.cons ?_ .nil)⟩
    · refine ⟨_, _, Text.trim_eq_iff.1 rfl, Text.parts_split ':' _, by decide, ?_⟩
      exact .cons (extent ['3'] 3 (.inl rfl) (by decide) (by decide))
        (.cons (extent ['2', '2', '4'] 224 (.inr rfl) (by decide) (by decide))
        (.cons (extent ['0', '2', '2', '4'] 224 (.inl rfl) (by decide) (by decide)) .nil))
    · refine ⟨_, _, Text.trim_eq_iff.1 rfl, Text.parts_split ':' _, by decide, ?_⟩
      exact .cons (extent ['5'] 5 (.inl rfl) (by decide) (by decide)) .nil
  obtain ⟨-, taken⟩ := dimensions_taken_iff_spelled fourBytes " 3 : +224:0224\t,\u00a05"
  exact taken _ spelled

end Inference.Descriptor
