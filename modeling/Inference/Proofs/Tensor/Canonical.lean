/-
Descriptors are told by their texts.

What is printed of a tensor tells its used axes: the axes that are left out are ones, and how many
of them there are is known from the rank class.  A list is told by its text as long as no entry is
empty or has the separator in it (`Text.Separable.join_injective`).  So two descriptors agree if
and only if they have the same rank class and print the same dimensions and the same types
(`Descriptor.dimensionsText_inj`, `Descriptor.typesText_inj`), be they usable or not.
-/
import Inference.Proofs.Tensor.ReadBack

namespace Inference

/-! ### Lists and numbers -/

namespace Text

theorem decimal_injective {m n : Nat} (h : decimal m = decimal n) : m = n := by
  have read := readDigits?_decimal m
  rw [h, readDigits?_decimal n] at read
  exact (Option.some.inj read).symm

/-- Entries that a list is told by: none of them is empty or has the separator in it. -/
def Separable (separator : Char) (entries : List (List Char)) : Prop :=
  ∀ entry ∈ entries, entry ≠ [] ∧ separator ∉ entry

theorem Separable.join_eq_nil {separator : Char} {entries : List (List Char)}
    (h : Separable separator entries) (empty : join [separator] entries = []) : entries = [] := by
  cases entries with
  | nil => rfl
  | cons entry rest =>
      have back := split_join (List.cons_ne_nil entry rest) fun entry member => (h entry member).2
      rw [empty] at back
      have first : [] = entry := (List.cons.inj back).1
      exact absurd first.symm (h entry List.mem_cons_self).1

theorem Separable.join_injective {separator : Char} {xs ys : List (List Char)}
    (hx : Separable separator xs) (hy : Separable separator ys)
    (h : join [separator] xs = join [separator] ys) : xs = ys := by
  by_cases emptyX : xs = []
  · subst emptyX
    exact (hy.join_eq_nil h.symm).symm
  by_cases emptyY : ys = []
  · subst emptyY
    exact hx.join_eq_nil h
  rw [← split_join emptyX fun entry member => (hx entry member).2, h,
    split_join emptyY fun entry member => (hy entry member).2]

end Text

theorem eq_of_map_eq {α β : Type} {f : α → β} {P : α → Prop}
    (told : ∀ x y, P x → P y → f x = f y → x = y) {xs ys : List α} (hx : ∀ x ∈ xs, P x)
    (hy : ∀ y ∈ ys, P y) (h : xs.map f = ys.map f) : xs = ys := by
  induction xs generalizing ys with
  | nil => exact (List.map_eq_nil_iff.1 h.symm).symm
  | cons x rest ih =>
      cases ys with
      | nil => cases h
      | cons y rest' =>
          rw [List.map_cons, List.map_cons, List.cons.injEq] at h
          rw [List.forall_mem_cons] at hx hy
          rw [told x y hx.1 hy.1 h.1, ih hx.2 hy.2 h.2]

namespace Descriptor

/-! ### One tensor -/

/-- As many axes are told by those that are shown. -/
theorem shownAxes_injective {xs ys : List UInt32} (length : xs.length = ys.length)
    (h : shownAxes xs = shownAxes ys) : xs = ys := by
  obtain ⟨m, left⟩ := eq_shownAxes_append xs
  obtain ⟨n, right⟩ := eq_shownAxes_append ys
  have lengths := length
  rw [left, right, h, List.length_append, List.length_append, List.length_replicate,
    List.length_replicate] at lengths
  rw [left, right, h, Nat.add_left_cancel lengths]

theorem separable_decimals (axes : List UInt32) :
    Text.Separable ':' (axes.map fun axis => Text.decimal axis.toNat) := by
  intro text member
  obtain ⟨axis, -, rfl⟩ := List.mem_map.1 member
  refine ⟨Text.decimal_ne_nil _, fun colon => ?_⟩
  cases Text.isDigit_of_mem_decimal colon

/-- As many axes are told by their text. -/
theorem showExtents_injective {xs ys : List UInt32} (length : xs.length = ys.length)
    (h : showExtents xs = showExtents ys) : xs = ys := by
  have numbers := (separable_decimals _).join_injective (separable_decimals _) h
  refine shownAxes_injective length ((List.map_inj_right ?_).1 numbers)
  exact fun x y same => UInt32.toNat_inj.1 (Text.decimal_injective same)

theorem showExtents_ne_nil {axes : List UInt32} (some : axes ≠ []) : showExtents axes ≠ [] := by
  intro empty
  have none := (separable_decimals _).join_eq_nil empty
  exact shownAxes_ne_nil some (List.map_eq_nil_iff.1 none)

theorem name_injective {a b : ElementType} (h : a.name.toList = b.name.toList) : a = b := by
  have read := readType_name a
  rw [h, readType_name b] at read
  exact (Except.ok.inj read).symm

/-! ### All tensors -/

/-- The used axes of the tensors. -/
def usedAxes (d : Descriptor) : List (List UInt32) := d.tensors.map (·.shape.used d.rank)

/-- The types of the tensors. -/
def types (d : Descriptor) : List ElementType := d.tensors.map (·.type)

theorem form_eq_zip (d : Descriptor) : d.form = (d.rank, d.types.zip d.usedAxes) := by
  unfold form types usedAxes
  rw [List.zip_map']

theorem form_inj {a b : Descriptor} : a.form = b.form
    ↔ a.rank = b.rank ∧ a.usedAxes = b.usedAxes ∧ a.types = b.types := by
  constructor
  · intro same
    have axes := congrArg (fun form => form.2.map Prod.snd) same
    have types := congrArg (fun form => form.2.map Prod.fst) same
    simp only [form, List.map_map] at axes types
    exact ⟨congrArg Prod.fst same, axes, types⟩
  · rintro ⟨rank, axes, types⟩
    rw [form_eq_zip, form_eq_zip, rank, axes, types]

theorem length_of_mem_usedAxes {d : Descriptor} {axes : List UInt32} (h : axes ∈ d.usedAxes) :
    axes.length = d.rank.limit := by
  obtain ⟨tensor, -, rfl⟩ := List.mem_map.1 h
  rw [Shape.used, List.length_take, tensor.shape.length_axes]
  exact Nat.min_eq_left d.rank.limit_le

theorem dimensionsText_eq (d : Descriptor) :
    d.dimensionsText = String.ofList (Text.join [','] (d.usedAxes.map showExtents)) := by
  unfold dimensionsText usedAxes
  rw [List.map_map]
  rfl

theorem typesText_eq (d : Descriptor) :
    d.typesText = String.ofList (Text.join [','] (d.types.map fun type => type.name.toList)) := by
  unfold typesText types
  rw [List.map_map]
  rfl

theorem separable_dimensions (d : Descriptor) :
    Text.Separable ',' (d.usedAxes.map showExtents) := by
  intro text member
  obtain ⟨axes, inside, rfl⟩ := List.mem_map.1 member
  refine ⟨showExtents_ne_nil ?_, fun comma => (plain_showExtents axes ',' comma).1 rfl⟩
  obtain ⟨tensor, -, rfl⟩ := List.mem_map.1 inside
  exact tensor.shape.used_ne_nil d.rank

theorem separable_types (d : Descriptor) :
    Text.Separable ',' (d.types.map fun type => type.name.toList) := by
  intro text member
  obtain ⟨type, -, rfl⟩ := List.mem_map.1 member
  refine ⟨?_, fun comma => (plain_name type ',' comma).1 rfl⟩
  cases type <;> decide

theorem dimensionsText_inj {a b : Descriptor} (rank : a.rank = b.rank) :
    a.dimensionsText = b.dimensionsText ↔ a.usedAxes = b.usedAxes := by
  rw [dimensionsText_eq, dimensionsText_eq, String.ofList_inj]
  constructor
  · intro same
    have shown := (separable_dimensions a).join_injective (separable_dimensions b) same
    have told : ∀ x y : List UInt32, x.length = b.rank.limit → y.length = b.rank.limit →
        showExtents x = showExtents y → x = y :=
      fun x y hx hy => showExtents_injective (hx.trans hy.symm)
    refine eq_of_map_eq told ?_ ?_ shown
    · exact fun axes member => rank ▸ length_of_mem_usedAxes member
    · exact fun axes member => length_of_mem_usedAxes member
  · intro same
    rw [same]

theorem typesText_inj {a b : Descriptor} : a.typesText = b.typesText ↔ a.types = b.types := by
  rw [typesText_eq, typesText_eq, String.ofList_inj]
  constructor
  · intro same
    have names := (separable_types a).join_injective (separable_types b) same
    exact (List.map_inj_right fun _ _ => name_injective).1 names
  · intro same
    rw [same]

/-! ### Sizes -/

theorem sizeAt_eq_form (d : Descriptor) (index : Nat) : d.sizeAt index =
    match d.form.2[index]? with
    | some (type, axes) =>
      sizeOrFault (axes.foldlM (fun size axis => checkedMul size axis.toNat) type.width)
    | none => .error (.invalidParameter ("index " ++ Text.showNat index
        ++ " is out of bounds, the descriptor holds " ++ Text.showNat d.form.2.length
        ++ " tensors")) := by
  unfold sizeAt tensorAt form outOfBounds count
  rw [List.getElem?_map, List.length_map]
  cases d.tensors[index]? <;> rfl

/-- The size of all tensors together can be told from the form. -/
theorem sizeOfAll_eq_form (d : Descriptor) : d.sizeOfAll =
    sizeOrFault (d.form.2.foldlM (fun total (type, axes) =>
      (axes.foldlM (fun size axis => checkedMul size axis.toNat) type.width).bind
        (checkedAdd total)) 0) := by
  unfold sizeOfAll sizeOfAll? form
  rw [List.foldlM_map]
  rfl

/-! ### Agreement -/

/-- Two descriptors, usable or not, agree if and only if they have the same rank class and print
the same dimensions and the same types.  So agreement is an equivalence that ignores names, and
descriptors that agree answer every question for a size alike. -/
theorem agrees_iff_same_texts :
    (∀ a b : Descriptor, a.agrees b = true
        ↔ a.rank = b.rank ∧ a.dimensionsText = b.dimensionsText ∧ a.typesText = b.typesText)
      ∧ Equivalence (fun a b : Descriptor => a.agrees b = true)
      ∧ (∀ a b : Descriptor, a.unnamed.agrees b.unnamed = a.agrees b)
      ∧ ∀ a b : Descriptor, a.agrees b = true → a.sizes = b.sizes
        ∧ (∀ index, a.sizeAt index = b.sizeAt index) ∧ a.sizeOfAll = b.sizeOfAll := by
  refine ⟨?_, ⟨agrees_refl, ?_, agrees_trans⟩, ?_, ?_⟩
  · intro a b
    rw [agrees_iff, form_inj]
    refine and_congr_right fun rank => ?_
    rw [dimensionsText_inj rank, typesText_inj]
  · intro a b same
    rw [agrees_comm]
    exact same
  · intro a b
    rw [Bool.eq_iff_iff, agrees_iff, agrees_iff, form_unnamed, form_unnamed]
  · intro a b same
    have form := agrees_iff.1 same
    refine ⟨sizes_of_agrees same, fun index => ?_, ?_⟩
    · rw [sizeAt_eq_form, sizeAt_eq_form, form]
    · rw [sizeOfAll_eq_form, sizeOfAll_eq_form, form]

/-- A tensor without a type, with a name, an axis of zero and axes beyond those in use. -/
def scrap : Descriptor where
  tensors := [{
    name := some "scrap"
    shape := ⟨[0, 7, 1, 1, 9, 0, 1, 1, 1, 1, 1, 1, 1, 1, 1, 4294967295], by decide⟩ }]

/-- A tensor with the same used axes and nothing else. -/
def bareScrap : Descriptor where
  tensors := [{ shape := .ofList [0, 7] }]

/-- Neither of the two can be used, and they are not the same, but they print the same texts. -/
theorem scrap_agrees : scrap.dimensionsText = "0:7:1:1" ∧ bareScrap.dimensionsText = "0:7:1:1"
    ∧ scrap.typesText = "unknown" ∧ bareScrap.typesText = "unknown" ∧ scrap ≠ bareScrap
    ∧ scrap.isValid = false ∧ scrap.agrees bareScrap = true ∧ scrap.sizes = bareScrap.sizes
    ∧ (∀ index, scrap.sizeAt index = bareScrap.sizeAt index)
    ∧ scrap.agrees { bareScrap with rank := .extended } = false := by
  have dims : scrap.dimensionsText = "0:7:1:1" := by decide +kernel
  have bareDims : bareScrap.dimensionsText = "0:7:1:1" := by decide +kernel
  have types : scrap.typesText = "unknown" := by decide +kernel
  have bareTypes : bareScrap.typesText = "unknown" := by decide +kernel
  obtain ⟨byTexts, -, -, sized⟩ := agrees_iff_same_texts
  have agrees : scrap.agrees bareScrap = true :=
    (byTexts scrap bareScrap).2 ⟨rfl, dims.trans bareDims.symm, types.trans bareTypes.symm⟩
  have apart : ¬ scrap.agrees { bareScrap with rank := .extended } = true := by
    rw [byTexts]
    rintro ⟨⟨⟩, -⟩
  obtain ⟨sizes, sizeAt, -⟩ := sized scrap bareScrap agrees
  exact ⟨dims, bareDims, types, bareTypes, by decide, by decide +kernel, agrees, sizes, sizeAt,
    Bool.not_eq_true _ ▸ apart⟩

end Descriptor

end Inference
