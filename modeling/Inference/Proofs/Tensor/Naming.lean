/-
Naming tensors.

A text of names gives the descriptor as many tensors as it has entries, and then names them one
after another.  Apart from the names it cuts the list of tensors off, or fills it up with tensors
that are not set.  So it leaves the shapes alone if there is a name for each tensor, and also if
there are so many names that it is refused; a usable descriptor stays usable as long as no tensor
is added.  The three statements are `Descriptor.unnamed_setNamesText_iff`,
`Descriptor.sizes_setNamesText_iff` and `Descriptor.validate_setNamesText_iff`.
-/
import Inference.Proofs.Tensor.Agreement
import Inference.Tensor.Notation

namespace Inference

/-! ### Descriptors without names -/

/-- The tensor without its name. -/
def Tensor.unnamed (tensor : Tensor) : Tensor := { tensor with name := none }

namespace Descriptor

/-- The descriptor without names: the types and all axes of its tensors. -/
def unnamed (d : Descriptor) : Descriptor := { d with tensors := d.tensors.map Tensor.unnamed }

@[simp] theorem count_unnamed (d : Descriptor) : d.unnamed.count = d.count := by
  simp [unnamed, count]

@[simp] theorem form_unnamed (d : Descriptor) : d.unnamed.form = d.form := by
  unfold form unnamed
  rw [List.map_map]
  rfl

@[simp] theorem sizes_unnamed (d : Descriptor) : d.unnamed.sizes = d.sizes := by
  rw [sizes_eq_form, sizes_eq_form, form_unnamed]

theorem length_sizes (d : Descriptor) : d.sizes.length = d.count := List.length_map _

theorem firstDefect?_unnamed (rank : RankClass) (index : Nat) (tensors : List Tensor) :
    firstDefect? rank index (tensors.map Tensor.unnamed) = firstDefect? rank index tensors := by
  induction tensors generalizing index with
  | nil => rfl
  | cons tensor rest ih =>
      have same : tensor.unnamed.defect? rank = tensor.defect? rank := rfl
      simp only [List.map_cons, firstDefect?, same, ih]

@[simp] theorem validate_unnamed (d : Descriptor) : d.unnamed.validate = d.validate := by
  have sized : d.unnamed.sizeOfAll? = d.sizeOfAll? := by
    unfold sizeOfAll? unnamed
    rw [List.foldlM_map]
    rfl
  have first : firstDefect? d.unnamed.rank 0 d.unnamed.tensors = firstDefect? d.rank 0 d.tensors :=
    firstDefect?_unnamed d.rank 0 d.tensors
  have empty : d.unnamed.tensors.isEmpty = d.tensors.isEmpty := by simp [unnamed]
  unfold validate defect?
  rw [empty, count_unnamed, first, sized]

theorem validate_of_unnamed {a b : Descriptor} (h : a.unnamed = b.unnamed) :
    a.validate = b.validate := by
  rw [← validate_unnamed a, h, validate_unnamed]

theorem sizes_of_unnamed {a b : Descriptor} (h : a.unnamed = b.unnamed) : a.sizes = b.sizes := by
  rw [← sizes_unnamed a, h, sizes_unnamed]

/-! ### Usable descriptors -/

theorem firstDefect?_eq_none {rank : RankClass} {index : Nat} {tensors : List Tensor} :
    firstDefect? rank index tensors = none ↔ ∀ tensor ∈ tensors, tensor.defect? rank = none := by
  induction tensors generalizing index with
  | nil => simp [firstDefect?]
  | cons tensor rest ih =>
      rw [List.forall_mem_cons, ← @ih (index + 1), firstDefect?]
      cases tensor.defect? rank with
      | none => simp
      | some reason => simp

theorem validate_eq_ok_iff {d : Descriptor} : d.validate = .ok () ↔
    d.tensors ≠ [] ∧ d.count ≤ tensorLimit ∧ (∀ tensor ∈ d.tensors, tensor.defect? d.rank = none)
      ∧ d.sizeOfAll?.isSome = true := by
  rw [← @firstDefect?_eq_none d.rank 0 d.tensors]
  unfold validate defect?
  by_cases empty : d.tensors = []
  · simp [empty]
  rw [if_neg (by simpa using empty)]
  by_cases many : d.count > tensorLimit
  · rw [if_pos many]
    simp [Nat.not_le.2 many]
  rw [if_neg many]
  cases firstDefect? d.rank 0 d.tensors with
  | some reason => simp
  | none =>
      cases d.sizeOfAll? with
      | none => simp
      | some size => simp [empty, Nat.not_lt.1 many]

/-! ### Another number of tensors -/

@[simp] theorem count_resize (d : Descriptor) (count : Nat) : (d.resize count).count = count := by
  simp only [resize, Descriptor.count, List.length_append, List.length_take, List.length_replicate]
  omega

theorem resize_count (d : Descriptor) : d.resize d.count = d := by
  simp [resize, count]

/-- The first tensors of a usable descriptor can be used as well. -/
theorem validate_resize_of_le {d : Descriptor} (valid : d.validate = .ok ()) {count : Nat}
    (some : 0 < count) (le : count ≤ d.count) : (d.resize count).validate = .ok () := by
  obtain ⟨nonempty, limit, sound, sized⟩ := validate_eq_ok_iff.1 valid
  have cut : d.resize count = { d with tensors := d.tensors.take count } := by
    simp [resize, Nat.sub_eq_zero_of_le le]
  refine validate_eq_ok_iff.2 ⟨?_, ?_, ?_, ?_⟩
  · intro empty
    have none := congrArg List.length empty
    rw [show (d.resize count).tensors.length = count from count_resize d count] at none
    exact absurd none (Nat.pos_iff_ne_zero.1 some)
  · rw [count_resize]
    exact Nat.le_trans le limit
  · rw [cut]
    intro tensor member
    exact sound tensor (List.mem_of_mem_take member)
  · -- The total of the first tensors is reached on the way to that of all of them.
    unfold sizeOfAll? at sized
    rw [← List.take_append_drop count d.tensors, List.foldlM_append] at sized
    obtain ⟨total, sized⟩ := Option.isSome_iff_exists.1 sized
    obtain ⟨part, first, -⟩ := Option.bind_eq_some_iff.1 sized
    rw [cut]
    exact Option.isSome_iff_exists.2 ⟨part, first⟩

/-- No descriptor can be used if tensors were added to it that are not set. -/
theorem validate_resize_of_lt {d : Descriptor} {count : Nat} (lt : d.count < count) :
    (d.resize count).validate ≠ .ok () := by
  intro valid
  obtain ⟨-, -, sound, -⟩ := validate_eq_ok_iff.1 valid
  have added : ({} : Tensor) ∈ (d.resize count).tensors :=
    List.mem_append_right _ (List.mem_replicate.2 ⟨Nat.sub_ne_zero_of_lt lt, rfl⟩)
  have unset : Tensor.defect? {} d.rank = some "the tensor type is not set" := rfl
  cases unset.symm.trans (sound _ added)

/-! ### Names -/

/-- The names that a text stands for. -/
def namesOf (text : String) : List (Option String) := (entries text.toList).map readName

/-- How many tensors there are names for. -/
def nameCount (text : String) : Nat := (namesOf text).length

theorem nameCount_pos (text : String) : 0 < nameCount text := by
  unfold nameCount namesOf entries
  rw [List.length_map, List.length_map]
  exact List.length_pos_iff.2 (Text.split_ne_nil _ _)

/-- The tensor under another name. -/
def rename (tensor : Tensor) (name : Option String) : Tensor := { tensor with name }

/-- The descriptor with names for its tensors, one after another. -/
def withNames (d : Descriptor) (names : List (Option String)) : Descriptor :=
  { d with tensors := List.zipWith rename d.tensors names }

theorem map_unnamed_zipWith {tensors : List Tensor} {names : List (Option String)}
    (all : names.length = tensors.length) :
    (List.zipWith rename tensors names).map Tensor.unnamed = tensors.map Tensor.unnamed := by
  induction tensors generalizing names with
  | nil => rfl
  | cons tensor rest ih =>
      cases names with
      | nil => cases all
      | cons name names =>
          rw [List.zipWith_cons_cons, List.map_cons, List.map_cons, ih (Nat.succ.inj all)]
          rfl

/-- Values are written one after another into the tensors that are next. -/
theorem writeFrom_front {α : Type} {write : Descriptor → Nat → α → Edited Unit}
    {change : Tensor → α → Tensor} {rank : RankClass} (before later : List Tensor)
    {rest : List Tensor} {values : List α} (all : values.length = rest.length)
    (writes : ∀ value ∈ values, ∀ (d : Descriptor) (index : Nat), d.rank = rank →
      write d index value = d.editAt index fun tensor => change tensor value) :
    writeFrom write before.length values { rank, tensors := before ++ (rest ++ later) }
      = (.ok (), { rank, tensors := before ++ (List.zipWith change rest values ++ later) }) := by
  induction values generalizing before rest with
  | nil =>
      cases List.eq_nil_of_length_eq_zero all.symm
      rfl
  | cons value values ih =>
      cases rest with
      | nil => cases all
      | cons tensor rest =>
          have written : write
            { rank, tensors := before ++ (tensor :: rest ++ later) } before.length
              value
              = (.ok (), { rank, tensors := (before ++ [change tensor value])
                ++ (rest ++ later) }) := by
            have inside : before.length < (before ++ (tensor :: rest ++ later)).length := by simp
            rw [writes value List.mem_cons_self _ _ rfl]
            simp only [editAt, count]
            rw [List.modify_eq_take_cons_drop inside]
            simp
          have onward := ih (before ++ [change tensor value]) (Nat.succ.inj all)
            fun value member => writes value (List.mem_cons_of_mem _ member)
          rw [List.length_append, List.length_singleton] at onward
          simp only [writeFrom, written, onward]
          simp

theorem writeFrom_eq {α : Type} {write : Descriptor → Nat → α → Edited Unit}
    {change : Tensor → α → Tensor} {rank : RankClass} (before : List Tensor) {rest : List Tensor}
    {values : List α} (all : values.length = rest.length)
    (writes : ∀ value ∈ values, ∀ (d : Descriptor) (index : Nat), d.rank = rank →
      write d index value = d.editAt index fun tensor => change tensor value) :
    writeFrom write before.length values { rank, tensors := before ++ rest }
      = (.ok (), { rank, tensors := before ++ List.zipWith change rest values }) := by
  have written := writeFrom_front before [] all writes
  rwa [List.append_nil, List.append_nil] at written

theorem writeFrom_setName {rank : RankClass} (before : List Tensor) {rest : List Tensor}
    {names : List (Option String)} (all : names.length = rest.length) :
    writeFrom setName before.length names { rank, tensors := before ++ rest }
      = (.ok (), { rank, tensors := before ++ List.zipWith rename rest names }) :=
  writeFrom_eq before all fun _ _ _ _ _ => rfl

variable {d : Descriptor} {text : String}

theorem setNamesText_of_le (h : nameCount text ≤ tensorLimit) :
    d.setNamesText text = (.ok (), (d.resize (nameCount text)).withNames (namesOf text)) := by
  have pos := nameCount_pos text
  have counted : d.setCount (nameCount text) = (.ok (), d.resize (nameCount text)) :=
    if_neg (by omega)
  show (d.setCount (nameCount text)).andThen (writeFrom setName 0 (namesOf text)) = _
  rw [counted]
  exact writeFrom_setName [] (count_resize d _).symm

theorem setNamesText_of_lt (h : tensorLimit < nameCount text) :
    ∃ fault, d.setNamesText text = (.error fault, d) := by
  have counted : ∃ fault, d.setCount (nameCount text) = (.error fault, d) := ⟨_, if_pos (.inr h)⟩
  obtain ⟨fault, counted⟩ := counted
  refine ⟨fault, ?_⟩
  show (d.setCount (nameCount text)).andThen (writeFrom setName 0 (namesOf text)) = _
  rw [counted]
  rfl

/-- Apart from the names the descriptor is given another number of tensors. -/
theorem unnamed_setNamesText (h : nameCount text ≤ tensorLimit) :
    (d.setNamesText text).2.unnamed = (d.resize (nameCount text)).unnamed := by
  rw [setNamesText_of_le h]
  unfold unnamed withNames
  rw [map_unnamed_zipWith]
  exact (count_resize d _).symm

/-- Nothing but names is written if there is one for each tensor, or if there are too many. -/
theorem unnamed_of_counted (counted : tensorLimit < nameCount text ∨ nameCount text = d.count) :
    (d.setNamesText text).2.unnamed = d.unnamed := by
  by_cases many : tensorLimit < nameCount text
  · obtain ⟨fault, same⟩ := setNamesText_of_lt (d := d) many
    rw [same]
  · rw [unnamed_setNamesText (Nat.not_lt.1 many), counted.resolve_left many, resize_count]

theorem counted_of_sizes (same : (d.setNamesText text).2.sizes = d.sizes) :
    tensorLimit < nameCount text ∨ nameCount text = d.count := by
  by_cases many : tensorLimit < nameCount text
  · exact .inl many
  have named : (d.setNamesText text).2.sizes = (d.resize (nameCount text)).sizes :=
    sizes_of_unnamed (unnamed_setNamesText (Nat.not_lt.1 many))
  have counts := congrArg List.length (named.symm.trans same)
  rw [length_sizes, length_sizes, count_resize] at counts
  exact .inr counts

theorem unnamed_setNamesText_iff : (d.setNamesText text).2.unnamed = d.unnamed
    ↔ tensorLimit < nameCount text ∨ nameCount text = d.count :=
  ⟨fun same => counted_of_sizes (sizes_of_unnamed same), unnamed_of_counted⟩

theorem sizes_setNamesText_iff : (d.setNamesText text).2.sizes = d.sizes
    ↔ tensorLimit < nameCount text ∨ nameCount text = d.count :=
  ⟨counted_of_sizes, fun counted => sizes_of_unnamed (unnamed_of_counted counted)⟩

/-- A descriptor that can be used stays so as long as no tensor is added. -/
theorem validate_setNamesText_iff (valid : d.validate = .ok ()) :
    (d.setNamesText text).2.validate = .ok ()
      ↔ tensorLimit < nameCount text ∨ nameCount text ≤ d.count := by
  by_cases many : tensorLimit < nameCount text
  · obtain ⟨fault, same⟩ := setNamesText_of_lt (d := d) many
    simp [same, many, valid]
  rw [validate_of_unnamed (unnamed_setNamesText (Nat.not_lt.1 many))]
  constructor
  · intro after
    refine .inr (Nat.not_lt.1 fun added => ?_)
    exact validate_resize_of_lt added after
  · intro few
    exact validate_resize_of_le valid (nameCount_pos text) (few.resolve_left many)

end Descriptor

end Inference
