/-
Texts that are refused.

A text is read as a whole before anything is written, so a text that cannot be read leaves the
descriptor as it was; so does one with too many entries (`Descriptor.unchanged_of_writeAll`).  What
was read of dimensions and names is never refused afterwards.  Of the types one is: `unknown` can
be read, and is refused when its turn comes, after the number of tensors has been set and the types
before it have been written (`Descriptor.unchanged_or_unsets`,
`Descriptor.Unsets.setTypesText_eq`).
-/
import Inference.Proofs.Tensor.ReadBack

namespace Inference

theorem exists_of_mapM_eq_ok {α β : Type} {f : α → Except Fault β} {xs : List α} {ys : List β}
    (h : xs.mapM f = .ok ys) {y : β} (made : y ∈ ys) : ∃ x ∈ xs, f x = .ok y := by
  induction mapM_eq_ok_iff.1 h with
  | nil => cases made
  | cons first others ih =>
      rcases List.mem_cons.1 made with rfl | later
      · exact ⟨_, List.mem_cons_self, first⟩
      · obtain ⟨x, inside, read⟩ := ih (mapM_eq_ok_iff.2 others) later
        exact ⟨x, List.mem_cons_of_mem _ inside, read⟩

theorem ElementType.isSet_of_ne {type : ElementType} (set : type ≠ .unknown) :
    type.isSet = true := by
  cases type <;> first | rfl | exact absurd rfl set

namespace Descriptor

variable {d r after : Descriptor} {text : String} {fault : Fault}

/-! ### Writing one after another -/

theorem writeFrom_append {α : Type} (write : Descriptor → Nat → α → Edited Unit) (index : Nat)
    (first second : List α) (d : Descriptor) :
    writeFrom write index (first ++ second) d
      = (writeFrom write index first d).andThen
        (writeFrom write (index + first.length) second) := by
  induction first generalizing index d with
  | nil => rfl
  | cons value rest ih =>
      rw [List.cons_append, writeFrom, writeFrom]
      cases written : write d index value with
      | mk result next =>
          cases result with
          | error fault => rfl
          | ok =>
              simp only [ih, List.length_cons]
              rw [Nat.add_right_comm]
              rfl

theorem writeAll_uncounted {α : Type} (write : Descriptor → Nat → α → Edited Unit) {values : List α}
    (uncounted : ¬ (0 < values.length ∧ values.length ≤ tensorLimit)) :
    ∃ fault, writeAll write values r = (.error fault, r) := by
  have refused : ∃ fault, r.setCount values.length = (.error fault, r) := ⟨_, if_pos (by omega)⟩
  obtain ⟨fault, refused⟩ := refused
  exact ⟨fault, by rw [writeAll, refused]; rfl⟩

/-- Values of which none is refused are written, unless there are too many of them; then nothing
is. -/
theorem unchanged_of_writeAll {α : Type} {write : Descriptor → Nat → α → Edited Unit}
    (change : Tensor → α → Tensor) {values : List α}
    (writes : ∀ value ∈ values, ∀ (d : Descriptor) (index : Nat), d.rank = r.rank →
      write d index value = d.editAt index fun tensor => change tensor value)
    (refused : writeAll write values r = (.error fault, after)) : after = r := by
  by_cases counted : 0 < values.length ∧ values.length ≤ tensorLimit
  · rw [writeAll_eq write change counted writes] at refused
    cases refused
  · obtain ⟨fault', kept⟩ := writeAll_uncounted (r := r) write counted
    rw [kept] at refused
    exact (Prod.mk.inj refused).2.symm

/-! ### Dimensions and names -/

theorem length_le_of_readExtents {rank : RankClass} {part : List Char} {extents : List UInt32}
    (h : readExtents rank part = .ok extents) : extents.length ≤ rank.limit := by
  unfold readExtents at h
  simp only [bind, Except.bind] at h
  split at h
  · cases h
  · split at h
    · cases h
    · rename_i short
      cases h
      exact Nat.not_lt.1 short

theorem unchanged_of_setDimensionsText
    (refused : d.setDimensionsText text = (.error fault, after)) :
    after = d := by
  unfold setDimensionsText at refused
  cases read : (entries text.toList).mapM (readExtents d.rank) with
  | error cause =>
      rw [read] at refused
      cases refused
      rfl
  | ok shapes =>
      rw [read] at refused
      refine unchanged_of_writeAll
        (fun tensor extents => { tensor with shape := Shape.ofList extents }) ?_ refused
      intro extents member d' index rank
      obtain ⟨part, -, made⟩ := exists_of_mapM_eq_ok read member
      rw [setExtents, rank, if_neg (Nat.not_lt.2 (length_le_of_readExtents made))]

theorem unchanged_of_setNamesText (refused : d.setNamesText text = (.error fault, after)) :
    after = d := unchanged_of_writeAll rename (fun _ _ _ _ _ => rfl) refused

/-! ### Types -/

/-- The entries of the text are names of types, and not too many of them; `before` are those up to
the first `unknown`, and `behind` those after it. -/
structure Unsets (text : String) (before behind : List ElementType) : Prop where
  read : (entries text.toList).mapM readType = .ok (before ++ .unknown :: behind)
  set : .unknown ∉ before
  few : before.length + 1 + behind.length ≤ tensorLimit

/-- The tensor with another type. -/
def retype (tensor : Tensor) (type : ElementType) : Tensor := { tensor with type }

/-- The descriptor with these types for its first tensors. -/
def withFirstTypes (d : Descriptor) (types : List ElementType) : Descriptor :=
  { d with tensors := List.zipWith retype d.tensors types ++ d.tensors.drop types.length }

theorem setType_eq {type : ElementType} (set : type ≠ .unknown) (d : Descriptor) (index : Nat) :
    d.setType index type = d.editAt index fun tensor => retype tensor type := by
  rw [setType, if_pos (ElementType.isSet_of_ne set)]
  rfl

/-- Types are refused before any is written, unless one of them is `unknown`. -/
theorem unchanged_or_unsets (refused : d.setTypesText text = (.error fault, after)) :
    after = d ∨ ∃ before behind, Unsets text before behind := by
  unfold setTypesText at refused
  cases read : (entries text.toList).mapM readType with
  | error cause =>
      rw [read] at refused
      cases refused
      exact .inl rfl
  | ok types =>
      rw [read] at refused
      by_cases unset : .unknown ∈ types
      · by_cases counted : 0 < types.length ∧ types.length ≤ tensorLimit
        · obtain ⟨before, behind, rfl, set⟩ := List.eq_append_cons_of_mem unset
          rw [List.length_append, List.length_cons] at counted
          exact .inr ⟨before, behind, read, set, by omega⟩
        · obtain ⟨fault', kept⟩ := writeAll_uncounted (r := d) setType counted
          simp only [kept] at refused
          exact .inl (Prod.mk.inj refused).2.symm
      · exact .inl (unchanged_of_writeAll retype
          (fun type member d' index _ => setType_eq (fun same => unset (same ▸ member)) d' index)
          refused)

/-- Types that are set are written into the first tensors. -/
theorem writeFrom_setType {types : List ElementType} (set : .unknown ∉ types)
    (few : types.length ≤ d.count) :
    writeFrom setType 0 types d = (.ok (), d.withFirstTypes types) := by
  have room : types.length = (d.tensors.take types.length).length := by
    rw [List.length_take]
    exact (Nat.min_eq_left few).symm
  have written : writeFrom setType 0 types
        { rank := d.rank, tensors := d.tensors.take types.length ++ d.tensors.drop types.length }
      = (.ok (), { rank := d.rank, tensors :=
          List.zipWith retype (d.tensors.take types.length) types
            ++ d.tensors.drop types.length }) :=
    writeFrom_front [] _ room
      fun type member d' index _ => setType_eq (fun unset => set (unset ▸ member)) d' index
  -- The tensors behind those that there is a type for do not matter.
  have cut : List.zipWith retype (d.tensors.take types.length ++ d.tensors.drop types.length)
        (types ++ [])
      = List.zipWith retype (d.tensors.take types.length) types
        ++ List.zipWith retype (d.tensors.drop types.length) [] := List.zipWith_append room.symm
  rw [List.take_append_drop, List.append_nil, List.zipWith_nil_right, List.append_nil] at cut
  rw [List.take_append_drop, ← cut] at written
  exact written

/-- The types before an `unknown` are written, into as many tensors as the text has entries. -/
theorem Unsets.setTypesText_eq {before behind : List ElementType}
    (unsets : Unsets text before behind) (d : Descriptor) :
    d.setTypesText text = (.error (.invalidParameter "the tensor type cannot be set to unknown"),
      (d.resize (before.length + 1 + behind.length)).withFirstTypes before) := by
  obtain ⟨read, set, few⟩ := unsets
  have length : (before ++ .unknown :: behind).length = before.length + 1 + behind.length := by
    rw [List.length_append, List.length_cons]
    omega
  have counted : d.setCount (before ++ .unknown :: behind).length
      = (.ok (), d.resize (before.length + 1 + behind.length)) := by
    rw [length]
    exact if_neg (by omega)
  have room : before.length ≤ (d.resize (before.length + 1 + behind.length)).count := by
    rw [count_resize]
    omega
  rw [setTypesText, read]
  simp only [writeAll, counted, Edited.andThen, writeFrom_append, writeFrom_setType set room]
  rfl

theorem zipWith_retype_eq_iff {tensors : List Tensor} {types : List ElementType}
    (few : types.length ≤ tensors.length) :
    List.zipWith retype tensors types ++ tensors.drop types.length = tensors
      ↔ types <+: tensors.map (·.type) := by
  induction tensors generalizing types with
  | nil =>
      cases List.eq_nil_of_length_eq_zero (Nat.le_zero.1 few)
      simp
  | cons tensor rest ih =>
      cases types with
      | nil => simp
      | cons type types =>
          have kept : retype tensor type = tensor ↔ type = tensor.type :=
            ⟨fun same => congrArg Tensor.type same, fun same => by rw [same]; rfl⟩
          rw [List.map_cons, List.cons_prefix_cons, ← ih (Nat.le_of_succ_le_succ few), ← kept]
          simp only [List.zipWith_cons_cons, List.length_cons, List.drop_succ_cons,
            List.cons_append, List.cons.injEq]

/-- Writing the first types leaves the descriptor as it was only if it had as many tensors, and the
first of them these types. -/
theorem withFirstTypes_resize_eq_iff {types : List ElementType} {count : Nat}
    (few : types.length ≤ count) :
    (d.resize count).withFirstTypes types = d ↔ d.count = count
      ∧ types <+: d.tensors.map (·.type) := by
  have counts : ((d.resize count).withFirstTypes types).count = count := by
    have resized := count_resize d count
    rw [Descriptor.count] at resized
    rw [withFirstTypes, Descriptor.count, List.length_append, List.length_zipWith, List.length_drop,
      resized]
    omega
  constructor
  · intro same
    have counted : d.count = count := by rw [← counts, same]
    subst counted
    rw [resize_count] at same
    exact ⟨rfl, (zipWith_retype_eq_iff few).1 (congrArg Descriptor.tensors same)⟩
  · rintro ⟨rfl, first⟩
    rw [resize_count, withFirstTypes, (zipWith_retype_eq_iff few).2 first]

/-- A refused text of dimensions or names leaves the descriptor as it was.  A refused text of types
does so unless all of it can be read and one of the types is `unknown`: then the descriptor is left
with as many tensors as the text has entries, and the types before the first `unknown` are set. -/
theorem refused_text_changes_iff_unset (d : Descriptor) (text : String) :
    (∀ fault after, d.setDimensionsText text = (.error fault, after) → after = d)
      ∧ (∀ fault after, d.setNamesText text = (.error fault, after) → after = d)
      ∧ (∀ fault after, d.setTypesText text = (.error fault, after) →
        (after ≠ d ↔ ∃ before behind, Unsets text before behind
          ∧ ¬ (d.count = before.length + 1 + behind.length ∧ before <+: d.tensors.map (·.type))))
      ∧ ∀ before behind, Unsets text before behind → d.setTypesText text
        = (.error (.invalidParameter "the tensor type cannot be set to unknown"),
          (d.resize (before.length + 1 + behind.length)).withFirstTypes before) := by
  refine ⟨fun _ _ => unchanged_of_setDimensionsText, fun _ _ => unchanged_of_setNamesText, ?_,
    fun _ _ unsets => unsets.setTypesText_eq d⟩
  intro fault after refused
  constructor
  · intro changed
    obtain ⟨before, behind, unsets⟩ := (unchanged_or_unsets refused).resolve_left changed
    refine ⟨before, behind, unsets, fun kept => changed ?_⟩
    rw [unsets.setTypesText_eq d] at refused
    rw [← (Prod.mk.inj refused).2]
    exact (withFirstTypes_resize_eq_iff (by omega)).2 kept
  · rintro ⟨before, behind, unsets, differs⟩ same
    rw [unsets.setTypesText_eq d] at refused
    refine differs ((withFirstTypes_resize_eq_iff (by omega)).1 ?_)
    rw [(Prod.mk.inj refused).2, same]

/-- One tensor of four bytes. -/
def fourBytes : Descriptor where
  tensors := [{ type := .uint8, shape := .ofList [4] }]

/-- Of four types the third is `unknown`: the tensor is given the first, and three are added to it,
of which one is given the second.  Two tensors of which the first has the type before `unknown` stay
as they were. -/
theorem fourBytes_types_in_part :
    fourBytes.setTypesText "int8,float32,unknown,int64"
        = (.error (.invalidParameter "the tensor type cannot be set to unknown"),
          { tensors := [{ type := .int8, shape := .ofList [4] }, { type := .float32 }, {}, {}] })
      ∧ (fourBytes.resize 2).setTypesText "uint8, UNKNOWN"
        = (.error (.invalidParameter "the tensor type cannot be set to unknown"),
          fourBytes.resize 2) := by
  obtain ⟨-, -, -, four⟩ := refused_text_changes_iff_unset fourBytes "int8,float32,unknown,int64"
  obtain ⟨-, -, -, two⟩ := refused_text_changes_iff_unset (fourBytes.resize 2) "uint8, UNKNOWN"
  exact ⟨four [.int8, .float32] [.int64] ⟨rfl, by decide, by decide⟩,
    two [.uint8] [] ⟨rfl, by decide, by decide⟩⟩

/-- A text that is refused makes one tensor of `uint8` two, of which the first is `int8`. -/
theorem fourBytes_changed_by_refused_text : ∃ fault after,
    fourBytes.validate = .ok () ∧ fourBytes.setTypesText "int8,unknown" = (.error fault, after)
      ∧ after.typesText = "int8,unknown" ∧ after ≠ fourBytes := by
  exact ⟨_, _, rfl, rfl, rfl, by decide⟩

end Descriptor

end Inference
