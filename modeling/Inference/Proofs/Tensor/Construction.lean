/-
How descriptors are built.

A descriptor is built from an empty one by calls that set the number of tensors, add one, set one
field of one tensor, or set one field of all of them from text; any of them may be refused.
Whatever they are, the rank class stays, there are never too many tensors, and a shape that was set
has ones on the axes that are not in use (`Descriptor.Ranked.run`, `Descriptor.Ranked.runAll`).  So
a descriptor that was built is never refused for such an axis, and two of them that agree are both
usable or both not (`Descriptor.Ranked.validate_iff_of_agrees`).
-/
import Inference.Proofs.Tensor.Canonical
import Inference.Proofs.Tensor.Refusal

namespace Inference

/-- The shape has not been set, or has ones on the axes that are not in use. -/
def Shape.Within (shape : Shape) (rank : RankClass) : Prop :=
  shape = unset ∨ ∀ axis ∈ shape.unused rank, axis = 1

/-- A shape that was never set has zeros among its axes in use. -/
theorem Shape.unset_zero (rank : RankClass) : (0 : UInt32) ∈ Shape.unset.used rank := by
  cases rank <;> decide

/-- Where the axes not in use are as they should be, those in use tell whether any is zero. -/
theorem Shape.Within.given_iff {shape : Shape} {rank : RankClass} (within : shape.Within rank) :
    shape.Given rank ↔ ∀ axis ∈ shape.used rank, axis ≠ 0 := by
  constructor
  · exact fun given axis member => given.nonzero axis (List.mem_of_mem_take member)
  · intro nonzero
    rcases within with rfl | ones
    · exact absurd rfl (nonzero 0 (unset_zero rank))
    · refine ⟨fun axis member => ?_, ones⟩
      rw [← List.take_append_drop rank.limit shape.axes] at member
      rcases List.mem_append.1 member with inUse | beyond
      · exact nonzero axis inUse
      · rw [ones axis beyond]
        decide

/-- It is usable if its type is set, no axis in use is zero, and its size fits. -/
theorem Tensor.defect?_eq_none_of_within {tensor : Tensor} {rank : RankClass}
    (within : tensor.shape.Within rank) :
    tensor.defect? rank = none ↔ tensor.type.isSet = true
      ∧ (∀ axis ∈ tensor.shape.used rank, axis ≠ 0) ∧ (tensor.size? rank).isSome = true := by
  rw [defect?_eq_none_iff, ← within.given_iff]
  constructor
  · rintro ⟨isSet, nonzero, ones, sized⟩
    exact ⟨isSet, ⟨nonzero, ones⟩, sized⟩
  · rintro ⟨isSet, given, sized⟩
    exact ⟨isSet, given.nonzero, given.ones, sized⟩

namespace Descriptor

variable {d after : Descriptor} {rank : RankClass} {fault : Fault}

/-! ### Calls -/

/-- A call that changes a descriptor. -/
inductive Edit where
  | setCount (count : Nat)
  | push (type : ElementType) (extents : List UInt32)
  | setName (index : Nat) (name : Option String)
  | setType (index : Nat) (type : ElementType)
  | setExtents (index : Nat) (extents : List UInt32)
  | setDimensionsText (text : String)
  | setTypesText (text : String)
  | setNamesText (text : String)

namespace Edit

/-- What a call ends with, and what it leaves. -/
def run : Edit → Descriptor → Edited Unit
  | setCount count, d => d.setCount count
  | push type extents, d => ((d.push type extents).1.map fun _ => (), (d.push type extents).2)
  | setName index name, d => d.setName index name
  | setType index type, d => d.setType index type
  | setExtents index extents, d => d.setExtents index extents
  | setDimensionsText text, d => d.setDimensionsText text
  | setTypesText text, d => d.setTypesText text
  | setNamesText text, d => d.setNamesText text

/-- What is left after some calls, be they refused or not. -/
def runAll (edits : List Edit) (d : Descriptor) : Descriptor :=
  edits.foldl (fun d edit => (edit.run d).2) d

/-- Whether a call brings a text that is written into all tensors. -/
def isText : Edit → Bool
  | setDimensionsText _ | setTypesText _ | setNamesText _ => true
  | _ => false

end Edit

/-! ### Adding a tensor -/

theorem editAt_last (d : Descriptor) (tensor : Tensor) (change : Tensor → Tensor) :
    editAt { d with tensors := d.tensors ++ [tensor] } d.count change
      = (.ok (), { d with tensors := d.tensors ++ [change tensor] }) := by
  have inside : d.tensors.length < (d.tensors ++ [tensor]).length := by simp
  have modified : (d.tensors ++ [tensor]).modify d.tensors.length change
      = d.tensors ++ [change tensor] := by
    rw [List.modify_eq_take_cons_drop inside]
    simp
  simp only [editAt, count, if_pos inside, modified]

theorem setCount_succ (room : d.count < tensorLimit) :
    d.setCount (d.count + 1) = (.ok (), { d with tensors := d.tensors ++ [{}] }) := by
  have all : d.tensors.take (d.count + 1) = d.tensors := List.take_of_length_le (Nat.le_succ _)
  rw [setCount, if_neg (by omega), resize, all, Nat.add_sub_cancel_left]
  rfl

theorem setType_last (d : Descriptor) {type : ElementType} (set : type.isSet = true) :
    setType { d with tensors := d.tensors ++ [{}] } d.count type
      = (.ok (), { d with tensors := d.tensors ++ [{ type }] }) := by
  rw [setType, if_pos set, editAt_last]

/-- A tensor is added if there is room for it, its type is set and it has not too many extents. -/
theorem push_eq {type : ElementType} {extents : List UInt32} (room : d.count < tensorLimit)
    (set : type.isSet = true) (short : extents.length ≤ d.rank.limit) :
    d.push type extents = (.ok d.count,
      { d with tensors := d.tensors ++ [{ type, shape := .ofList extents }] }) := by
  have shaped : setExtents { d with tensors := d.tensors ++ [{ type }] } d.count extents
      = (.ok (), { d with tensors := d.tensors ++ [{ type, shape := .ofList extents }] }) := by
    rw [setExtents, if_neg (Nat.not_lt.2 short), editAt_last]
  simp only [push, setCount_succ room, setType_last d set, Edited.andThen, shaped]

/-- If there is no room for a tensor, or what is set of it is refused, nothing of it is left. -/
theorem push_refused {type : ElementType} {extents : List UInt32}
    (refused : ¬ (d.count < tensorLimit ∧ type.isSet = true ∧ extents.length ≤ d.rank.limit)) :
    ∃ fault, d.push type extents = (.error fault, d) := by
  by_cases room : d.count < tensorLimit
  · have off (tensor : Tensor) : (d.tensors ++ [tensor]).take d.count = d.tensors :=
      List.take_left
    by_cases set : type.isSet = true
    · have long : extents.length > d.rank.limit :=
        Nat.not_le.1 fun short => refused ⟨room, set, short⟩
      have shaped : ∃ fault, setExtents
        { d with tensors := d.tensors ++ [{ type }] } d.count extents
          = (.error fault, { d with tensors := d.tensors ++ [{ type }] }) := ⟨_, if_pos long⟩
      obtain ⟨fault, shaped⟩ := shaped
      refine ⟨fault, ?_⟩
      simp only [push, setCount_succ room, setType_last d set, Edited.andThen, shaped, off]
    · have typed : ∃ fault, setType { d with tensors := d.tensors ++ [{}] } d.count type
          = (.error fault, { d with tensors := d.tensors ++ [{}] }) := ⟨_, if_neg set⟩
      obtain ⟨fault, typed⟩ := typed
      exact ⟨fault, by simp only [push, setCount_succ room, typed, Edited.andThen, off]⟩
  · have counted : ∃ fault, d.setCount (d.count + 1) = (.error fault, d) :=
      ⟨_, if_pos (.inr (by omega))⟩
    obtain ⟨fault, counted⟩ := counted
    exact ⟨fault, by simp only [push, counted]⟩

theorem push_cases (d : Descriptor) (type : ElementType) (extents : List UInt32) :
    (d.push type extents = (.ok d.count,
        { d with tensors := d.tensors ++ [{ type, shape := .ofList extents }] })
      ∧ d.count < tensorLimit ∧ extents.length ≤ d.rank.limit)
    ∨ ∃ fault, d.push type extents = (.error fault, d) := by
  by_cases fits : d.count < tensorLimit ∧ type.isSet = true ∧ extents.length ≤ d.rank.limit
  · obtain ⟨room, set, short⟩ := fits
    exact .inl ⟨push_eq room set short, room, short⟩
  · exact .inr (push_refused fits)

/-! ### Refused calls -/

theorem unchanged_of_editAt {index : Nat} {change : Tensor → Tensor}
    (refused : d.editAt index change = (.error fault, after)) : after = d := by
  unfold editAt at refused
  split at refused
  · cases refused
  · exact (Prod.mk.inj refused).2.symm

/-- A refused call that brings no text leaves the descriptor as it was. -/
theorem Edit.unchanged_of_refused {edit : Edit} (plain : edit.isText = false)
    (refused : edit.run d = (.error fault, after)) : after = d := by
  cases edit with
  | setCount count =>
      simp only [run, Descriptor.setCount] at refused
      split at refused
      · exact (Prod.mk.inj refused).2.symm
      · cases refused
  | push type extents =>
      rcases d.push_cases type extents with ⟨added, -⟩ | ⟨fault', kept⟩
      · rw [run, added] at refused
        cases refused
      · rw [run, kept] at refused
        exact (Prod.mk.inj refused).2.symm
  | setName index name => exact unchanged_of_editAt refused
  | setType index type =>
      simp only [run, Descriptor.setType] at refused
      split at refused
      · exact unchanged_of_editAt refused
      · exact (Prod.mk.inj refused).2.symm
  | setExtents index extents =>
      simp only [run, Descriptor.setExtents] at refused
      split at refused
      · exact (Prod.mk.inj refused).2.symm
      · exact unchanged_of_editAt refused
  | setDimensionsText text => cases plain
  | setTypesText text => cases plain
  | setNamesText text => cases plain

/-! ### The rank class -/

/-- A descriptor as it can be built. -/
structure Ranked (rank : RankClass) (d : Descriptor) : Prop where
  same : d.rank = rank
  few : d.count ≤ tensorLimit
  shapes : ∀ tensor ∈ d.tensors, tensor.shape.Within rank

namespace Ranked

theorem blank (rank : RankClass) : Ranked rank { rank } := ⟨rfl, Nat.zero_le _, nofun⟩

theorem resize (h : Ranked rank d) {count : Nat} (few : count ≤ tensorLimit) :
    Ranked rank (d.resize count) := by
  refine ⟨h.same, ?_, fun tensor member => ?_⟩
  · rw [count_resize]
    exact few
  · rcases List.mem_append.1 member with kept | added
    · exact h.shapes tensor (List.mem_of_mem_take kept)
    · rw [List.eq_of_mem_replicate added]
      exact .inl rfl

theorem editAt (h : Ranked rank d) (index : Nat) {change : Tensor → Tensor}
    (keeps : ∀ tensor, tensor.shape.Within rank → (change tensor).shape.Within rank) :
    Ranked rank (d.editAt index change).2 := by
  unfold Descriptor.editAt
  split
  · refine ⟨h.same, ?_, fun tensor member => ?_⟩
    · rw [Descriptor.count, List.length_modify]
      exact h.few
    · obtain ⟨place, found⟩ := List.mem_iff_getElem?.1 member
      rw [List.getElem?_modify] at found
      obtain ⟨before, there, same⟩ := Option.map_eq_some_iff.1 found
      have within := h.shapes before (List.mem_of_getElem? there)
      rw [← same]
      split
      · exact keeps before within
      · exact within
  · exact h

theorem setCount (h : Ranked rank d) (count : Nat) : Ranked rank (d.setCount count).2 := by
  unfold Descriptor.setCount
  split
  · exact h
  · exact h.resize (by omega)

theorem setName (h : Ranked rank d) (index : Nat) (name : Option String) :
    Ranked rank (d.setName index name).2 := h.editAt index fun _ => id

theorem setType (h : Ranked rank d) (index : Nat) (type : ElementType) :
    Ranked rank (d.setType index type).2 := by
  unfold Descriptor.setType
  split
  · exact h.editAt index fun _ => id
  · exact h

theorem setExtents (h : Ranked rank d) (index : Nat) (extents : List UInt32) :
    Ranked rank (d.setExtents index extents).2 := by
  unfold Descriptor.setExtents
  split
  · exact h
  · rename_i short
    rw [h.same] at short
    exact h.editAt index fun _ _ => .inr (Shape.ones_ofList (Nat.not_lt.1 short))

theorem push (h : Ranked rank d) (type : ElementType) (extents : List UInt32) :
    Ranked rank (d.push type extents).2 := by
  rcases d.push_cases type extents with ⟨added, room, short⟩ | ⟨fault, kept⟩
  · rw [added]
    rw [h.same] at short
    refine ⟨h.same, ?_, fun tensor member => ?_⟩
    · rw [Descriptor.count, List.length_append]
      exact room
    · rcases List.mem_append.1 member with kept | added
      · exact h.shapes tensor kept
      · rw [List.mem_singleton.1 added]
        exact .inr (Shape.ones_ofList short)
  · rw [kept]
    exact h

theorem writeFrom (h : Ranked rank d) {α : Type} {write : Descriptor → Nat → α → Edited Unit}
    (writes : ∀ d index value, Ranked rank d → Ranked rank (write d index value).2) (index : Nat)
    (values : List α) : Ranked rank (Descriptor.writeFrom write index values d).2 := by
  induction values generalizing index d with
  | nil => exact h
  | cons value rest ih =>
      have next := writes d index value h
      rw [Descriptor.writeFrom]
      generalize write d index value = written at next ⊢
      obtain ⟨result | result, after⟩ := written
      · exact next
      · exact ih next (index + 1)

theorem writeAll (h : Ranked rank d) {α : Type} {write : Descriptor → Nat → α → Edited Unit}
    (writes : ∀ d index value, Ranked rank d → Ranked rank (write d index value).2)
    (values : List α) : Ranked rank (Descriptor.writeAll write values d).2 := by
  have counted := h.setCount values.length
  unfold Descriptor.writeAll
  generalize d.setCount values.length = resized at counted ⊢
  obtain ⟨result | result, after⟩ := resized
  · exact counted
  · exact counted.writeFrom writes 0 values

theorem setDimensionsText (h : Ranked rank d) (text : String) :
    Ranked rank (d.setDimensionsText text).2 := by
  unfold Descriptor.setDimensionsText
  cases (entries text.toList).mapM (readExtents d.rank) with
  | error fault => exact h
  | ok shapes => exact h.writeAll (fun _ index extents h => h.setExtents index extents) shapes

/-- Types keep the descriptor as it should be also if one in the middle is refused. -/
theorem setTypesText (h : Ranked rank d) (text : String) : Ranked rank (d.setTypesText text).2 := by
  unfold Descriptor.setTypesText
  cases (entries text.toList).mapM readType with
  | error fault => exact h
  | ok types => exact h.writeAll (fun _ index type h => h.setType index type) types

theorem setNamesText (h : Ranked rank d) (text : String) : Ranked rank (d.setNamesText text).2 :=
  h.writeAll (fun _ index name h => h.setName index name) _

theorem run (h : Ranked rank d) (edit : Edit) : Ranked rank (edit.run d).2 := by
  cases edit with
  | setCount count => exact h.setCount count
  | push type extents => exact h.push type extents
  | setName index name => exact h.setName index name
  | setType index type => exact h.setType index type
  | setExtents index extents => exact h.setExtents index extents
  | setDimensionsText text => exact h.setDimensionsText text
  | setTypesText text => exact h.setTypesText text
  | setNamesText text => exact h.setNamesText text

/-- No calls, be they refused or not, make a descriptor other than it should be. -/
theorem runAll (h : Ranked rank d) (edits : List Edit) : Ranked rank (Edit.runAll edits d) := by
  induction edits generalizing d with
  | nil => exact h
  | cons edit rest ih => exact ih (h.run edit)

end Ranked

/-! ### Axes not in use -/

/-- What is said of an axis not in use that should be one. -/
def overLimit (rank : RankClass) (index axis : Nat) : String :=
  "tensor " ++ Text.showNat index ++ ": " ++ ("dimension " ++ Text.showNat axis
    ++ " exceeds the rank limit " ++ Text.showNat rank.limit ++ " and must be 1")

/-- The last character of a text. -/
def lastOf (text : String) : Option Char := text.toList.getLast?

theorem lastOf_append (front : String) {text : String} {c : Char} (h : lastOf text = some c) :
    lastOf (front ++ text) = some c := by
  unfold lastOf at h ⊢
  rw [String.toList_append, List.getLast?_append, h]
  rfl

theorem lastOf_overLimit (rank : RankClass) (index axis : Nat) :
    lastOf (overLimit rank index axis) = some '1' :=
  lastOf_append _ (lastOf_append _ (by decide +kernel))

/-- A text that ends otherwise, as all others do that a descriptor may be refused with. -/
def Unlike (reason : String) : Prop := ∃ c, lastOf reason = some c ∧ c ≠ '1'

theorem Unlike.append {text : String} (h : Unlike text) (front : String) :
    Unlike (front ++ text) := by
  obtain ⟨c, last, other⟩ := h
  exact ⟨c, lastOf_append front last, other⟩

theorem Unlike.ne {reason : String} (h : Unlike reason) (index axis : Nat) :
    reason ≠ overLimit rank index axis := by
  rintro rfl
  obtain ⟨c, last, other⟩ := h
  exact other (Option.some.inj (last.symm.trans (lastOf_overLimit rank index axis)))

/-- Such a tensor is not refused for an axis that is not in use. -/
theorem unlike_of_defect? {tensor : Tensor} {reason : String}
    (within : tensor.shape.Within rank) (h : tensor.defect? rank = some reason) :
    Unlike reason := by
  unfold Tensor.defect? at h
  split at h
  · cases h
    exact ⟨'t', by decide +kernel, by decide⟩
  split at h
  · cases h
    exact ⟨'o', lastOf_append _ (by decide +kernel), by decide⟩
  rename_i nonzero
  have given : tensor.shape.Given rank := within.given_iff.2 fun axis member => by
    have kept := List.findIdx?_eq_none_iff.1 nonzero axis (List.mem_of_mem_take member)
    simpa using kept
  have ones : (tensor.shape.unused rank).findIdx? (· != 1) = none :=
    List.findIdx?_eq_none_iff.2 fun axis member => by simp [given.ones axis member]
  simp only [ones] at h
  split at h
  · cases h
    exact ⟨'y', by decide +kernel, by decide⟩
  · cases h

theorem unlike_of_firstDefect? {tensors : List Tensor} {index : Nat} {reason : String}
    (within : ∀ tensor ∈ tensors, tensor.shape.Within rank)
    (h : firstDefect? rank index tensors = some reason) : Unlike reason := by
  induction tensors generalizing index with
  | nil => cases h
  | cons tensor rest ih =>
      rw [List.forall_mem_cons] at within
      unfold firstDefect? at h
      split at h
      · rename_i found
        cases h
        exact (Descriptor.unlike_of_defect? within.1 found).append _
      · exact ih within.2 h

namespace Ranked

/-- A descriptor that was built is not refused for an axis that is not in use. -/
theorem unlike_of_defect? (h : Ranked rank d) {reason : String} (found : d.defect? = some reason) :
    Unlike reason := by
  unfold Descriptor.defect? at found
  split at found
  · cases found
    exact ⟨'s', by decide +kernel, by decide⟩
  rw [if_neg (Nat.not_lt.2 h.few)] at found
  split at found
  · rename_i first
    cases found
    rw [h.same] at first
    exact unlike_of_firstDefect? h.shapes first
  split at found
  · cases found
    exact ⟨'y', by decide +kernel, by decide⟩
  · cases found

theorem validate_ne (h : Ranked rank d) (index axis : Nat) :
    d.validate ≠ .error (.invalidParameter (overLimit rank index axis)) := by
  intro refused
  obtain ⟨reason, found, same⟩ := defect_of_validate refused
  exact (h.unlike_of_defect? found).ne index axis (Fault.invalidParameter.inj same).symm

/-- Whether it can be used is told by its form. -/
theorem validate_iff (h : Ranked rank d) : d.validate = .ok () ↔ d.form.2 ≠ []
    ∧ (∀ entry ∈ d.form.2, entry.1.isSet = true ∧ (∀ axis ∈ entry.2, axis ≠ 0)
      ∧ (entry.2.foldlM (fun size axis => checkedMul size axis.toNat) entry.1.width).isSome = true)
    ∧ ∃ size, d.sizeOfAll = .ok size := by
  have some : d.form.2 ≠ [] ↔ d.tensors ≠ [] := by simp [form]
  have sized : (∃ size, d.sizeOfAll = .ok size) ↔ d.sizeOfAll?.isSome = true := by
    unfold sizeOfAll
    cases d.sizeOfAll? <;> simp [sizeOrFault]
  rw [validate_eq_ok_iff, some, sized]
  refine and_congr_right fun _ => ?_
  rw [and_iff_right h.few]
  refine and_congr_left fun _ => ?_
  unfold form
  rw [List.forall_mem_map]
  refine forall₂_congr fun tensor member => ?_
  exact Tensor.defect?_eq_none_of_within (h.same ▸ h.shapes tensor member)

theorem validate_iff_of_agrees {other : RankClass} {a b : Descriptor} (ha : Ranked rank a)
    (hb : Ranked other b) (same : a.agrees b = true) :
    a.validate = .ok () ↔ b.validate = .ok () := by
  have form := agrees_iff.1 same
  have sized : a.sizeOfAll = b.sizeOfAll := by rw [sizeOfAll_eq_form, sizeOfAll_eq_form, form]
  rw [ha.validate_iff, hb.validate_iff, form, sized]

end Ranked

/-- An axis beyond the fourth of a standard descriptor, which no call can have set. -/
example : Descriptor.validate
    { tensors := [{ type := .uint8
                    shape := ⟨[1, 1, 1, 1, 1, 9, 1, 1, 1, 1, 1, 1, 1, 1, 1, 1], by decide⟩ }] }
    = .error (.invalidParameter (overLimit .standard 0 5)) := by
  decide +kernel

/-! ### Building -/

/-- The descriptor is what some calls make of an empty one, be they refused or not. -/
def Built (rank : RankClass) (d : Descriptor) : Prop :=
  ∃ edits : List Edit, d = Edit.runAll edits { rank }

theorem Built.ranked (h : Built rank d) : Ranked rank d := by
  obtain ⟨edits, rfl⟩ := h
  exact (Ranked.blank rank).runAll edits

/-- However a descriptor was built, it is of the rank class it started with, has at most sixteen
tensors, and every shape is either not set or has ones beyond the rank limit: so it is not refused
for an axis there, and of two that agree both can be used or neither.  Whatever a descriptor is
like, a refused call that brings no text leaves it as it was, and one that adds a tensor does
nothing else. -/
theorem built_descriptors_keep_rank :
    (∀ (rank : RankClass) (d : Descriptor), Built rank d →
      d.rank = rank ∧ d.count ≤ 16
        ∧ (∀ tensor ∈ d.tensors, tensor.shape.axes = List.replicate 16 0
          ∨ ∀ axis ∈ tensor.shape.axes.drop rank.limit, axis = 1)
        ∧ ∀ index axis, d.validate ≠ .error (.invalidParameter (overLimit rank index axis)))
      ∧ (∀ (rank other : RankClass) (a b : Descriptor), Built rank a → Built other b →
        a.agrees b = true → (a.validate = .ok () ↔ b.validate = .ok ()))
      ∧ (∀ (d after : Descriptor) (edit : Edit) (fault : Fault), edit.isText = false →
        edit.run d = (.error fault, after) → after = d)
      ∧ ∀ (d after : Descriptor) (type : ElementType) (extents : List UInt32) (index : Nat),
        d.push type extents = (.ok index, after) → index = d.count
          ∧ after = { d with tensors := d.tensors ++ [{ type, shape := .ofList extents }] } := by
  refine ⟨fun rank d built => ?_, fun rank other a b builtA builtB same => ?_,
    fun d after edit fault plain refused => Edit.unchanged_of_refused plain refused,
    fun d after type extents index pushed => ?_⟩
  · have ranked := built.ranked
    refine ⟨ranked.same, ranked.few, fun tensor member => ?_, ranked.validate_ne⟩
    exact (ranked.shapes tensor member).imp_left (congrArg Shape.axes)
  · exact builtA.ranked.validate_iff_of_agrees builtB.ranked same
  · rcases d.push_cases type extents with ⟨added, -⟩ | ⟨fault, kept⟩
    · rw [added] at pushed
      cases pushed
      exact ⟨rfl, rfl⟩
    · rw [kept] at pushed
      cases pushed

/-- Calls of which five are refused, the text among them only after its first type was written. -/
def assembling : List Edit :=
  [.push .uint8 [3, 224, 224], .setCount 2, .push .float32 [1, 2, 3, 4, 5],
    .setTypesText "int8, unknown", .setName 2 (some "beyond"), .setType 1 .float32, .setCount 17,
    .setExtents 1 [10], .setType 0 .unknown, .setType 0 .uint8]

/-- Calls that come to the same by texts. -/
def describing : List Edit :=
  [.setNamesText "picture, vector", .setTypesText "uint8, float32",
    .setDimensionsText "3:224:224, 10"]

/-- Both come to a usable descriptor, which takes one tensor more, but not one of rank five. -/
theorem assembling_keeps_rank :
    ∃ assembled described, Built .standard assembled ∧ Built .standard described
      ∧ assembled.rank = .standard ∧ assembled.count ≤ 16
      ∧ assembled.agrees described = true
      ∧ assembled.validate = .ok () ∧ described.validate = .ok ()
      ∧ (∃ fault, (Edit.push .uint8 [1, 2, 3, 4, 5]).run assembled = (.error fault, assembled))
      ∧ assembled.push .uint8 [1, 2, 3, 4] = (.ok 2, { assembled with
        tensors := assembled.tensors ++ [{ type := .uint8, shape := .ofList [1, 2, 3, 4] }] }) := by
  obtain ⟨keeps, alike, unchanged, pushed⟩ := built_descriptors_keep_rank
  have assembled : Built .standard (Edit.runAll assembling {}) := ⟨_, rfl⟩
  have described : Built .standard (Edit.runAll describing {}) := ⟨_, rfl⟩
  obtain ⟨rank, few, -, -⟩ := keeps _ _ assembled
  have agrees : (Edit.runAll assembling {}).agrees (Edit.runAll describing {}) = true := by
    decide +kernel
  have valid : (Edit.runAll describing {}).validate = .ok () := by decide +kernel
  have both := alike _ _ _ _ assembled described agrees
  have long : ((Edit.push .uint8 [1, 2, 3, 4, 5]).run (Edit.runAll assembling {})).1
      = .error (.invalidParameter "rank 5 exceeds the rank limit 4 of this descriptor") := by
    decide +kernel
  have short : ((Edit.runAll assembling {}).push .uint8 [1, 2, 3, 4]).1 = .ok 2 := by
    decide +kernel
  have kept := unchanged _ _ (.push .uint8 [1, 2, 3, 4, 5]) _ rfl (Prod.ext long rfl)
  have added := pushed _ _ .uint8 [1, 2, 3, 4] 2 (Prod.ext short rfl)
  exact ⟨_, _, assembled, described, rank, few, agrees, both.2 valid, valid,
    ⟨_, Prod.ext long kept⟩, Prod.ext short added.2⟩

end Descriptor

end Inference
