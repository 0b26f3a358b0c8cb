/-
Descriptors that are read back from JSON.

The written form holds all that a descriptor stores, and the reader finds every field again by its
name (`Tensor.ofJson?_toJson`, `Descriptor.ofJson?_toJson`).  So nothing is lost, whatever the
descriptor holds: it need not be usable, names may be missing, empty or have commas in them, types
may be unset and axes may be any short words.
-/
import Inference.Proofs.Tensor.Agreement
import Inference.Tensor.Notation
import Inference.Tensor.Record

namespace Inference

theorem mapM_map_eq_some {α β : Type} {write : α → β} {read : β → Option α} {xs : List α}
    (h : ∀ x ∈ xs, read (write x) = some x) : (xs.map write).mapM read = some xs := by
  induction xs with
  | nil => rfl
  | cons x rest ih =>
      have others := ih fun x member => h x (List.mem_cons_of_mem _ member)
      rw [List.map_cons, List.mapM_cons, h x List.mem_cons_self, others]
      rfl

/-! ### Fields of a tensor -/

theorem Shape.extentOfJson?_whole (axis : UInt32) :
    extentOfJson? (.whole axis.toNat) = some axis := by
  have fits : (0 : Int) ≤ axis.toNat ∧ (axis.toNat : Int) < shortWordLimit :=
    ⟨Int.natCast_nonneg _, Int.ofNat_lt.2 axis.toNat_lt⟩
  rw [extentOfJson?, if_pos fits, Int.toNat_natCast, UInt32.ofNat_toNat]

theorem Shape.ofAxes?_axes (shape : Shape) : ofAxes? shape.axes = some shape :=
  dif_pos shape.length_axes

theorem Shape.ofJson?_axes (shape : Shape) :
    ofJson? (.list (shape.axes.map fun axis => .whole axis.toNat)) = some shape := by
  rw [ofJson?, mapM_map_eq_some fun axis _ => extentOfJson?_whole axis, Option.bind_some,
    ofAxes?_axes]

theorem ElementType.ofJson?_name (type : ElementType) : ofJson? (.text type.name) = some type := by
  cases type <;> decide

/-- A name that is missing is told from one that is empty. -/
theorem Tensor.nameOfJson?_name (name : Option String) :
    nameOfJson? (match name with | some name => .text name | none => .null) = some name := by
  cases name <;> rfl

/-! ### Tensors and descriptors -/

theorem Tensor.ofFields?_fields (tensor : Tensor) :
    ofFields? (match tensor.name with | some name => .text name | none => .null)
      (.text tensor.type.name) (.list (tensor.shape.axes.map fun axis => .whole axis.toNat))
        = some tensor := by
  rw [ofFields?, nameOfJson?_name, ElementType.ofJson?_name, Shape.ofJson?_axes]
  rfl

/-- The fields of a tensor are found by their names, wherever they stand. -/
theorem Tensor.ofJson?_toJson (tensor : Tensor) : ofJson? tensor.toJson = some tensor := by
  unfold toJson ofJson?
  simp only [Json.field?, String.reduceEq, if_false, if_true, Option.getD_some,
    Option.bind_eq_bind, Option.bind_some]
  exact tensor.ofFields?_fields

theorem RankClass.ofJson?_extended (rank : RankClass) :
    ofJson? (.bool (rank == .extended)) = some rank := by
  cases rank <;> rfl

namespace Descriptor

/-- What is written is read back as it was. -/
theorem ofJson?_toJson (d : Descriptor) : ofJson? d.toJson = some d := by
  have tensors : Tensor.listOfJson? (.list (d.tensors.map Tensor.toJson)) = some d.tensors :=
    mapM_map_eq_some fun tensor _ => tensor.ofJson?_toJson
  unfold toJson ofJson?
  simp only [Json.field?, String.reduceEq, if_false, if_true, Option.bind_eq_bind,
    Option.bind_some, ofFields?, RankClass.ofJson?_extended, tensors]
  rfl

/-- Every descriptor, usable or not, is read back from its JSON form with its rank class and, for
each tensor in order, its name, its type and all of its axes.  So it agrees with what was written,
passes the same checks, and has the same sizes and texts. -/
theorem read_back_from_json (d : Descriptor) : ∃ back, ofJson? d.toJson = some back
    ∧ back.rank = d.rank
    ∧ (back.tensors.map fun tensor => (tensor.name, tensor.type, tensor.shape.axes))
      = (d.tensors.map fun tensor => (tensor.name, tensor.type, tensor.shape.axes))
    ∧ back.agrees d = true ∧ back.validate = d.validate
    ∧ back.sizes = d.sizes ∧ (∀ index, back.sizeAt index = d.sizeAt index)
    ∧ back.sizeOfAll = d.sizeOfAll
    ∧ back.dimensionsText = d.dimensionsText ∧ back.typesText = d.typesText
    ∧ back.namesText = d.namesText := by
  refine ⟨d, d.ofJson?_toJson, rfl, rfl, d.agrees_refl, rfl, rfl, ?_, rfl, rfl, rfl, rfl⟩
  exact fun _ => rfl

end Descriptor

end Inference
