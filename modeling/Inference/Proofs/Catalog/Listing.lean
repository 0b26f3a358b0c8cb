/-
Names of models in a list of files.

What a model is opened with is read as a list: it is cut at the commas, white space is taken off
both ends of every entry, and entries that are empty are left out.  So a name stands for itself if
it has no comma and no white space at its ends, and only then (`head?_modelsOf_iff`); every entry
that is read is such a name (`plain_of_mem_modelsOf`).
-/
import Inference.Options
import Inference.Proofs.Text.Spelling

namespace Inference

namespace Options

/-- A name that stands for itself in a list: it is not empty, has no comma in it, and has no white
space at its ends. -/
structure Plain (name : String) : Prop where
  some : name ≠ ""
  whole : ',' ∉ name.toList
  bare : Text.trim name.toList = name.toList

theorem plain_of_mem_modelsOf {text entry : String} (h : entry ∈ modelsOf text) : Plain entry := by
  obtain ⟨letters, listed, rfl⟩ := List.mem_map.1 h
  obtain ⟨trimmed, some⟩ := List.mem_filter.1 listed
  obtain ⟨part, cut, rfl⟩ := List.mem_map.1 trimmed
  refine ⟨?_, ?_, ?_⟩
  · intro empty
    rw [String.ofList_eq_empty_iff] at empty
    rw [empty] at some
    cases some
  · rw [String.toList_ofList]
    exact fun comma => Text.not_mem_of_mem_split cut (Text.mem_of_mem_trim comma)
  · rw [String.toList_ofList]
    exact Text.trim_trim part

theorem Plain.modelsOf_eq {name : String} (h : Plain name) : modelsOf name = [name] := by
  have some : name.toList.isEmpty = false := by
    rw [List.isEmpty_eq_false_iff]
    exact fun empty => h.some (String.toList_eq_nil_iff.1 empty)
  unfold modelsOf
  rw [Text.split_of_not_mem h.whole, List.map_singleton, h.bare, List.filter_cons_of_pos,
    List.filter_nil, List.map_singleton, String.ofList_toList]
  rw [some]
  rfl

/-- The first entry of a name is that name only if it stands for itself. -/
theorem head?_modelsOf_iff {name : String} : (modelsOf name).head? = some name ↔ Plain name := by
  constructor
  · exact fun first => plain_of_mem_modelsOf (List.mem_of_mem_head? first)
  · intro plain
    rw [plain.modelsOf_eq]
    rfl

end Options

end Inference
