/-
Lists of pairs that are searched by key.

Where no key is listed twice, the search for a key finds the one pair that has it, and what has
another key is all the rest of the list (`Keyed.filter_key`).  Taking away the pairs of one key
leaves the search for the others as it is (`Keyed.find?_filter_ne`).
-/
import Mathlib.Data.List.Basic

namespace Inference.Keyed

variable {κ α : Type} [BEq κ] [LawfulBEq κ] {pairs : List (κ × α)} {key : κ}

/-- The first value that a list has under a key. -/
def value? (pairs : List (κ × α)) (key : κ) : Option α :=
  (pairs.find? fun pair => pair.1 == key).map (·.2)

/-- What a list has under other keys. -/
def without (pairs : List (κ × α)) (key : κ) : List (κ × α) :=
  pairs.filter fun pair => pair.1 != key

theorem value?_eq_none_iff : value? pairs key = none ↔ key ∉ pairs.map Prod.fst := by
  simp only [value?, Option.map_eq_none_iff, List.find?_eq_none, beq_iff_eq, List.mem_map,
    not_exists, not_and]

theorem value?_isSome_iff : (value? pairs key).isSome = true ↔ key ∈ pairs.map Prod.fst := by
  rw [Option.isSome_iff_ne_none, Ne, value?_eq_none_iff, Classical.not_not]

theorem without_of_not_mem (absent : key ∉ pairs.map Prod.fst) : without pairs key = pairs := by
  refine List.filter_eq_self.2 fun pair member => ?_
  exact bne_iff_ne.2 fun same => absent (List.mem_map.2 ⟨pair, member, same⟩)

/-- A list with distinct keys has one pair under a key, or none. -/
theorem filter_key (distinct : (pairs.map Prod.fst).Nodup) (key : κ) :
    (pairs.filter fun pair => pair.1 == key)
      = (value? pairs key).toList.map fun value => (key, value) := by
  induction pairs with
  | nil => rfl
  | cons pair rest ih =>
      rw [List.map_cons, List.nodup_cons] at distinct
      by_cases here : pair.1 = key
      · subst here
        have found : value? (pair :: rest) pair.1 = some pair.2 := by simp [value?]
        have others : value? rest pair.1 = none := value?_eq_none_iff.2 distinct.1
        rw [List.filter_cons_of_pos (by simp), ih distinct.2, found, others]
        rfl
      · have found : value? (pair :: rest) key = value? rest key := by
          rw [value?, List.find?_cons_of_neg (by simpa using here)]
          rfl
        rw [List.filter_cons_of_neg (by simpa using here), ih distinct.2, found]

theorem perm_value?_append_without (distinct : (pairs.map Prod.fst).Nodup) (key : κ) :
    pairs.Perm ((value? pairs key).toList.map (fun value => (key, value))
      ++ without pairs key) := by
  rw [← filter_key distinct]
  exact (List.filter_append_perm (fun pair => pair.1 == key) pairs).symm

theorem value?_eq_some_iff (distinct : (pairs.map Prod.fst).Nodup) {value : α} :
    value? pairs key = some value ↔ (key, value) ∈ pairs := by
  rw [(perm_value?_append_without distinct key).mem_iff]
  simp [without]

/-- Pairs that are taken away are not found, and the others as before. -/
theorem find?_filter_ne [DecidableEq κ] (pairs : List (κ × α)) (key other : κ) :
    (pairs.filter fun pair => pair.1 != other).find? (fun pair => pair.1 == key)
      = if other = key then none else pairs.find? fun pair => pair.1 == key := by
  rw [List.find?_filter]
  by_cases same : other = key
  · rw [if_pos same]
    simp [same]
  · rw [if_neg same]
    congr 1
    funext pair
    by_cases listed : pair.1 = key
    · simp [listed, Ne.symm same]
    · simp [listed]

end Inference.Keyed
