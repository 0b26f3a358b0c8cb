/-
Reading what was written.

A list is cut up again where it was put together, as long as no entry has the separator in it
(`Text.split_join`).  A text without white space is not changed by trimming, and a number is read
back from its digits (`Text.readBelow?_decimal`).  The digits are plain: none of them is white
space, a separator or a sign.
-/
import Inference.Text.Blank
import Inference.Text.Numeral
import Inference.Text.Split

namespace Inference.Text

/-! ### Lists -/

theorem split_of_not_mem {separator : Char} {text : List Char} (plain : separator ∉ text) :
    split separator text = [text] := by
  induction text with
  | nil => rfl
  | cons c rest ih =>
      rw [List.mem_cons, not_or] at plain
      rw [split, if_neg (Ne.symm plain.1), ih plain.2]
      rfl

theorem split_append_cons {separator : Char} {entry : List Char} (plain : separator ∉ entry)
    (rest : List Char) :
    split separator (entry ++ separator :: rest) = entry :: split separator rest := by
  induction entry with
  | nil => rw [List.nil_append, split, if_pos rfl]
  | cons c entry ih =>
      rw [List.mem_cons, not_or] at plain
      rw [List.cons_append, split, if_neg (Ne.symm plain.1), ih plain.2]
      rfl

theorem join_cons_cons (separator entry next : List Char) (rest : List (List Char)) :
    join separator (entry :: next :: rest) = entry ++ separator ++ join separator (next :: rest) :=
  rfl

/-- A list is read back if no entry has the separator in it. -/
theorem split_join {separator : Char} {entries : List (List Char)} (some : entries ≠ [])
    (plain : ∀ entry ∈ entries, separator ∉ entry) :
    split separator (join [separator] entries) = entries := by
  induction entries with
  | nil => exact absurd rfl some
  | cons entry rest ih =>
      have first := plain entry List.mem_cons_self
      cases rest with
      | nil => exact split_of_not_mem first
      | cons next rest =>
          have others := ih (List.cons_ne_nil next rest)
            fun entry member => plain entry (List.mem_cons_of_mem _ member)
          rw [join_cons_cons, List.append_assoc, List.singleton_append, split_append_cons first,
            others]

theorem mem_of_mem_join {separator : List Char} {entries : List (List Char)} {c : Char}
    (h : c ∈ join separator entries) : c ∈ separator ∨ ∃ entry ∈ entries, c ∈ entry := by
  induction entries with
  | nil => cases h
  | cons entry rest ih =>
      cases rest with
      | nil => exact .inr ⟨entry, List.mem_cons_self, h⟩
      | cons next rest =>
          rw [join_cons_cons, List.mem_append, List.mem_append] at h
          rcases h with (inFirst | between) | after
          · exact .inr ⟨entry, List.mem_cons_self, inFirst⟩
          · exact .inl between
          · exact (ih after).imp_right fun ⟨entry, member, inside⟩ =>
              ⟨entry, List.mem_cons_of_mem _ member, inside⟩

/-! ### White space -/

theorem dropWhile_of_unblank {text : List Char} (plain : ∀ c ∈ text, isBlank c = false) :
    text.dropWhile isBlank = text := by
  cases text with
  | nil => rfl
  | cons c rest => exact List.dropWhile_cons_of_neg (by simp [plain c List.mem_cons_self])

/-- Trimming leaves a text without white space as it is. -/
theorem trim_of_unblank {text : List Char} (plain : ∀ c ∈ text, isBlank c = false) :
    trim text = text := by
  have back : ∀ c ∈ text.reverse, isBlank c = false := fun c member =>
    plain c (List.mem_reverse.1 member)
  rw [trim, trimFront, dropWhile_of_unblank plain, trimBack, dropWhile_of_unblank back,
    List.reverse_reverse]

/-! ### Numbers -/

theorem digit_spec (n : Nat) : isDigit (digit n) = true ∧ digitValue (digit n) = n % 10 := by
  have ten : ∀ k < 10, isDigit (Char.ofNat ('0'.toNat + k)) = true
      ∧ digitValue (Char.ofNat ('0'.toNat + k)) = k := by decide
  exact ten (n % 10) (Nat.mod_lt n (by omega))

theorem isBlank_of_isDigit {c : Char} (h : isDigit c = true) : isBlank c = false := by
  unfold isDigit at h
  rw [Bool.and_eq_true, decide_eq_true_eq, decide_eq_true_eq] at h
  have low : 48 ≤ c.toNat := h.1
  have high : c.toNat ≤ 57 := h.2
  simp [isBlank, blankRanges]
  omega

theorem isDigit_of_mem_decimal {n : Nat} {c : Char} (h : c ∈ decimal n) : isDigit c = true := by
  induction n using decimal.induct with
  | case1 n small =>
      rw [decimal, if_pos small, List.mem_singleton] at h
      rw [h]
      exact (digit_spec n).1
  | case2 n large ih =>
      rw [decimal, if_neg large, List.mem_append, List.mem_singleton] at h
      rcases h with front | rfl
      · exact ih front
      · exact (digit_spec n).1

theorem decimal_ne_nil (n : Nat) : decimal n ≠ [] := by
  rw [decimal]
  split <;> simp

theorem readDigits?_append (value : Nat) (front back : List Char) :
    readDigits? value (front ++ back)
      = (readDigits? value front).bind fun value => readDigits? value back := by
  induction front generalizing value with
  | nil => rfl
  | cons c front ih =>
      rw [List.cons_append, readDigits?, readDigits?]
      split
      · exact ih _
      · rfl

theorem readDigits?_decimal (n : Nat) : readDigits? 0 (decimal n) = some n := by
  induction n using decimal.induct with
  | case1 n small =>
      obtain ⟨isDigit, value⟩ := digit_spec n
      rw [decimal, if_pos small, readDigits?, if_pos isDigit, value, readDigits?]
      exact congrArg some (by omega)
  | case2 n large ih =>
      obtain ⟨isDigit, value⟩ := digit_spec n
      rw [decimal, if_neg large, readDigits?_append, ih, Option.bind_some, readDigits?,
        if_pos isDigit, value, readDigits?]
      exact congrArg some (by omega)

/-- A number below the bound is read back as it was printed. -/
theorem readBelow?_decimal {bound n : Nat} (below : n < bound) :
    readBelow? bound (decimal n) = some n := by
  have read : readDecimal? (decimal n) = some n := by
    cases printed : decimal n with
    | nil => exact absurd printed (decimal_ne_nil n)
    | cons c rest =>
        rw [readDecimal?, ← printed]
        · exact readDigits?_decimal n
        · exact List.cons_ne_nil c rest
  have unsigned : ∀ rest, decimal n ≠ '+' :: rest := by
    intro rest signed
    have sign : '+' ∈ decimal n := by
      rw [signed]
      exact List.mem_cons_self
    cases isDigit_of_mem_decimal sign
  unfold readBelow?
  split
  · rename_i signed
    exact absurd signed (unsigned _)
  · show (readDecimal? (decimal n)).bind _ = _
    rw [read]
    exact if_pos below

end Inference.Text
