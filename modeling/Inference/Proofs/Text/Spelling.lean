/-
How texts are spelled.

Cutting, trimming and reading a number are functions.  What they do is told here by what a text is
made of: a list is its parts with separators between them, a core may have white space on both
sides, and a numeral is a row of digits that may have one sign in front.  A text can be taken apart
like that in at most one way, and that is what the functions find (`Text.split_eq_iff`,
`Text.trim_eq_iff`, `Text.readBelow?_eq_some_iff`).
-/
import Mathlib.Data.List.DropRight
import Mathlib.Data.Nat.Digits.Defs
import Inference.Proofs.Text.Reading

namespace Inference.Text

/-! ### Lists -/

/-- The parts that a text is put together from, with a separator between each two of them. -/
structure Parts (separator : Char) (text : List Char) (parts : List (List Char)) : Prop where
  some : parts ≠ []
  whole : join [separator] parts = text
  uncut : ∀ part ∈ parts, separator ∉ part

theorem not_mem_of_mem_split {separator : Char} {text entry : List Char}
    (h : entry ∈ split separator text) : separator ∉ entry := by
  induction text generalizing entry with
  | nil =>
      cases List.mem_singleton.1 h
      exact List.not_mem_nil
  | cons c rest ih =>
      rw [split] at h
      split at h
      · rcases List.mem_cons.1 h with rfl | later
        · exact List.not_mem_nil
        · exact ih later
      · rename_i other
        cases cut : split separator rest with
        | nil => exact absurd cut (split_ne_nil separator rest)
        | cons first others =>
            rw [cut] at h ih
            rcases List.mem_cons.1 h with rfl | later
            · rw [List.mem_cons, not_or]
              exact ⟨Ne.symm other, ih List.mem_cons_self⟩
            · exact ih (List.mem_cons_of_mem _ later)

theorem join_consFirst (separator : List Char) (c : Char) {entries : List (List Char)}
    (some : entries ≠ []) :
    join separator (consFirst c entries) = c :: join separator entries := by
  cases entries with
  | nil => exact absurd rfl some
  | cons entry rest => cases rest <;> rfl

theorem join_split (separator : Char) (text : List Char) :
    join [separator] (split separator text) = text := by
  induction text with
  | nil => rfl
  | cons c rest ih =>
      have some := split_ne_nil separator rest
      rw [split]
      split
      · rename_i here
        obtain ⟨first, others, cut⟩ := List.exists_cons_of_ne_nil some
        rw [cut] at ih ⊢
        rw [join_cons_cons, ih, here]
        rfl
      · rw [join_consFirst [separator] c some, ih]

/-- Cutting finds the parts. -/
theorem split_eq_iff {separator : Char} {text : List Char} {parts : List (List Char)} :
    split separator text = parts ↔ Parts separator text parts := by
  constructor
  · rintro rfl
    exact ⟨split_ne_nil separator text, join_split separator text, fun _ => not_mem_of_mem_split⟩
  · rintro ⟨some, rfl, uncut⟩
    exact split_join some uncut

theorem parts_split (separator : Char) (text : List Char) :
    Parts separator text (split separator text) := split_eq_iff.1 rfl

/-! ### White space -/

/-- The core of a text: what is left of it without the white space at its ends. -/
structure Core (text core : List Char) : Prop where
  around : ∃ front back, text = front ++ (core ++ back) ∧ (∀ c ∈ front, isBlank c = true)
    ∧ ∀ c ∈ back, isBlank c = true
  first : ∀ c ∈ core.head?, isBlank c = false
  last : ∀ c ∈ core.getLast?, isBlank c = false

theorem trimFront_eq_self_iff {text : List Char} :
    trimFront text = text ↔ ∀ c ∈ text.head?, isBlank c = false := by
  rw [trimFront, List.dropWhile_eq_self_iff]
  cases text <;> simp

theorem trimBack_eq_self_iff {text : List Char} :
    trimBack text = text ↔ ∀ c ∈ text.getLast?, isBlank c = false := by
  rw [← List.head?_reverse, ← trimFront_eq_self_iff, trimBack, List.reverse_eq_iff]
  rfl

/-- A text that begins like one without white space in front has none there either. -/
theorem trimFront_of_prefix {text whole : List Char} (begins : text <+: whole)
    (bare : trimFront whole = whole) : trimFront text = text := by
  unfold trimFront at bare ⊢
  rw [List.dropWhile_eq_self_iff] at bare ⊢
  intro nonempty
  rw [begins.getElem nonempty]
  exact bare (Nat.lt_of_lt_of_le nonempty begins.length_le)

theorem trim_begins (text : List Char) : trim text <+: trimFront text :=
  List.rdropWhile_prefix isBlank (trimFront text)

theorem trimFront_trim (text : List Char) : trimFront (trim text) = trim text :=
  trimFront_of_prefix (trim_begins text) (List.dropWhile_idempotent isBlank text)

theorem trimBack_trim (text : List Char) : trimBack (trim text) = trim text :=
  List.rdropWhile_idempotent isBlank (trimFront text)

theorem trim_trim (text : List Char) : trim (trim text) = trim text := by
  rw [trim, trimFront_trim, trimBack_trim]

theorem mem_of_mem_trim {text : List Char} {c : Char} (h : c ∈ trim text) : c ∈ text :=
  (List.dropWhile_sublist isBlank).subset ((trim_begins text).subset h)

/-- White space in front is dropped, and nothing behind it. -/
theorem trimFront_append {front text : List Char} (blank : ∀ c ∈ front, isBlank c = true)
    (bare : trimFront text = text) : trimFront (front ++ text) = text := by
  unfold trimFront at bare ⊢
  rw [List.dropWhile_append_of_pos blank, bare]

theorem trimBack_append {text back : List Char} (blank : ∀ c ∈ back, isBlank c = true)
    (bare : trimBack text = text) : trimBack (text ++ back) = text := by
  have blank' : ∀ c ∈ back.reverse, isBlank c = true := fun c member =>
    blank c (List.mem_reverse.1 member)
  have bare' : trimFront text.reverse = text.reverse := List.reverse_eq_iff.1 bare
  show (trimFront (text ++ back).reverse).reverse = text
  rw [List.reverse_append, trimFront_append blank' bare', List.reverse_reverse]

theorem Core.trim_eq {text core : List Char} (h : Core text core) : trim text = core := by
  obtain ⟨⟨front, back, rfl, before, behind⟩, first, last⟩ := h
  by_cases empty : core = []
  · subst empty
    have blank : ∀ c ∈ front ++ back, isBlank c = true := by
      intro c member
      exact (List.mem_append.1 member).elim (before c) (behind c)
    have nothing : trimFront (front ++ back) = [] := List.dropWhile_eq_nil_iff.2 blank
    rw [trim, List.nil_append, nothing]
    rfl
  · have bare : trimFront (core ++ back) = core ++ back := by
      rw [trimFront_eq_self_iff, List.head?_append_of_ne_nil _ empty]
      exact first
    rw [trim, trimFront_append before bare, trimBack_append behind (trimBack_eq_self_iff.2 last)]

/-- Trimming finds the core. -/
theorem trim_eq_iff {text core : List Char} : trim text = core ↔ Core text core := by
  constructor
  · rintro rfl
    have front : text.takeWhile isBlank ++ trimFront text = text := List.takeWhile_append_dropWhile
    have back : trim text ++ (trimFront text).rtakeWhile isBlank = trimFront text :=
      List.rdropWhile_append_rtakeWhile
    refine ⟨⟨text.takeWhile isBlank, (trimFront text).rtakeWhile isBlank, ?_, ?_, ?_⟩, ?_, ?_⟩
    · rw [back, front]
    · exact fun c => List.mem_takeWhile_imp
    · exact fun c => List.mem_rtakeWhile_imp
    · exact trimFront_eq_self_iff.1 (trimFront_trim text)
    · exact trimBack_eq_self_iff.1 (trimBack_trim text)
  · exact Core.trim_eq

/-! ### Numbers -/

/-- The number that a row of digits stands for in the decimal system. -/
def valueOf (digits : List Char) : Nat := Nat.ofDigits 10 (digits.reverse.map digitValue)

/-- A number as it may be spelled: at least one digit, with a `+` in front or without. -/
inductive Numeral : List Char → Nat → Prop where
  | plain {digits : List Char} (some : digits ≠ []) (ascii : ∀ c ∈ digits, isDigit c = true) :
      Numeral digits (valueOf digits)
  | signed {digits : List Char} (some : digits ≠ []) (ascii : ∀ c ∈ digits, isDigit c = true) :
      Numeral ('+' :: digits) (valueOf digits)

theorem valueOf_cons (c : Char) (rest : List Char) :
    valueOf (c :: rest) = valueOf rest + 10 ^ rest.length * digitValue c := by
  simp [valueOf, Nat.ofDigits_append]

theorem readDigits?_eq_some_iff {value n : Nat} {digits : List Char} :
    readDigits? value digits = some n
      ↔ (∀ c ∈ digits, isDigit c = true) ∧ valueOf digits + 10 ^ digits.length * value = n := by
  induction digits generalizing value with
  | nil => simp [readDigits?, valueOf]
  | cons c rest ih =>
      have shifted : valueOf rest + 10 ^ rest.length * (10 * value + digitValue c)
          = valueOf (c :: rest) + 10 ^ (c :: rest).length * value := by
        rw [valueOf_cons, List.length_cons, Nat.pow_succ]
        ring
      rw [readDigits?, List.forall_mem_cons]
      by_cases ascii : isDigit c = true
      · rw [if_pos ascii, ih, shifted]
        simp [ascii]
      · simp [ascii]

/-- Digits are read as what they stand for. -/
theorem readDecimal?_eq_some_iff {n : Nat} {digits : List Char} :
    readDecimal? digits = some n
      ↔ digits ≠ [] ∧ (∀ c ∈ digits, isDigit c = true) ∧ valueOf digits = n := by
  cases digits with
  | nil => simp [readDecimal?]
  | cons c rest =>
      rw [readDecimal?, readDigits?_eq_some_iff, Nat.mul_zero, Nat.add_zero]
      · simp
      · exact List.cons_ne_nil c rest

theorem not_signed_of_isDigit {digits rest : List Char} (ascii : ∀ c ∈ digits, isDigit c = true) :
    digits ≠ '+' :: rest := by
  rintro rfl
  cases ascii '+' List.mem_cons_self

/-- What is read is a numeral, and its value is below the bound. -/
theorem readBelow?_eq_some_iff {bound value : Nat} {text : List Char} :
    readBelow? bound text = some value ↔ Numeral text value ∧ value < bound := by
  have bounded {digits : List Char} :
      ((readDecimal? digits).bind fun value => if value < bound then some value else none)
        = some value ↔ readDecimal? digits = some value ∧ value < bound := by
    cases readDecimal? digits with
    | none => simp
    | some n =>
        simp only [Option.bind_some, Option.ite_none_right_eq_some, Option.some.injEq]
        exact ⟨fun ⟨below, same⟩ => ⟨same, same ▸ below⟩, fun ⟨same, below⟩ => ⟨same ▸ below, same⟩⟩
  unfold readBelow?
  split
  · rename_i rest
    refine bounded.trans (and_congr_left fun _ => ?_)
    rw [readDecimal?_eq_some_iff]
    constructor
    · rintro ⟨some, ascii, rfl⟩
      exact .signed some ascii
    · rintro (⟨-, ascii⟩ | ⟨some, ascii⟩)
      · exact absurd rfl (not_signed_of_isDigit ascii)
      · exact ⟨some, ascii, rfl⟩
  · rename_i unsigned
    refine bounded.trans (and_congr_left fun _ => ?_)
    rw [readDecimal?_eq_some_iff]
    constructor
    · rintro ⟨some, ascii, rfl⟩
      exact .plain some ascii
    · rintro (⟨some, ascii⟩ | ⟨some, ascii⟩)
      · exact ⟨some, ascii, rfl⟩
      · exact absurd rfl (unsigned _)

end Inference.Text
