/-
Options for the backend.

Setting an option takes its earlier value away and puts the new one at the end.  Whatever is set
one after another, what is left is the last pair of each key, in the order in which these pairs
were given: that is a list of places in what was given, which `Kept` tells, and setting one more
pair adds the place behind them all and strikes out the one with the same key (`Kept.setCustom`,
and `Kept.setEach` for a run of pairs).  On a command line each pair is a text with an equals sign,
cut at the first one and trimmed on both sides (`toOptions_of_formed`).
-/
import Inference.Proofs.CommandLine.Shapes
import Inference.Proofs.Keyed
import Inference.Proofs.Text.Spelling

namespace Inference

/-! ### The first separator -/

namespace Text

/-- A text is cut at its first separator. -/
theorem cut?_eq_some_iff {separator : Char} {text before after : List Char} :
    cut? separator text = some (before, after)
      ↔ text = before ++ separator :: after ∧ separator ∉ before := by
  induction text generalizing before with
  | nil => simp [cut?]
  | cons c rest ih =>
      rw [cut?]
      by_cases here : c = separator
      · rw [if_pos here, here]
        cases before with
        | nil => simp
        | cons d before => grind
      · rw [if_neg here]
        cases before with
        | nil => simp [here]
        | cons d before =>
            simp only [Option.map_eq_some_iff, Prod.exists, Prod.mk.injEq, List.cons.injEq]
            grind

theorem cut?_eq_none_iff {separator : Char} {text : List Char} :
    cut? separator text = none ↔ separator ∉ text := by
  constructor
  · intro uncut member
    have cut := ModelChoice.cut?_isSome member
    rw [uncut] at cut
    cases cut
  · intro plain
    cases cut : cut? separator text with
    | none => rfl
    | some sides =>
        obtain ⟨whole, -⟩ := cut?_eq_some_iff.1 cut
        exact absurd (by simp [whole]) plain

end Text

namespace Options

/-! ### The last pair of each key -/

/-- The pair at a place of a list, and no later one has its key. -/
structure LastAt (pairs : List (String × String)) (place : Nat)
    (pair : String × String) : Prop where
  here : pairs[place]? = some pair
  last : ∀ behind later, pairs[behind]? = some later → place < behind → later.1 ≠ pair.1

/-- What is kept of pairs given one after another: the last one of each key, in the order of their
places. -/
def Kept (pairs kept : List (String × String)) : Prop :=
  ∃ placed : List (Nat × String × String), placed.map Prod.snd = kept
    ∧ placed.Pairwise (fun a b => a.1 < b.1)
    ∧ ∀ place pair, (place, pair) ∈ placed ↔ LastAt pairs place pair

theorem LastAt.lt {pairs : List (String × String)} {place : Nat} {pair : String × String}
    (at_ : LastAt pairs place pair) : place < pairs.length :=
  (List.getElem?_eq_some_iff.1 at_.here).1

/-- With one more pair, the last ones are that pair and those that had been last under other
keys. -/
theorem lastAt_append {pairs : List (String × String)} {next other : String × String}
    {place : Nat} :
    LastAt (pairs ++ [next]) place other
      ↔ (LastAt pairs place other ∧ other.1 ≠ next.1) ∨ (place = pairs.length ∧ other = next) := by
  constructor
  · rintro ⟨here, last⟩
    rcases Nat.lt_trichotomy place pairs.length with before | rfl | behind
    · refine .inl ⟨⟨by rwa [List.getElem?_append_left before] at here, ?_⟩, ?_⟩
      · intro behind later there
        have inside := (List.getElem?_eq_some_iff.1 there).1
        exact last behind later (by rwa [List.getElem?_append_left inside])
      · exact (last pairs.length next (by simp) before).symm
    · exact .inr ⟨rfl, by simpa using here.symm⟩
    · rw [List.getElem?_eq_none (by rw [List.length_append]; exact behind)] at here
      cases here
  · rintro (⟨at_, apart⟩ | ⟨rfl, rfl⟩)
    · refine ⟨by rw [List.getElem?_append_left at_.lt, at_.here], ?_⟩
      intro behind later there after
      by_cases inside : behind < pairs.length
      · rw [List.getElem?_append_left inside] at there
        exact at_.last behind later there after
      · rw [List.getElem?_append_right (by omega), List.getElem?_singleton] at there
        split at there
        · cases there
          exact apart.symm
        · cases there
    · refine ⟨by simp, ?_⟩
      intro behind later there after
      rw [List.getElem?_eq_none (by simp; omega)] at there
      cases there

theorem exists_lastAt {pairs : List (String × String)} {key : String}
    (given : key ∈ pairs.map Prod.fst) : ∃ place value, LastAt pairs place (key, value) := by
  induction pairs using List.reverseRecOn with
  | nil => cases given
  | append_singleton pairs next ih =>
      by_cases here : key = next.1
      · subst here
        exact ⟨_, _, lastAt_append.2 (.inr ⟨rfl, rfl⟩)⟩
      · rw [List.map_append, List.mem_append] at given
        obtain ⟨place, value, at_⟩ := ih (given.resolve_right (by simpa using here))
        exact ⟨place, value, lastAt_append.2 (.inl ⟨at_, here⟩)⟩

theorem LastAt.given {pairs : List (String × String)} {place : Nat} {pair : String × String}
    (at_ : LastAt pairs place pair) : pair.1 ∈ pairs.map Prod.fst :=
  List.mem_map_of_mem (List.mem_of_getElem? at_.here)

/-- The same key is last at one place only. -/
theorem LastAt.place_unique {pairs : List (String × String)} {i j : Nat} {a b : String × String}
    (first : LastAt pairs i a) (second : LastAt pairs j b) (same : a.1 = b.1) : i = j := by
  rcases Nat.lt_trichotomy i j with before | here | behind
  · exact absurd same.symm (first.last j b second.here before)
  · exact here
  · exact absurd same (second.last i a first.here behind)

/-! ### What is kept -/

theorem kept_nil : Kept [] [] :=
  ⟨[], rfl, .nil, fun _ _ => ⟨nofun, fun at_ => absurd at_.lt (Nat.not_lt_zero _)⟩⟩

/-- Setting a pair keeps the last pair of each key. -/
theorem Kept.setCustom {pairs : List (String × String)} {options : Options}
    (kept : Kept pairs options.custom) (next : String × String) :
    Kept (pairs ++ [next]) (options.setCustom next.1 next.2).custom := by
  obtain ⟨placed, whole, ordered, places⟩ := kept
  refine ⟨(placed.filter fun entry => entry.2.1 != next.1) ++ [(pairs.length, next)], ?_, ?_, ?_⟩
  · show _ = (options.custom.filter fun pair => pair.1 != next.1) ++ [next]
    rw [List.map_append, ← whole, List.filter_map]
    rfl
  · rw [List.pairwise_append]
    refine ⟨ordered.filter _, List.pairwise_singleton _ _, ?_⟩
    intro entry member new only
    rw [List.mem_singleton.1 only]
    exact ((places _ _).1 (List.mem_filter.1 member).1).lt
  · intro place pair
    rw [lastAt_append, ← places]
    simp

theorem Kept.distinct {pairs kept : List (String × String)} (h : Kept pairs kept) :
    (kept.map Prod.fst).Nodup := by
  obtain ⟨placed, rfl, ordered, places⟩ := h
  rw [List.map_map, List.Nodup, List.pairwise_map]
  refine ordered.imp_of_mem ?_
  intro a b first second before same
  have i := (places a.1 a.2).1 first
  have j := (places b.1 b.2).1 second
  exact absurd (i.place_unique j same) (Nat.ne_of_lt before)

theorem Kept.mem_iff {pairs kept : List (String × String)} (h : Kept pairs kept)
    {pair : String × String} : pair ∈ kept ↔ ∃ place, LastAt pairs place pair := by
  obtain ⟨placed, rfl, -, places⟩ := h
  simp only [← places, List.mem_map, Prod.exists, exists_eq_right]

/-! ### Values -/

theorem valueFor?_eq (options : Options) (key : String) :
    options.valueFor? key = Keyed.value? options.custom key := rfl

/-- What options hold after pairs were set one after another. -/
structure Holds (options : Options) (pairs : List (String × String)) : Prop where
  kept : Kept pairs options.custom
  distinct : (options.custom.map Prod.fst).Nodup
  value : ∀ key value, options.valueFor? key = some value ↔ ∃ place, LastAt pairs place (key, value)
  absent : ∀ key, options.valueFor? key = none ↔ key ∉ pairs.map Prod.fst

theorem Kept.holds {options : Options} {pairs : List (String × String)}
    (kept : Kept pairs options.custom) : options.Holds pairs := by
  have value : ∀ key value, options.valueFor? key = some value
      ↔ ∃ place, LastAt pairs place (key, value) := fun key value => by
    rw [valueFor?_eq, Keyed.value?_eq_some_iff kept.distinct, kept.mem_iff]
  refine ⟨kept, kept.distinct, value, fun key => ?_⟩
  rw [Option.eq_none_iff_forall_ne_some]
  constructor
  · intro none given
    obtain ⟨place, last, at_⟩ := exists_lastAt given
    exact none last ((value key last).2 ⟨place, at_⟩)
  · intro absent last found
    obtain ⟨place, at_⟩ := (value key last).1 found
    exact absent at_.given

/-- Sets options of the backend one after another. -/
def setEach (options : Options) (pairs : List (String × String)) : Options :=
  pairs.foldl (fun options pair => options.setCustom pair.1 pair.2) options

/-- Whatever had been set before, the last pair of each key is kept. -/
theorem Kept.setEach {before : List (String × String)} {options : Options}
    (kept : Kept before options.custom) (pairs : List (String × String)) :
    Kept (before ++ pairs) (options.setEach pairs).custom := by
  induction pairs generalizing before options with
  | nil => simpa [Options.setEach] using kept
  | cons next rest ih => simpa [Options.setEach] using ih (kept.setCustom next)

theorem holds_setEach {options : Options} (none : options.custom = [])
    (pairs : List (String × String)) : (options.setEach pairs).Holds pairs := by
  have start : Kept [] options.custom := by
    rw [none]
    exact kept_nil
  exact (start.setEach pairs).holds

theorem setEach_eq (options : Options) (pairs : List (String × String)) :
    options.setEach pairs = { options with custom := (options.setEach pairs).custom } := by
  induction pairs generalizing options with
  | nil => rfl
  | cons next rest ih => exact ih (options.setCustom next.1 next.2)

end Options

namespace ModelChoice

/-! ### Texts of pairs -/

/-- The pair that a text spells: a key and a value on the two sides of the first equals sign,
without the white space around them. -/
structure Spells (text : String) (pair : String × String) : Prop where
  sides : ∃ before after, text.toList = before ++ '=' :: after ∧ '=' ∉ before
    ∧ Text.Core before pair.1.toList ∧ Text.Core after pair.2.toList

theorem exists_spells {text : String} (formed : '=' ∈ text.toList) : ∃ pair, Spells text pair := by
  obtain ⟨⟨before, after⟩, cut⟩ := Option.isSome_iff_exists.1 (cut?_isSome formed)
  obtain ⟨whole, first⟩ := Text.cut?_eq_some_iff.1 cut
  refine ⟨(String.ofList (Text.trim before), String.ofList (Text.trim after)), before, after, whole,
    first, ?_, ?_⟩
  · simpa using Text.trim_eq_iff.1 rfl
  · simpa using Text.trim_eq_iff.1 rfl

theorem addCustom_cons {text : String} {pair : String × String} (spelled : Spells text pair)
    (options : Options) (rest : List String) :
    addCustom options (text :: rest) = addCustom (options.setCustom pair.1 pair.2) rest := by
  obtain ⟨before, after, whole, first, key, value⟩ := spelled
  rw [addCustom, Text.cut?_eq_some_iff.2 ⟨whole, first⟩]
  simp [key.trim_eq, value.trim_eq]

theorem addCustom_of_spells {texts : List String} {pairs : List (String × String)}
    (spelled : List.Forall₂ Spells texts pairs) (options : Options) (rest : List String) :
    addCustom options (texts ++ rest) = addCustom (options.setEach pairs) rest := by
  induction spelled generalizing options with
  | nil => rfl
  | @cons text pair texts pairs first _ ih =>
      rw [List.cons_append, addCustom_cons first, ih]
      rfl

theorem exists_forall₂_spells {texts : List String} (formed : ∀ text ∈ texts, '=' ∈ text.toList) :
    ∃ pairs, List.Forall₂ Spells texts pairs := by
  induction texts with
  | nil => exact ⟨[], .nil⟩
  | cons text rest ih =>
      rw [List.forall_mem_cons] at formed
      obtain ⟨pair, first⟩ := exists_spells formed.1
      obtain ⟨pairs, others⟩ := ih formed.2
      exact ⟨pair :: pairs, .cons first others⟩

theorem exists_first_malformed {texts : List String}
    (some : ¬ ∀ text ∈ texts, '=' ∈ text.toList) : ∃ before text after,
      texts = before ++ text :: after ∧ (∀ earlier ∈ before, '=' ∈ earlier.toList)
        ∧ '=' ∉ text.toList := by
  induction texts with
  | nil => exact absurd nofun some
  | cons text rest ih =>
      by_cases formed : '=' ∈ text.toList
      · obtain ⟨before, bad, after, rfl, earlier, plain⟩ :=
          ih fun all => some (List.forall_mem_cons.2 ⟨formed, all⟩)
        exact ⟨text :: before, bad, after, rfl, List.forall_mem_cons.2 ⟨formed, earlier⟩, plain⟩
      · exact ⟨[], text, rest, rfl, nofun, formed⟩

/-- The first text without an equals sign is what is reported. -/
theorem addCustom_of_malformed {before after : List String} {text : String}
    (formed : ∀ earlier ∈ before, '=' ∈ earlier.toList) (plain : '=' ∉ text.toList)
    (options : Options) :
    addCustom options (before ++ text :: after)
      = .error (.invalidParameter ("custom option '" ++ text
        ++ "' is not in the form key=value")) := by
  obtain ⟨pairs, spelled⟩ := exists_forall₂_spells formed
  rw [addCustom_of_spells spelled, addCustom, Text.cut?_eq_none_iff.2 plain]

/-- The options that a model is opened with if no others are given. -/
def plainOptions (arguments : ModelChoice) : Options :=
  { Options.ofModel arguments.model with
    framework := arguments.framework, accelerator := arguments.accelerator
    timeout := arguments.timeout }

theorem toOptions_without (arguments : ModelChoice) :
    arguments.withoutInput.withoutOutput.toOptions
      = addCustom arguments.plainOptions arguments.custom := rfl

theorem toOptions_of_formed {arguments : ModelChoice}
    (formed : ∀ text ∈ arguments.custom, '=' ∈ text.toList) : ∃ pairs,
      List.Forall₂ Spells arguments.custom pairs
      ∧ arguments.withoutInput.withoutOutput.toOptions
        = .ok (arguments.plainOptions.setEach pairs) := by
  obtain ⟨pairs, spelled⟩ := exists_forall₂_spells formed
  have all := addCustom_of_spells spelled arguments.plainOptions []
  rw [List.append_nil] at all
  exact ⟨pairs, spelled, all⟩

theorem toOptions_of_malformed {arguments : ModelChoice} {before after : List String}
    {text : String} (whole : arguments.custom = before ++ text :: after)
    (formed : ∀ earlier ∈ before, '=' ∈ earlier.toList) (plain : '=' ∉ text.toList) :
    arguments.withoutInput.withoutOutput.toOptions = .error (.invalidParameter
      ("custom option '" ++ text ++ "' is not in the form key=value")) := by
  rw [toOptions_without, whole]
  exact addCustom_of_malformed formed plain arguments.plainOptions

theorem formed_of_toOptions {arguments : ModelChoice} {options : Options}
    (taken : arguments.withoutInput.withoutOutput.toOptions = .ok options) :
    ∀ text ∈ arguments.custom, '=' ∈ text.toList := by
  by_contra some
  obtain ⟨before, text, after, whole, formed, plain⟩ := exists_first_malformed some
  cases (toOptions_of_malformed whole formed plain).symm.trans taken

/-- **Of the options for the backend the last value of each key is kept.**  Without shapes, the
options of a command line can be made exactly if each text for the backend has an equals sign, and
the first that has none is reported.  They then hold what these texts spell: the last pair of each
key and no other, in the order of these last pairs, and a key's value is that of its last pair.  So
it is with any pairs set one after another, where nothing is trimmed. -/
theorem last_custom_value_kept (arguments : ModelChoice) :
    ((∃ options, arguments.withoutInput.withoutOutput.toOptions = .ok options)
        ↔ ∀ text ∈ arguments.custom, '=' ∈ text.toList)
    ∧ (∀ before text after, arguments.custom = before ++ text :: after →
        (∀ earlier ∈ before, '=' ∈ earlier.toList) → '=' ∉ text.toList →
        arguments.withoutInput.withoutOutput.toOptions = .error (.invalidParameter
          ("custom option '" ++ text ++ "' is not in the form key=value")))
    ∧ (∀ options, arguments.withoutInput.withoutOutput.toOptions = .ok options →
        options = { arguments.plainOptions with custom := options.custom }
        ∧ ∃ pairs, List.Forall₂ Spells arguments.custom pairs ∧ options.Holds pairs)
    ∧ ∀ (options : Options) (pairs : List (String × String)), options.custom = [] →
        options.setEach pairs = { options with custom := (options.setEach pairs).custom }
        ∧ (options.setEach pairs).Holds pairs := by
  refine ⟨⟨fun ⟨options, taken⟩ => formed_of_toOptions taken, fun formed => ?_⟩, ?_, ?_, ?_⟩
  · obtain ⟨pairs, -, taken⟩ := toOptions_of_formed formed
    exact ⟨_, taken⟩
  · intro before text after whole formed plain
    exact toOptions_of_malformed whole formed plain
  · intro options taken
    obtain ⟨pairs, spelled, all⟩ := toOptions_of_formed (formed_of_toOptions taken)
    cases all.symm.trans taken
    exact ⟨Options.setEach_eq _ _, pairs, spelled, Options.holds_setEach rfl pairs⟩
  · intro options pairs none
    exact ⟨Options.setEach_eq options pairs, Options.holds_setEach none pairs⟩

/-- Keys that differ in white space only are one key, whose last value is kept where it stands. -/
theorem last_custom_value_kept_of_three : ∃ options,
    (({ model := "m.tflite", custom := ["threads=2", "mode=a=b", " threads = 4 "] } :
      ModelChoice).withoutInput.withoutOutput.toOptions = .ok options)
    ∧ options.custom = [("mode", "a=b"), ("threads", "4")]
    ∧ (∃ pairs, options.Holds pairs)
    ∧ options.valueFor? "threads" = some "4" ∧ options.valueFor? "Threads" = none := by
  obtain ⟨taken, -, holds, -⟩ := last_custom_value_kept
    { model := "m.tflite", custom := ["threads=2", "mode=a=b", " threads = 4 "] }
  obtain ⟨options, made⟩ := taken.2 (by decide)
  obtain ⟨-, pairs, -, held⟩ := holds options made
  refine ⟨options, made, ?_, ⟨pairs, held⟩, ?_, ?_⟩ <;>
  · rw [toOptions_without] at made
    cases made
    decide

end ModelChoice

end Inference
