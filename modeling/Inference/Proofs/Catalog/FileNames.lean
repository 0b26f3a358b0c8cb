/-
Frameworks told from file names.

A path is told by its last part.  What may stand behind that part without counting is a `Tail` of
slashes and lone dots, and before it stands nothing or a slash; a file name is told by what follows
its last dot, unless that dot comes first.  Cutting a path at its slashes and a name at its dots
finds just that (`lastPart_iff`, `extension?_append`), so directories and earlier dots play no
part, and neither does the case of ASCII letters.  `told_or_untold` goes through all paths.
-/
import Inference.Options
import Inference.Proofs.Text.Spelling

namespace Inference

/-! ### Cutting at a separator -/

namespace Text

theorem join_append (separator : List Char) {front back : List (List Char)} (some : front ≠ [])
    (more : back ≠ []) :
    join separator (front ++ back)
      = join separator front ++ (separator ++ join separator back) := by
  induction front with
  | nil => exact absurd rfl some
  | cons entry rest ih =>
      obtain ⟨next, others, rfl⟩ := List.exists_cons_of_ne_nil more
      cases rest with
      | nil => simp [join]
      | cons second rest =>
          simp only [List.cons_append] at ih ⊢
          rw [join_cons_cons, join_cons_cons, ih (by simp)]
          simp

/-- The parts before a separator and those behind it are found apart from each other. -/
theorem split_append (separator : Char) (front back : List Char) :
    split separator (front ++ separator :: back)
      = split separator front ++ split separator back := by
  refine split_eq_iff.2 ⟨by simp [split_ne_nil], ?_, ?_⟩
  · rw [join_append _ (split_ne_nil _ _) (split_ne_nil _ _), join_split, join_split]
    simp
  · intro part member
    exact (List.mem_append.1 member).elim not_mem_of_mem_split not_mem_of_mem_split

/-! ### The case of letters -/

theorem toNat_lowerChar (c : Char) : (lowerChar c).toNat
    = if 65 ≤ c.toNat ∧ c.toNat ≤ 90 then c.toNat + 32 else c.toNat := by
  by_cases upper : 65 ≤ c.toNat ∧ c.toNat ≤ 90
  · have valid : (c.toNat + 32).isValidChar := by
      simp [Nat.isValidChar]
      omega
    have lowered : lowerChar c = Char.ofNat (c.toNat + 32) := if_pos (by simpa using upper)
    rw [if_pos upper, lowered, Char.ofNat, dif_pos valid]
    rfl
  · have same : lowerChar c = c := if_neg (by simpa using upper)
    rw [if_neg upper, same]

theorem lowerChar_eq_iff {separator c : Char} (below : separator.toNat < 65) :
    lowerChar c = separator ↔ c = separator := by
  rw [← Char.toNat_inj, ← Char.toNat_inj, toNat_lowerChar]
  split <;> omega

theorem lowerChar_lowerChar (c : Char) : lowerChar (lowerChar c) = lowerChar c := by
  rw [← Char.toNat_inj, toNat_lowerChar (lowerChar c), toNat_lowerChar c]
  grind

theorem lower_lower (text : List Char) : lower (lower text) = lower text := by
  simp [lower, lowerChar_lowerChar]

theorem split_lower {separator : Char} (below : separator.toNat < 65) (text : List Char) :
    split separator (lower text) = (split separator text).map lower := by
  induction text with
  | nil => rfl
  | cons c rest ih =>
      show split separator (lowerChar c :: lower rest) = _
      rw [split, split]
      by_cases here : c = separator
      · rw [if_pos here, if_pos ((lowerChar_eq_iff below).2 here), ih]
        rfl
      · rw [if_neg here, if_neg (mt (lowerChar_eq_iff below).1 here), ih]
        cases split separator rest <;> rfl

end Text

namespace Framework

/-! ### The last part of a path -/

/-- What may stand behind the last part of a path without counting. -/
inductive Tail : List Char → Prop where
  | nil : Tail []
  | slash {rest : List Char} (tail : Tail rest) : Tail ('/' :: rest)
  | dot {rest : List Char} (tail : Tail rest) : Tail ('/' :: '.' :: rest)

/-- The last part of a path, which is neither empty nor a lone dot. -/
structure LastPart (path part : List Char) : Prop where
  around : ∃ front back, path = front ++ (part ++ back)
    ∧ (front = [] ∨ ∃ directory, front = directory ++ ['/']) ∧ Tail back
  uncut : '/' ∉ part
  some : part ≠ []
  named : part ≠ ['.']

/-- Whether a part of a path counts wherever it stands. -/
def counts (part : List Char) : Bool := !part.isEmpty && part != ['.']

theorem counts_eq_true {part : List Char} : counts part = true ↔ part ≠ [] ∧ part ≠ ['.'] := by
  simp [counts]

theorem counts_eq_false {part : List Char} : counts part = false ↔ part = [] ∨ part = ['.'] := by
  simp [counts, Classical.or_iff_not_imp_left]

/-- The last part that counts, as it is found. -/
def lastPart? (path : List Char) : Option (List Char) :=
  ((Text.split '/' path).filter counts).getLast?

theorem lastPart?_eq_some_iff {path part : List Char} :
    lastPart? path = some part ↔ ∃ before after, Text.split '/' path = before ++ part :: after
      ∧ counts part = true ∧ ∀ idle ∈ after, counts idle = false := by
  rw [lastPart?, List.getLast?_filter, List.find?_eq_some_iff_append]
  constructor
  · rintro ⟨counted, after, before, cut, idle⟩
    refine ⟨before.reverse, after.reverse, ?_, counted, ?_⟩
    · rw [← List.reverse_reverse (Text.split '/' path), cut]
      simp
    · simpa using idle
  · rintro ⟨before, after, cut, counted, idle⟩
    refine ⟨counted, after.reverse, before.reverse, ?_, ?_⟩
    · rw [cut]
      simp
    · simpa using idle

/-- Parts that do not count make up a tail. -/
theorem tail_of_idle {after : List (List Char)} (idle : ∀ part ∈ after, counts part = false)
    (part : List Char) : ∃ back, Text.join ['/'] (part :: after) = part ++ back ∧ Tail back := by
  induction after generalizing part with
  | nil => exact ⟨[], by simp [Text.join], .nil⟩
  | cons next rest ih =>
      obtain ⟨back, joined, tail⟩ :=
        ih (fun other member => idle other (List.mem_cons_of_mem _ member))
        next
      refine ⟨'/' :: (next ++ back), ?_, ?_⟩
      · rw [Text.join_cons_cons, joined]
        simp
      · rcases counts_eq_false.1 (idle next List.mem_cons_self) with rfl | rfl
        · exact .slash tail
        · exact .dot tail

/-- A tail is cut up into parts that do not count. -/
theorem idle_of_tail {back : List Char} (tail : Tail back) {part : List Char} (uncut : '/' ∉ part) :
    ∃ after, Text.split '/' (part ++ back) = part :: after
      ∧ ∀ idle ∈ after, counts idle = false := by
  induction tail generalizing part with
  | nil => exact ⟨[], by simp [Text.split_of_not_mem uncut], by simp⟩
  | @slash rest tail ih =>
      obtain ⟨after, cut, idle⟩ := @ih [] (by simp)
      refine ⟨[] :: after, ?_, List.forall_mem_cons.2 ⟨rfl, idle⟩⟩
      rw [Text.split_append_cons uncut, ← cut]
      rfl
  | @dot rest tail ih =>
      obtain ⟨after, cut, idle⟩ := @ih ['.'] (by simp)
      refine ⟨['.'] :: after, ?_, List.forall_mem_cons.2 ⟨rfl, idle⟩⟩
      rw [Text.split_append_cons uncut, ← cut]
      rfl

/-- Cutting a path finds its last part. -/
theorem lastPart_iff {path part : List Char} : LastPart path part ↔ lastPart? path = some part := by
  rw [lastPart?_eq_some_iff]
  constructor
  · rintro ⟨⟨front, back, rfl, start, tail⟩, uncut, some, named⟩
    have counted := counts_eq_true.2 ⟨some, named⟩
    obtain ⟨after, cut, idle⟩ := idle_of_tail tail uncut
    rcases start with rfl | ⟨directory, rfl⟩
    · exact ⟨[], after, cut, counted, idle⟩
    · refine ⟨Text.split '/' directory, after, ?_, counted, idle⟩
      rw [List.append_assoc, List.singleton_append, Text.split_append, cut]
  · rintro ⟨before, after, cut, counted, idle⟩
    obtain ⟨some, named⟩ := counts_eq_true.1 counted
    obtain ⟨back, joined, tail⟩ := tail_of_idle idle part
    have uncut : '/' ∉ part := Text.not_mem_of_mem_split (by rw [cut]; simp)
    refine ⟨?_, uncut, some, named⟩
    have whole := Text.join_split '/' path
    rw [cut] at whole
    by_cases first : before = []
    · rw [first, List.nil_append, joined] at whole
      exact ⟨[], back, whole.symm, .inl rfl, tail⟩
    · rw [Text.join_append _ first (by simp), joined] at whole
      refine ⟨Text.join ['/'] before ++ ['/'], back, ?_, .inr ⟨_, rfl⟩, tail⟩
      rw [← whole]
      simp

/-- Behind a part that does not count, a tail leaves no last part. -/
theorem lastPart?_of_tail {part back : List Char} (idle : counts part = false) (uncut : '/' ∉ part)
    (tail : Tail back) : lastPart? (part ++ back) = none := by
  obtain ⟨after, cut, others⟩ := idle_of_tail tail uncut
  rw [lastPart?, cut, List.getLast?_eq_none_iff, List.filter_eq_nil_iff, List.forall_mem_cons]
  exact ⟨by simp [idle], fun other member => by simp [others other member]⟩

/-- A path without a last part leads nowhere, to the root, or stays where it is. -/
theorem lastPart_cases (path : List Char) :
    Tail path ∨ (∃ rest, path = '.' :: rest ∧ Tail rest) ∨ ∃ part, LastPart path part := by
  cases found : lastPart? path with
  | some part => exact .inr (.inr ⟨part, lastPart_iff.2 found⟩)
  | none =>
      rw [lastPart?, List.getLast?_eq_none_iff, List.filter_eq_nil_iff] at found
      obtain ⟨first, after, cut⟩ := List.exists_cons_of_ne_nil (Text.split_ne_nil '/' path)
      rw [cut, List.forall_mem_cons] at found
      obtain ⟨back, joined, tail⟩ :=
        tail_of_idle (fun part member => by simpa using found.2 part member)
        first
      have whole := Text.join_split '/' path
      rw [cut, joined] at whole
      have idle : counts first = false := by simpa using found.1
      rcases counts_eq_false.1 idle with rfl | rfl
      · exact .inl (whole ▸ tail)
      · exact .inr (.inl ⟨back, whole.symm, tail⟩)

/-! ### The name of a file -/

/-- A path leads to the file that its last part names, unless that stands for the directory
above. -/
theorem fileName?_eq (path : List Char) :
    fileName? path = (lastPart? path).filter fun part => part != ['.', '.'] := by
  obtain ⟨first, rest, cut⟩ := List.exists_cons_of_ne_nil (Text.split_ne_nil '/' path)
  have parts : pathParts path
      = (if first.isEmpty then [] else [first]) ++ rest.filter counts := by
    rw [pathParts, cut]
    rfl
  have counted : (first :: rest).filter counts = [first].filter counts ++ rest.filter counts :=
    List.filter_append [first] rest
  rw [fileName?, parts, List.getLast?_append, lastPart?, cut, counted, List.getLast?_append]
  cases last : (rest.filter counts).getLast? with
  | some part =>
      have named := (counts_eq_true.1 (List.mem_filter.1 (List.mem_of_getLast? last)).2).2
      simp [named, Option.filter]
  | none =>
      -- Only here can a lone dot be the last part.
      by_cases empty : first = []
      · simp [empty, counts]
      · by_cases dot : first = ['.'] <;> simp [empty, dot, counts, Option.filter]

theorem fileName?_of_lastPart {path part : List Char} (last : LastPart path part) :
    fileName? path = if part = ['.', '.'] then none else some part := by
  rw [fileName?_eq, lastPart_iff.1 last]
  by_cases above : part = ['.', '.'] <;> simp [above]

theorem extension?_of_plain {name : List Char} (plain : '.' ∉ name) : extension? name = none := by
  rw [extension?, Text.split_of_not_mem plain]

/-- What follows the last dot of a name is its extension, if something stands before that dot. -/
theorem extension?_append {stem ext : List Char} (uncut : '.' ∉ ext) :
    extension? (stem ++ '.' :: ext) = if stem = [] then none else some ext := by
  obtain ⟨first, rest, parts⟩ := List.exists_cons_of_ne_nil (Text.split_ne_nil '.' stem)
  have whole := Text.join_split '.' stem
  rw [parts] at whole
  unfold extension?
  rw [Text.split_append, Text.split_of_not_mem uncut, parts]
  cases rest with
  | nil =>
      -- The dot is the only one, so the stem is what stands before it.
      have same : first = stem := whole
      rw [← same]
      cases first <;> simp
  | cons second rest =>
      have dotted : stem ≠ [] := by
        rw [← whole, Text.join_cons_cons]
        simp
      rw [if_neg dotted]
      simp [List.getLast?_cons]

theorem exists_last_dot {name : List Char} (dotted : '.' ∈ name) :
    ∃ stem ext, name = stem ++ '.' :: ext ∧ '.' ∉ ext := by
  obtain ⟨ext, stem, cut, uncut⟩ := List.eq_append_cons_of_mem (List.mem_reverse.2 dotted)
  refine ⟨stem.reverse, ext.reverse, ?_, by simpa using uncut⟩
  rw [← List.reverse_reverse name, cut]
  simp

/-! ### The table -/

theorem find?_of_listed {entry : String × Framework} (listed : entry ∈ extensions) :
    extensions.find? (fun other => other.1.toList == entry.1.toList) = some entry := by
  have each : ∀ entry ∈ extensions,
      extensions.find? (fun other => other.1.toList == entry.1.toList) = some entry := by
    decide
  exact each entry listed

/-- The framework whose models carry an extension, in any case of its letters. -/
def ofExtension? (ext : List Char) : Option Framework :=
  (extensions.find? fun entry => entry.1.toList == Text.lower ext).map (·.2)

theorem ofExtension?_eq_some_iff {ext : List Char} {framework : Framework} :
    ofExtension? ext = some framework
      ↔ (String.ofList (Text.lower ext), framework) ∈ extensions := by
  constructor
  · intro found
    obtain ⟨⟨text, _⟩, listed, rfl⟩ := Option.map_eq_some_iff.1 found
    have member := List.mem_of_find?_eq_some listed
    have same : text.toList = Text.lower ext := by simpa using List.find?_some listed
    rw [← same, String.ofList_toList]
    exact member
  · intro listed
    have found := find?_of_listed listed
    rw [String.toList_ofList] at found
    rw [ofExtension?, found]
    rfl

theorem ofModelFile?_eq (path : List Char) :
    ofModelFile? path = ((fileName? path).bind extension?).bind ofExtension? := by
  unfold ofModelFile?
  cases fileName? path with
  | none => rfl
  | some name => rfl

theorem ofModelFile?_of_lastPart {path part : List Char} (last : LastPart path part) :
    ofModelFile? path
      = if part = ['.', '.'] then none else (extension? part).bind ofExtension? := by
  rw [ofModelFile?_eq, fileName?_of_lastPart last]
  by_cases above : part = ['.', '.'] <;> simp [above]

/-! ### What plays no part -/

theorem LastPart.prepend {path part : List Char} (last : LastPart path part)
    (directory : List Char) : LastPart (directory ++ '/' :: path) part := by
  obtain ⟨⟨front, back, rfl, start, tail⟩, uncut, some, named⟩ := last
  refine ⟨⟨directory ++ '/' :: front, back, by simp, .inr ?_, tail⟩, uncut, some, named⟩
  rcases start with rfl | ⟨before, rfl⟩
  · exact ⟨directory, rfl⟩
  · exact ⟨directory ++ '/' :: before, by simp⟩

theorem lower_eq_iff {plain : List Char} (below : ∀ c ∈ plain, c.toNat < 65) {text : List Char} :
    Text.lower text = plain ↔ text = plain := by
  induction plain generalizing text with
  | nil => simp [Text.lower]
  | cons c rest ih =>
      rw [List.forall_mem_cons] at below
      cases text with
      | nil => simp [Text.lower]
      | cons d others =>
          show Text.lowerChar d :: Text.lower others = c :: rest ↔ _
          rw [List.cons.injEq, List.cons.injEq, Text.lowerChar_eq_iff below.1, ih below.2]

theorem counts_lower (part : List Char) : counts (Text.lower part) = counts part := by
  rw [Bool.eq_iff_iff, counts_eq_true, counts_eq_true, Ne, Ne, lower_eq_iff (by simp),
    lower_eq_iff (List.forall_mem_singleton.2 (by decide))]

theorem fileName?_lower (path : List Char) :
    fileName? (Text.lower path) = (fileName? path).map Text.lower := by
  have last : lastPart? (Text.lower path) = (lastPart? path).map Text.lower := by
    rw [lastPart?, lastPart?, Text.split_lower (by decide), List.filter_map, List.getLast?_map]
    congr 3
    exact funext counts_lower
  rw [fileName?_eq, fileName?_eq, last]
  cases lastPart? path with
  | none => rfl
  | some part =>
      have above : Text.lower part = ['.', '.'] ↔ part = ['.', '.'] := lower_eq_iff (by simp)
      by_cases up : part = ['.', '.']
      · subst up
        rfl
      · simp [Option.filter, above, up]

theorem extension?_lower (name : List Char) :
    extension? (Text.lower name) = (extension? name).map Text.lower := by
  have dot : ∀ {c : Char}, Text.lowerChar c = '.' ↔ c = '.' := Text.lowerChar_eq_iff (by decide)
  have uncut : ∀ text, '.' ∉ text → '.' ∉ Text.lower text := by
    intro text plain member
    obtain ⟨c, inside, lowered⟩ := List.mem_map.1 member
    exact plain (dot.1 lowered ▸ inside)
  by_cases dotted : '.' ∈ name
  · obtain ⟨stem, ext, rfl, plain⟩ := exists_last_dot dotted
    have cut : Text.lower (stem ++ '.' :: ext) = Text.lower stem ++ '.' :: Text.lower ext := by
      simp [Text.lower, dot.2 rfl]
    have hidden : Text.lower stem = [] ↔ stem = [] := lower_eq_iff (by simp)
    rw [cut, extension?_append (uncut ext plain), extension?_append plain]
    by_cases first : stem = []
    · rw [if_pos first, if_pos (hidden.2 first)]
      rfl
    · rw [if_neg first, if_neg (mt hidden.1 first)]
      rfl
  · rw [extension?_of_plain dotted, extension?_of_plain (uncut name dotted)]
    rfl

theorem ofModelFile?_lower (path : List Char) :
    ofModelFile? (Text.lower path) = ofModelFile? path := by
  rw [ofModelFile?_eq, ofModelFile?_eq, fileName?_lower]
  cases fileName? path with
  | none => rfl
  | some name =>
      show (extension? (Text.lower name)).bind _ = (extension? name).bind _
      rw [extension?_lower]
      cases extension? name with
      | none => rfl
      | some ext =>
          show ofExtension? (Text.lower ext) = ofExtension? ext
          rw [ofExtension?, ofExtension?, Text.lower_lower]

/-! ### What tells the framework -/

/-- The paths that tell a framework: what follows the last dot of the last part stands in the table,
and something stands before that dot. -/
inductive Told : List Char → Framework → Prop where
  | listed {path stem ext : List Char} {framework : Framework}
      (last : LastPart path (stem ++ '.' :: ext)) (shown : stem ≠ []) (uncut : '.' ∉ ext)
      (listed : (String.ofList (Text.lower ext), framework) ∈ extensions) : Told path framework

/-- The paths that tell no framework. -/
inductive Untold : List Char → Prop where
  | nowhere {path : List Char} (idle : Tail path) : Untold path
  | here {rest : List Char} (idle : Tail rest) : Untold ('.' :: rest)
  | above {path : List Char} (last : LastPart path ['.', '.']) : Untold path
  | plain {path name : List Char} (last : LastPart path name) (dotless : '.' ∉ name) : Untold path
  | hidden {path rest : List Char} (last : LastPart path ('.' :: rest)) (dotless : '.' ∉ rest) :
      Untold path
  | foreign {path stem ext : List Char} (last : LastPart path (stem ++ '.' :: ext))
      (uncut : '.' ∉ ext)
      (unlisted : ∀ framework, (String.ofList (Text.lower ext), framework) ∉ extensions) :
        Untold path

/-- What follows the last dot of `..` is empty, and that stands in no table. -/
theorem ne_parent {stem ext : List Char} {framework : Framework} (shown : stem ≠ [])
    (listed : (String.ofList (Text.lower ext), framework) ∈ extensions) :
    stem ++ '.' :: ext ≠ ['.', '.'] := by
  intro above
  have empty : ext = [] := by
    cases stem with
    | nil => exact absurd rfl shown
    | cons first rest => cases rest <;> simp_all
  have named : ∀ entry ∈ extensions, entry.1 ≠ "" := by decide
  exact named _ listed (by rw [empty]; rfl)

theorem Told.found {path : List Char} {framework : Framework} (told : Told path framework) :
    ofModelFile? path = some framework := by
  obtain ⟨last, shown, uncut, listed⟩ := told
  rw [ofModelFile?_of_lastPart last, if_neg (ne_parent shown listed), extension?_append uncut,
    if_neg shown]
  exact ofExtension?_eq_some_iff.2 listed

theorem ofModelFile?_of_unlisted {path part : List Char} (last : LastPart path part)
    (unlisted : (extension? part).bind ofExtension? = none) : ofModelFile? path = none := by
  rw [ofModelFile?_of_lastPart last, unlisted, ite_self]

theorem ofModelFile?_of_lost {path : List Char} (lost : lastPart? path = none) :
    ofModelFile? path = none := by
  rw [ofModelFile?_eq, fileName?_eq, lost]
  rfl

theorem Untold.not_found {path : List Char} (untold : Untold path) : ofModelFile? path = none := by
  cases untold with
  | nowhere idle => exact ofModelFile?_of_lost (@lastPart?_of_tail [] path rfl (by simp) idle)
  | @here rest idle => exact ofModelFile?_of_lost (@lastPart?_of_tail ['.'] rest rfl (by simp) idle)
  | above last => rw [ofModelFile?_of_lastPart last, if_pos rfl]
  | plain last dotless =>
      refine ofModelFile?_of_unlisted last ?_
      rw [extension?_of_plain dotless]
      rfl
  | @hidden _ rest last dotless =>
      refine ofModelFile?_of_unlisted last ?_
      rw [← List.nil_append ('.' :: rest), extension?_append dotless, if_pos rfl]
      rfl
  | @foreign _ stem ext last uncut unlisted =>
      have none : ofExtension? ext = none :=
        Option.eq_none_iff_forall_ne_some.2 fun framework found =>
          unlisted framework (ofExtension?_eq_some_iff.1 found)
      refine ofModelFile?_of_unlisted last ?_
      rw [extension?_append uncut]
      by_cases first : stem = []
      · rw [if_pos first]
        rfl
      · rw [if_neg first]
        exact none

/-- Every path tells a framework or belongs to those that tell none. -/
theorem told_or_untold (path : List Char) : (∃ framework, Told path framework) ∨ Untold path := by
  rcases lastPart_cases path with idle | ⟨rest, rfl, idle⟩ | ⟨name, last⟩
  · exact .inr (.nowhere idle)
  · exact .inr (.here idle)
  · by_cases dotted : '.' ∈ name
    · obtain ⟨stem, ext, rfl, uncut⟩ := exists_last_dot dotted
      by_cases shown : stem = []
      · subst shown
        exact .inr (.hidden last uncut)
      · by_cases listed : ∃ framework, (String.ofList (Text.lower ext), framework) ∈ extensions
        · obtain ⟨framework, listed⟩ := listed
          exact .inl ⟨framework, .listed last shown uncut listed⟩
        · exact .inr (.foreign last uncut (not_exists.1 listed))
    · exact .inr (.plain last dotted)

theorem ofModelFile?_eq_some_iff {path : List Char} {framework : Framework} :
    ofModelFile? path = some framework ↔ Told path framework := by
  refine ⟨fun found => ?_, Told.found⟩
  rcases told_or_untold path with ⟨other, told⟩ | untold
  · cases told.found.symm.trans found
    exact told
  · cases untold.not_found.symm.trans found

theorem ofModelFile?_eq_none_iff {path : List Char} : ofModelFile? path = none ↔ Untold path := by
  refine ⟨fun lost => ?_, Untold.not_found⟩
  rcases told_or_untold path with ⟨framework, told⟩ | untold
  · cases told.found.symm.trans lost
  · exact untold

theorem ofModelFile?_prepend {path name : List Char} (last : LastPart path name)
    (directory : List Char) : ofModelFile? (directory ++ '/' :: path) = ofModelFile? path := by
  rw [ofModelFile?_of_lastPart last, ofModelFile?_of_lastPart (last.prepend directory)]

/-- **The framework of a model file is told by what follows the last dot of its name.**  A path
tells a framework exactly if its last part has an extension that is listed for it in any case of
its letters, and it tells none exactly if it leads nowhere, to the root, to the directory it starts
from or to the one above, or if its last part has no dot, has only one in front, or has one before
a text that is not listed.  So neither a directory in front of the path, whatever dots it has, nor
the case of letters makes a difference, and options that leave the framework open take that of
their first model. -/
theorem framework_told_by_last_extension (path : List Char) :
    (∀ framework, ofModelFile? path = some framework ↔ Told path framework)
    ∧ (ofModelFile? path = none ↔ Untold path)
    ∧ (∀ directory name, LastPart path name →
        ofModelFile? (directory ++ '/' :: path) = ofModelFile? path)
    ∧ (∀ other, Text.lower other = Text.lower path → ofModelFile? other = ofModelFile? path)
    ∧ ∀ options : Options, options.framework = .any →
        options.models.head? = some (String.ofList path) →
        (∀ framework, options.chosenFramework = .ok framework ↔ Told path framework)
        ∧ (options.chosenFramework = .error (.invalidParameter ("cannot tell the framework of '"
            ++ String.ofList path ++ "' from its extension")) ↔ Untold path) := by
  refine ⟨fun _ => ofModelFile?_eq_some_iff, ofModelFile?_eq_none_iff,
    fun directory _ last => ofModelFile?_prepend last directory, ?_, ?_⟩
  · intro other alike
    rw [← ofModelFile?_lower other, alike, ofModelFile?_lower]
  · intro options openly first
    obtain ⟨rest, models⟩ := List.head?_eq_some_iff.1 first
    have chosen : options.chosenFramework = (ofModelFile? path).elim
        (.error (.invalidParameter ("cannot tell the framework of '" ++ String.ofList path
          ++ "' from its extension"))) .ok := by
      rw [Options.chosenFramework, models, openly]
      simp only [String.toList_ofList]
      cases ofModelFile? path <;> rfl
    rw [chosen, ← ofModelFile?_eq_none_iff]
    simp only [← ofModelFile?_eq_some_iff]
    cases ofModelFile? path <;> simp

/-- Dots in directories, slashes behind the name and capital letters do not hide an extension. -/
theorem framework_told_of_upper_case :
    Told "run.v2/Net.v3.TFLite/./".toList .tensorflowLite
    ∧ ofModelFile? "run.v2/Net.v3.TFLite/./".toList = some .tensorflowLite
    ∧ ofModelFile? ("/srv/old.pb".toList ++ '/' :: "run.v2/Net.v3.TFLite/./".toList)
        = some .tensorflowLite
    ∧ ofModelFile? "RUN.V2/net.v3.tflite/./".toList = some .tensorflowLite
    ∧ (Options.ofModel " run.v2/Net.v3.TFLite/./ ,weights.bin").chosenFramework
        = .ok .tensorflowLite := by
  have last : LastPart "run.v2/Net.v3.TFLite/./".toList
      ("Net.v3".toList ++ '.' :: "TFLite".toList) :=
    lastPart_iff.2 (by decide)
  have told : Told "run.v2/Net.v3.TFLite/./".toList .tensorflowLite :=
    .listed last (by decide) (by decide) (by decide)
  obtain ⟨found, _, ahead, cases, chosen⟩ :=
    framework_told_by_last_extension "run.v2/Net.v3.TFLite/./".toList
  have here := (found .tensorflowLite).2 told
  refine ⟨told, here, ?_, ?_, ?_⟩
  · rw [ahead _ _ last, here]
  · rw [cases _ (by decide), here]
  · exact ((chosen _ rfl (by decide)).1 _).2 told

/-- A file whose only dot comes first has no extension, and two dots are no name. -/
example : ofModelFile? "nets.pb/.so".toList = none
    ∧ ofModelFile? "net.pb/..".toList = none := by decide

end Framework

end Inference
