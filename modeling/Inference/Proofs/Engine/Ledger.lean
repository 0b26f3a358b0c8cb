/-
The book of outstanding outputs.

A ledger books what the operations on outstanding frames answer: what was entered, under which
number, and what was handed to a caller or taken out to be dropped.  Over any uses, with numbers
that were never given out or are gone, the numbers are given out one after another, and each entry
is in the set, was handed out or was dropped, and only one of these and only once.
`Ledger.Balanced` is the invariant, `Ledger.Balanced.book` one use of a ledger, and
`Ledger.Balanced.accounts` what comes of it.
-/
import Mathlib.Data.List.Induction
import Mathlib.Data.List.Nodup
import Inference.Engine.Outstanding
import Inference.Proofs.Keyed

namespace Inference.Outstanding

/-! ### Uses -/

/-- What is asked of a set of outstanding frames. -/
inductive Use where
  | add (frame : Frame)
  | take (number : Nat)
  | remove (number : Nat)
  | keepOnly (keep : Option Nat)
  deriving DecidableEq

/-- The frame that a use brings in. -/
def Use.frame? : Use → Option Frame
  | .add frame => some frame
  | _ => none

/-- The frames that uses bring in, one after another. -/
def framesOf (uses : List Use) : List Frame := uses.filterMap Use.frame?

/-- The set, and what its operations have answered so far, each frame under its number. -/
structure Ledger where
  set : Outstanding := {}
  entered : List (Nat × Frame) := []
  handed : List (Nat × Frame) := []
  dropped : List (Nat × Frame) := []
  deriving DecidableEq

namespace Ledger

/-- The numbers in a set. -/
def numbers (set : Outstanding) : List Nat := set.entries.map Prod.fst

/-- Books what one use answers.  Frames that make room for one to be kept go with the numbers that
are no longer there. -/
def book (ledger : Ledger) : Use → Ledger
  | .add frame =>
      let (number, set) := ledger.set.add frame
      { ledger with set, entered := ledger.entered ++ [(number, frame)] }
  | .take number =>
      let (frame, set) := ledger.set.take number
      { ledger with set, handed := ledger.handed ++ frame.toList.map fun frame => (number, frame) }
  | .remove number =>
      let (frame, set) := ledger.set.remove number
      { ledger with set, dropped := ledger.dropped
        ++ frame.toList.map fun frame => (number, frame) }
  | .keepOnly keep =>
      let (frames, set) := ledger.set.keepOnly keep
      let gone := (numbers ledger.set).filter fun number => number ∉ numbers set
      { ledger with set, dropped := ledger.dropped ++ gone.zip frames }

/-- The book of uses one after another, of a set that was empty. -/
def ofUses (uses : List Use) : Ledger := uses.foldl book {}

/-! ### What a use changes -/

theorem find?_eq (set : Outstanding) (number : Nat) :
    set.find? number = Keyed.value? set.entries number := rfl

theorem entries_erase (set : Outstanding) (number : Nat) :
    (set.erase number).entries = Keyed.without set.entries number := rfl

theorem gone_zip (set : Outstanding) (keep : Option Nat) :
    ((numbers set).filter fun number => number ∉ numbers (set.keepOnly keep).2).zip
        (set.keepOnly keep).1
      = set.entries.filter fun entry => some entry.1 != keep := by
  have gone : ((numbers set).filter fun number => number ∉ numbers (set.keepOnly keep).2)
      = (set.entries.filter fun entry => some entry.1 != keep).map Prod.fst := by
    show (set.entries.map Prod.fst).filter _ = _
    rw [List.filter_map]
    congr 1
    refine List.filter_congr fun entry member => ?_
    -- A number stays exactly if it is the one to keep.
    have stays : entry.1 ∈ numbers (set.keepOnly keep).2 ↔ some entry.1 = keep := by
      simp only [numbers, keepOnly, List.mem_map, List.mem_filter, beq_iff_eq]
      exact ⟨fun ⟨other, ⟨_, kept⟩, same⟩ => same ▸ kept, fun kept => ⟨entry, ⟨member, kept⟩, rfl⟩⟩
    by_cases kept : some entry.1 = keep <;> simp [stays, kept]
  rw [gone, keepOnly, List.zip_map']
  simp

/-! ### The balance -/

/-- A ledger is in balance if the numbers were given out one after another, the last one by now, and
what was entered is what is still there, what was handed out and what was dropped. -/
structure Balanced (ledger : Ledger) : Prop where
  counted : ledger.entered.map Prod.fst = List.range' 1 ledger.set.last
  placed : ledger.entered.Perm (ledger.set.entries ++ ledger.handed ++ ledger.dropped)

theorem Balanced.nodup {ledger : Ledger} (h : ledger.Balanced) :
    (ledger.entered.map Prod.fst).Nodup := by
  rw [h.counted]
  exact List.nodup_range'

theorem Balanced.nodup_places {ledger : Ledger} (h : ledger.Balanced) :
    (ledger.set.entries.map Prod.fst ++ ledger.handed.map Prod.fst
      ++ ledger.dropped.map Prod.fst).Nodup := by
  have nodup := h.nodup
  rwa [(h.placed.map Prod.fst).nodup_iff, List.map_append, List.map_append] at nodup

theorem Balanced.nodup_set {ledger : Ledger} (h : ledger.Balanced) :
    (ledger.set.entries.map Prod.fst).Nodup :=
  (List.nodup_append.1 (List.nodup_append.1 h.nodup_places).1).1

theorem Balanced.count_entries {ledger : Ledger} (h : ledger.Balanced) (number : Nat)
    (entry : Nat × Frame) : ledger.set.entries.count entry
      = ((ledger.set.find? number).toList.map fun frame => (number, frame)).count entry
        + (ledger.set.erase number).entries.count entry := by
  rw [find?_eq, entries_erase, ← List.count_append]
  exact (Keyed.perm_value?_append_without h.nodup_set number).count_eq entry

/-- Every use leaves a ledger in balance. -/
theorem Balanced.book {ledger : Ledger} (h : ledger.Balanced) (use : Use) :
    (ledger.book use).Balanced := by
  cases use with
  | add frame =>
      refine ⟨?_, ?_⟩
      · show (ledger.entered ++ [(ledger.set.last + 1, frame)]).map Prod.fst
          = List.range' 1 (ledger.set.last + 1)
        rw [List.map_append, h.counted, List.range'_concat]
        simp [Nat.add_comm]
      · show (ledger.entered ++ [(ledger.set.last + 1, frame)]).Perm
          ((ledger.set.entries ++ [(ledger.set.last + 1, frame)]) ++ ledger.handed
            ++ ledger.dropped)
        refine List.perm_iff_count.2 fun entry => ?_
        have before := h.placed.count_eq entry
        simp only [List.count_append] at before ⊢
        omega
  | take number =>
      refine ⟨h.counted, List.perm_iff_count.2 fun entry => ?_⟩
      have before := h.placed.count_eq entry
      have parts := h.count_entries number entry
      simp only [Ledger.book, take, List.count_append] at before ⊢
      omega
  | remove number =>
      refine ⟨h.counted, List.perm_iff_count.2 fun entry => ?_⟩
      have before := h.placed.count_eq entry
      have parts := h.count_entries number entry
      simp only [Ledger.book, remove, List.count_append] at before ⊢
      omega
  | keepOnly keep =>
      refine ⟨h.counted, List.perm_iff_count.2 fun entry => ?_⟩
      have before := h.placed.count_eq entry
      have parts := (List.filter_append_perm (fun entry => some entry.1 == keep)
        ledger.set.entries).count_eq entry
      have gone := gone_zip ledger.set keep
      simp only [Ledger.book, gone]
      simp only [keepOnly, bne, List.count_append] at before parts ⊢
      omega

theorem balanced_ofUses (uses : List Use) : (ofUses uses).Balanced := by
  suffices run : ∀ ledger : Ledger, ledger.Balanced → (uses.foldl book ledger).Balanced from
    run {} ⟨rfl, .refl _⟩
  induction uses with
  | nil => exact fun _ h => h
  | cons use rest ih => exact fun ledger h => ih _ (h.book use)

/-- What is entered are the frames that uses bring in. -/
theorem entered_ofUses (uses : List Use) : (ofUses uses).entered.map Prod.snd = framesOf uses := by
  induction uses using List.reverseRecOn with
  | nil => rfl
  | append_singleton uses use ih =>
      have last : ofUses (uses ++ [use]) = (ofUses uses).book use := by
        rw [ofUses, List.foldl_append]
        rfl
      rw [last, framesOf, List.filterMap_append, ← framesOf, ← ih]
      cases use <;> simp [book, add, Use.frame?]

theorem entered_eq (uses : List Use) :
    (ofUses uses).entered = (List.range' 1 (framesOf uses).length).zip (framesOf uses) := by
  have counted := (balanced_ofUses uses).counted
  have brought := entered_ofUses uses
  have last : (framesOf uses).length = (ofUses uses).set.last := by
    rw [← brought, List.length_map, ← List.length_map Prod.fst, counted, List.length_range']
  rw [last, ← counted, ← brought, List.zip_map']
  simp

/-! ### What the ledger says -/

/-- A ledger that accounts for the frames that were brought in. -/
structure Accounts (ledger : Ledger) (frames : List Frame) : Prop where
  /-- They are entered under one, two, three and so on. -/
  entered : ledger.entered = (List.range' 1 frames.length).zip frames
  distinct : (ledger.entered.map Prod.fst).Nodup
  /-- The numbers are words if a word can count the frames. -/
  words : frames.length < wordLimit → ∀ number ∈ ledger.entered.map Prod.fst, number < wordLimit
  /-- Each is in one of three places, and there once. -/
  once : ∀ entry ∈ ledger.entered, ledger.set.entries.count entry + ledger.handed.count entry
    + ledger.dropped.count entry = 1
  /-- Nothing is in these places that was not entered. -/
  known : ∀ entry ∈ ledger.set.entries ++ ledger.handed ++ ledger.dropped, entry ∈ ledger.entered
  /-- A number is in the set as long as it was neither handed out nor dropped. -/
  there : ∀ number, number ∈ numbers ledger.set ↔ number ∈ ledger.entered.map Prod.fst
    ∧ number ∉ ledger.handed.map Prod.fst ∧ number ∉ ledger.dropped.map Prod.fst
  size : ledger.set.size + ledger.handed.length + ledger.dropped.length = frames.length
  /-- Just the numbers in the set can be taken and removed, with the frames entered under them. -/
  taken : ∀ number, ((ledger.set.take number).1.isSome ↔ number ∈ numbers ledger.set)
    ∧ ∀ frame, (ledger.set.take number).1 = some frame ↔ (number, frame) ∈ ledger.set.entries
  removed : ∀ number, ((ledger.set.remove number).1.isSome ↔ number ∈ numbers ledger.set)
    ∧ ∀ frame, (ledger.set.remove number).1 = some frame ↔ (number, frame) ∈ ledger.set.entries
  /-- Other numbers leave the set as it is. -/
  refused : ∀ number, number ∉ numbers ledger.set →
    ledger.set.take number = (none, ledger.set) ∧ ledger.set.remove number = (none, ledger.set)
  /-- Of all entries but one, that one is left if it is there, and the others are counted. -/
  spared : ∀ keep, (ledger.set.keepOnly keep).2.entries
      = (keep.bind fun number => (ledger.set.find? number).map fun frame => (number, frame)).toList
    ∧ (ledger.set.keepOnly keep).1.length = ledger.set.size - (ledger.set.keepOnly keep).2.size

theorem entries_keepOnly {set : Outstanding} (distinct : (set.entries.map Prod.fst).Nodup)
    (keep : Option Nat) : (set.keepOnly keep).2.entries
      = (keep.bind fun number => (set.find? number).map fun frame => (number, frame)).toList := by
  cases keep with
  | none => simp [keepOnly]
  | some number =>
      have kept : (set.keepOnly (some number)).2.entries
          = set.entries.filter fun entry => entry.1 == number := by
        refine List.filter_congr fun entry _ => ?_
        simp
      rw [kept, Keyed.filter_key distinct, ← find?_eq, Option.bind_some]
      cases set.find? number <;> rfl

theorem length_keepOnly (set : Outstanding) (keep : Option Nat) :
    (set.keepOnly keep).1.length = set.size - (set.keepOnly keep).2.size := by
  have whole := (List.filter_append_perm (fun entry => some entry.1 == keep) set.entries).length_eq
  rw [List.length_append] at whole
  simp only [keepOnly, size, bne, List.length_map]
  omega

/-- Balance is all that an account needs. -/
theorem Balanced.accounts {ledger : Ledger} {frames : List Frame} (h : ledger.Balanced)
    (entered : ledger.entered = (List.range' 1 frames.length).zip frames) :
    ledger.Accounts frames := by
  have nodup := h.nodup_places
  have taken : ∀ number, ((ledger.set.find? number).isSome ↔ number ∈ numbers ledger.set)
      ∧ ∀ frame, ledger.set.find? number = some frame ↔ (number, frame) ∈ ledger.set.entries :=
    fun number => ⟨Keyed.value?_isSome_iff, fun _ => Keyed.value?_eq_some_iff h.nodup_set⟩
  refine ⟨entered, h.nodup, ?_, ?_, ?_, ?_, ?_, taken, taken, ?_, ?_⟩
  · intro few number member
    rw [entered, List.map_fst_zip (by simp)] at member
    have last := (List.mem_range'_1.1 member).2
    omega
  · intro entry member
    have one := List.count_eq_one_of_mem h.nodup.of_map member
    rw [h.placed.count_eq, List.count_append, List.count_append] at one
    exact one
  · exact fun entry member => h.placed.mem_iff.2 member
  · intro number
    rw [(h.placed.map Prod.fst).mem_iff, List.map_append, List.map_append, List.mem_append,
      List.mem_append]
    rw [List.nodup_append, List.nodup_append] at nodup
    grind [numbers]
  · have whole := h.placed.length_eq
    rw [entered] at whole
    simpa [size, Nat.add_assoc] using whole.symm
  · intro number absent
    have none : ledger.set.find? number = .none := Keyed.value?_eq_none_iff.2 absent
    have same : ledger.set.erase number = ledger.set :=
      congrArg (Outstanding.mk · ledger.set.last) (Keyed.without_of_not_mem absent)
    rw [take, remove, none, same]
    exact ⟨rfl, rfl⟩
  · exact fun keep => ⟨entries_keepOnly h.nodup_set keep, length_keepOnly ledger.set keep⟩

/-- **No outstanding output is lost or doubled.**  Whatever is asked of a set that was empty, with
numbers that may never have been given out or be gone: the numbers are one, two, three and so on,
and each frame that was brought in is in the set, was handed out once or was dropped once.  A
number can be taken or removed exactly while it is in the set, making room leaves the entry to keep
and answers with the others, and the size is what was entered less what was handed out and
dropped. -/
theorem ledger_accounts (uses : List Use) : (ofUses uses).Accounts (framesOf uses) :=
  (balanced_ofUses uses).accounts (entered_eq uses)

/-- Three outputs: the second is taken once, though it is asked for twice, the first makes room for
the third, and that is removed at last. -/
theorem ledger_accounts_for_three :
    let frame (size : Nat) : Frame := Frame.lent {} [List.replicate size 0] ⟨1, size⟩
    let uses : List Use := [.add (frame 1), .add (frame 2), .add (frame 3), .take 2, .remove 2,
      .take 7, .keepOnly (some 3), .remove 3]
    (ofUses uses).Accounts [frame 1, frame 2, frame 3]
    ∧ (ofUses uses).handed = [(2, frame 2)]
    ∧ (ofUses uses).dropped = [(1, frame 1), (3, frame 3)] ∧ (ofUses uses).set.size = 0 := by
  intro frame uses
  exact ⟨ledger_accounts uses, by decide, by decide, by decide⟩

end Ledger

end Inference.Outstanding
