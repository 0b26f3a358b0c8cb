/-
What a register and its annals have in common.

Every attempt that has an identifier has drawn it, no two have drawn the same, an identifier is on
the table as long as its attempt is open, and a handle was closed once if it is closed and never if
it is open.  All of this holds of an empty register (`Register.Sound.empty`) and is kept by each of
the six steps (`Register.Sound.step`).
-/
import Inference.Proofs.Runtime.Register

namespace Inference

namespace Register

open Crowd (getElem?_append_cases getElem?_append_of_some getElem?_set_of_some set_cases)

/-- The annals of a register are in order. -/
structure Sound (register : Register) (annals : Annals) : Prop where
  /-- Identifiers are drawn in increasing order, and each by an attempt that has none yet. -/
  ordered : annals.drawn.Pairwise fun early late => early.1 ≠ late.1 ∧ early.2 < late.2
  below : ∀ entry ∈ annals.drawn, entry.1 < register.standings.length ∧ entry.2 < register.nextId
  /-- Whoever has an identifier has drawn it. -/
  owned : ∀ (index : Nat) standing id, register.standings[index]? = some standing →
    standing.id? = some id → (index, id) ∈ annals.drawn
  unnumbered : ∀ index : Nat, register.standings[index]? = some .unnumbered →
    ∀ id, (index, id) ∉ annals.drawn
  /-- The table has the identifiers of all that are open. -/
  table : ∀ id, id ∈ register.live ↔ ∃ index : Nat, register.standings[index]? = some (.live id)
  /-- Handles have been closed as often as their standing says. -/
  counted : ∀ (index : Nat) standing id, register.standings[index]? = some standing →
    standing.id? = some id → annals.closed.count id = standing.closings
  shut : ∀ id ∈ annals.closed, id < register.nextId

theorem Sound.empty (nextId : Nat) : Sound { standings := [], live := [], nextId } {} where
  ordered := .nil
  below := nofun
  owned := nofun
  unnumbered := nofun
  table _ := ⟨nofun, nofun⟩
  counted := nofun
  shut := nofun

namespace Sound

variable {register : Register} {annals : Annals} {index other id : Nat} {standing : Standing}

theorem eq_of_drawn (h : register.Sound annals) (mine : (index, id) ∈ annals.drawn)
    (hers : (other, id) ∈ annals.drawn) : index = other := by
  have increasing : (annals.drawn.map Prod.snd).Pairwise (· < ·) :=
    List.pairwise_map.2 (h.ordered.imp fun apart => apart.2)
  have distinct : (annals.drawn.map Prod.snd).Nodup := increasing.imp Nat.ne_of_lt
  exact congrArg Prod.fst (List.inj_on_of_nodup_map distinct mine hers rfl)

theorem distinct (h : register.Sound annals) {mine hers : Standing}
    (found : register.standings[index]? = some mine) (own : mine.id? = some id)
    (found' : register.standings[other]? = some hers) (own' : hers.id? = some id) :
    index = other :=
  h.eq_of_drawn (h.owned index mine id found own) (h.owned other hers id found' own')

/-! ### The steps -/

theorem began (h : register.Sound annals) :
    Sound { register with standings := register.standings ++ [.unnumbered] } annals where
  ordered := h.ordered
  below entry drawn := by
    rw [List.length_append]
    exact ⟨Nat.lt_add_right _ (h.below entry drawn).1, (h.below entry drawn).2⟩
  owned index standing id found own := by
    rcases getElem?_append_cases found with old | ⟨-, rfl⟩
    · exact h.owned index standing id old own
    · cases own
  unnumbered index found id drawn := by
    rcases getElem?_append_cases found with old | ⟨rfl, -⟩
    · exact h.unnumbered index old id drawn
    · exact Nat.lt_irrefl _ (h.below _ drawn).1
  table id := by
    rw [h.table]
    constructor
    · rintro ⟨index, found⟩
      exact ⟨index, getElem?_append_of_some found⟩
    · rintro ⟨index, found⟩
      rcases getElem?_append_cases found with old | ⟨-, ⟨⟩⟩
      exact ⟨index, old⟩
  counted index standing id found own := by
    rcases getElem?_append_cases found with old | ⟨-, rfl⟩
    · exact h.counted index standing id old own
    · cases own
  shut := h.shut

/-- Whoever is open stays so if somebody else's standing changes, or one that is not open. -/
theorem live_set (found : register.standings[index]? = some standing) (new : Standing)
    (was : standing ≠ .live id) (now : new ≠ .live id) :
    (∃ other : Nat, (register.standings.set index new)[other]? = some (.live id))
      ↔ ∃ other : Nat, register.standings[other]? = some (.live id) := by
  constructor
  · rintro ⟨other, here⟩
    rcases set_cases found here with ⟨-, same⟩ | ⟨-, old⟩
    · exact absurd same.symm now
    · exact ⟨other, old⟩
  · rintro ⟨other, old⟩
    refine ⟨other, ?_⟩
    rw [getElem?_set_of_some found, if_neg]
    · exact old
    · rintro rfl
      exact was (Option.some.inj (found.symm.trans old))

theorem failed (h : register.Sound annals) (found : register.standings[index]? = some standing)
    (young : standing.isYoung = true) :
    Sound { register with standings := register.standings.set index .failed } annals where
  ordered := h.ordered
  below entry drawn := by
    rw [List.length_set]
    exact h.below entry drawn
  owned other standing' id here own := by
    rcases set_cases found here with ⟨-, rfl⟩ | ⟨-, old⟩
    · cases own
    · exact h.owned other standing' id old own
  unnumbered other here := by
    rcases set_cases found here with ⟨-, ⟨⟩⟩ | ⟨-, old⟩
    exact h.unnumbered other old
  table id := by
    refine (h.table id).trans (live_set found .failed ?_ nofun).symm
    rintro rfl
    cases young
  counted other standing' id here own := by
    rcases set_cases found here with ⟨-, rfl⟩ | ⟨-, old⟩
    · cases own
    · exact h.counted other standing' id old own
  shut := h.shut

theorem drew (h : register.Sound annals)
    (found : register.standings[index]? = some .unnumbered) :
    Sound { register with
      standings := register.standings.set index (.unlisted register.nextId)
      nextId := register.nextId + 1 }
      (annals.append { drawn := [(index, register.nextId)] }) where
  ordered := by
    refine List.pairwise_append.2 ⟨h.ordered, List.pairwise_singleton _ _, ?_⟩
    intro early drawn late last
    cases List.mem_singleton.1 last
    refine ⟨fun same => ?_, (h.below early drawn).2⟩
    have mine : (index, early.2) ∈ annals.drawn := by
      rw [← show early.1 = index from same]
      exact drawn
    exact h.unnumbered index found early.2 mine
  below entry drawn := by
    rw [List.length_set]
    rcases List.mem_append.1 drawn with old | last
    · exact ⟨(h.below entry old).1, Nat.lt_succ_of_lt (h.below entry old).2⟩
    · cases List.mem_singleton.1 last
      exact ⟨(List.getElem?_eq_some_iff.1 found).1, Nat.lt_succ_self _⟩
  owned other standing id here own := by
    rcases set_cases found here with ⟨rfl, rfl⟩ | ⟨-, old⟩
    · cases own
      exact List.mem_append_right _ (List.mem_singleton_self _)
    · exact List.mem_append_left _ (h.owned other standing id old own)
  unnumbered other here id drawn := by
    rcases set_cases found here with ⟨-, ⟨⟩⟩ | ⟨differ, old⟩
    rcases List.mem_append.1 drawn with old' | last
    · exact h.unnumbered other old id old'
    · cases List.mem_singleton.1 last
      exact differ rfl
  table id := by
    have was : Standing.unnumbered ≠ .live id := nofun
    have now : Standing.unlisted register.nextId ≠ .live id := nofun
    exact (h.table id).trans (live_set found _ was now).symm
  counted other standing id here own := by
    show (annals.closed ++ []).count id = _
    rw [List.append_nil]
    rcases set_cases found here with ⟨-, rfl⟩ | ⟨-, old⟩
    · cases own
      exact List.count_eq_zero.2 fun closed => Nat.lt_irrefl _ (h.shut _ closed)
    · exact h.counted other standing id old own
  shut id closed := by
    rw [Annals.append, List.append_nil] at closed
    exact Nat.lt_succ_of_lt (h.shut id closed)

theorem listed (h : register.Sound annals)
    (found : register.standings[index]? = some (.unlisted id)) :
    Sound { register with
      standings := register.standings.set index (.live id)
      live := register.live ++ [id] } annals where
  ordered := h.ordered
  below entry drawn := by
    rw [List.length_set]
    exact h.below entry drawn
  owned other standing id' here own := by
    rcases set_cases found here with ⟨rfl, rfl⟩ | ⟨-, old⟩
    · exact h.owned index (.unlisted id) id' found own
    · exact h.owned other standing id' old own
  unnumbered other here := by
    rcases set_cases found here with ⟨-, ⟨⟩⟩ | ⟨-, old⟩
    exact h.unnumbered other old
  table id' := by
    by_cases same : id = id'
    · subst same
      refine ⟨fun _ => ⟨index, ?_⟩, fun _ => List.mem_append_right _ (List.mem_singleton_self _)⟩
      rw [getElem?_set_of_some found, if_pos rfl]
    · rw [List.mem_append, List.mem_singleton, or_iff_left (Ne.symm same)]
      refine (h.table id').trans (live_set found (.live id) nofun ?_).symm
      rintro ⟨⟩
      exact same rfl
  counted other standing id' here own := by
    rcases set_cases found here with ⟨rfl, rfl⟩ | ⟨-, old⟩
    · exact h.counted index (.unlisted id) id' found own
    · exact h.counted other standing id' old own
  shut := h.shut

theorem closed (h : register.Sound annals)
    (found : register.standings[index]? = some (.live id)) :
    Sound { register with
      standings := register.standings.set index (.closed id)
      live := register.live.filter (· != id) } (annals.append { closed := [id] }) where
  ordered := by
    rw [Annals.append, List.append_nil]
    exact h.ordered
  below entry drawn := by
    rw [Annals.append, List.append_nil] at drawn
    rw [List.length_set]
    exact h.below entry drawn
  owned other standing id' here own := by
    rw [Annals.append, List.append_nil]
    rcases set_cases found here with ⟨rfl, rfl⟩ | ⟨-, old⟩
    · exact h.owned index (.live id) id' found own
    · exact h.owned other standing id' old own
  unnumbered other here := by
    rw [Annals.append, List.append_nil]
    rcases set_cases found here with ⟨-, ⟨⟩⟩ | ⟨-, old⟩
    exact h.unnumbered other old
  table id' := by
    rw [List.mem_filter, bne_iff_ne]
    by_cases same : id' = id
    · subst same
      refine ⟨fun listed => absurd rfl listed.2, ?_⟩
      rintro ⟨other, here⟩
      rcases set_cases found here with ⟨-, ⟨⟩⟩ | ⟨differ, old⟩
      exact absurd (h.distinct found rfl old rfl) differ
    · rw [and_iff_left same]
      refine (h.table id').trans (live_set found (.closed id) ?_ nofun).symm
      rintro ⟨⟩
      exact same rfl
  counted other standing id' here own := by
    show (annals.closed ++ [id]).count id' = _
    rw [List.count_append, List.count_singleton]
    rcases set_cases found here with ⟨rfl, rfl⟩ | ⟨differ, old⟩
    · cases own
      rw [h.counted index _ id found rfl, if_pos (beq_self_eq_true id)]
      rfl
    · have apart : id ≠ id' := by
        rintro rfl
        exact differ (h.distinct found rfl old own)
      rw [h.counted other standing id' old own, if_neg (by simpa using apart)]
      rfl
  shut id' closed := by
    rcases List.mem_append.1 closed with old | last
    · exact h.shut id' old
    · cases List.mem_singleton.1 last
      exact (h.below _ (h.owned index _ id found rfl)).2

/-- Every step keeps the annals in order. -/
theorem step (h : register.Sound annals) {more : Annals} {next : Register}
    (step : register.Step more next) : next.Sound (annals.append more) := by
  have still : annals.append {} = annals := by
    rw [Annals.append, List.append_nil, List.append_nil]
  cases step with
  | kept => rwa [still]
  | began =>
      rw [still]
      exact h.began
  | failed found young =>
      rw [still]
      exact h.failed found young
  | drew found => exact h.drew found
  | listed found =>
      rw [still]
      exact h.listed found
  | closed found => exact h.closed found

end Sound

end Register

end Inference
