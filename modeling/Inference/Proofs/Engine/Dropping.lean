/-
Dropping outputs.

A caller that was given an output can drop it whenever the worker is not in a pass, and does not
get it back (`Crowd.drops_held`).  If the memory is the backend's, the backend is given it back
with that.  The receipts of what it was given back tell the outputs apart: each of them is added
once (`Crowd.Conserved.drops_once`), and stays (`Crowd.Conserved.onward`).
-/
import Inference.Proofs.Engine.Course
import Inference.Proofs.Engine.Custody

namespace Inference

variable {W : Type}

namespace Crowd

variable {crowd next later : Crowd W} {chronicle past since : Chronicle} {caller : Nat}
  {output : Frame}

theorem dropped_of_reachable (dropped : crowd.dropped.contains caller = true)
    (onward : Reachable crowd later) : later.dropped.contains caller = true := by
  induction onward with
  | refl => exact dropped
  | step _ move made ih =>
      cases moved_of_after? made with
      | dropped => rw [List.contains_cons, ih, Bool.or_true]
      | _ => exact ih

/-- An output can be dropped whenever the worker is not in a pass, and is gone then for good. -/
theorem drops_held (held : crowd.held? caller = some output)
    (free : crowd.host.engine.worker.busy = false) :
    ∃ next, crowd.after? (.drops caller) = some next
      ∧ next.host = (if output.lease.isNone then crowd.host else (crowd.host.takeBack output).2)
      ∧ ∀ last, Reachable next last → last.held? caller = none := by
  obtain ⟨outcome, dropped⟩ : ∃ outcome, Act.drop output crowd.host = some (outcome,
      if output.lease.isNone then crowd.host else (crowd.host.takeBack output).2) := by
    unfold Act.drop
    by_cases plain : output.lease.isNone = true
    · rw [if_pos plain, if_pos plain]
      exact ⟨_, rfl⟩
    · rw [if_neg plain, if_neg plain, free, if_neg (by simp)]
      obtain ⟨crash, after⟩ := crowd.host.takeBack output
      cases crash <;> exact ⟨_, rfl⟩
  generalize (if output.lease.isNone then crowd.host else (crowd.host.takeBack output).2) = host
    at dropped ⊢
  refine ⟨{ crowd with host, dropped := caller :: crowd.dropped }, ?_, rfl, fun last onward => ?_⟩
  · simp only [after?, held]
    show (Act.drop output crowd.host).bind _ = _
    rw [dropped]
    rfl
  · have gone : last.dropped.contains caller = true := dropped_of_reachable (by simp) onward
    rw [held?, if_pos gone]

/-- What was given back at some moment stays given back, and more is added to it. -/
theorem Conserved.onward {log : W → Returns} {returned : List Receipt}
    (conserved : crowd.Conserved log past returned) (onward : Lived crowd later since) :
    ∃ more, later.Conserved log (past.append since) (returned ++ more) := by
  induction onward with
  | start =>
      rw [Chronicle.append_nothing]
      exact ⟨[], returned.append_nil.symm ▸ conserved⟩
  | move _ move made ih =>
      obtain ⟨more, conserved⟩ := ih
      obtain ⟨back, conserved⟩ := conserved.moved (moved_of_after? made)
      rw [Chronicle.append_after]
      exact ⟨more ++ back, returned.append_assoc more back ▸ conserved⟩

theorem Conserved.tickets {log : W → Returns} {returned : List Receipt}
    (conserved : crowd.Conserved log chronicle returned) : (returned.map (·.ticket)).Nodup := by
  have all := (conserved.balance.map (·.ticket)).nodup_iff.1 conserved.told.lent_tickets
  rw [List.map_append] at all
  exact all.of_append_left

/-- An output that a caller drops is given back with that, and neither before nor after. -/
theorem Conserved.drops_once {log : W → Returns} {returned : List Receipt}
    (conserved : crowd.Conserved log past returned) (held : crowd.held? caller = some output)
    (leased : output.lease ≠ none) (made : crowd.after? (.drops caller) = some next)
    (onward : Lived next later since) : ∃ more,
      later.Conserved log (past.append since) (returned ++ output.receipt :: more)
        ∧ output.receipt.ticket ∉ (returned ++ more).map (·.ticket) := by
  have told := conserved.told.moved (moved_of_after? made)
  have dropped : next.Conserved log past (returned ++ [output.receipt]) := by
    cases moved_of_after? made with
    | called mover => cases mover
    | dropped held' drops =>
        cases held.symm.trans held'
        have after := conserved.dropped held drops told
        rwa [Frame.onLease_of_ne_none leased] at after
  obtain ⟨more, conserved⟩ := dropped.onward onward
  rw [List.append_assoc, List.singleton_append] at conserved
  have once := conserved.tickets
  rw [List.map_append, List.map_cons, List.nodup_middle, List.nodup_cons] at once
  refine ⟨more, conserved, ?_⟩
  rw [List.map_append]
  exact once.1

theorem Lived.withRecord (lived : Lived crowd later since) (record : Returns) :
    ∃ after, Lived (crowd.withRecord record) (later.withRecord after) since := by
  induction lived with
  | start => exact ⟨record, .start⟩
  | move _ move made ih =>
      obtain ⟨after, audited⟩ := ih
      obtain ⟨final, made⟩ := withRecord_after? after made
      have lived := audited.move move made
      rw [withRecord_chronicle] at lived
      exact ⟨final, lived⟩

/-- These are the receipts of what the backend was given back. -/
structure Settles (crowd : Crowd W) (host : Host W) (chronicle : Chronicle)
    (returned : List Receipt) : Prop where
  /-- They list the regions that it was given back, in that order. -/
  record : crowd.Returned host chronicle (returned.map (·.regions))
  /-- With those of the outputs that exist they are the receipts of all that was ever lent. -/
  balance : chronicle.lent.Perm (returned ++ crowd.existing.map Frame.receipt)

/-- There are such receipts at any time, and that of an output that is dropped is added to them
once. -/
theorem settles_of_lived {backend : Backend W} {id : Nat} {options : Options}
    {framework : Framework} {world : W} {live : List Nat} {host : Host W}
    (opened : backend.openAs id options framework world live = .opened host)
    (lived : Lived { host } crowd past) : ∃ returned, crowd.Settles host past returned
      ∧ ∀ caller output next later since, crowd.held? caller = some output → output.lease ≠ none →
        crowd.after? (.drops caller) = some next → Lived next later since →
          ∃ more, later.Settles host (past.append since) (returned ++ output.receipt :: more)
            ∧ output.receipt.ticket ∉ (returned ++ more).map (·.ticket) := by
  obtain ⟨returns, audited⟩ := lived.returned
  obtain ⟨returned, conserved⟩ := Conserved.of_lived backend.audited_logs rfl
    (Backend.openAs_audited backend world [] opened) audited
  have recorded : returns = returned.map (·.regions) := conserved.recorded
  refine ⟨returned, ⟨recorded ▸ audited, conserved.balance⟩, ?_⟩
  intro caller output next later since held leased made onward
  obtain ⟨after, made', audited'⟩ := audited.move made
  obtain ⟨final, onward'⟩ := onward.withRecord after
  obtain ⟨more, conserved', once⟩ := conserved.drops_once held leased made' onward'
  have recorded' : final = (returned ++ output.receipt :: more).map (·.regions) :=
    conserved'.recorded
  refine ⟨more, ⟨?_, conserved'.balance⟩, once⟩
  rw [← recorded']
  exact Lived.trans audited' onward'

end Crowd

end Inference
