/-
Outputs that nobody picks up.

A caller that stops waiting leaves a mark, so that the worker knows to drop its output.  There is
room for one mark.  A caller that was overtaken may lose patience as well, and then its mark takes
the place of the other one: the caller of the request in flight is overlooked, the worker leaves its
outcome on the desk, and whoever closes the engine takes it for one that is still awaited.

In no other way is an output left behind (`Crowd.Expected.of_lived`), and what is overlooked stays
so (`Crowd.Neglected.of_reachable`).  `Chronicle.HasOverlooked` says that it has come to this since
the last request was submitted, and the main statement that this is the exact condition.
-/
import Inference.Proofs.Engine.Closers
import Inference.Proofs.Engine.Custody
import Inference.Proofs.Engine.Tickets

namespace Inference

variable {W : Type}

namespace Host

variable {host after : Host W}

theorem pending_of_requests (ordered : Ordered host.desk host.engine.worker)
    (flies : host.requests ≠ []) :
    Pending host.desk host.engine.worker host.desk.ticket ∧ host.desk.response = none := by
  cases queued : host.desk.request with
  | some request =>
      obtain ⟨-, ticket, free⟩ := ordered.queued request queued
      exact ⟨.inl ⟨request, queued, ticket⟩, free⟩
  | none =>
      cases inHand : host.engine.worker.request? with
      | some request =>
          obtain ⟨ticket, free⟩ := ordered.inHand request inHand
          exact ⟨.inr (.inl ⟨request, inHand, ticket⟩), free⟩
      | none => exact absurd (by simp [requests, queued, inHand]) flies

end Host

/-! ### Losing patience -/

/-- A call leaves the mark alone, but for one that loses patience. -/
theorem CallStep.mark {call next : Call} {host after : Host W}
    (step : CallStep call host next after) (ordered : Ordered host.desk host.engine.worker)
    (healthy : host.Healthy) : after.desk.deserted = host.desk.deserted
      ∨ ∃ ticket, call.ticket? = some ticket ∧ host.desk.hasResponse ticket = false
        ∧ after.desk.deserted = some ticket := by
  cases step with
  | deserted _ absent => exact .inr ⟨_, rfl, absent, rfl⟩
  | lockedOut poisoned => cases healthy.unpoisoned.symm.trans poisoned
  | received _ collected =>
      rw [(Desk.collect_of_tidy ordered.tidy collected).1]
      exact .inl rfl
  | ran onward touched =>
      obtain ⟨_, _, _, _, desk⟩ := touched.alike.desk
      rw [desk]
      exact .inl rfl
  | @submitted _ _ _ _ dropped _ tuned _ idle _ _ drops =>
      obtain ⟨_, _, _, _, desk⟩ := tuned.alike.desk
      refine .inl ?_
      show dropped.desk.deserted = _
      rw [(ordered.cleared tuned idle drops).2.2, desk]
      rfl
  | faltered tuned _ drops => cases (healthy.cleared ordered tuned drops).2
  | copied drops => exact .inl (congrArg Desk.deserted drops.beside.desk)
  | spoilt drops => exact .inl (congrArg Desk.deserted drops.beside.desk)
  | @cleared last _ after crash answer drops _ =>
      obtain ⟨_, _, _, _, desk⟩ := (Host.leftBy_alike after last crash).desk
      rw [desk, drops.beside.desk]
      refine .inl ?_
      cases last <;> rfl
  | _ => exact .inl rfl

theorem CallStep.marks {call next : Call} {host after : Host W}
    (step : CallStep call host next after) (healthy : host.Healthy) {ticket : Nat}
    (waits : call.ticket? = some ticket) (absent : host.desk.response = none) :
    after.desk.deserted = some ticket := by
  cases step with
  | lockedOut poisoned => cases healthy.unpoisoned.symm.trans poisoned
  | received present =>
      obtain ⟨response, recorded, -⟩ := Desk.hasResponse_iff.1 present
      cases absent.symm.trans recorded
  | deserted =>
      cases waits
      rfl
  | _ => cases waits

theorem Desk.response_of_outcome_none {desk : Desk} (h : desk.outcome? = none) :
    desk.response = none := by
  cases present : desk.response with
  | none => rfl
  | some response =>
      simp only [outcome?, collect, present] at h
      split at h <;> cases h

theorem Ordered.hasResponse_of_outcome {host : Host W}
    (ordered : Ordered host.desk host.engine.worker) (recorded : host.desk.outcome? ≠ none) :
    host.desk.hasResponse host.desk.ticket = true := by
  cases present : host.desk.response with
  | none => exact absurd (Desk.outcome?_of_none present) recorded
  | some response =>
      exact Desk.hasResponse_iff.2 ⟨response, present, ordered.answered response present⟩

theorem CallStep.collects {call next : Call} {host after : Host W}
    (step : CallStep call host next after) (ordered : Ordered host.desk host.engine.worker)
    (healthy : host.Healthy) (waits : call.ticket? = some host.desk.ticket)
    (recorded : host.desk.outcome? ≠ none) : after.desk.outcome? = none := by
  cases step with
  | lockedOut poisoned => cases healthy.unpoisoned.symm.trans poisoned
  | received _ collected =>
      rw [(Desk.collect_of_tidy ordered.tidy collected).1]
      exact Desk.outcome?_of_none rfl
  | deserted _ absent =>
      cases waits
      cases absent.symm.trans (ordered.hasResponse_of_outcome recorded)
  | _ => cases waits

namespace Crowd

/-- Whoever has submitted the request in flight waits for it, or there is a mark. -/
def Minded (crowd : Crowd W) : Prop :=
  crowd.host.requests ≠ [] →
    (∃ caller, crowd.waiting? caller = some crowd.host.desk.ticket)
      ∨ crowd.host.desk.deserted ≠ none

/-- The caller of the request in flight does not wait any more, and the mark on the desk is that of
a caller that was overtaken by it. -/
structure Overlooks (crowd : Crowd W) : Prop where
  inFlight : crowd.host.requests ≠ []
  unawaited : ∀ caller, crowd.waiting? caller ≠ some crowd.host.desk.ticket
  mark : ∃ earlier < crowd.host.desk.ticket, crowd.host.desk.deserted = some earlier

variable {first crowd next later : Crowd W} {chronicle past since : Chronicle} {move : Move}

/-- A mark that is not that of the request in flight is one of a caller that was overtaken. -/
theorem overlooks_of_minded (orderly : crowd.Orderly) (minded : crowd.Minded)
    (flies : crowd.host.requests ≠ [])
    (unawaited : ∀ caller, crowd.waiting? caller ≠ some crowd.host.desk.ticket)
    (other : crowd.host.desk.deserted ≠ some crowd.host.desk.ticket) : crowd.Overlooks := by
  refine ⟨flies, unawaited, ?_⟩
  rcases minded flies with ⟨caller, waits⟩ | marked
  · exact absurd waits (unawaited caller)
  · obtain ⟨earlier, mark⟩ := Option.ne_none_iff_exists'.1 marked
    have given := orderly.ordered.marked earlier mark
    refine ⟨earlier, ?_, mark⟩
    by_cases same : earlier = crowd.host.desk.ticket
    · rw [same] at mark
      exact absurd mark other
    · omega

theorem waiting?_of_other {caller other ticket : Nat} {call after : Call} {host : Host W}
    (found : crowd.calls[caller]? = some call) (waits : crowd.waiting? other = some ticket)
    (idle : call.ticket? ≠ some ticket) :
    (crowd.update caller (after, host)).waiting? other = some ticket := by
  have differ : caller ≠ other := by
    rintro rfl
    rw [waiting?, found] at waits
    exact idle waits
  rw [waiting?_update found, if_neg differ]
  exact waits

/-! ### While a request is in flight -/

namespace Minded

/-- A step of one call. -/
theorem called {caller : Nat} {call after : Call} {host : Host W} (h : crowd.Minded)
    (orderly : crowd.Orderly) (healthy : crowd.host.Healthy)
    (emptied : ∀ last, call = .clearing last → crowd.host.desk.request = none)
    (found : crowd.calls[caller]? = some call) (step : CallStep call crowd.host after host) :
    (crowd.update caller (after, host)).Minded := by
  intro flies
  have mine := waiting?_update found (after, host) caller
  rw [if_pos rfl] at mine
  rcases step.tickets orderly.ordered with ⟨waits, ticket, -⟩ | ⟨idle, ticket, -⟩
  · refine .inl ⟨caller, ?_⟩
    show _ = some host.desk.ticket
    rw [mine, ticket]
    exact waits
  · change host.requests ≠ [] at flies
    rw [Host.requests_callStep step orderly.ordered healthy idle emptied] at flies
    have silent := (Host.pending_of_requests orderly.ordered flies).2
    show (∃ other, (crowd.update caller (after, host)).waiting? other = some host.desk.ticket)
      ∨ host.desk.deserted ≠ none
    rw [ticket]
    by_cases own : call.ticket? = some crowd.host.desk.ticket
    · -- Its request has no outcome yet, so the call can only have lost patience.
      right
      rw [step.marks healthy own silent]
      nofun
    · rcases h flies with ⟨other, waits⟩ | marked
      · exact .inl ⟨other, waiting?_of_other found waits own⟩
      · right
        rcases step.mark orderly.ordered healthy with same | ⟨_, -, -, mark⟩
        · rw [same]
          exact marked
        · rw [mark]
          nofun

theorem worked {host : Host W} (h : crowd.Minded) (step : CalmStep crowd.host host)
    (ticket : host.desk.ticket = crowd.host.desk.ticket) :
    Minded { crowd with host } := by
  intro flies
  have before (flew : crowd.host.requests ≠ [])
      (mark : host.desk.deserted = crowd.host.desk.deserted) :
      (∃ caller, crowd.waiting? caller = some host.desk.ticket) ∨ host.desk.deserted ≠ none := by
    rw [ticket, mark]
    exact h flew
  cases step with
  | took _ queued => exact before (by simp [Host.requests, queued]) rfl
  | left _ _ empty =>
      change crowd.host.desk.request.toList ++ [] ≠ [] at flies
      simp [empty] at flies
  | rested => exact before flies rfl
  | entered holding => exact before (by simp [Host.requests, holding, Worker.request?]) rfl
  | passed passes =>
      have inHand := Worker.request?_of_ahead passes.ahead
      exact before (by simp [Host.requests, inHand]) (congrArg Desk.deserted passes.desk)
  | recorded _ free records => exact absurd (Host.requests_of free records.parked) flies

theorem of_lived {backend : Backend W} (calm : backend.Calm) {id : Nat} {options : Options}
    {framework : Framework} {world : W} {live : List Nat} {host : Host W}
    (opened : backend.openAs id options framework world live = .opened host)
    (lived : Lived { host } crowd chronicle) : crowd.Minded := by
  have fresh := Backend.fresh_of_opened opened
  induction lived with
  | start =>
      obtain ⟨_, _, _, desk⟩ := fresh.desk
      intro flies
      rw [Host.requests_of (congrArg Desk.request desk) fresh.worker] at flies
      exact absurd rfl flies
  | @move crowd next chronicle lived move made h =>
      obtain ⟨orderly, winding, healthy, -⟩ := Attended.of_reachable calm opened lived.reachable
      have completes := Chronicle.Completes.of_lived calm opened lived
      cases moved_of_after? made with
      | began operation =>
          intro flies
          rcases h flies with ⟨caller, waits⟩ | marked
          · exact .inl ⟨caller, (crowd.waiting?_append operation.ticket?_call caller).trans waits⟩
          · exact .inr marked
      | @called _ caller call after host mover found step =>
          refine h.called orderly healthy ?_ found step
          rintro last rfl
          exact (completes.gone (winding.clearing caller last found)).2
      | @worked host step =>
          obtain ⟨host', stepped, same⟩ := Option.map_eq_some_iff.1 made
          cases congrArg Crowd.host same
          exact h.worked (completes.calmStep orderly.ordered healthy stepped) step.tickets.1
      | @dropped _ _ _ host _ drops =>
          intro flies
          have requests : host.requests = crowd.host.requests := by
            rw [Host.requests, drops.beside.desk, drops.beside.worker, Host.requests]
          show (∃ caller, crowd.waiting? caller = some host.desk.ticket) ∨ host.desk.deserted ≠ none
          rw [drops.beside.desk]
          exact h (requests ▸ flies)
      | gaveUp =>
          intro flies
          rcases h flies with ⟨caller, waits⟩ | marked
          · exact .inl ⟨caller, (crowd.waiting?_append rfl caller).trans waits⟩
          · exact .inr marked

end Minded

end Crowd

/-! ### What an oversight leads to -/

/-- Since the last request was submitted there was a moment at which its caller was overlooked. -/
def Chronicle.HasOverlooked (first crowd : Crowd W) (chronicle : Chronicle) : Prop :=
  ∃ moment past since, Crowd.Lived first moment past ∧ Crowd.Lived moment crowd since
    ∧ chronicle = past.append since ∧ moment.Overlooks
    ∧ moment.host.desk.ticket = crowd.host.desk.ticket

namespace Crowd

variable {first crowd next later : Crowd W} {chronicle past since : Chronicle} {move : Move}

theorem hasOverlooked_move (h : chronicle.HasOverlooked first crowd)
    (made : crowd.after? move = some next)
    (ticket : next.host.desk.ticket = crowd.host.desk.ticket) :
    (chronicle.after crowd next move).HasOverlooked first next := by
  obtain ⟨moment, past, since, before, onward, rfl, overlooks, same⟩ := h
  exact ⟨moment, past, _, before, .move onward move made,
    (Chronicle.append_after crowd next move).symm, overlooks, same.trans ticket.symm⟩

/-- An outcome on the desk is awaited, unless there is an excuse. -/
def Expected (crowd : Crowd W) (excuse : Prop) : Prop :=
  crowd.host.desk.outcome? ≠ none →
    (∃ caller, crowd.waiting? caller = some crowd.host.desk.ticket) ∨ excuse

namespace Expected

variable {excuse later : Prop}

theorem still (h : crowd.Expected excuse)
    (ticket : next.host.desk.ticket = crowd.host.desk.ticket)
    (outcome : next.host.desk.outcome? = crowd.host.desk.outcome?)
    (waiting : ∀ caller, crowd.waiting? caller = some crowd.host.desk.ticket →
      next.waiting? caller = some crowd.host.desk.ticket)
    (grows : excuse → next.host.desk.ticket = crowd.host.desk.ticket → later) :
    next.Expected later := by
  intro recorded
  rw [outcome] at recorded
  rcases h recorded with ⟨caller, waits⟩ | excused
  · refine .inl ⟨caller, ?_⟩
    rw [ticket]
    exact waiting caller waits
  · exact .inr (grows excused ticket)

/-- A step of one call.  Whoever waits for the outcome on the desk takes it with its next step. -/
theorem called {caller : Nat} {call after : Call} {host : Host W} (h : crowd.Expected excuse)
    (orderly : crowd.Orderly) (healthy : crowd.host.Healthy)
    (emptied : ∀ last, call = .clearing last → crowd.host.desk.request = none)
    (found : crowd.calls[caller]? = some call) (step : CallStep call crowd.host after host)
    (grows : excuse → host.desk.ticket = crowd.host.desk.ticket → later) :
    (crowd.update caller (after, host)).Expected later := by
  intro recorded
  change host.desk.outcome? ≠ none at recorded
  rcases step.tickets orderly.ordered with ⟨waits, -⟩ | ⟨idle, ticket, -⟩
  · -- The desk is cleared for a request.
    have next := orderly.called found step
    obtain ⟨_, _, -, -, -, request⟩ := step.submits waits
    have silent := (next.ordered.queued _ request).2.2
    exact absurd (Desk.outcome?_of_none silent) recorded
  · rcases (step.due orderly.ordered healthy idle emptied).2 with none | same
    · exact absurd none recorded
    · refine h.still ticket same ?_ grows recorded
      intro other waits
      by_cases own : call.ticket? = some crowd.host.desk.ticket
      · rw [step.collects orderly.ordered healthy own (same ▸ recorded)] at recorded
        exact absurd rfl recorded
      · exact waiting?_of_other found waits own

/-- A step of the worker.  What it records is awaited, or its caller has been overlooked. -/
theorem worked {host : Host W} (h : crowd.Expected excuse) (orderly : crowd.Orderly)
    (minded : crowd.Minded) (step : CalmStep crowd.host host)
    (ticket : host.desk.ticket = crowd.host.desk.ticket)
    (grows : excuse → host.desk.ticket = crowd.host.desk.ticket → later)
    (overlooked : crowd.Overlooks → host.desk.ticket = crowd.host.desk.ticket → later) :
    Expected { crowd with host } later := by
  have quiet (outcome : host.desk.outcome? = crowd.host.desk.outcome?) :
      Expected { crowd with host } later :=
    h.still ticket outcome (fun _ waits => waits) grows
  cases step with
  | took => exact quiet (Desk.outcome?_congr rfl rfl)
  | left => exact quiet rfl
  | rested => exact quiet (Desk.outcome?_congr rfl rfl)
  | entered => exact quiet rfl
  | passed passes => exact quiet (congrArg Desk.outcome? passes.desk)
  | @recorded request produced _ returning free records =>
      have inHand : crowd.host.engine.worker.request? = some request := by
        rw [returning]
        rfl
      have own := (orderly.ordered.inHand request inHand).1
      intro recorded
      change host.desk.outcome? ≠ none at recorded
      show (∃ caller, crowd.waiting? caller = some host.desk.ticket) ∨ _
      rw [ticket]
      by_cases awaited : ∃ caller, crowd.waiting? caller = some crowd.host.desk.ticket
      · exact .inl awaited
      · right
        have other : crowd.host.desk.deserted ≠ some crowd.host.desk.ticket := by
          intro mark
          rw [← own] at mark
          exact recorded (Desk.outcome?_of_none (records.deserted mark).2)
        exact overlooked (overlooks_of_minded orderly minded (by simp [Host.requests, inHand])
          (fun caller waits => awaited ⟨caller, waits⟩) other) ticket

/-- Every move, with what becomes of the excuse and of a caller that has been overlooked. -/
theorem moved (h : crowd.Expected excuse) (attended : crowd.Attended) (minded : crowd.Minded)
    (completes : chronicle.Completes crowd.host) (made : crowd.after? move = some next)
    (grows : excuse → next.host.desk.ticket = crowd.host.desk.ticket → later)
    (overlooked : crowd.Overlooks → next.host.desk.ticket = crowd.host.desk.ticket → later) :
    next.Expected later := by
  obtain ⟨orderly, winding, healthy, -⟩ := attended
  cases moved_of_after? made with
  | began operation =>
      exact h.still rfl rfl (fun caller waits =>
        (crowd.waiting?_append operation.ticket?_call caller).trans waits) grows
  | @called _ caller call after host mover found step =>
      refine h.called orderly healthy ?_ found step grows
      rintro last rfl
      exact (completes.gone (winding.clearing caller last found)).2
  | @worked host step =>
      obtain ⟨host', stepped, same⟩ := Option.map_eq_some_iff.1 made
      cases congrArg Crowd.host same
      exact h.worked orderly minded (completes.calmStep orderly.ordered healthy stepped)
        step.tickets.1 grows overlooked
  | @dropped _ _ _ host _ drops =>
      have desk : host.desk = crowd.host.desk := drops.beside.desk
      exact h.still (congrArg Desk.ticket desk) (congrArg Desk.outcome? desk)
        (fun _ waits => waits) grows
  | gaveUp =>
      exact h.still rfl rfl (fun caller waits =>
        (crowd.waiting?_append rfl caller).trans waits) grows

theorem of_fresh {backend : Backend W} {host : Host W} (fresh : host.Fresh backend) :
    Expected { host } excuse := by
  obtain ⟨_, _, _, desk⟩ := fresh.desk
  intro recorded
  change host.desk.outcome? ≠ none at recorded
  rw [desk] at recorded
  exact absurd rfl recorded

/-- If an outcome is not awaited, its caller was overlooked. -/
theorem of_lived {backend : Backend W} (calm : backend.Calm) {id : Nat} {options : Options}
    {framework : Framework} {world : W} {live : List Nat} {host : Host W}
    (opened : backend.openAs id options framework world live = .opened host)
    (lived : Lived { host } crowd chronicle) :
    crowd.Expected (chronicle.HasOverlooked { host } crowd) := by
  induction lived with
  | start => exact .of_fresh (Backend.fresh_of_opened opened)
  | @move crowd next chronicle lived move made h =>
      refine h.moved (Attended.of_reachable calm opened lived.reachable)
        (.of_lived calm opened lived) (.of_lived calm opened lived) made ?_ ?_
      · exact fun overlooked ticket => hasOverlooked_move overlooked made ticket
      · intro overlooks ticket
        refine ⟨crowd, chronicle, _, lived, .move .start move made, ?_, overlooks, ticket.symm⟩
        rw [Chronicle.append_after, Chronicle.append_nothing]

end Expected

/-- Nobody waits for the last request, and no mark says so. -/
structure Neglected (crowd : Crowd W) (ticket : Nat) : Prop where
  unawaited : ∀ caller, crowd.waiting? caller ≠ some ticket
  unmarked : crowd.host.desk.deserted ≠ some ticket
  pending : Pending crowd.host.desk crowd.host.engine.worker ticket

theorem Overlooks.neglected (overlooks : crowd.Overlooks) (orderly : crowd.Orderly) :
    crowd.Neglected crowd.host.desk.ticket := by
  refine ⟨overlooks.unawaited, ?_, ?_⟩
  · obtain ⟨earlier, before, mark⟩ := overlooks.mark
    rw [mark]
    intro same
    cases same
    omega
  · exact (Host.pending_of_requests orderly.ordered overlooks.inFlight).1

/-- The last request stays neglected until another one is submitted, or the engine is given up. -/
theorem Neglected.moved {ticket : Nat} (h : crowd.Neglected ticket) (attended : crowd.Attended)
    (moved : crowd.Moved move next) (last : next.host.desk.ticket = ticket)
    (kept : next.givenUp = false) : next.Neglected ticket := by
  obtain ⟨orderly, winding, healthy, -⟩ := attended
  have ordered := orderly.ordered
  cases moved with
  | began operation =>
      refine ⟨fun caller => ?_, h.unmarked, h.pending⟩
      rw [waiting?, crowd.waiting?_append operation.ticket?_call]
      exact h.unawaited caller
  | @called _ caller call after host _ found step =>
      have other : call.ticket? ≠ some ticket := by
        intro waits
        refine h.unawaited caller ?_
        rw [waiting?, found]
        exact waits
      have notLast : call.isLast = false := by
        cases isLast : call.isLast with
        | false => rfl
        | true => cases kept.symm.trans (winding.alone caller call found isLast).1
      rcases step.tickets ordered with ⟨-, ticket', -⟩ | ⟨idle, -⟩
      · have before := ordered.ticket_of_pending h.pending
        change host.desk.ticket = ticket at last
        omega
      · refine ⟨fun someone => ?_, ?_, ?_⟩
        · rw [waiting?_update found]
          split
          · rw [idle]
            rintro ⟨⟩
          · exact h.unawaited someone
        · show host.desk.deserted ≠ some ticket
          rcases step.mark ordered healthy with same | ⟨mine, waits, -, mark⟩
          · rw [same]
            exact h.unmarked
          · rw [mark]
            intro same
            exact other (waits.trans same)
        · exact step.pending ordered healthy other notLast idle h.pending
  | @worked host step =>
      refine ⟨h.unawaited, ?_, step.pending ordered healthy h.unmarked h.pending⟩
      show host.desk.deserted ≠ some ticket
      rcases step.tickets.2 with same | none
      · rw [same]
        exact h.unmarked
      · rw [none]
        rintro ⟨⟩
  | @dropped _ _ _ host _ drops =>
      refine ⟨h.unawaited, ?_, Host.pending_alike drops.beside.alike h.pending⟩
      show host.desk.deserted ≠ some ticket
      rw [drops.beside.desk]
      exact h.unmarked
  | gaveUp => cases kept

/-- A handle that has been given up stays so. -/
theorem Moved.givenUp (moved : crowd.Moved move next) (given : crowd.givenUp = true) :
    next.givenUp = true := by
  cases moved with
  | began _ kept => cases kept.symm.trans given
  | gaveUp => rfl
  | _ => exact given

/-- Once overlooked, the last request stays neglected. -/
theorem Neglected.of_reachable {ticket : Nat} (attended : crowd.Attended)
    (h : crowd.Neglected ticket) (reach : Reachable crowd later)
    (last : later.host.desk.ticket = ticket) (kept : later.givenUp = false) :
    later.Neglected ticket := by
  have own := attended.orderly.ordered.ticket_of_pending h.pending
  have all := @Reachable.keeps W crowd later
    (fun later => later.Attended ∧ ticket ≤ later.host.desk.ticket
      ∧ (later.host.desk.ticket = ticket → later.givenUp = false → later.Neglected ticket))
    reach ⟨attended, Nat.le_of_eq own, fun _ _ => h⟩ ?_
  · exact all.2.2 last kept
  · intro middle next move ⟨attended, above, neglected⟩ moved
    have up := attended.orderly.ticket_le moved
    refine ⟨attended.moved moved, by omega, ?_⟩
    intro last kept
    refine (neglected (by omega) ?_).moved attended moved last kept
    cases given : middle.givenUp with
    | false => rfl
    | true => cases kept.symm.trans (moved.givenUp given)

end Crowd

/-! ### What is left on the desk -/

/-- The pass for a request allocated an output, and was good. -/
def Chronicle.HasLent (chronicle : Chronicle) (ticket : Nat) : Prop :=
  ∃ submitted ran, chronicle.RanFor submitted ran ∧ submitted.ticket = ticket
    ∧ ran.lending = true ∧ ran.pass.failure? submitted.output = none

theorem Ran.leasedIn_outcome (ran : Ran) (output : Descriptor) (engine : Nat) :
    leasedIn (ran.outcome output engine) ≠ []
      ↔ ran.lending = true ∧ ran.pass.failure? output = none := by
  unfold outcome
  cases failure : ran.pass.failure? output with
  | some fault => simp [leasedIn]
  | none =>
      cases lending : ran.lending with
      | false =>
          have plain : leasedIn (Frame.produced output ran.pass.outputs) = [] := by
            cases made : Frame.produced output ran.pass.outputs with
            | error fault => rfl
            | ok frame =>
                rw [Frame.eq_of_produced made]
                rfl
          simp [plain]
      | true => simp [leasedIn, Frame.onLease, Frame.lent]

namespace Crowd

variable {crowd : Crowd W} {chronicle : Chronicle}

/-- What is outstanding is the output of the pass for the last request. -/
theorem entries_iff_lent (tells : chronicle.Tells crowd)
    (completes : chronicle.Completes crowd.host) :
    crowd.host.desk.outstanding.entries ≠ []
      ↔ crowd.host.desk.outcome? ≠ none ∧ chronicle.HasLent crowd.host.desk.ticket := by
  have ordered := tells.orderly.ordered
  cases recorded : crowd.host.desk.outcome? with
  | none =>
      have silent := Desk.response_of_outcome_none recorded
      simp [Desk.entries_of_tidy ordered.tidy silent]
  | some result =>
      obtain ⟨desk, collected⟩ : ∃ desk, crowd.host.desk.collect = (some result, desk) :=
        ⟨_, Prod.ext recorded rfl⟩
      have leased := (Desk.collect_of_tidy ordered.tidy collected).2
      have entries : crowd.host.desk.outstanding.entries ≠ [] ↔ leasedIn result ≠ [] := by
        rw [← leased, Desk.lentOut]
        simp
      obtain ⟨s, r, own, ticket, rfl⟩ := completes.outcome result recorded
      rw [entries, Ran.leasedIn_outcome]
      constructor
      · rintro ⟨lending, good⟩
        refine ⟨?_, s, r, own, ticket, lending, good⟩
        rintro ⟨⟩
      · rintro ⟨-, s', r', own', ticket', lending, good⟩
        have same := tells.submitted_unique own.wasSubmitted own'.wasSubmitted
          (ticket.trans ticket'.symm)
        have ran := tells.ran_unique own.wasRan own'.wasRan
          ((own.ticket.trans (ticket.trans ticket'.symm)).trans own'.ticket.symm)
        rw [same, ran]
        exact ⟨lending, good⟩

/-- With a backend that crashes in passes only, one that has closed an engine on which nobody waits
any more has left an output there exactly if the caller of the last request was overlooked, and the
pass for it was good and allocated the output.  Whatever else was allocated has been given back by
then, or is with a caller. -/
theorem output_left_iff_overlooked {backend : Backend W} (calm : backend.Calm) {id : Nat}
    {options : Options} {framework : Framework} {world : W} {live : List Nat} {host : Host W}
    (opened : backend.openAs id options framework world live = .opened host)
    (lived : Lived { host } crowd chronicle) {closer : Nat}
    (begun : chronicle.begun[closer]? = some .close)
    (closed : crowd.calls[closer]? = some (.ended (.done .none) none))
    (quiet : ∀ caller, crowd.waiting? caller = none) (kept : crowd.givenUp = false) :
    (crowd.host.desk.outstanding.entries ≠ []
        ↔ chronicle.HasOverlooked { host } crowd ∧ chronicle.HasLent crowd.host.desk.ticket)
      ∧ ∀ returns, crowd.Returned host chronicle returns →
        ∃ returned : List Receipt, returned.map (·.regions) = returns
          ∧ chronicle.lent.Perm (returned ++ (crowd.host.desk.lentOut
            ++ (List.range crowd.calls.length).flatMap crowd.keptBy).map Frame.receipt) := by
  have fresh := Backend.fresh_of_opened opened
  have attended := Attended.of_reachable calm opened lived.reachable
  have tells := Chronicle.Tells.of_lived fresh lived
  have completes := Chronicle.Completes.of_lived calm opened lived
  have detached := (Chronicle.Closing.of_lived fresh lived).through closer begun closed
  have gone : crowd.host.engine.worker.gone = true := by
    cases gone : crowd.host.engine.worker.gone with
    | true => rfl
    | false => cases detached.symm.trans (completes.attached gone)
  refine ⟨?_, ?_⟩
  · rw [entries_iff_lent tells completes]
    refine and_congr_left fun _ => ?_
    constructor
    · intro recorded
      rcases Expected.of_lived calm opened lived recorded with ⟨caller, waits⟩ | overlooked
      · cases (quiet caller).symm.trans waits
      · exact overlooked
    · rintro ⟨moment, past, since, before, onward, -, overlooks, ticket⟩
      have attended' := Attended.of_reachable calm opened before.reachable
      have neglected := Neglected.of_reachable attended' (overlooks.neglected attended'.orderly)
        onward.reachable ticket.symm kept
      -- Nothing is queued and the worker has nothing, so the outcome must be there.
      rcases neglected.pending with ⟨request, queued, -⟩ | ⟨request, inHand, -⟩ | recorded
      · cases (completes.gone gone).2.symm.trans queued
      · cases (Worker.request?_of_gone gone).symm.trans inHand
      · intro none
        obtain ⟨response, present, -⟩ := Desk.hasResponse_iff.1 recorded
        cases (Desk.response_of_outcome_none none).symm.trans present
  · intro returns audited
    obtain ⟨returned, conserved⟩ := Conserved.of_lived backend.audited_logs rfl
      (Backend.openAs_audited backend world [] opened) audited
    refine ⟨returned, conserved.recorded.symm, ?_⟩
    have balance : chronicle.lent.Perm (returned ++ crowd.existing.map Frame.receipt) :=
      conserved.balance
    have nothing : crowd.host.engine.worker.kept = [] := by
      cases worker : crowd.host.engine.worker with
      | returning => rw [worker] at gone; cases gone
      | _ => rfl
    rw [existing, Host.kept, nothing, List.nil_append] at balance
    exact balance

end Crowd

/-! ### Two callers that lose patience -/

namespace CustomModel

theorem lendingByte_calm : lendingByte.Calm :=
  ⟨⟨nofun, nofun, nofun, fun _ _ => rfl⟩, fun _ => echoByte_fits, nofun⟩

theorem lendingByte_opened : lendingByte.openAs 0 {} .custom () [] = .opened lendingEngine := rfl

/-- A caller is overtaken by another one that submits the next request; both lose patience, the one
that was overtaken last, and the handle is closed when the worker is through. -/
def overlooking : List Move :=
  [.begins (.infer (byteTask 7).input (some 5)), .steps 0, .steps 0, .works, .works, .works, .works,
    .begins (.infer (byteTask 9).input (some 5)), .steps 1, .steps 1, .expires 1, .expires 0,
    .works, .works, .works, .works, .begins .close, .steps 2, .steps 2, .works, .steps 2, .steps 2]

/-- Whether all calls are over, with an output on the desk that has the second byte. -/
def leftBehind (crowd : Crowd Unit) : Bool :=
  !crowd.givenUp && crowd.calls.all Call.isOver
    && decide (crowd.host.desk.lentOut.map (·.regions) = [[some [9]]])

theorem overlooking_reached : ∃ (crowd : Crowd Unit) (chronicle : Chronicle) (closer : Nat),
    leftBehind crowd = true ∧ Crowd.Lived { host := lendingEngine } crowd chronicle
      ∧ chronicle.begun[closer]? = some .close
      ∧ crowd.calls[closer]? = some (.ended (.done .none) none) := by
  have run : (Crowd.afterAll? { host := lendingEngine } overlooking).any leftBehind = true := by
    decide +kernel
  obtain ⟨crowd, reached, left⟩ := (Option.any_eq_true _ _).1 run
  obtain ⟨chronicle, lived, begun⟩ := Crowd.Lived.run .start reached
  -- All calls are over, so one of those that were to close the handle has closed it.
  have closing := Chronicle.Closing.of_lived (Backend.fresh_of_opened lendingByte_opened) lived
  have settled : crowd.calls.all Call.isOver = true := by
    simp only [leftBehind, Bool.and_eq_true] at left
    exact left.1.2
  obtain ⟨closer, begun, closed⟩ := closing.exists_closer ⟨2, by rw [begun]; rfl⟩
    fun caller call _ found => List.all_eq_true.1 settled call (List.mem_of_getElem? found)
  exact ⟨crowd, chronicle, closer, left, lived, begun, closed⟩

theorem leftBehind_eq_true {crowd : Crowd Unit} (h : leftBehind crowd = true) :
    crowd.givenUp = false ∧ (∀ call ∈ crowd.calls, call.isOver = true)
      ∧ crowd.host.desk.lentOut.map (·.regions) = [[some [9]]] := by
  simp only [leftBehind, Bool.and_eq_true, Bool.not_eq_true', decide_eq_true_eq,
    List.all_eq_true] at h
  exact ⟨h.1.1, h.1.2, h.2⟩

end CustomModel

namespace Crowd

theorem waiting?_of_over {crowd : Crowd W} (settled : ∀ call ∈ crowd.calls, call.isOver = true)
    (caller : Nat) : crowd.waiting? caller = none := by
  cases waits : crowd.waiting? caller with
  | none => rfl
  | some ticket =>
      obtain ⟨_, _, found⟩ := waiting?_eq_some.1 waits
      cases settled _ (List.mem_of_getElem? found)

theorem entries_ne_nil_of_lentOut {desk : Desk} {regions : List (List (Option Bytes))}
    (h : desk.lentOut.map (·.regions) = regions) (some : regions ≠ []) :
    desk.outstanding.entries ≠ [] := by
  intro nothing
  rw [Desk.lentOut_of_empty nothing] at h
  exact some h.symm

open CustomModel in
/-- The byte that is left when the handle is closed is that of a caller that was overlooked. -/
theorem second_byte_overlooked : ∃ (crowd : Crowd Unit) (chronicle : Chronicle),
    Lived { host := lendingEngine } crowd chronicle
      ∧ crowd.host.desk.lentOut.map (·.regions) = [[some [9]]]
      ∧ chronicle.HasOverlooked { host := lendingEngine } crowd := by
  obtain ⟨crowd, chronicle, closer, left, lived, begun, closed⟩ := overlooking_reached
  obtain ⟨kept, settled, byte⟩ := leftBehind_eq_true left
  obtain ⟨condition, -⟩ :=
    output_left_iff_overlooked lendingByte_calm lendingByte_opened lived begun
    closed (waiting?_of_over settled) kept
  exact ⟨crowd, chronicle, lived, byte,
    (condition.1 (entries_ne_nil_of_lentOut byte (by decide))).1⟩

open CustomModel in
/-- The handle was closed and no call is in progress, and yet an output is still outstanding. -/
theorem closed_with_output_outstanding : lendingByte.Calm
    ∧ lendingByte.openAs 0 {} .custom () [] = .opened lendingEngine
    ∧ ∃ (crowd : Crowd Unit) (chronicle : Chronicle) (closer : Nat),
      Lived { host := lendingEngine } crowd chronicle
        ∧ chronicle.begun[closer]? = some .close
        ∧ crowd.calls[closer]? = some (.ended (.done .none) none)
        ∧ (∀ call ∈ crowd.calls, call.isOver = true)
        ∧ crowd.host.desk.outstanding.entries ≠ [] := by
  obtain ⟨crowd, chronicle, closer, left, lived, begun, closed⟩ := overlooking_reached
  obtain ⟨-, settled, byte⟩ := leftBehind_eq_true left
  exact ⟨lendingByte_calm, lendingByte_opened, crowd, chronicle, closer, lived, begun, closed,
    settled, entries_ne_nil_of_lentOut byte (by decide)⟩

end Crowd

end Inference
