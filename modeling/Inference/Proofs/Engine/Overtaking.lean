/-
Callers that are overtaken.

The engine accepts a new request as soon as the outcome of the last one is recorded, and
forgets that outcome then, whether or not its caller has picked it up.  A caller that has
been woken but has not taken the lock yet can lose its outcome in this way.

`Pending` says that an outcome is still to be had.  With a calm backend it is, for every caller
that waits for the last ticket given out (`Crowd.Attended.of_reachable`), and for nobody else; and
a caller that was overtaken is not answered any more (`Crowd.Overtaken.of_reachable`).
-/
import Inference.Proofs.Engine.Calm
import Inference.Proofs.Engine.Closing

namespace Inference

variable {W : Type}

/-- The request of a ticket lies on the desk, or the worker has it, or its outcome is recorded. -/
def Pending (desk : Desk) (worker : Worker) (ticket : Nat) : Prop :=
  (∃ request, desk.request = some request ∧ request.ticket = ticket)
    ∨ (∃ request, worker.request? = some request ∧ request.ticket = ticket)
    ∨ desk.hasResponse ticket = true

theorem Ordered.ticket_of_pending {desk : Desk} {worker : Worker} (h : Ordered desk worker)
    {ticket : Nat} (pending : Pending desk worker ticket) : ticket = desk.ticket := by
  rcases pending with ⟨request, queued, rfl⟩ | ⟨request, inHand, rfl⟩ | recorded
  · exact (h.queued request queued).2.1
  · exact (h.inHand request inHand).1
  · exact h.ticket_of_response recorded

namespace Host

theorem pending_alike {host after : Host W} (alike : host.Alike after) {ticket : Nat}
    (pending : Pending host.desk host.engine.worker ticket) :
    Pending after.desk after.engine.worker ticket := by
  obtain ⟨_, _, _, _, desk⟩ := alike.desk
  rw [desk, alike.worker]
  exact pending

end Host

/-- Unless it submits a request, a call leaves alone what is pending for others. -/
theorem CallStep.pending {call next : Call} {host after : Host W}
    (step : CallStep call host next after)
    (ordered : Ordered host.desk host.engine.worker) (healthy : host.Healthy) {ticket : Nat}
    (other : call.ticket? ≠ some ticket) (notLast : call.isLast = false)
    (submitsNot : next.ticket? = none) (pending : Pending host.desk host.engine.worker ticket) :
    Pending after.desk after.engine.worker ticket := by
  cases step with
  | ran _ touched => exact Host.pending_alike touched.alike pending
  | submitted => cases submitsNot
  | faltered tuned _ drops => cases (healthy.cleared ordered tuned drops).2
  | @received task timeout own _ _ _ present _ =>
      -- The outcome on the desk is that of the last ticket, which is this caller's own.
      have last := ordered.ticket_of_pending (.inr (.inr present))
      rw [← ordered.ticket_of_pending pending] at last
      subst last
      exact absurd rfl other
  | copied drops => exact Host.pending_alike drops.beside.alike pending
  | spoilt drops => exact Host.pending_alike drops.beside.alike pending
  | @cleared last _ after crash answer drops _ =>
      obtain ⟨-, clear⟩ | ⟨rfl, -⟩ := Desk.clear_cases ordered.tidy last
      · rw [clear] at drops
        have kept : Pending after.desk after.engine.worker ticket := by
          rw [drops.beside.desk, drops.beside.worker]
          exact pending
        exact Host.pending_alike (Host.leftBy_alike _ _ _) kept
      · cases notLast
  | _ => exact pending

/-- The worker takes a request off the desk only to come back with its outcome. -/
theorem WorkerStep.pending {host after : Host W} (step : WorkerStep host after)
    (ordered : Ordered host.desk host.engine.worker) (healthy : host.Healthy) {ticket : Nat}
    (awaited : host.desk.deserted ≠ some ticket)
    (pending : Pending host.desk host.engine.worker ticket) :
    Pending after.desk after.engine.worker ticket := by
  -- A request in the worker's hands is the one that is pending.
  have own {request : Request} (inHand : host.engine.worker.request? = some request) :
      request.ticket = ticket := by
    rw [ordered.ticket_of_pending pending]
    exact (ordered.inHand request inHand).1
  have next {request : Request} {worker : Worker} {desk : Desk}
      (inHand : host.engine.worker.request? = some request)
      (kept : worker.request? = some request) :
      Pending desk worker ticket := .inr (.inl ⟨request, kept, own inHand⟩)
  cases step with
  | @took request parked _ queued =>
      rcases pending with ⟨other, queued', same⟩ | ⟨other, inHand, -⟩ | recorded
      · cases queued.symm.trans queued'
        exact .inr (.inl ⟨request, rfl, same⟩)
      · rw [parked] at inHand
        cases inHand
      · exact .inr (.inr recorded)
  | left parked _ empty =>
      rcases pending with ⟨other, queued, -⟩ | ⟨other, inHand, -⟩ | recorded
      · cases empty.symm.trans queued
      · rw [parked] at inHand
        cases inHand
      · exact .inr (.inr recorded)
  | rested => exact pending
  | refused holding => exact next (by rw [holding]; rfl) rfl
  | @starved request _ _ holding _ _ _ room =>
      have fits := healthy.inHand request (by rw [holding]; rfl)
      rw [Descriptor.checkRoom_of_fits fits] at room
      cases room
  | entered holding => exact next (by rw [holding]; rfl) rfl
  | @finished request _ _ _ _ _ _ inside _ _ ended =>
      have inHand : host.engine.worker.request? = some request := by
        rw [inside]
        rfl
      cases ended with
      | broke _ back => cases (healthy.withWorld _).calm.release back
      | _ => exact next inHand rfl
  | @recorded request produced _ returning recorded =>
      have inHand : host.engine.worker.request? = some request := by
        rw [returning]
        rfl
      cases recorded with
      | delivered =>
          obtain ⟨response, outstanding, desk, ticket', -⟩ := ordered.delivered returning
          refine .inr (.inr (Desk.hasResponse_iff.2 ⟨response, ?_, ticket'.trans (own inHand)⟩))
          show (host.deliver request.ticket produced).desk.response = some response
          rw [desk]
      | ignored deserted => exact absurd (own inHand ▸ deserted) awaited
      | returned deserted => exact absurd (own inHand ▸ deserted) awaited
      | broke deserted => exact absurd (own inHand ▸ deserted) awaited

namespace Crowd

/-- Whoever waits for the last ticket can still be answered. -/
structure Attended (crowd : Crowd W) : Prop where
  orderly : crowd.Orderly
  winding : crowd.Winding
  healthy : crowd.host.Healthy
  pending : ∀ caller, crowd.waiting? caller = some crowd.host.desk.ticket →
    Pending crowd.host.desk crowd.host.engine.worker crowd.host.desk.ticket

namespace Attended

variable {crowd next : Crowd W}

theorem called {caller : Nat} {call after : Call} {host : Host W} (h : crowd.Attended)
    (found : crowd.calls[caller]? = some call) (step : CallStep call crowd.host after host) :
    (crowd.update caller (after, host)).Attended where
  orderly := h.orderly.called found step
  winding := h.winding.called found step
  healthy := h.healthy.callStep h.orderly.ordered step
  pending := by
    have waits := waiting?_update found (after, host)
    have own : crowd.waiting? caller = call.ticket? := by
      unfold waiting?
      rw [found]
      rfl
    intro other waiting
    change (crowd.update caller (after, host)).waiting? other = some host.desk.ticket at waiting
    show Pending host.desk host.engine.worker host.desk.ticket
    rcases step.tickets h.orderly.ordered with ⟨submits, ticket, -⟩ | ⟨submitsNot, ticket, -⟩
    · obtain ⟨_, _, -, -, ticket', request⟩ := step.submits submits
      refine .inl ⟨_, request, ?_⟩
      rw [ticket']
    · rw [waits] at waiting
      split at waiting
      · cases submitsNot.symm.trans waiting
      · rename_i differ
        rw [ticket] at waiting ⊢
        have mine : call.ticket? ≠ some crowd.host.desk.ticket := by
          intro same
          exact differ (h.orderly.apart caller other _ (own.trans same) waiting)
        have notLast : call.isLast = false := by
          cases last : call.isLast with
          | false => rfl
          | true =>
              obtain ⟨_, _, foundOther⟩ := waiting?_eq_some.1 waiting
              cases (h.winding.alone caller call found last).2 other _ (Ne.symm differ) foundOther
        exact step.pending h.orderly.ordered h.healthy mine notLast submitsNot
          (h.pending other waiting)

/-- No move leaves anybody unattended who waits for the last ticket. -/
theorem moved {move : Move} (h : crowd.Attended) (moved : crowd.Moved move next) :
    next.Attended := by
  have orderly := h.orderly.moved moved
  have winding := h.winding.moved moved
  cases moved with
  | began operation =>
      refine ⟨orderly, winding, h.healthy, ?_⟩
      intro caller waiting
      rw [waiting?, crowd.waiting?_append operation.ticket?_call] at waiting
      exact h.pending caller waiting
  | called _ found step => exact h.called found step
  | @worked host step =>
      refine ⟨orderly, winding, h.healthy.workerStep step, ?_⟩
      intro caller waiting
      change crowd.waiting? caller = some host.desk.ticket at waiting
      show Pending host.desk host.engine.worker host.desk.ticket
      rw [step.tickets.1] at waiting ⊢
      exact step.pending h.orderly.ordered h.healthy (h.orderly.patient caller _ waiting)
        (h.pending caller waiting)
  | @dropped _ _ _ host _ drops =>
      refine ⟨orderly, winding, h.healthy.beside drops.beside, ?_⟩
      intro caller waiting
      change crowd.waiting? caller = some host.desk.ticket at waiting
      show Pending host.desk host.engine.worker host.desk.ticket
      rw [drops.beside.desk] at waiting ⊢
      rw [drops.beside.worker]
      exact h.pending caller waiting
  | gaveUp =>
      refine ⟨orderly, winding, h.healthy, ?_⟩
      intro caller waiting
      rw [waiting?, crowd.waiting?_append rfl] at waiting
      exact h.pending caller waiting

theorem of_reachable {backend : Backend W} (calm : backend.Calm) {id : Nat} {options : Options}
    {framework : Framework} {world : W} {live : List Nat} {host : Host W}
    (opened : backend.openAs id options framework world live = .opened host)
    (reach : Reachable { host } crowd) : crowd.Attended := by
  have fresh := Backend.fresh_of_opened opened
  refine reach.keeps ?_ moved
  refine ⟨.of_reachable fresh .refl, .of_reachable fresh .refl, calm.opened opened, ?_⟩
  intro caller waiting
  obtain ⟨_, _, found⟩ := waiting?_eq_some.1 waiting
  simp at found

end Attended

/-! ### Callers that are too late -/

/-- A caller that was overtaken: it still waits, or has lost patience. -/
def Overtaken (crowd : Crowd W) (caller : Nat) (task : Task) (timeout ticket : Nat) : Prop :=
  ticket < crowd.host.desk.ticket
    ∧ (crowd.calls[caller]? = some (.awaiting task timeout ticket)
      ∨ timeout ≠ 0 ∧ crowd.calls[caller]? = some (.ended (.failed .timedOut) task.target))

namespace Overtaken

variable {crowd next : Crowd W} {caller timeout ticket : Nat} {task : Task}

theorem moved {move : Move} (h : crowd.Overtaken caller task timeout ticket)
    (attended : crowd.Attended) (moved : crowd.Moved move next) :
    next.Overtaken caller task timeout ticket := by
  refine ⟨Nat.lt_of_lt_of_le h.1 (attended.orderly.ticket_le moved), ?_⟩
  rcases h.2 with waits | ⟨impatient, ended⟩
  · rcases moved.call waits with waits | ⟨after, host, step, ends⟩
    · exact .inl waits
    · cases step with
      | lockedOut poisoned => cases attended.healthy.unpoisoned.symm.trans poisoned
      | received present =>
          have last := attended.orderly.ordered.ticket_of_pending (.inr (.inr present))
          exact absurd last (Nat.ne_of_lt h.1)
      | deserted impatient => exact .inr ⟨impatient, ends⟩
  · rcases moved.call ended with ended | ⟨after, host, step, -⟩
    · exact .inr ⟨impatient, ended⟩
    · cases step

/-- Once overtaken, a caller stays so, and a step of its own ends its patience and nothing else. -/
theorem of_reachable {later : Crowd W} (h : crowd.Overtaken caller task timeout ticket)
    (attended : crowd.Attended) (reach : Reachable crowd later) :
    later.Overtaken caller task timeout ticket := by
  have both := @Reachable.keeps W crowd later
    (fun crowd => crowd.Attended ∧ crowd.Overtaken caller task timeout ticket) reach ⟨attended, h⟩
    fun both moved => ⟨both.1.moved moved, both.2.moved both.1 moved⟩
  exact both.2

end Overtaken

end Crowd

/-! ### Losing an outcome -/

namespace CustomModel

/-- A caller submits a request and the worker records its outcome; another caller submits the next
one before the first has picked up anything. -/
def overtaking : List Move :=
  [.begins (.infer (byteTask 7).input (some 0)), .steps 0, .steps 0, .works, .works, .works, .works,
    .begins (.infer (byteTask 9).input (some 0)), .steps 1, .steps 1]

theorem overtaking_reached : ∃ crowd, Crowd.Reachable { host := echoEngine } crowd
    ∧ ∃ task, crowd.calls[0]? = some (.awaiting task 0 1) ∧ crowd.host.desk.ticket = 2 := by
  have run : (Crowd.afterAll? { host := echoEngine } overtaking).map
      (fun crowd => (crowd.calls[0]?.bind Call.wait?, crowd.host.desk.ticket))
      = some (some (0, 1), 2) := by
    decide +kernel
  obtain ⟨crowd, reached, seen⟩ := Option.map_eq_some_iff.1 run
  obtain ⟨waits, ticket⟩ := Prod.mk.inj seen
  obtain ⟨call, found, waits⟩ := Option.bind_eq_some_iff.1 waits
  obtain ⟨task, rfl⟩ := Call.eq_of_wait? waits
  exact ⟨crowd, Crowd.reachable_of_afterAll? reached, task, found, ticket⟩

end CustomModel

/-! ### Who is still answered -/

namespace Crowd

/-- With a backend that crashes in passes only, the outcome that a caller waits for is still to come
or still there exactly if nobody has submitted a request since.  A caller that has been overtaken is
never answered: it waits without end, or until its patience ends. -/
theorem pending_iff_latest {backend : Backend W} (calm : backend.Calm) {id : Nat}
    {options : Options} {framework : Framework} {world : W} {live : List Nat} {host : Host W}
    (opened : backend.openAs id options framework world live = .opened host) {crowd : Crowd W}
    (reach : Reachable { host } crowd) {caller timeout ticket : Nat} {task : Task}
    (waits : crowd.calls[caller]? = some (.awaiting task timeout ticket)) :
    (Pending crowd.host.desk crowd.host.engine.worker ticket ↔ ticket = crowd.host.desk.ticket)
      ∧ (ticket ≠ crowd.host.desk.ticket → ∀ later, Reachable crowd later →
        later.calls[caller]? = some (.awaiting task timeout ticket)
          ∨ timeout ≠ 0 ∧ later.calls[caller]?
            = some (.ended (.failed .timedOut) task.target)) := by
  have attended := Attended.of_reachable calm opened reach
  have waiting := waiting?_eq_some.2 ⟨task, timeout, waits⟩
  have given := attended.orderly.given caller ticket waiting
  constructor
  · constructor
    · exact attended.orderly.ordered.ticket_of_pending
    · rintro rfl
      exact attended.pending caller waiting
  · intro late later reach'
    have overtaken : crowd.Overtaken caller task timeout ticket := ⟨by omega, .inl waits⟩
    exact (overtaken.of_reachable attended reach').2

open CustomModel in
/-- The caller that was overtaken above waits for a ticket that no longer exists, and always
will. -/
theorem overtaken_caller_waits_on : ∃ (crowd : Crowd Unit) (task : Task),
    (¬ Pending crowd.host.desk crowd.host.engine.worker 1)
      ∧ ∀ later, Reachable crowd later → later.calls[0]? = some (.awaiting task 0 1) := by
  obtain ⟨crowd, reach, task, waits, ticket⟩ := overtaking_reached
  obtain ⟨latest, lost⟩ :=
    pending_iff_latest (backend_calm echoByte_fits) echoByte_opened reach waits
  have overtaken : 1 ≠ crowd.host.desk.ticket := by
    rw [ticket]
    decide
  refine ⟨crowd, task, fun pending => overtaken (latest.1 pending), ?_⟩
  intro later reach'
  rcases lost overtaken later reach' with still | ⟨impatient, -⟩
  · exact still
  · exact absurd rfl impatient

open CustomModel in
/-- With a calm backend, an outcome that is awaited without end can get lost. -/
theorem awaited_outcome_lost : echoByte.backend.Calm
    ∧ echoByte.backend.openAs 0 {} .custom () [] = .opened echoEngine
    ∧ ∃ crowd task, Reachable { host := echoEngine } crowd
      ∧ crowd.calls[0]? = some (.awaiting task 0 1)
      ∧ ¬ Pending crowd.host.desk crowd.host.engine.worker 1 := by
  refine ⟨backend_calm echoByte_fits, echoByte_opened, ?_⟩
  obtain ⟨crowd, reach, task, waits, ticket⟩ := overtaking_reached
  have orderly := Orderly.of_reachable (Backend.fresh_of_opened echoByte_opened) reach
  refine ⟨crowd, task, reach, waits, ?_⟩
  intro pending
  have last := orderly.ordered.ticket_of_pending pending
  rw [ticket] at last
  cases last

end Crowd

end Inference
