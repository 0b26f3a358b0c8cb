/-
A worker that has died.

It leaves a desk that is not idle and has no outcome on it, and so it stays: nobody is answered any
more, and nobody submits anything (`Crowd.Stuck.of_reachable`, `Crowd.Unanswered.of_reachable`).
-/
import Inference.Proofs.Engine.Closing
import Inference.Proofs.Engine.Origin

namespace Inference

variable {W : Type}

/-- On a desk that is neither idle nor has an outcome nobody submits or picks up anything. -/
theorem CallStep.idle {call next : Call} {host after : Host W}
    (step : CallStep call host next after)
    (awake : host.desk.mode ≠ .idle) (silent : host.desk.response = none) :
    after.desk.mode ≠ .idle ∧ after.desk.response = none ∧ next.ticket? = none := by
  have still {after : Host W} (alike : host.Alike after) :
      after.desk.mode ≠ .idle ∧ after.desk.response = none := by
    obtain ⟨_, _, _, _, desk⟩ := alike.desk
    rw [desk]
    exact ⟨awake, silent⟩
  have notIdle {middle : Host W} (tuned : host.Tuned middle) : middle.desk.mode ≠ .idle :=
    (still tuned.alike).1
  cases step with
  | checked onward => exact ⟨awake, silent, Call.ticket?_onward onward⟩
  | ran onward touched =>
      have same := still touched.alike
      exact ⟨same.1, same.2, Call.ticket?_onward onward⟩
  | submitted tuned _ idle => exact absurd idle (notIdle tuned)
  | faltered tuned idle => exact absurd idle (notIdle tuned)
  | lockedOut => exact ⟨awake, silent, rfl⟩
  | received present =>
      obtain ⟨response, recorded, -⟩ := Desk.hasResponse_iff.1 present
      cases silent.symm.trans recorded
  | deserted => exact ⟨awake, silent, rfl⟩
  | copied drops =>
      have same := still drops.beside.alike
      exact ⟨same.1, same.2, rfl⟩
  | spoilt drops =>
      have same := still drops.beside.alike
      exact ⟨same.1, same.2, rfl⟩
  | retired => exact ⟨awake, silent, rfl⟩
  | refused => exact ⟨awake, silent, rfl⟩
  | inherited => exact ⟨awake, silent, rfl⟩
  | dismissed => exact ⟨nofun, silent, rfl⟩
  | parted => exact ⟨awake, silent, rfl⟩
  | @cleared last _ after crash _ drops _ =>
      obtain ⟨_, _, _, _, desk⟩ := (Host.leftBy_alike after last crash).desk
      rw [desk, drops.beside.desk]
      cases last with
      | true => exact ⟨awake, rfl, rfl⟩
      | false => exact ⟨awake, silent, rfl⟩

theorem WorkerStep.desk_of_died {host after : Host W} (step : WorkerStep host after)
    (died : after.engine.worker = .died) :
    after.desk.mode = host.desk.mode ∧ after.desk.response = host.desk.response := by
  cases step with
  | starved => exact ⟨rfl, rfl⟩
  | rested parked => cases parked.symm.trans died
  | finished _ _ _ ended =>
      cases ended with
      | @broke _ _ middle _ back =>
          have desk := (Host.beside_of_release back).desk
          exact ⟨congrArg Desk.mode desk, congrArg Desk.response desk⟩
      | _ => cases died
  | recorded _ recorded =>
      cases recorded with
      | @broke _ _ middle _ _ back =>
          have desk := (Host.beside_of_takeBack back).desk
          have mode := congrArg Desk.mode desk
          have response := congrArg Desk.response desk
          exact ⟨mode, response⟩
      | _ => cases died
  | _ => cases died

namespace Crowd

variable {crowd next later : Crowd W} {request : Request}

/-- The worker has died over a request and has left no outcome. -/
structure Stuck (crowd : Crowd W) : Prop where
  orderly : crowd.Orderly
  died : crowd.host.engine.worker = .died
  awake : crowd.host.desk.mode ≠ .idle
  silent : crowd.host.desk.response = none

namespace Stuck

theorem of_work (orderly : crowd.Orderly) (taken : crowd.host.engine.worker.request? = some request)
    (work : crowd.after? .works = some next) (died : next.host.engine.worker = .died) :
    next.Stuck := by
  obtain ⟨host, worked, rfl⟩ := Option.map_eq_some_iff.1 work
  have step := Host.stepWorker_step worked
  obtain ⟨mode, response⟩ := step.desk_of_died died
  refine ⟨orderly.moved (.worked step), died, ?_, ?_⟩
  · show host.desk.mode ≠ .idle
    rw [mode]
    exact (orderly.ordered.alone taken).1
  · show host.desk.response = none
    rw [response]
    exact (orderly.ordered.inHand request taken).2

/-- Nobody is answered any more, and nobody comes to wait. -/
theorem moved {move : Move} (h : crowd.Stuck) (moved : crowd.Moved move next) :
    next.Stuck ∧ ∀ caller ticket, next.waiting? caller = some ticket →
      crowd.waiting? caller = some ticket := by
  have orderly := h.orderly.moved moved
  cases moved with
  | began operation =>
      refine ⟨⟨orderly, h.died, h.awake, h.silent⟩, ?_⟩
      intro caller ticket waits
      rwa [waiting?, crowd.waiting?_append operation.ticket?_call] at waits
  | @called _ caller call after host _ found step =>
      obtain ⟨awake, silent, idle⟩ := step.idle h.awake h.silent
      refine ⟨⟨orderly, step.worker.trans h.died, awake, silent⟩, ?_⟩
      intro other ticket waits
      rw [waiting?_update found] at waits
      split at waits
      · cases idle.symm.trans waits
      · exact waits
  | worked step =>
      have here := step.not_gone
      rw [h.died] at here
      cases here
  | @dropped _ _ _ host _ drops =>
      have desk : host.desk = crowd.host.desk := drops.beside.desk
      refine ⟨⟨orderly, drops.beside.worker.trans h.died, ?_, ?_⟩, fun _ _ waits => waits⟩
      · show host.desk.mode ≠ .idle
        rw [desk]
        exact h.awake
      · show host.desk.response = none
        rw [desk]
        exact h.silent
  | gaveUp =>
      refine ⟨⟨orderly, h.died, h.awake, h.silent⟩, ?_⟩
      intro caller ticket waits
      rwa [waiting?, crowd.waiting?_append rfl] at waits

/-- Over a worker that has died nobody is ever answered any more, and nobody comes to wait. -/
theorem of_reachable (h : crowd.Stuck) (reach : Reachable crowd later) :
    later.Stuck ∧ ∀ caller ticket, later.waiting? caller = some ticket →
      crowd.waiting? caller = some ticket := by
  refine @Reachable.keeps W crowd later (fun later => later.Stuck ∧ ∀ caller ticket,
    later.waiting? caller = some ticket → crowd.waiting? caller = some ticket)
    reach ⟨h, fun _ _ waits => waits⟩ ?_
  intro before after move ⟨stuck, waiting⟩ moved
  obtain ⟨stuck', waiting'⟩ := stuck.moved moved
  exact ⟨stuck', fun caller ticket waits => waiting caller ticket (waiting' caller ticket waits)⟩

end Stuck

/-- A caller that has waited for a ticket has got no outcome for it. -/
def Unanswered (crowd : Crowd W) (caller : Nat) (task : Task) (timeout ticket : Nat) : Prop :=
  crowd.calls[caller]? = some (.awaiting task timeout ticket)
    ∨ crowd.calls[caller]? = some (.ended (.failed .poisonedLock) task.target)
    ∨ timeout ≠ 0 ∧ crowd.calls[caller]? = some (.ended (.failed .timedOut) task.target)

namespace Unanswered

variable {caller timeout ticket : Nat} {task : Task}

theorem moved {move : Move} (h : crowd.Unanswered caller task timeout ticket) (stuck : crowd.Stuck)
    (moved : crowd.Moved move next) : next.Unanswered caller task timeout ticket := by
  rcases h with waits | locked | ⟨impatient, late⟩
  · rcases moved.call waits with waits | ⟨after, host, step, ends⟩
    · exact .inl waits
    · cases step with
      | lockedOut => exact .inr (.inl ends)
      | received present =>
          obtain ⟨response, recorded, -⟩ := Desk.hasResponse_iff.1 present
          cases stuck.silent.symm.trans recorded
      | deserted impatient => exact .inr (.inr ⟨impatient, ends⟩)
  · rcases moved.call locked with locked | ⟨after, host, step, -⟩
    · exact .inr (.inl locked)
    · cases step
  · rcases moved.call late with late | ⟨after, host, step, -⟩
    · exact .inr (.inr ⟨impatient, late⟩)
    · cases step

/-- Over a worker that has died a caller is never answered. -/
theorem of_reachable (h : crowd.Unanswered caller task timeout ticket) (stuck : crowd.Stuck)
    (reach : Reachable crowd later) : later.Unanswered caller task timeout ticket := by
  have both := @Reachable.keeps W crowd later
    (fun later => later.Stuck ∧ later.Unanswered caller task timeout ticket) reach ⟨stuck, h⟩
    fun both moved => ⟨(both.1.moved moved).1, both.2.moved both.1 moved⟩
  exact both.2

end Unanswered

end Crowd

end Inference
