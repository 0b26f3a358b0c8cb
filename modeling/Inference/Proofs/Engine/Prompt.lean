/-
Operations that are answered at once.

Most operations look at the handle, take the lock on the desk once, and are over.  A caller that is
alone with an engine whose worker rests has its answer then, and nothing has happened to the engine
but what the caller did under the lock (`Host.perform_of_locked`, or `Host.perform_of_crash` if the
backend crashed there).
-/
import Inference.Proofs.Engine.Failing

namespace Inference

variable {W : Type}

theorem Act.map_of {α β : Type} {act : Act W α} {host after : Host W} {outcome : Outcome Fault α}
    (ran : act host = some (outcome, after)) (f : α → β) :
    (do return f (← act) : Act W β) host = some (outcome.map f, after) := by
  show Act.bind act _ host = _
  rw [Act.bind, ran]
  cases outcome <;> rfl

/-- The worker has nothing to do as long as no pass is asked for. -/
theorem Host.stepWorker_of_idle {host : Host W} (parked : host.engine.worker = .parked)
    (idle : host.desk.mode = .idle) : host.stepWorker = none := by
  rw [stepWorker, parked]
  simp only [wake, idle]

namespace Host

variable {host after : Host W} {operation : Operation} {part : Part} {outcome : Outcome Fault Call}
  {answer : Outcome Fault Reply} {target : Option Frame}

/-- An operation that is over when it gives the lock back is answered with what came of it. -/
theorem perform_of_locked (begins : operation.call = .checking part)
    (isOpen : host.engine.isOpen = true) (locked : Act.locked part.run host = some (outcome, after))
    (settled : Call.settle part.target? outcome = .ended answer target)
    (still : after.stepWorker = none) : host.perform operation = (answer, after) := by
  have entered : (Call.entering part).step host = some (.ended answer target, after) := by
    rw [Call.step, locked, ← settled]
    rfl
  have run : operation.call.runWith callSteps host = (.ended answer target, after) := by
    rw [begins]
    exact (Call.runWith_step (Call.step_checking isOpen) _).trans <|
      (Call.runWith_step entered _).trans (Call.runWith_ended still answer target _)
  unfold perform
  rw [run]
  rfl

/-- An operation that does its part under the lock is answered with what came of it. -/
theorem perform_of_run (begins : operation.call = .checking part)
    (isOpen : host.engine.isOpen = true) (unpoisoned : host.engine.deskPoisoned = false)
    (ran : part.run host = some (outcome, after))
    (settled : Call.settle part.target? outcome = .ended answer target)
    (calm : ∀ message, outcome ≠ .crashed message) (still : after.stepWorker = none) :
    host.perform operation = (answer, after) := by
  refine perform_of_locked begins isOpen ?_ settled still
  unfold Act.locked
  rw [unpoisoned, if_neg (by simp), ran]
  cases outcome with
  | crashed message => exact absurd rfl (calm message)
  | done call => rfl
  | failed fault => rfl

/-- An operation whose backend crashes there leaves the lock poisoned. -/
theorem perform_of_crash (begins : operation.call = .checking part)
    (isOpen : host.engine.isOpen = true) (unpoisoned : host.engine.deskPoisoned = false)
    {message : String} (ran : part.run host = some (.crashed message, after))
    (still : after.poisonDesk.stepWorker = none) :
    host.perform operation = (.crashed message, after.poisonDesk) := by
  have locked : Act.locked part.run host = some (.crashed message, after.poisonDesk) := by
    unfold Act.locked
    rw [unpoisoned, if_neg (by simp), ran]
  exact perform_of_locked begins isOpen locked rfl still

/-! ### Setting something -/

section

variable {act : Act W Unit} {ending : Outcome Fault Unit} (begins : operation.call = .checking part)
  (isOpen : host.engine.isOpen = true) (unpoisoned : host.engine.deskPoisoned = false)
  (acts : part.run = do act; return .ended (.done .none) none)

include begins isOpen unpoisoned acts

theorem perform_of_setting (plain : part.target? = none) (ran : act host = some (ending, after))
    (calm : ∀ message, ending ≠ .crashed message) (still : after.stepWorker = none) :
    host.perform operation = (ending.map fun _ => .none, after) := by
  have whole : part.run host = some (ending.map fun _ => .ended (.done .none) none, after) := by
    rw [acts]
    exact Act.map_of ran fun _ => Call.ended (.done .none) none
  have settled : Call.settle part.target? (ending.map fun _ => .ended (.done .none) none)
      = .ended (ending.map fun _ => .none) none := by
    rw [plain]
    cases ending <;> rfl
  refine perform_of_run begins isOpen unpoisoned whole settled ?_ still
  cases ending with
  | crashed message => exact absurd rfl (calm message)
  | done value => exact Outcome.done_ne_crashed _
  | failed fault => exact Outcome.failed_ne_crashed _

theorem perform_of_setting_crash {message : String}
    (ran : act host = some (.crashed message, after)) (still : after.poisonDesk.stepWorker = none) :
    host.perform operation = (.crashed message, after.poisonDesk) := by
  refine perform_of_crash begins isOpen unpoisoned ?_ still
  rw [acts]
  exact Act.map_of ran fun _ => Call.ended (.done .none) none

/-- An operation that was done has done its part. -/
theorem ran_of_setting (plain : part.target? = none)
    (stays : ∀ ending middle, act host = some (ending, middle) →
      middle.stepWorker = none ∧ middle.poisonDesk.stepWorker = none)
    (still : host.stepWorker = none) (done : host.perform operation = (.done .none, after)) :
    act host = some (.done (), after) := by
  cases ran : act host with
  | none =>
      -- Then the caller would be waiting for the backend, and nobody would ever let it in.
      have blocked : (Call.entering part).step host = none := by
        have waits : part.run host = none := by
          rw [acts]
          show Act.bind act _ host = _
          rw [Act.bind, ran]
        rw [Call.step, Act.locked, unpoisoned, if_neg (by simp), waits]
        rfl
      have run : operation.call.runWith callSteps host = (.entering part, host) := by
        rw [begins]
        refine (Call.runWith_step (Call.step_checking isOpen) _).trans ?_
        rw [Call.runWith, blocked, still]
      rw [perform, run] at done
      cases done
  | some result =>
      obtain ⟨ending, middle⟩ := result
      obtain ⟨rests, rests'⟩ := stays ending middle ran
      cases ending with
      | done value =>
          rw [perform_of_setting begins isOpen unpoisoned acts plain ran
            (Outcome.done_ne_crashed _) rests] at done
          cases done
          rfl
      | failed fault =>
          rw [perform_of_setting begins isOpen unpoisoned acts plain ran
            (Outcome.failed_ne_crashed _) rests] at done
          cases done
      | crashed message =>
          rw [perform_of_setting_crash begins isOpen unpoisoned acts ran rests'] at done
          cases done

end

end Host

end Inference
