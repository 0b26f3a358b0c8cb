/-
Calls that fail on the spot.

A call fails on the spot if its own steps lead it to a failure and none of them changes anything
about the engine, its backend or the world.  Then nothing can be told afterwards from the call but
its answer: a caller that is alone with the engine is told of the failure and finds all as it was
(`Host.perform_of_fails`).

There are two reasons for that.  A lock that was poisoned turns every caller away
(`Operation.fails_of_poisoned`).  And a frame that there cannot be a pass on is refused before
anything is done for it (`Operation.fails_of_misfit`).
-/
import Inference.Engine.Alone
import Inference.Proofs.Engine.Flow
import Inference.Proofs.Tensor.Refusal
import Inference.Proofs.Tensor.Regular

namespace Inference

variable {W : Type}

/-- The call comes to a failure in so many steps of its own, and leaves everything as it is. -/
inductive Call.Fails (host : Host W) (fault : Fault) : Nat → Call → Prop where
  | now (target : Option Frame) : Fails host fault 0 (.ended (.failed fault) target)
  | later {steps : Nat} {call next : Call} (step : call.step host = some (next, host))
      (rest : Fails host fault steps next) : Fails host fault (steps + 1) call

namespace Call

variable {host : Host W} {fault : Fault}

theorem runWith_step {call next : Call} {after : Host W}
    (stepped : call.step host = some (next, after)) (fuel : Nat) :
    call.runWith (fuel + 1) host = next.runWith fuel after := by
  rw [runWith, stepped]

theorem runWith_work {call : Call} {after : Host W} (waits : call.step host = none)
    (worked : host.stepWorker = some after) (fuel : Nat) :
    call.runWith (fuel + 1) host = call.runWith fuel after := by
  rw [runWith, waits, worked]

theorem runWith_ended (still : host.stepWorker = none) (answer : Outcome Fault Reply)
    (target : Option Frame) (fuel : Nat) :
    (ended answer target).runWith fuel host = (ended answer target, host) := by
  cases fuel with
  | zero => rfl
  | succ fuel =>
      unfold runWith
      rw [still]
      rfl

theorem Fails.runWith {call : Call} {steps fuel : Nat} (fails : call.Fails host fault steps)
    (still : host.stepWorker = none) (enough : steps ≤ fuel) :
    ∃ target, call.runWith fuel host = (ended (.failed fault) target, host) := by
  induction fails generalizing fuel with
  | now target => exact ⟨target, runWith_ended still _ target fuel⟩
  | @later steps call next step _ ih =>
      obtain ⟨fuel, rfl⟩ : ∃ more, fuel = more + 1 := ⟨fuel - 1, by omega⟩
      obtain ⟨target, ends⟩ := ih (Nat.le_of_succ_le_succ enough)
      exact ⟨target, (runWith_step step fuel).trans ends⟩

end Call

/-- A caller that is alone is told of the failure, and has left everything as it was. -/
theorem Host.perform_of_fails {host : Host W} {operation : Operation} {fault : Fault} {steps : Nat}
    (fails : operation.call.Fails host fault steps) (still : host.stepWorker = none)
    (few : steps ≤ callSteps) : host.perform operation = (.failed fault, host) := by
  obtain ⟨target, ends⟩ := fails.runWith still few
  unfold perform
  rw [ends]
  rfl

/-! ### Steps that change nothing -/

namespace Call

variable {host : Host W} {part : Part} {task : Task}

theorem step_checking (isOpen : host.engine.isOpen = true) :
    (checking part).step host = some (entering part, host) := by
  rw [step, if_pos isOpen]

theorem step_poisoned (poisoned : host.engine.deskPoisoned = true) :
    (entering part).step host = some (ended (.failed .poisonedLock) part.target?, host) := by
  rw [step, Act.locked, if_pos poisoned]
  rfl

theorem step_learning (unpoisoned : host.engine.deskPoisoned = false) :
    (entering (.learnTimeout task)).step host
      = some (checking (.submit task host.desk.timeout), host) := by
  have ran : Part.run (.learnTimeout task) host
      = some (.done (checking (.submit task host.desk.timeout)), host) := rfl
  exact step_of_run unpoisoned ran (by simp)

end Call

/-! ### A poisoned lock -/

/-- Once the lock is poisoned every operation but closing fails on the spot: the lock says so,
unless the descriptor that comes with the operation is refused before. -/
theorem Operation.fails_of_poisoned {host : Host W} (isOpen : host.engine.isOpen = true)
    (poisoned : host.engine.deskPoisoned = true) {operation : Operation}
    (other : operation ≠ .close) : ∃ fault steps, operation.call.Fails host fault steps ∧ steps ≤ 2
      ∧ (fault = .poisonedLock ∨ ∃ info, info.validate = .error fault
        ∧ (operation = .reshape info ∨ ∃ input, operation = .inferShaped input info)) := by
  have locked (part : Part) : (Call.checking part).Fails host .poisonedLock 2 :=
    .later (Call.step_checking isOpen) (.later (Call.step_poisoned poisoned) (.now _))
  have guarded (info : Descriptor) (part : Part) : ∃ fault steps,
      (guarded info part).Fails host fault steps ∧ steps ≤ 2
        ∧ (fault = .poisonedLock ∨ info.validate = .error fault) := by
    unfold Operation.guarded
    cases checked : info.validate with
    | error fault => exact ⟨fault, 0, .now none, by omega, .inr rfl⟩
    | ok => exact ⟨_, 2, locked part, by omega, .inl rfl⟩
  cases operation with
  | close => exact absurd rfl other
  | reshape info =>
      obtain ⟨fault, steps, fails, few, reason⟩ := guarded info (.reshape info)
      exact ⟨fault, steps, fails, few, reason.imp_right fun checked => ⟨info, checked, .inl rfl⟩⟩
  | inferShaped input info =>
      obtain ⟨fault, steps, fails, few, reason⟩ :=
        guarded info (.learnTimeout { input, reshape := some info })
      exact ⟨fault, steps, fails, few,
        reason.imp_right fun checked => ⟨info, checked, .inr ⟨input, rfl⟩⟩⟩
  | infer input timeout => cases timeout <;> exact ⟨_, 2, locked _, by omega, .inl rfl⟩
  | _ => exact ⟨_, 2, locked _, by omega, .inl rfl⟩

/-! ### Frames that do not fit -/

theorem Frame.allBytes_of_none_mem {frame : Frame} (missing : none ∈ frame.regions) :
    ∃ fault, frame.allBytes = .error fault := by
  cases read : frame.allBytes with
  | error fault => exact ⟨fault, rfl⟩
  | ok bytes =>
      rw [regions_of_allBytes read] at missing
      obtain ⟨_, -, same⟩ := List.mem_map.1 missing
      cases same

/-- A frame that does not fit is refused as such, whether or not a pass is running. -/
theorem Part.submitFitting_of_misfit {task : Task} {host : Host W} (timeout : Nat)
    (misfits : task.input.Misfits host.desk.input) :
    ∃ fault, submitFitting task timeout host = some (.failed fault, host) ∧ fault.Invalid := by
  simp only [submitFitting, Act.desk_bind]
  by_cases differ : task.input.sizes ≠ host.desk.input.sizes
  · rw [if_pos differ]
    exact ⟨_, rfl, .intro _⟩
  rw [if_neg differ]
  obtain ⟨fault, missing⟩ := misfits.resolve_left differ
  rw [missing]
  exact ⟨fault, rfl, Frame.invalid_of_allBytes missing⟩

namespace Call

variable {host : Host W} {task : Task}

theorem step_submitting_of_misfit (unpoisoned : host.engine.deskPoisoned = false)
    (plain : task.reshape = none) (misfits : task.input.Misfits host.desk.input) (timeout : Nat) :
    ∃ fault, (entering (.submit task timeout)).step host
      = some (ended (.failed fault) task.target, host) ∧ fault.Invalid := by
  obtain ⟨fault, refused, invalid⟩ := Part.submitFitting_of_misfit timeout misfits
  refine ⟨fault, refused_of_submitTask unpoisoned ?_, invalid⟩
  rw [Part.submitTask_of_none plain]
  exact refused

theorem fails_submitting (isOpen : host.engine.isOpen = true)
    (unpoisoned : host.engine.deskPoisoned = false) (plain : task.reshape = none)
    (misfits : task.input.Misfits host.desk.input) (timeout : Nat) :
    ∃ fault, fault.Invalid ∧ (checking (.submit task timeout)).Fails host fault 2 := by
  obtain ⟨fault, refused, invalid⟩ := step_submitting_of_misfit unpoisoned plain misfits timeout
  exact ⟨fault, invalid, .later (step_checking isOpen) (.later refused (.now _))⟩

theorem fails_learning (isOpen : host.engine.isOpen = true)
    (unpoisoned : host.engine.deskPoisoned = false) (plain : task.reshape = none)
    (misfits : task.input.Misfits host.desk.input) :
    ∃ fault, fault.Invalid ∧ (checking (.learnTimeout task)).Fails host fault 4 := by
  obtain ⟨fault, invalid, fails⟩ :=
    fails_submitting isOpen unpoisoned plain misfits host.desk.timeout
  exact ⟨fault, invalid, .later (step_checking isOpen) (.later (step_learning unpoisoned) fails)⟩

/-- The frame to copy into may be refused before the input is looked at. -/
theorem fails_fitting (isOpen : host.engine.isOpen = true)
    (unpoisoned : host.engine.deskPoisoned = false) (plain : task.reshape = none)
    (misfits : task.input.Misfits host.desk.input) (target : Frame) :
    ∃ fault steps, fault.Invalid ∧ (checking (.fit task target)).Fails host fault steps
      ∧ steps ≤ 6 := by
  by_cases differ : target.sizes ≠ host.desk.output.sizes
  · have ran : Part.run (.fit task target) host = some (.failed
        (Part.sizeMismatch "output" "produces" target.sizes host.desk.output.sizes), host) := by
      simp only [Part.run, Act.desk_bind]
      rw [if_pos differ]
      rfl
    have refused := step_of_run unpoisoned ran (by simp)
    exact ⟨_, 2, .intro _, .later (step_checking isOpen) (.later refused (.now _)), by omega⟩
  · have ran : Part.run (.fit task target) host
        = some (.done (checking (.learnTimeout task)), host) := by
      simp only [Part.run, Act.desk_bind]
      rw [if_neg differ]
      rfl
    have onward := step_of_run unpoisoned ran (by simp)
    obtain ⟨fault, invalid, fails⟩ := fails_learning isOpen unpoisoned plain misfits
    exact ⟨fault, 6, invalid, .later (step_checking isOpen) (.later onward fails), by omega⟩

end Call

/-- Every operation that is to run a pass on a frame as it is fails on the spot if the frame does
not fit: its sizes are others than those of the input, or one of its tensors has no memory. -/
theorem Operation.fails_of_misfit {host : Host W} (isOpen : host.engine.isOpen = true)
    (unpoisoned : host.engine.deskPoisoned = false) {input : Frame}
    (misfits : input.Misfits host.desk.input) {operation : Operation}
    (runs : (∃ timeout, operation = .infer input timeout)
      ∨ ∃ target, operation = .inferInto input target) :
    ∃ fault steps, fault.Invalid ∧ operation.call.Fails host fault steps ∧ steps ≤ 6 := by
  rcases runs with ⟨timeout, rfl⟩ | ⟨target, rfl⟩
  · have plain : ({ input } : Task).reshape = none := rfl
    cases timeout with
    | none =>
        obtain ⟨fault, invalid, fails⟩ := Call.fails_learning isOpen unpoisoned plain misfits
        exact ⟨fault, 4, invalid, fails, by omega⟩
    | some milliseconds =>
        obtain ⟨fault, invalid, fails⟩ :=
          Call.fails_submitting isOpen unpoisoned plain misfits milliseconds
        exact ⟨fault, 2, invalid, fails, by omega⟩
  · have plain : ({ input, target := some target } : Task).reshape = none := rfl
    exact Call.fails_fitting isOpen unpoisoned plain misfits target

theorem Frame.misfits_of_unfit {input : Frame} {info : Descriptor}
    (unfit : input.sizes ≠ info.sizes ∨ none ∈ input.regions) : input.Misfits info :=
  unfit.imp_right Frame.allBytes_of_none_mem

theorem Ordered.still {host : Host W} (ordered : Ordered host.desk host.engine.worker)
    (idle : host.desk.mode = .idle) : host.stepWorker = none := by
  unfold Host.stepWorker
  rw [(ordered.idle idle).1]
  simp only [Host.wake, idle]

/-- An idle engine refuses a frame that does not fit and is as it was.  So does its lock once it is
poisoned, and says so. -/
theorem Host.perform_of_misfit {host : Host W} (ordered : Ordered host.desk host.engine.worker)
    (isOpen : host.engine.isOpen = true) (idle : host.desk.mode = .idle) {input : Frame}
    (misfits : input.Misfits host.desk.input) {operation : Operation}
    (runs : (∃ timeout, operation = .infer input timeout)
      ∨ ∃ target, operation = .inferInto input target) :
    ∃ fault, host.perform operation = (.failed fault, host)
      ∧ (host.engine.deskPoisoned = false → fault.Invalid)
      ∧ (host.engine.deskPoisoned = true → fault = .poisonedLock) := by
  have still := ordered.still idle
  cases poisoned : host.engine.deskPoisoned with
  | false =>
      obtain ⟨fault, steps, invalid, fails, few⟩ :=
        Operation.fails_of_misfit isOpen poisoned misfits runs
      exact ⟨fault, Host.perform_of_fails fails still (Nat.le_trans few (by decide)),
        fun _ => invalid, nofun⟩
  | true =>
      have other : operation ≠ .close := by
        rcases runs with ⟨timeout, rfl⟩ | ⟨target, rfl⟩ <;> nofun
      obtain ⟨fault, steps, fails, few, reason⟩ :=
        Operation.fails_of_poisoned isOpen poisoned other
      refine ⟨fault, Host.perform_of_fails fails still (Nat.le_trans few (by decide)), nofun,
        fun _ => ?_⟩
      rcases reason with locked | ⟨info, -, rfl | ⟨other, rfl⟩⟩
      · exact locked
      · rcases runs with ⟨timeout, ⟨⟩⟩ | ⟨target, ⟨⟩⟩
      · rcases runs with ⟨timeout, ⟨⟩⟩ | ⟨target, ⟨⟩⟩

end Inference
