/-
What a call can do in one step.

`CallStep` lists the steps of calls, each with what it needs and what it leaves behind; that there
are no others is `Call.step_callStep` and `Call.expire_callStep`.  Submitting a request is the step
with the most stages and has a list of its own, `Submission`: it is refused, or goes through, or
the backend crashes on the way (`Part.submitTask_cases`, `Part.submitTask_submission`).
-/
import Inference.Engine.Crowd
import Inference.Proofs.Engine.Lock

namespace Inference

variable {W : Type}

/-! ### Submitting a request -/

namespace Host

/-- The engine made ready for a request: it counts as running and the last outcome is forgotten. -/
def cleared (host : Host W) : Host W := host.withDesk { host.desk with mode := .running }.forget.2

/-- The frame that goes with the outcome that is forgotten. -/
def stale (host : Host W) : List Frame := { host.desk with mode := .running }.forget.1.toList

/-- The request that a task becomes. -/
def requestFor (host : Host W) (task : Task) : Request :=
  { ticket := host.desk.ticket + 1, input := task.input.copyFor .engine
    output := host.desk.output }

/-- Puts a request on the desk, under the next ticket. -/
def enqueue (host : Host W) (task : Task) : Host W :=
  host.withDesk { host.desk with
    ticket := host.desk.ticket + 1, request := some (host.requestFor task) }

end Host

/-- There cannot be a pass on the frame: its sizes are not those of the descriptor, or one of its
tensors has no memory. -/
def Frame.Misfits (frame : Frame) (info : Descriptor) : Prop :=
  frame.sizes ≠ info.sizes ∨ ∃ fault, frame.allBytes = .error fault

theorem Frame.not_misfits {frame : Frame} {info : Descriptor} : ¬ frame.Misfits info
    ↔ frame.sizes = info.sizes ∧ ∃ inputs, frame.allBytes = .ok inputs := by
  unfold Misfits
  rw [not_or, Decidable.not_not]
  cases frame.allBytes with
  | error fault => simp
  | ok inputs => simp

/-- An attempt to submit a request, with how it ends. -/
inductive Submission (task : Task) (timeout : Nat) (host : Host W) :
    Outcome Fault Call → Host W → Prop where
  | refused {fault : Fault} {after : Host W} (tuned : host.Tuned after) :
      Submission task timeout host (.failed fault) after
  | wrecked {message : String} {after : Host W} (wrecked : host.Wrecked message after) :
      Submission task timeout host (.crashed message) after
  | accepted {middle dropped : Host W} {inputs : List Bytes} (tuned : host.Tuned middle)
      (shape : ∀ info, task.reshape = some info → middle.desk.input.agrees info = true
        ∨ middle.desk.input = info)
      (idle : middle.desk.mode = .idle) (sizes : task.input.sizes = middle.desk.input.sizes)
      (bytes : task.input.allBytes = .ok inputs)
      (drops : middle.cleared.Drops middle.stale none dropped) :
      Submission task timeout host (.done (.awaiting task timeout (dropped.desk.ticket + 1)))
        (dropped.enqueue task)
  /-- The backend crashed over the outcome that was to be forgotten. -/
  | crashed {middle after : Host W} {message : String} (tuned : host.Tuned middle)
      (idle : middle.desk.mode = .idle)
      (drops : middle.cleared.Drops middle.stale (some message) after) :
      Submission task timeout host (.crashed message) after

namespace Part

/-- Submits a task to an engine that has its input. -/
def submitFitting (task : Task) (timeout : Nat) : Act W Call := do
  let desk ← Act.desk
  if task.input.sizes ≠ desk.input.sizes then
    Act.fail (sizeMismatch "input" "expects" task.input.sizes desk.input.sizes)
  let _ ← Act.ofExcept task.input.allBytes
  let mode ← Act.ofExcept desk.mode.accept
  let (stale, desk) := { desk with mode }.forget
  Act.setDesk desk
  Act.dropAll stale.toList
  let desk ← Act.desk
  let ticket := desk.ticket + 1
  let request := { ticket, input := task.input.copyFor .engine, output := desk.output }
  Act.setDesk { desk with ticket, request := some request }
  return .awaiting task timeout ticket

theorem submitTask_of_none {task : Task} (h : task.reshape = none) (timeout : Nat) :
    (submitTask task timeout : Act W Call) = submitFitting task timeout := by
  unfold submitTask submitFitting
  rw [h]

theorem submitTask_of_some {task : Task} {info : Descriptor} (h : task.reshape = some info)
    (timeout : Nat) (host : Host W) :
    submitTask task timeout host =
      if host.desk.input.agrees info then submitFitting task timeout host
      else (renegotiate info >>= fun _ => submitFitting task timeout) host := by
  unfold submitTask submitFitting
  rw [h]
  simp only [Act.desk_bind]
  cases host.desk.input.agrees info <;> rfl

/-- A task that brings a shape of its own is submitted once the engine has taken up that shape. -/
theorem submitTask_cases {task : Task} {timeout : Nat} {host after : Host W}
    {outcome : Outcome Fault Call} (h : submitTask task timeout host = some (outcome, after)) :
    (∀ info, task.reshape = some info → host.desk.input.agrees info = true)
        ∧ submitFitting task timeout host = some (outcome, after)
      ∨ ∃ info, task.reshape = some info ∧ host.desk.input.agrees info = false
        ∧ ((∃ middle, renegotiate info host = some (.done (), middle)
              ∧ submitFitting task timeout middle = some (outcome, after))
          ∨ (∃ fault, outcome = .failed fault
              ∧ renegotiate info host = some (.failed fault, after))
          ∨ ∃ message, outcome = .crashed message
              ∧ renegotiate info host = some (.crashed message, after)) := by
  cases reshape : task.reshape with
  | none =>
      rw [submitTask_of_none reshape] at h
      exact .inl ⟨nofun, h⟩
  | some info =>
      rw [submitTask_of_some reshape] at h
      by_cases agrees : host.desk.input.agrees info = true
      · rw [if_pos agrees] at h
        refine .inl ⟨?_, h⟩
        rintro _ ⟨⟩
        exact agrees
      · rw [if_neg agrees] at h
        refine .inr ⟨info, rfl, by simpa using agrees, ?_⟩
        obtain ⟨⟨⟩, middle, hshape, h⟩ | ⟨fault, hshape, rfl⟩ | ⟨message, hshape, rfl⟩ :=
          Act.bind_cases h
        · exact .inl ⟨middle, hshape, h⟩
        · exact .inr (.inl ⟨fault, rfl, hshape⟩)
        · exact .inr (.inr ⟨message, rfl, hshape⟩)

theorem submitFitting_of_unfit {task : Task} {timeout : Nat} {host : Host W}
    (unfit : task.input.Misfits host.desk.input ∨ host.desk.mode ≠ .idle) :
    ∃ fault, submitFitting task timeout host = some (.failed fault, host) := by
  simp only [submitFitting, Act.desk_bind]
  by_cases differ : task.input.sizes ≠ host.desk.input.sizes
  · rw [if_pos differ]
    exact ⟨_, rfl⟩
  rw [if_neg differ]
  cases bytes : task.input.allBytes with
  | error fault => exact ⟨fault, rfl⟩
  | ok inputs =>
      rw [Act.ok_bind]
      cases mode : host.desk.mode with
      | running => exact ⟨_, rfl⟩
      | leaving => exact ⟨_, rfl⟩
      | idle =>
          rw [mode] at unfit
          rcases unfit with (sizes | ⟨fault, missing⟩) | awake
          · exact absurd sizes differ
          · cases bytes.symm.trans missing
          · exact absurd rfl awake

theorem submitFitting_of_fit {task : Task} {timeout : Nat} {host : Host W}
    (fits : ¬ task.input.Misfits host.desk.input) (idle : host.desk.mode = .idle) :
    submitFitting task timeout host = (Act.dropAll host.stale >>= fun _ host =>
      some (.done (.awaiting task timeout (host.desk.ticket + 1)), host.enqueue task))
        host.cleared := by
  obtain ⟨sizes, inputs, bytes⟩ := Frame.not_misfits.1 fits
  simp only [submitFitting, Act.desk_bind]
  rw [if_neg (not_not_intro sizes), bytes, Act.ok_bind, idle]
  rfl

theorem submitFitting_cases {task : Task} {timeout : Nat} {host after : Host W}
    {outcome : Outcome Fault Call} (h : submitFitting task timeout host = some (outcome, after)) :
    (∃ fault, outcome = .failed fault ∧ after = host
        ∧ (task.input.Misfits host.desk.input ∨ host.desk.mode ≠ .idle))
      ∨ (¬ task.input.Misfits host.desk.input ∧ host.desk.mode = .idle
        ∧ ((∃ dropped, host.cleared.Drops host.stale none dropped
            ∧ outcome = .done (.awaiting task timeout (dropped.desk.ticket + 1))
            ∧ after = dropped.enqueue task)
          ∨ ∃ message, host.cleared.Drops host.stale (some message) after
            ∧ outcome = .crashed message)) := by
  by_cases unfit : task.input.Misfits host.desk.input ∨ host.desk.mode ≠ .idle
  · obtain ⟨fault, refused⟩ := submitFitting_of_unfit unfit
    cases refused.symm.trans h
    exact .inl ⟨fault, rfl, rfl, unfit⟩
  rw [not_or, Decidable.not_not] at unfit
  rw [submitFitting_of_fit unfit.1 unfit.2] at h
  refine .inr ⟨unfit.1, unfit.2, ?_⟩
  obtain ⟨⟨⟩, dropped, hdrop, h⟩ | ⟨fault, hdrop, -⟩ | ⟨message, hdrop, rfl⟩ := Act.bind_cases h
  · obtain ⟨crash, drops, ending⟩ := dropAll_drops hdrop
    cases h
    cases crash with
    | some message => cases ending
    | none => exact .inl ⟨dropped, drops, rfl, rfl⟩
  · obtain ⟨crash, -, ending⟩ := dropAll_drops hdrop
    cases crash <;> cases ending
  · obtain ⟨crash, drops, ending⟩ := dropAll_drops hdrop
    cases crash with
    | none => cases ending
    | some text =>
        cases ending
        exact .inr ⟨message, drops, rfl⟩

theorem submitFitting_failed {task : Task} {timeout : Nat} {host after : Host W} {fault : Fault}
    (h : submitFitting task timeout host = some (.failed fault, after)) :
    after = host ∧ (task.input.Misfits host.desk.input ∨ host.desk.mode ≠ .idle) := by
  rcases submitFitting_cases h with
    ⟨_, -, same, unfit⟩ | ⟨-, -, ⟨dropped, -, ⟨⟩, -⟩ | ⟨message, -, ⟨⟩⟩⟩
  exact ⟨same, unfit⟩

/-- Once the engine has been tuned for a task, the submission goes through, or is refused and leaves
the engine so, or the backend crashes over the last outcome. -/
theorem submitFitting_submission {task : Task} {timeout : Nat} {host middle after : Host W}
    {outcome : Outcome Fault Call} (tuned : host.Tuned middle)
    (shape : ∀ info, task.reshape = some info → middle.desk.input.agrees info = true
      ∨ middle.desk.input = info)
    (h : submitFitting task timeout middle = some (outcome, after)) :
    Submission task timeout host outcome after := by
  rcases submitFitting_cases h with
    ⟨fault, rfl, rfl, -⟩ | ⟨fits, idle, ⟨dropped, drops, rfl, rfl⟩ | ⟨message, drops, rfl⟩⟩
  · exact .refused tuned
  · obtain ⟨sizes, inputs, bytes⟩ := Frame.not_misfits.1 fits
    exact .accepted tuned shape idle sizes bytes drops
  · exact .crashed tuned idle drops

/-- Every attempt to submit a request is one of those listed. -/
theorem submitTask_submission {task : Task} {timeout : Nat} {host after : Host W}
    {outcome : Outcome Fault Call} (h : submitTask task timeout host = some (outcome, after)) :
    Submission task timeout host outcome after := by
  obtain ⟨agrees, h⟩ | ⟨info, reshape, -, ⟨middle, hshape, h⟩ | ⟨fault, rfl, hshape⟩
    | ⟨message, rfl, hshape⟩⟩ := submitTask_cases h
  · exact submitFitting_submission .same (fun info same => .inl (agrees info same)) h
  · refine submitFitting_submission (renegotiate_tunes info host _ _ hshape) ?_ h
    intro wanted same
    cases reshape.symm.trans same
    exact .inr (renegotiate_input hshape)
  · exact .refused (renegotiate_tunes info host _ _ hshape)
  · exact .wrecked (renegotiate_tunes info host _ _ hshape)

end Part

/-! ### Steps of calls -/

/-- What a caller that submits nothing does to an engine. -/
inductive Host.Touched (host : Host W) : Host W → Prop where
  | tuned {after : Host W} (tuned : host.Tuned after) : Touched host after
  /-- The backend crashed, and left the desk poisoned. -/
  | wrecked {message : String} {after : Host W} (wrecked : host.Wrecked message after) :
      Touched host after.poisonDesk

/-- The engine once the last user has cleared it, or another one, or the backend crashed over it. -/
def Host.leftBy (host : Host W) (last : Bool) (crash : Option String) : Host W :=
  if crash.isNone || last then host.detach else host.poisonDesk

/-- What one who closes an engine takes off its desk. -/
def Desk.clear (desk : Desk) (last : Bool) : List Frame × Desk :=
  if last then desk.empty else desk.sweep

/-- The task that a part is to submit in the end. -/
def Part.task? : Part → Option Task
  | fit task _ => some task
  | learnTimeout task => some task
  | submit task _ => some task
  | _ => none

namespace Call

/-- What becomes of a call that submits nothing: it goes on with its task, or ends without an
output. -/
inductive Onward (task : Option Task) : Call → Prop where
  | checking {part : Part} (same : part.task? = task) : Onward task (.checking part)
  | entering {part : Part} (same : part.task? = task) : Onward task (.entering part)
  | ended {answer : Outcome Fault Reply} {target : Option Frame}
      (bare : (ended answer target).output? = none) : Onward task (.ended answer target)

end Call

/-- One step of a call, or the end of its patience. -/
inductive CallStep : Call → Host W → Call → Host W → Prop where
  | checked {part : Part} {call : Call} {host : Host W} (onward : call.Onward part.task?) :
      CallStep (.checking part) host call host
  | ran {part : Part} {call : Call} {host after : Host W} (onward : call.Onward part.task?)
      (touched : host.Touched after) : CallStep (.entering part) host call after
  | submitted {task : Task} {timeout : Nat} {host middle dropped : Host W} {inputs : List Bytes}
      (tuned : host.Tuned middle)
      (shape : ∀ info, task.reshape = some info → middle.desk.input.agrees info = true
        ∨ middle.desk.input = info)
      (idle : middle.desk.mode = .idle) (sizes : task.input.sizes = middle.desk.input.sizes)
      (bytes : task.input.allBytes = .ok inputs)
      (drops : middle.cleared.Drops middle.stale none dropped) :
      CallStep (.entering (.submit task timeout)) host
        (.awaiting task timeout (dropped.desk.ticket + 1)) (dropped.enqueue task)
  /-- The backend crashed over the outcome that was to be forgotten. -/
  | faltered {task : Task} {timeout : Nat} {host middle after : Host W} {message : String}
      (tuned : host.Tuned middle) (idle : middle.desk.mode = .idle)
      (drops : middle.cleared.Drops middle.stale (some message) after) :
      CallStep (.entering (.submit task timeout)) host (.ended (.crashed message) task.target)
        after.poisonDesk
  | lockedOut {task : Task} {timeout ticket : Nat} {host : Host W}
      (poisoned : host.engine.deskPoisoned = true) :
      CallStep (.awaiting task timeout ticket) host
        (.ended (.failed .poisonedLock) task.target) host
  | received {task : Task} {timeout ticket : Nat} {host : Host W} {desk : Desk}
      {result : Except Fault Frame} (present : host.desk.hasResponse ticket = true)
      (collected : host.desk.collect = (some result, desk)) :
      CallStep (.awaiting task timeout ticket) host (Call.receive task result) (host.withDesk desk)
  | deserted {task : Task} {timeout ticket : Nat} {host : Host W} (impatient : timeout ≠ 0)
      (absent : host.desk.hasResponse ticket = false) :
      CallStep (.awaiting task timeout ticket) host (.ended (.failed .timedOut) task.target)
        (host.withDesk { host.desk with deserted := some ticket })
  | copied {output target : Frame} {answer : Outcome Fault Reply} {host after : Host W}
      (drops : host.Drops [output] none after) :
      CallStep (.dropping output answer target) host (.ended answer (some target)) after
  /-- The backend crashed over the output that had been copied. -/
  | spoilt {output target : Frame} {answer : Outcome Fault Reply} {message : String}
      {host after : Host W} (drops : host.Drops [output] (some message) after) :
      CallStep (.dropping output answer target) host (.ended (.crashed message) (some target)) after
  | retired {last : Bool} {host : Host W} (isOpen : host.engine.isOpen = true) :
      CallStep (.closing last) host (.dismissing last)
        { host with
          engine := { host.engine with isOpen := false }
          live := host.live.filter (· != host.engine.id) }
  | refused {host : Host W} (closed : host.engine.isOpen = false) :
      CallStep (.closing false) host (.ended (.failed .closedHandle) none) host
  | inherited {host : Host W} (closed : host.engine.isOpen = false) :
      CallStep (.closing true) host (.clearing true) host
  | dismissed {last : Bool} {host : Host W} :
      CallStep (.dismissing last) host (.expecting last)
        (host.withDesk { host.desk with mode := .leaving })
  | parted {last : Bool} {host : Host W} (gone : host.engine.worker.gone = true) :
      CallStep (.expecting last) host (.clearing last) host
  | cleared {last : Bool} {host after : Host W} {crash : Option String}
      {answer : Outcome Fault Reply}
      (drops : (host.withDesk (host.desk.clear last).2).Drops (host.desk.clear last).1 crash after)
      (bare : (Call.ended answer none).output? = none) :
      CallStep (.clearing last) host (.ended answer none) (after.leftBy last crash)

namespace Part

/-- What a part does that submits nothing. -/
theorem run_tunes {part : Part} (other : ∀ task timeout, part ≠ .submit task timeout)
    (host : Host W) : Act.Tunes part.run host := by
  cases part with
  | readInput =>
      rintro outcome after ⟨⟩
      exact .same
  | readOutput =>
      rintro outcome after ⟨⟩
      exact .same
  | readTimeout =>
      rintro outcome after ⟨⟩
      exact .same
  | writeTimeout milliseconds =>
      rintro outcome after ⟨⟩
      exact .timeout milliseconds
  | readProperty key => exact Act.tunes_map (readProperty_tunes key host) _
  | writeProperty key value => exact Act.tunes_map (writeProperty_tunes key value host) _
  | reshape info => exact Act.tunes_map (renegotiate_tunes info host) _
  | fit task target =>
      intro outcome after h
      simp only [run, Act.desk_bind] at h
      split at h <;> cases h <;> exact .same
  | learnTimeout task =>
      rintro outcome after ⟨⟩
      exact .same
  | submit task timeout => exact absurd rfl (other task timeout)

theorem done_of_map {act : Act W α} {f : α → Call} {host after : Host W} {call : Call}
    (h : (do return f (← act) : Act W Call) host = some (.done call, after)) :
    ∃ value, call = f value := by
  obtain ⟨value, middle, -, hrest⟩ | ⟨fault, -, ⟨⟩⟩ | ⟨message, -, ⟨⟩⟩ := Act.bind_cases h
  cases hrest
  exact ⟨value, rfl⟩

theorem run_onward {part : Part} (other : ∀ task timeout, part ≠ .submit task timeout)
    {host after : Host W} {call : Call} (h : part.run host = some (.done call, after)) :
    call.Onward part.task? := by
  cases part with
  | readInput =>
      cases h
      exact .ended rfl
  | readOutput =>
      cases h
      exact .ended rfl
  | readTimeout =>
      cases h
      exact .ended rfl
  | writeTimeout milliseconds =>
      cases h
      exact .ended rfl
  | readProperty key =>
      obtain ⟨value, rfl⟩ := done_of_map h
      exact .ended rfl
  | writeProperty key value =>
      obtain ⟨⟨⟩, rfl⟩ := done_of_map h
      exact .ended rfl
  | reshape info =>
      obtain ⟨⟨⟩, rfl⟩ := done_of_map h
      exact .ended rfl
  | fit task target =>
      simp only [run, Act.desk_bind] at h
      split at h
      · cases h
      · cases h
        exact .checking rfl
  | learnTimeout task =>
      cases h
      exact .checking rfl
  | submit task timeout => exact absurd rfl (other task timeout)

end Part

namespace Call

/-- A call that takes the lock does its part, unless the lock is poisoned. -/
theorem entering_cases {part : Part} {host after : Host W} {next : Call}
    (h : (entering part).step host = some (next, after)) :
    (host.engine.deskPoisoned = true ∧ next = .ended (.failed .poisonedLock) part.target?
        ∧ after = host)
      ∨ host.engine.deskPoisoned = false ∧ ∃ outcome middle,
        part.run host = some (outcome, middle) ∧ next = settle part.target? outcome
          ∧ ((∀ message, outcome ≠ .crashed message) ∧ after = middle
            ∨ ∃ message, outcome = .crashed message ∧ after = middle.poisonDesk) := by
  simp only [step, Act.locked] at h
  by_cases poisoned : host.engine.deskPoisoned = true
  · rw [if_pos poisoned] at h
    cases h
    exact .inl ⟨poisoned, rfl, rfl⟩
  · rw [if_neg poisoned] at h
    refine .inr ⟨by simpa using poisoned, ?_⟩
    cases ran : part.run host with
    | none =>
        rw [ran] at h
        cases h
    | some ending =>
        obtain ⟨outcome, middle⟩ := ending
        rw [ran] at h
        cases outcome with
        | done call =>
            cases h
            exact ⟨_, middle, rfl, rfl, .inl ⟨nofun, rfl⟩⟩
        | failed fault =>
            cases h
            exact ⟨_, middle, rfl, rfl, .inl ⟨nofun, rfl⟩⟩
        | crashed message =>
            cases h
            exact ⟨_, middle, rfl, rfl, .inr ⟨message, rfl, rfl⟩⟩

/-- A call that gets the lock does its work and gives the lock back, unless the work crashes. -/
theorem step_of_run {part : Part} {host after : Host W} {outcome : Outcome Fault Call}
    (unpoisoned : host.engine.deskPoisoned = false) (ran : part.run host = some (outcome, after))
    (calm : ∀ message, outcome ≠ .crashed message) :
    (entering part).step host = some (settle part.target? outcome, after) := by
  have locked : Act.locked part.run host = some (outcome, after) := by
    unfold Act.locked
    rw [unpoisoned, if_neg (by simp), ran]
    cases outcome with
    | crashed message => exact absurd rfl (calm message)
    | done call => rfl
    | failed fault => rfl
  rw [step, locked]
  rfl

theorem refused_of_submitTask {task : Task} {timeout : Nat} {host after : Host W} {fault : Fault}
    (unpoisoned : host.engine.deskPoisoned = false)
    (refused : Part.submitTask task timeout host = some (.failed fault, after)) :
    (entering (.submit task timeout)).step host
      = some (.ended (.failed fault) task.target, after) := by
  have ran : Part.run (.submit task timeout) host = some (.failed fault, after) := refused
  exact step_of_run unpoisoned ran (by simp)

theorem entering_step {part : Part} {host after : Host W} {call : Call}
    (h : (entering part).step host = some (call, after)) :
    CallStep (.entering part) host call after := by
  rcases entering_cases h with ⟨-, rfl, rfl⟩ | ⟨-, outcome, middle, ran, rfl, ending⟩
  · exact .ran (.ended rfl) (.tuned .same)
  by_cases submits : ∃ task timeout, part = .submit task timeout
  · obtain ⟨task, timeout, rfl⟩ := submits
    cases Part.submitTask_submission ran with
    | refused tuned =>
        obtain ⟨-, rfl⟩ | ⟨message, ⟨⟩, -⟩ := ending
        exact .ran (.ended rfl) (.tuned tuned)
    | wrecked wrecked =>
        obtain ⟨calm, -⟩ | ⟨message, ⟨⟩, rfl⟩ := ending
        · exact absurd rfl (calm _)
        · exact .ran (.ended rfl) (.wrecked wrecked)
    | accepted tuned shape idle sizes bytes drops =>
        obtain ⟨-, rfl⟩ | ⟨message, ⟨⟩, -⟩ := ending
        exact .submitted tuned shape idle sizes bytes drops
    | crashed tuned idle drops =>
        obtain ⟨calm, -⟩ | ⟨message, ⟨⟩, rfl⟩ := ending
        · exact absurd rfl (calm _)
        · exact .faltered tuned idle drops
  · have other : ∀ task timeout, part ≠ .submit task timeout := fun task timeout same =>
      submits ⟨task, timeout, same⟩
    have settles := Part.run_tunes other host outcome middle ran
    obtain ⟨calm, rfl⟩ | ⟨message, rfl, rfl⟩ := ending
    · cases outcome with
      | done value => exact .ran (Part.run_onward other ran) (.tuned settles)
      | failed fault => exact .ran (.ended rfl) (.tuned settles)
      | crashed message => exact absurd rfl (calm message)
    · exact .ran (.ended rfl) (.wrecked settles)

theorem tryReceive_step {task : Task} {timeout ticket : Nat} {host after : Host W} {call : Call}
    (h : tryReceive task ticket host = some (call, after)) :
    CallStep (.awaiting task timeout ticket) host call after := by
  unfold tryReceive at h
  split at h
  · rename_i poisoned
    cases h
    exact .lockedOut poisoned
  split at h
  · rename_i present
    split at h
    · rename_i collected
      cases h
      exact .received present collected
    · cases h
  · cases h

theorem hasResponse_of_tryReceive {task : Task} {ticket : Nat} {host : Host W}
    (h : tryReceive task ticket host = none) : host.desk.hasResponse ticket = false := by
  cases present : host.desk.hasResponse ticket with
  | false => rfl
  | true =>
      unfold tryReceive at h
      split at h
      · cases h
      unfold Desk.hasResponse at present
      unfold Desk.collect at h
      cases response : host.desk.response with
      | none =>
          rw [response] at present
          cases present
      | some recorded =>
          rw [response] at h
          obtain ⟨number, result⟩ := recorded
          cases result with
          | error fault => cases h
          | ok parcel => cases parcel <;> cases h

theorem clearing_step {last : Bool} {host after : Host W} {call : Call}
    (h : (clearing last).step host = some (call, after)) :
    CallStep (.clearing last) host call after := by
  simp only [step] at h
  change Option.map _ (Act.dropAll (host.desk.clear last).1
    (host.withDesk (host.desk.clear last).2)) = _ at h
  cases dropped : Act.dropAll (host.desk.clear last).1 (host.withDesk (host.desk.clear last).2) with
  | none =>
      rw [dropped] at h
      cases h
  | some ending =>
      obtain ⟨outcome, middle⟩ := ending
      obtain ⟨crash, drops, rfl⟩ := dropAll_drops dropped
      rw [dropped] at h
      cases crash with
      | none =>
          cases h
          exact .cleared drops rfl
      | some message =>
          cases last <;> cases h <;> exact .cleared drops rfl

/-- Every step of a call is one of those listed. -/
theorem step_callStep {call next : Call} {host after : Host W}
    (h : call.step host = some (next, after)) : CallStep call host next after := by
  cases call with
  | checking part =>
      simp only [step] at h
      split at h <;> cases h
      · exact .checked (.entering rfl)
      · exact .checked (.ended rfl)
  | entering part => exact entering_step h
  | awaiting task timeout ticket => exact tryReceive_step h
  | dropping output answer target =>
      simp only [step] at h
      cases dropped : Act.drop output host with
      | none =>
          rw [dropped] at h
          cases h
      | some ending =>
          obtain ⟨outcome, middle⟩ := ending
          obtain ⟨crash, drops, rfl⟩ := drop_drops dropped
          rw [dropped] at h
          cases crash <;> cases h
          · exact .copied drops
          · exact .spoilt drops
  | closing last =>
      simp only [step, Host.retire] at h
      cases isOpen : host.engine.isOpen with
      | true =>
          rw [isOpen] at h
          cases h
          exact .retired isOpen
      | false =>
          rw [isOpen] at h
          cases last <;> cases h
          · exact .refused isOpen
          · exact .inherited isOpen
  | dismissing last =>
      cases h
      exact .dismissed
  | expecting last =>
      simp only [step] at h
      split at h <;> cases h
      exact .parted ‹_›
  | clearing last => exact clearing_step h
  | ended answer target => cases h

/-- So is the end of a call's patience. -/
theorem expire_callStep {call next : Call} {host after : Host W}
    (h : call.expire host = some (next, after)) : CallStep call host next after := by
  cases call with
  | awaiting task timeout ticket =>
      simp only [expire] at h
      split at h
      · cases h
      rename_i impatient
      split at h
      · rename_i received
        cases h
        exact tryReceive_step received
      · rename_i absent
        cases h
        exact .deserted impatient (hasResponse_of_tryReceive absent)
  | _ => cases h

end Call

end Inference
