/-
An engine on its way out.

From the moment the worker is asked to leave nothing is accepted any more.  The worker runs what is
due, if anything is, leaves its outcome for the caller, and goes: it has at most five steps to
make, however many moves the others make in between.  `Crowd.Drains` says what has become of
everything by some later moment, and is put together from `Crowd.Lived.emptied` and
`Crowd.Lived.work_le`.
-/
import Inference.Proofs.Engine.Latecomers
import Inference.Proofs.Engine.Survival

namespace Inference

variable {W : Type}

/-! ### What is left to be done -/

/-- How many steps a worker that is to leave has still to make.  A request on the desk it has to
take, to run in two steps, and to record before it goes. -/
def Worker.workLeft : Worker → Option Request → Nat
  | parked, some _ => 5
  | parked, none => 1
  | holding _, _ => 4
  | inPass .., _ => 3
  | returning .., _ => 2
  | exited, _ => 0
  | died, _ => 0

/-- How many steps the worker of an engine has still to make. -/
def Host.workLeft (host : Host W) : Nat := host.engine.worker.workLeft host.desk.request

namespace Host

variable {host : Host W}

theorem workLeft_of {worker : Worker} {request : Option Request}
    (stands : host.engine.worker = worker) (queued : host.desk.request = request) :
    host.workLeft = worker.workLeft request := by
  rw [workLeft, stands, queued]

theorem workLeft_le (host : Host W) : host.workLeft ≤ 5 := by
  unfold workLeft Worker.workLeft
  split <;> decide

/-- A worker that is to leave and makes no step is gone, or in a pass that does not end. -/
theorem gone_or_inPass (leaving : host.desk.mode = .leaving)
    (supplied : ∀ request outputs lending, host.engine.worker = .inPass request outputs lending →
      ∃ inputs, request.input.allBytes = .ok inputs) (still : host.stepWorker = none) :
    host.engine.worker.gone = true
      ∨ ∃ request inputs outputs lending, host.engine.worker = .inPass request outputs lending
        ∧ request.input.allBytes = .ok inputs
        ∧ host.engine.backend.finish inputs outputs lending host.world = none := by
  cases inHand : host.engine.worker.request? with
  | some request => exact .inr ⟨request, inPass_of_still inHand (supplied request) still⟩
  | none =>
      cases worker : host.engine.worker with
      | parked =>
          rw [stepWorker, worker, wake] at still
          cases queued : host.desk.request <;> simp [leaving, queued] at still
      | exited => exact .inl rfl
      | died => exact .inl rfl
      | _ =>
          rw [worker] at inHand
          cases inHand

end Host

/-- Every step of the worker leaves one step less. -/
theorem CalmStep.workLeft {host after : Host W} (step : CalmStep host after)
    (leaving : host.desk.mode = .leaving) : after.workLeft + 1 ≤ host.workLeft := by
  cases step with
  | took parked queued =>
      rw [Host.workLeft_of parked queued]
      exact Nat.le_refl 5
  | left parked _ empty =>
      rw [Host.workLeft_of parked empty]
      exact Nat.le_refl 1
  | rested _ asked => cases leaving.symm.trans asked
  | entered holding =>
      rw [Host.workLeft_of holding rfl]
      exact Nat.le_refl 4
  | passed passes =>
      have ahead := passes.ahead
      rw [Host.workLeft_of passes.returns rfl]
      cases worker : host.engine.worker with
      | holding =>
          rw [Host.workLeft_of worker rfl]
          exact Nat.le_succ 3
      | inPass =>
          rw [Host.workLeft_of worker rfl]
          exact Nat.le_refl 3
      | _ =>
          rw [worker] at ahead
          cases ahead
  | recorded returning free records =>
      rw [Host.workLeft_of returning rfl, Host.workLeft_of records.parked free]
      exact Nat.le_refl 2

/-! ### One move -/

namespace Crowd

variable {crowd next later : Crowd W} {chronicle since : Chronicle} {move : Move}

/-- What has become of what was due: nothing yet, or its pass is over. -/
def PassedOn (crowd later : Crowd W) (ran : List Ran) : Prop :=
  ran = [] ∧ later.host.due? = crowd.host.due?
    ∨ ∃ request pass, crowd.host.due? = some request ∧ ran = [pass] ∧ pass.ticket = request.ticket
      ∧ later.host.due? = none

/-- What a move makes of an engine whose worker is to leave. -/
structure Emptier (crowd : Crowd W) (move : Move) (next : Crowd W) : Prop where
  leaving : next.host.desk.mode = .leaving
  ticket : next.host.desk.ticket = crowd.host.desk.ticket
  /-- Nobody submits anything. -/
  submitted : ∀ past : Chronicle, (past.after crowd next move).submitted = past.submitted
  passedOn : ∃ ran, crowd.PassedOn next ran
    ∧ ∀ past : Chronicle, (past.after crowd next move).ran = past.ran ++ ran
  work : [move].countP Move.isWork + next.host.workLeft ≤ crowd.host.workLeft

theorem emptier_of_still (other : move.isWork = false) (leaving : next.host.desk.mode = .leaving)
    (ticket : next.host.desk.ticket = crowd.host.desk.ticket)
    (worker : next.host.engine.worker = crowd.host.engine.worker)
    (request : next.host.desk.request = crowd.host.desk.request)
    (submitted : ∀ past : Chronicle, (past.after crowd next move).submitted = past.submitted) :
    crowd.Emptier move next where
  leaving := leaving
  ticket := ticket
  submitted := submitted
  passedOn := by
    refine ⟨[], .inl ⟨rfl, ?_⟩, ?_⟩
    · rw [Host.due?, request, worker]
      rfl
    · intro past
      rw [List.append_nil]
      cases move with
      | works => cases other
      | _ => rfl
  work := by
    rw [List.countP_singleton, other, Host.workLeft_of worker request]
    exact Nat.le_of_eq (Nat.zero_add _)

/-- Every move is one of those by which the engine is emptied. -/
theorem emptier_of_after? (attended : crowd.Attended) (completes : chronicle.Completes crowd.host)
    (leaving : crowd.host.desk.mode = .leaving) (made : crowd.after? move = some next) :
    crowd.Emptier move next := by
  obtain ⟨orderly, winding, healthy, -⟩ := attended
  have ordered := orderly.ordered
  have moved := moved_of_after? made
  have leaves := moved.leaving orderly leaving
  cases moved with
  | began => exact emptier_of_still rfl leaves rfl rfl rfl fun _ => rfl
  | gaveUp => exact emptier_of_still rfl leaves rfl rfl rfl fun _ => rfl
  | dropped _ drops =>
      have desk := drops.beside.desk
      refine emptier_of_still rfl leaves ?_ drops.beside.worker ?_ fun _ => rfl
      · exact congrArg Desk.ticket desk
      · exact congrArg Desk.request desk
  | @called _ caller call after host mover found step =>
      -- It submits nothing any more, and clears the desk only when the worker is gone and has
      -- left nothing there.
      have idle := step.awake (by rw [leaving]; nofun)
      obtain ⟨request, -⟩ := step.due ordered healthy idle fun last same =>
        (completes.gone (winding.clearing caller last (same ▸ found))).2
      have ticket : host.desk.ticket = crowd.host.desk.ticket := by
        rcases step.tickets ordered with ⟨submits, -⟩ | ⟨-, ticket, -⟩
        · cases idle.symm.trans submits
        · exact ticket
      have other : move.isWork = false := by
        cases move <;> first | rfl | cases mover
      refine emptier_of_still other leaves ticket step.worker request fun past => ?_
      rw [Chronicle.after_called mover, submission?_of_none found idle]
      exact List.append_nil _
  | @worked host step =>
      obtain ⟨host', stepped, same⟩ := Option.map_eq_some_iff.1 made
      cases congrArg Crowd.host same
      have calm := completes.calmStep ordered healthy stepped
      refine ⟨leaves, step.tickets.1, fun _ => rfl, ⟨crowd.host.pass?.toList, ?_, fun _ => rfl⟩, ?_⟩
      · rcases calm.due ordered with ⟨none, due⟩ | ⟨request, ran, passes⟩
        · rw [none]
          exact .inl ⟨rfl, due⟩
        · obtain ⟨due, nothing⟩ := passes.due ordered
          rw [passes.pass]
          exact .inr ⟨request, ran, due, rfl, passes.served, nothing⟩
      · have work := calm.workLeft leaving
        show 1 + host.workLeft ≤ _
        omega

/-! ### From the dismissal on -/

theorem PassedOn.trans {ran ran' : List Ran} (before : crowd.PassedOn next ran)
    (onward : next.PassedOn later ran') : crowd.PassedOn later (ran ++ ran') := by
  rcases before with ⟨rfl, same⟩ | ⟨request, pass, due, rfl, served, nothing⟩
  · unfold PassedOn at onward
    rwa [same] at onward
  · rcases onward with ⟨rfl, same⟩ | ⟨_, _, due', -⟩
    · exact .inr ⟨request, pass, due, rfl, served, same.trans nothing⟩
    · cases nothing.symm.trans due'

variable {backend : Backend W} {id : Nat} {options : Options} {framework : Framework} {world : W}
  {live : List Nat} {host : Host W}

/-- Once the worker was asked to leave nothing is submitted, and what was due is run once. -/
theorem Lived.emptied (calm : backend.Calm)
    (opened : backend.openAs id options framework world live = .opened host)
    (lived : Lived { host } crowd chronicle) (leaving : crowd.host.desk.mode = .leaving)
    (onward : Lived crowd later since) : later.host.desk.mode = .leaving
      ∧ later.host.desk.ticket = crowd.host.desk.ticket ∧ since.submitted = []
      ∧ crowd.PassedOn later since.ran := by
  induction onward with
  | start => exact ⟨leaving, rfl, rfl, .inl ⟨rfl, rfl⟩⟩
  | @move middle next since before move made ih =>
      obtain ⟨leaves, ticket, nothing, passedOn⟩ := ih
      have lived' := lived.trans before
      have emptier := emptier_of_after? (Attended.of_reachable calm opened lived'.reachable)
        (.of_lived calm opened lived') leaves made
      obtain ⟨ran, further, added⟩ := emptier.passedOn
      refine ⟨emptier.leaving, emptier.ticket.trans ticket,
        (emptier.submitted since).trans nothing, ?_⟩
      rw [added]
      exact passedOn.trans further

/-- However the others move, the worker has no more than its steps to make. -/
theorem Lived.work_le (calm : backend.Calm)
    (opened : backend.openAs id options framework world live = .opened host)
    (lived : Lived { host } crowd chronicle) (leaving : crowd.host.desk.mode = .leaving)
    {moves : List Move} (run : crowd.afterAll? moves = some later) :
    moves.countP Move.isWork + later.host.workLeft ≤ crowd.host.workLeft := by
  induction moves generalizing crowd chronicle with
  | nil =>
      cases run
      exact Nat.le_of_eq (Nat.zero_add _)
  | cons move rest ih =>
      obtain ⟨next, made, onward⟩ := Option.bind_eq_some_iff.1 run
      have emptier := emptier_of_after? (Attended.of_reachable calm opened lived.reachable)
        (.of_lived calm opened lived) leaving made
      have further := ih (.move lived move made) emptier.leaving onward
      have first := emptier.work
      rw [List.countP_singleton] at first
      rw [List.countP_cons]
      omega

/-- What has become of an engine by some later moment, when its worker was asked to leave. -/
structure Drains (crowd : Crowd W) (past : Chronicle) (later : Crowd W) (since : Chronicle) :
    Prop where
  leaving : later.host.desk.mode = .leaving
  /-- No request is accepted any more. -/
  submitted : since.submitted = []
  /-- No pass ends but the one for what was due. -/
  passedOn : crowd.PassedOn later since.ran
  /-- A request that was queued or in the worker's hands is run exactly once, now or later. -/
  once : ∀ request, crowd.host.desk.request = some request
      ∨ crowd.host.engine.worker.request? = some request →
    later.host.due? = some request ∧ (∀ ran ∈ (past.append since).ran, ran.ticket ≠ request.ticket)
      ∨ ∃! ran, ran ∈ (past.append since).ran ∧ ran.ticket = request.ticket
  /-- Whoever waited for such a request, or for an outcome that lies on the desk, is told nothing
  but the outcome of its own pass, or that its time is up. -/
  answered : ∀ (caller timeout ticket : Nat) (task : Task),
    crowd.calls[caller]? = some (Call.awaiting task timeout ticket) →
      Pending crowd.host.desk crowd.host.engine.worker ticket →
        ∃ call : Call, later.calls[caller]? = some call
          ∧ call.Answered (past.append since) crowd.host.engine.id task timeout ticket
  /-- If it still waits when the outcome is recorded or the worker is gone, it is given the outcome
  with its next step. -/
  answers : ∀ (caller timeout ticket : Nat) (task : Task),
    crowd.calls[caller]? = some (Call.awaiting task timeout ticket) →
      Pending crowd.host.desk crowd.host.engine.worker ticket →
        later.calls[caller]? = some (Call.awaiting task timeout ticket) →
          later.host.desk.hasResponse ticket = true ∨ later.host.engine.worker.gone = true →
            ∃ result next, (past.append since).Answer crowd.host.engine.id ticket result
              ∧ later.after? (.steps caller) = some next
              ∧ next.calls[caller]? = some (Call.receive task result)
  /-- The worker waits for nothing but the end of a pass, and when it goes nothing is left. -/
  works : later.host.stepWorker = none →
    later.host.engine.worker = .exited ∧ later.host.due? = none
      ∨ ∃ request inputs outputs lending,
        later.host.engine.worker = .inPass request outputs lending
          ∧ request.input.allBytes = .ok inputs
          ∧ later.host.engine.backend.finish inputs outputs lending later.host.world = none

/-- A request that was queued or in the worker's hands is still to be run, or was run once. -/
theorem once_of_passedOn {past : Chronicle} (follows : (past.append since).Follows later.host)
    (completes : past.Completes crowd.host)
    (ordered : Ordered crowd.host.desk crowd.host.engine.worker)
    (passedOn : crowd.PassedOn later since.ran) {request : Request}
    (coming : crowd.host.desk.request = some request
      ∨ crowd.host.engine.worker.request? = some request) :
    later.host.due? = some request ∧ (∀ ran ∈ (past.append since).ran, ran.ticket ≠ request.ticket)
      ∨ ∃! ran, ran ∈ (past.append since).ran ∧ ran.ticket = request.ticket := by
  have unique {ran : Ran} (member : ran ∈ (past.append since).ran)
      (served : ran.ticket = request.ticket) :
      ∃! ran, ran ∈ (past.append since).ran ∧ ran.ticket = request.ticket := by
    refine ⟨ran, ⟨member, served⟩, ?_⟩
    rintro other ⟨member', served'⟩
    exact List.inj_on_of_nodup_map follows.passes member' member (served'.trans served.symm)
  rcases Host.due_or_returning ordered coming with due | ⟨produced, returning⟩
  · rcases passedOn with ⟨-, same⟩ | ⟨request', pass, due', ran, served, -⟩
    · have still := same.trans due
      exact .inl ⟨still, (follows.ahead request (Host.due_cases still)).2⟩
    · cases due.symm.trans due'
      have member : pass ∈ (past.append since).ran := by
        refine List.mem_append_right _ ?_
        rw [ran]
        exact List.mem_cons_self
      exact .inr (unique member served)
  · -- The worker has run it and is about to record the outcome.
    obtain ⟨s, ran, own, asked, -⟩ := completes.returning request produced returning
    exact .inr (unique (List.mem_append_left _ own.wasRan) (own.ticket.trans asked))

theorem Lived.drains (calm : backend.Calm)
    (opened : backend.openAs id options framework world live = .opened host)
    (lived : Lived { host } crowd chronicle) (leaving : crowd.host.desk.mode = .leaving)
    (onward : Lived crowd later since) : crowd.Drains chronicle later since := by
  have fresh := Backend.fresh_of_opened opened
  have whole := lived.trans onward
  have attended := Attended.of_reachable calm opened lived.reachable
  have healthy := (Attended.of_reachable calm opened whole.reachable).healthy
  have completes := Chronicle.Completes.of_lived calm opened lived
  have follows := (Chronicle.Tells.of_lived fresh whole).follows
  have engine : crowd.host.engine.id = host.engine.id := lived.reachable.id
  obtain ⟨leaves, ticket, nothing, passedOn⟩ := lived.emptied calm opened leaving onward
  refine ⟨leaves, nothing, passedOn, ?_, ?_, ?_, ?_⟩
  · exact fun request coming =>
      once_of_passedOn follows completes attended.orderly.ordered passedOn coming
  · intro caller timeout ticket' task waits _
    rw [engine]
    exact lived.answered calm opened waits onward
  · intro caller timeout ticket' task _ pending waits ready
    have last := (attended.orderly.ordered.ticket_of_pending pending).trans ticket.symm
    rw [engine]
    rcases ready with present | gone
    · exact whole.answers calm opened waits present
    · exact whole.answers calm opened waits (whole.recorded calm opened gone waits last)
  · intro still
    rcases Host.gone_or_inPass leaves (supplied_of_reachable fresh whole.reachable) still with
      gone | inPass
    · have empty := ((Chronicle.Completes.of_lived calm opened whole).gone gone).2
      have alive := healthy.alive
      left
      cases worker : later.host.engine.worker with
      | exited =>
          exact ⟨rfl, Host.due_of_free worker empty⟩
      | died => exact absurd worker alive
      | _ =>
          rw [worker] at gone
          cases gone
    · exact .inr inPass

end Crowd

/-! ### Closing is safe and drains -/

namespace CustomModel

/-- A caller submits a request, then one call closes the handle and asks the worker to leave, while
another one comes too late. -/
def closingTwice : List Move :=
  [.begins (.infer (byteTask 7).input (some 0)), .steps 0, .steps 0, .begins .close, .begins .close,
    .steps 1, .steps 2, .steps 1]

/-- The worker runs the request and goes, the caller picks up its outcome, and the handle is closed
to the end. -/
def drainingByte : List Move := List.replicate 5 .works ++ [.steps 0, .steps 1, .steps 1]

end CustomModel

namespace Crowd

/-- With a backend that crashes in passes only, of all calls that are to close a handle exactly one
does, and the others change nothing.  Every operation that begins on a closed handle is turned away
and has no part in anything.  Once the worker was asked to leave no request is accepted; what is
queued or being run is run to its end exactly once, and whoever waits for it is given its outcome;
the worker goes after at most five steps and one pass, and leaves nothing behind.  When the call
that has closed the handle is through, the engine has let go of its backend. -/
theorem closed_once_and_drained {backend : Backend W} (calm : backend.Calm) {id : Nat}
    {options : Options} {framework : Framework} {world : W} {live : List Nat} {host : Host W}
    (opened : backend.openAs id options framework world live = .opened host) {crowd : Crowd W}
    {chronicle : Chronicle} (lived : Lived { host } crowd chronicle) :
    chronicle.ClosedByOne crowd
      ∧ (crowd.host.engine.isOpen = false → ∀ operation next later, operation ≠ .close →
        crowd.after? (.begins operation) = some next → Reachable next later →
          later.TurnsAway crowd.calls.length operation)
      ∧ (crowd.host.desk.mode = .leaving →
        (∀ later since, Lived crowd later since → crowd.Drains chronicle later since)
          ∧ ∀ moves later, crowd.afterAll? moves = some later →
            moves.countP Move.isWork + later.host.workLeft ≤ crowd.host.workLeft
              ∧ crowd.host.workLeft ≤ 5) := by
  have fresh := Backend.fresh_of_opened opened
  have orderly := Orderly.of_reachable fresh lived.reachable
  have completes := Chronicle.Completes.of_lived calm opened lived
  refine ⟨?_, ?_, ?_⟩
  · refine (Chronicle.Closing.of_lived fresh lived).closedByOne orderly fun detached => ?_
    refine completes.gone ?_
    cases gone : crowd.host.engine.worker.gone with
    | true => rfl
    | false => cases detached.symm.trans (completes.attached gone)
  · exact fun closed operation next later other made reach => turnsAway closed other made reach
  · intro leaving
    refine ⟨fun later since onward => lived.drains calm opened leaving onward, ?_⟩
    exact fun moves later run => ⟨lived.work_le calm opened leaving run, crowd.host.workLeft_le⟩

open CustomModel in
/-- With a request on the desk two calls are to close the handle.  The request is run and its caller
is given its byte, one of the two closes the handle, and whoever comes after them is turned away. -/
theorem closed_with_request_queued : ∃ (crowd later : Crowd Unit) (chronicle since : Chronicle),
    Lived { host := echoEngine } crowd chronicle ∧ crowd.host.desk.mode = .leaving
      ∧ crowd.host.desk.request.isSome = true ∧ Lived crowd later since
      ∧ crowd.Drains chronicle later since ∧ (later.given? 0).map (·.regions) = some [some [7]]
      ∧ (∃! caller : Nat, (chronicle.append since).begun[caller]? = some Operation.close
        ∧ later.calls[caller]? = some (Call.ended (.done .none) none))
      ∧ ∃ next, crowd.after? (.begins .timeout) = some next
        ∧ next.TurnsAway crowd.calls.length .timeout := by
  have run : (Crowd.afterAll? { host := echoEngine } closingTwice).any (fun crowd =>
      decide (crowd.host.desk.mode = .leaving) && crowd.host.desk.request.isSome
        && !crowd.host.engine.isOpen && !crowd.givenUp
        && (crowd.afterAll? drainingByte).any fun later =>
          decide ((later.given? 0).map (·.regions) = some [some [7]])
            && later.calls.all Call.isOver) = true := by
    decide +kernel
  simp only [Option.any_eq_true, Bool.and_eq_true, Bool.not_eq_true', decide_eq_true_eq] at run
  obtain ⟨crowd, reached, ⟨⟨⟨leaving, queued⟩, closed⟩, kept⟩, later, onward, given, ended⟩ := run
  obtain ⟨chronicle, lived, begun⟩ := Lived.run .start reached
  obtain ⟨since, lived', begun'⟩ := Lived.run .start onward
  have calm := backend_calm echoByte_fits
  obtain ⟨-, away, drains⟩ := closed_once_and_drained calm echoByte_opened lived
  obtain ⟨byOne, -, -⟩ := closed_once_and_drained calm echoByte_opened (lived.trans lived')
  refine ⟨crowd, later, chronicle, since, lived, leaving, queued, lived',
    (drains leaving).1 later since lived', given, ?_, ?_⟩
  · refine byOne.exactly ⟨1, ?_⟩ fun caller call _ found =>
      List.all_eq_true.1 ended call (List.mem_of_getElem? found)
    show (chronicle.begun ++ since.begun)[1]? = _
    rw [begun, begun']
    rfl
  · have begins : crowd.after? (.begins .timeout)
        = some { crowd with calls := crowd.calls ++ [Operation.timeout.call] } := by
      rw [after?, kept]
      rfl
    exact ⟨_, begins, away closed .timeout _ _ (by rintro ⟨⟩) begins .refl⟩

end Crowd

end Inference
