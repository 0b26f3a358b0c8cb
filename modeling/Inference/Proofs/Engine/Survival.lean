/-
What the worker survives.

A worker that survives needs three steps for a request, however many moves others make in between,
and leaves its outcome where the caller finds it (`Crowd.fares_of_run`).  It dies only in the steps
that `Host.Fatal` lists (`Host.Fatal.dies`); then whoever waits is never answered
(`Crowd.Unanswered.of_reachable`).
-/
import Inference.Proofs.Engine.Fate
import Inference.Proofs.Engine.Standstill

namespace Inference

variable {W : Type}

/-- Whether a move is a step of the worker. -/
def Move.isWork : Move → Bool
  | works => true
  | _ => false

namespace Crowd

variable {crowd next later : Crowd W} {request : Request}

theorem Moved.worker {move : Move} (moved : crowd.Moved move next) (other : move.isWork = false) :
    next.host.engine.worker = crowd.host.engine.worker := by
  cases moved with
  | began => rfl
  | called _ _ step => exact step.worker
  | worked => cases other
  | dropped _ drops => exact drops.beside.worker
  | gaveUp => rfl

/-- A pass is entered only with an input that is all there. -/
def Supplied (crowd : Crowd W) : Prop :=
  ∀ request outputs lending, crowd.host.engine.worker = .inPass request outputs lending →
    ∃ inputs, request.input.allBytes = .ok inputs

theorem supplied_of_reachable {backend : Backend W} {host : Host W} (fresh : host.Fresh backend)
    (reach : Reachable { host } crowd) : crowd.Supplied := by
  refine reach.keeps ?_ ?_
  · intro request outputs lending inside
    cases fresh.worker.symm.trans inside
  · intro crowd next move before moved request outputs lending inside
    cases moved with
    | began => exact before request outputs lending inside
    | called _ _ step => exact before request outputs lending (step.worker.symm.trans inside)
    | worked step =>
        cases step with
        | entered holding allocates bytes =>
            cases inside
            exact ⟨_, bytes⟩
        | rested parked => cases parked.symm.trans inside
        | finished _ _ _ ended => cases ended <;> cases inside
        | recorded _ recorded => cases recorded <;> cases inside
        | _ => cases inside
    | dropped _ drops =>
        exact before request outputs lending (drops.beside.worker.symm.trans inside)
    | gaveUp => exact before request outputs lending inside

/-- The worker is through with a request: the outcome is recorded, and whoever waits for it has it
with its next step. -/
structure Served (before after : Crowd W) (request : Request) (produced : Except Fault Frame) :
    Prop where
  returning : before.host.engine.worker = .returning request produced
  records : before.host.Records after.host request produced
  answers : ∀ (caller : Nat) (task : Task) (timeout : Nat),
    before.calls[caller]? = some (.awaiting task timeout request.ticket) →
      ∃ answered, after.after? (.steps caller) = some answered
        ∧ answered.calls[caller]? = some (if after.host.engine.deskPoisoned
          then .ended (.failed .poisonedLock) task.target else .receive task produced)

theorem served_of_records (orderly : crowd.Orderly) {host : Host W} {produced : Except Fault Frame}
    (returning : crowd.host.engine.worker = .returning request produced)
    (records : crowd.host.Records host request produced) :
    crowd.Served { crowd with host } request produced where
  returning := returning
  records := records
  answers := by
    intro caller task timeout waits
    have waiting := waiting?_eq_some.2 ⟨task, timeout, waits⟩
    obtain ⟨present, outcome⟩ := records.awaited (orderly.patient caller _ waiting)
    obtain ⟨host', received⟩ := Call.tryReceive_of_outcome task present outcome
    have inside : caller < crowd.calls.length := (List.getElem?_eq_some_iff.1 waits).1
    refine ⟨Crowd.update { crowd with host } caller (_, host'), ?_, List.getElem?_set_self inside⟩
    show (crowd.calls[caller]?.bind fun call => (call.step host).bind fun after => _) = some _
    rw [waits]
    show (Call.tryReceive task request.ticket host).bind _ = some _
    rw [received]
    rfl

theorem work_fate (orderly : crowd.Orderly)
    (taken : crowd.host.engine.worker.request? = some request)
    (work : crowd.after? .works = some next) :
    crowd.host.Fatal request ∧ next.host.engine.worker = .died
      ∨ (∃ produced, crowd.Served next request produced)
      ∨ next.host.engine.worker.request? = some request
        ∧ next.host.engine.worker.stepsLeft + 1 ≤ crowd.host.engine.worker.stepsLeft := by
  obtain ⟨host, worked, rfl⟩ := Option.map_eq_some_iff.1 work
  rcases (Host.stepWorker_step worked).fate orderly.ordered taken with fatal | recorded | further
  · exact .inl fatal
  · obtain ⟨produced, returning, records⟩ := recorded
    exact .inr (.inl ⟨produced, served_of_records orderly returning records⟩)
  · exact .inr (.inr further)

/-- How a request fares that the worker has taken. -/
inductive Fares (crowd : Crowd W) (request : Request) (moves : List Move) (later : Crowd W) :
    Prop where
  /-- The worker is still at it, and has used up some of its steps. -/
  | busy (taken : later.host.engine.worker.request? = some request)
      (steps : moves.countP Move.isWork + later.host.engine.worker.stepsLeft
        ≤ crowd.host.engine.worker.stepsLeft)
  /-- With one of its steps the worker has recorded the outcome, or died. -/
  | through {earlier rest : List Move} {before after : Crowd W}
      (split : moves = earlier ++ .works :: rest) (run : crowd.afterAll? earlier = some before)
      (work : before.after? .works = some after) (onward : after.afterAll? rest = some later)
      (ending : before.host.Fatal request ∧ after.host.engine.worker = .died
        ∨ ∃ produced, before.Served after request produced)

theorem Fares.cons {moves : List Move} {move : Move} (made : crowd.after? move = some next)
    (steps : [move].countP Move.isWork + next.host.engine.worker.stepsLeft
      ≤ crowd.host.engine.worker.stepsLeft)
    (fares : next.Fares request moves later) : crowd.Fares request (move :: moves) later := by
  cases fares with
  | busy taken further =>
      refine .busy taken ?_
      rw [List.countP_cons]
      rw [List.countP_singleton] at steps
      omega
  | @through earlier rest before after split run work onward ending =>
      refine .through (by rw [split, List.cons_append]) ?_ work onward ending
      show (crowd.after? move).bind _ = _
      rw [made]
      exact run

/-- Whatever the others do, the worker is through with a request after three steps. -/
theorem fares_of_run {moves : List Move} (orderly : crowd.Orderly)
    (taken : crowd.host.engine.worker.request? = some request)
    (run : crowd.afterAll? moves = some later) : crowd.Fares request moves later := by
  induction moves generalizing crowd with
  | nil =>
      cases run
      exact .busy taken (by simp)
  | cons move rest ih =>
      obtain ⟨next, made, onward⟩ := Option.bind_eq_some_iff.1 run
      have moved := moved_of_after? made
      have orderly' := orderly.moved moved
      by_cases works : move.isWork = true
      · have same : move = .works := by
          cases move <;> first | rfl | cases works
        subst same
        have start : crowd.afterAll? [] = some crowd := rfl
        rcases work_fate orderly taken made with fatal | served | ⟨kept, fewer⟩
        · exact .through (List.nil_append _).symm start made onward (.inl fatal)
        · exact .through (List.nil_append _).symm start made onward (.inr served)
        · refine (ih orderly' kept onward).cons made ?_
          rw [List.countP_singleton, if_pos works]
          omega
      · -- The others leave the worker where it is.
        have worker := moved.worker (by simpa using works)
        rw [← worker] at taken
        refine (ih orderly' taken onward).cons made ?_
        rw [List.countP_singleton, if_neg works, worker]
        omega

/-! ### What the worker survives -/

/-- A worker that has taken a request dies exactly in a fatal step, and waits for nothing but the
end of a pass.  A pass that fails is survived and reported as failed.  However the others move, the
worker is through with the request after three steps: it has left the outcome where whoever waits
for it gets it, or it has died.  Once it has died nobody is answered and nobody submits anything
ever again. -/
theorem worker_dies_iff_fatal {backend : Backend W} {id : Nat} {options : Options}
    {framework : Framework} {world : W} {live : List Nat} {host : Host W}
    (opened : backend.openAs id options framework world live = .opened host) {crowd : Crowd W}
    (reach : Reachable { host } crowd) {request : Request}
    (taken : crowd.host.engine.worker.request? = some request) :
    (∀ next, crowd.after? .works = some next →
        (next.host.engine.worker = .died ↔ crowd.host.Fatal request))
      ∧ (crowd.after? .works = none → ∃ inputs outputs lending,
        crowd.host.engine.worker = .inPass request outputs lending
          ∧ request.input.allBytes = .ok inputs
          ∧ crowd.host.engine.backend.finish inputs outputs lending crowd.host.world = none)
      ∧ (∀ next inputs outputs lending pass world fault, crowd.after? .works = some next →
        crowd.host.engine.worker = .inPass request outputs lending →
        request.input.allBytes = .ok inputs →
        crowd.host.engine.backend.finish inputs outputs lending crowd.host.world
          = some (pass, world) →
        pass.failure? request.output = some fault → ¬ crowd.host.Fatal request →
          next.host.engine.worker = .returning request (.error fault)
            ∧ ∃ text, fault = .passFailed text)
      ∧ (∀ moves later, crowd.afterAll? moves = some later → crowd.Fares request moves later)
      ∧ (∀ next later, crowd.after? .works = some next → next.host.engine.worker = .died →
        Reachable next later →
          (∀ caller ticket, later.waiting? caller = some ticket →
            next.waiting? caller = some ticket)
          ∧ ∀ caller task timeout ticket,
            next.calls[caller]? = some (.awaiting task timeout ticket) →
              later.Unanswered caller task timeout ticket) := by
  have fresh := Backend.fresh_of_opened opened
  have orderly := Orderly.of_reachable fresh reach
  have supplied := supplied_of_reachable fresh reach
  refine ⟨?_, ?_, ?_, fun _ _ run => fares_of_run orderly taken run, ?_⟩
  · intro next work
    obtain ⟨after, worked, rfl⟩ := Option.map_eq_some_iff.1 work
    constructor
    · intro died
      rcases work_fate orderly taken work with ⟨fatal, -⟩ | ⟨_, served⟩ | ⟨kept, -⟩
      · exact fatal
      · cases died.symm.trans served.records.parked
      · rw [died] at kept
        cases kept
    · intro fatal
      obtain ⟨after', worked', died⟩ := fatal.dies
      cases worked.symm.trans worked'
      exact died
  · intro still
    have none : crowd.host.stepWorker = none := Option.map_eq_none_iff.1 still
    exact Host.inPass_of_still taken (supplied request) none
  · intro next inputs outputs lending pass world fault work inside bytes finish failure safe
    obtain ⟨after, worked, rfl⟩ := Option.map_eq_some_iff.1 work
    exact ⟨(Host.stepWorker_step worked).reports inside bytes finish failure safe,
      Pass.failure?_eq failure⟩
  · intro next later work died onward
    have stuck := Stuck.of_work orderly taken work died
    refine ⟨(stuck.of_reachable onward).2, ?_⟩
    intro caller task timeout ticket waits
    exact Unanswered.of_reachable (.inl waits) stuck onward

open CustomModel in
/-- A request that the worker has taken is answered after three steps. -/
theorem taken_request_served : ∃ (crowd later : Crowd Unit) (request : Request),
    Reachable { host := echoEngine } crowd ∧ crowd.host.engine.worker.request? = some request
      ∧ crowd.afterAll? [.works, .works, .works] = some later
      ∧ crowd.Fares request [.works, .works, .works] later
      ∧ later.host.desk.hasResponse request.ticket = true := by
  have run : (Crowd.afterAll? { host := echoEngine }
      [.begins (.infer (byteTask 7).input (some 0)), .steps 0, .steps 0, .works]).map
      (fun crowd => (crowd.host.engine.worker.request?.map (·.ticket),
        (crowd.afterAll? [.works, .works, .works]).map fun later => later.host.desk.hasResponse 1))
      = some (some 1, some true) := by
    decide +kernel
  obtain ⟨crowd, reached, seen⟩ := Option.map_eq_some_iff.1 run
  obtain ⟨taken, served⟩ := Prod.mk.inj seen
  obtain ⟨request, taken, ticket⟩ := Option.map_eq_some_iff.1 taken
  obtain ⟨later, onward, present⟩ := Option.map_eq_some_iff.1 served
  have reach := reachable_of_afterAll? reached
  obtain ⟨-, -, -, fares, -⟩ := worker_dies_iff_fatal echoByte_opened reach taken
  refine ⟨crowd, later, request, reach, taken, onward, fares _ _ onward, ?_⟩
  rw [ticket]
  exact present

end Crowd

/-! ### A worker that does not survive -/

/-- Whether the worker has crashed. -/
def Worker.hasDied : Worker → Bool
  | died => true
  | _ => false

theorem Worker.eq_of_hasDied {worker : Worker} (h : worker.hasDied = true) : worker = .died := by
  cases worker with
  | died => rfl
  | _ => cases h

/-- Whether the call was refused because the engine is busy. -/
def Call.isRefused : Call → Bool
  | ended (.failed .busy) _ => true
  | _ => false

namespace CustomModel

/-- A backend whose passes fail, and which crashes when it is given their outputs back. -/
def crumbling : Backend Unit := { echoByte.backend with
  allocates := fun _ => true
  finish := fun _ outputs _ world =>
    some ({ ending := .failed ["simulated failure"], outputs }, world)
  release := fun _ world => (some "release exploded", world) }

/-- An engine on that backend. -/
def crumblingEngine : Host Unit where
  engine := {
    id := 0, framework := .custom, accelerator := .any, backend := crumbling
    desk := { input := echoByte.input, output := echoByte.output, timeout := 0 } }
  world := ()
  live := [0]

/-- A caller waits for a pass that fails, and another one comes when the worker is done with it. -/
def crumblingRun : List Move :=
  [.begins (.infer (byteTask 7).input (some 0)), .steps 0, .steps 0, .works, .works, .works,
    .begins (.infer (byteTask 9).input (some 0)), .steps 1, .steps 1]

/-- Whether the worker has died, with one caller that nobody answers and another one refused. -/
def hasCrumbled (crowd : Crowd Unit) : Bool :=
  crowd.host.engine.worker.hasDied && decide (crowd.host.desk.mode = .running)
    && crowd.host.desk.response.isNone && decide (crowd.calls[0]?.bind Call.wait? = some (0, 1))
    && crowd.calls[1]?.any Call.isRefused

end CustomModel

namespace Crowd

open CustomModel in
/-- A failed pass whose output the backend does not take back is never answered, and the engine
counts as busy from then on. -/
theorem failed_pass_unanswered : crumbling.openAs 0 {} .custom () [] = .opened crumblingEngine
    ∧ ∃ (crowd : Crowd Unit) (task : Task), Reachable { host := crumblingEngine } crowd
      ∧ crowd.host.engine.worker = .died ∧ crowd.host.desk.mode = .running
      ∧ crowd.calls[0]? = some (.awaiting task 0 1)
      ∧ crowd.calls[1]?.any Call.isRefused = true
      ∧ ∀ later, Reachable crowd later → later.host.engine.worker = .died
        ∧ later.host.desk.mode ≠ .idle ∧ later.Unanswered 0 task 0 1 := by
  have opened : crumbling.openAs 0 {} .custom () [] = .opened crumblingEngine := rfl
  refine ⟨opened, ?_⟩
  have run : (Crowd.afterAll? { host := crumblingEngine } crumblingRun).map hasCrumbled
      = some true := by
    decide +kernel
  obtain ⟨crowd, reached, seen⟩ := Option.map_eq_some_iff.1 run
  unfold hasCrumbled at seen
  simp only [Bool.and_eq_true, decide_eq_true_eq] at seen
  obtain ⟨⟨⟨⟨died, running⟩, silent⟩, waits⟩, refused⟩ := seen
  obtain ⟨call, found, waits⟩ := Option.bind_eq_some_iff.1 waits
  obtain ⟨task, rfl⟩ := Call.eq_of_wait? waits
  have reach := reachable_of_afterAll? reached
  have stuck : crowd.Stuck := {
    orderly := .of_reachable (Backend.fresh_of_opened opened) reach
    died := Worker.eq_of_hasDied died
    awake := by
      rw [running]
      nofun
    silent := Option.isNone_iff_eq_none.1 silent }
  refine ⟨crowd, task, reach, stuck.died, running, found, refused, ?_⟩
  intro later onward
  have still := (stuck.of_reachable onward).1
  exact ⟨still.died, still.awake, Unanswered.of_reachable (.inl found) stuck onward⟩

end Crowd

end Inference
