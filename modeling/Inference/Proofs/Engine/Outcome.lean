/-
What a request comes to.

A worker that is there has its backend, and the input of the request it holds is all there.  So it
has no reason to refuse a request, and what it comes back with is the outcome of the pass that it
ran, whatever the backend does (`Crowd.Lived.returned_outcome`).  If the backend takes back without
a crash what it is given, there is one thing left that the worker can die of: that the output
regions cannot be allocated.  `Crowd.Proceeds` lists how the worker gets on with its request
otherwise, and `Crowd.Lived.proceeds` that it does.
-/
import Inference.Proofs.Engine.Allocation
import Inference.Proofs.Engine.Fitting
import Inference.Proofs.Engine.Provenance

namespace Inference

variable {W : Type}

/-! ### Passes -/

namespace Frame

theorem checkLengths_of_lengths (index : Nat) {sizes : List Nat} {regions : List Bytes}
    (same : regions.map List.length = sizes) : checkLengths index sizes regions = .ok () := by
  subst same
  induction regions generalizing index with
  | nil => rfl
  | cons region regions ih =>
      rw [List.map_cons, checkLengths, if_pos rfl]
      exact ih (index + 1)

theorem checkRegions_iff_lengths {info : Descriptor} {regions : List Bytes} :
    checkRegions info regions = .ok () ↔ regions.map List.length = info.sizes := by
  refine ⟨lengths_of_checkRegions, fun same => ?_⟩
  have count : regions.length = info.count := by
    simpa [Descriptor.sizes, Descriptor.count] using congrArg List.length same
  rw [checkRegions, if_pos count]
  exact checkLengths_of_lengths 0 same

end Frame

/-- A pass is good if it has ended well and has left regions of the sizes that were agreed. -/
theorem Pass.good_iff {pass : Pass} {info : Descriptor} : pass.failure? info = none
    ↔ pass.ending = .done ∧ pass.outputs.map List.length = info.sizes := by
  refine ⟨fun good => ⟨ending_of_good good, lengths_of_good good⟩, fun ⟨ended, lengths⟩ => ?_⟩
  unfold failure?
  rw [ended, Frame.checkRegions_iff_lengths.2 lengths]

theorem PassEnd.outcome {host after : Host W} {request taken : Request} {pass : Pass}
    {lending : Bool} {produced : Except Fault Frame}
    (ended : PassEnd host request pass lending after) (inputs : List Bytes)
    (returns : after.engine.worker = .returning taken produced) : taken = request
      ∧ produced = Ran.outcome { ticket := request.ticket, inputs, lending, pass } request.output
        host.engine.id := by
  cases ended with
  | failed failure =>
      cases returns
      exact ⟨rfl, by rw [Ran.outcome, failure]⟩
  | returned failure =>
      cases returns
      exact ⟨rfl, by rw [Ran.outcome, failure]⟩
  | broke => cases returns
  | produced good =>
      cases returns
      exact ⟨rfl, by rw [Ran.outcome, good]; rfl⟩
  | lent good =>
      cases returns
      exact ⟨rfl, by rw [Ran.outcome, good]; rfl⟩

/-- With all that it needs the worker enters the pass, or dies for want of room. -/
theorem Host.stepWorker_ready {host : Host W} {request : Request} {inputs : List Bytes}
    {lending : Bool} (holding : host.engine.worker = .holding request)
    (attached : host.desk.attached = true) (bytes : request.input.allBytes = .ok inputs)
    (allocates : host.engine.backend.allocates host.world = lending) :
    host.stepWorker = some (if lending = true ∨ request.output.Fits
      then { host with
        world := host.engine.backend.enter inputs (request.output.blankRegions lending) lending
          host.world }.withWorker (.inPass request (request.output.blankRegions lending) lending)
      else host.poisonBackend.workerDies) := by
  unfold stepWorker
  rw [holding]
  cases lending with
  | true => simp [beginPass, attached, bytes, allocates, Descriptor.blankRegions]
  | false =>
      by_cases fits : request.output.Fits
      · simp [beginPass, attached, bytes, allocates, Frame.allocate, Frame.checkRoom_sizes, fits,
          Outcome.map, Descriptor.blankRegions]
      · simp [beginPass, attached, bytes, allocates, Frame.allocate, Frame.checkRoom_sizes, fits,
          Outcome.map]

theorem CallStep.bytes {task : Task} {timeout ticket : Nat} {host after : Host W}
    (step : CallStep (.entering (.submit task timeout)) host (.awaiting task timeout ticket)
      after) : ∃ inputs, task.input.allBytes = .ok inputs := by
  cases step with
  | ran onward => cases onward
  | submitted _ _ _ _ bytes => exact ⟨_, bytes⟩

namespace Crowd

variable {crowd : Crowd W} {chronicle : Chronicle} {backend : Backend W} {host : Host W}
  {request : Request}

/-! ### A worker that holds a request -/

/-- A worker that is there has its backend. -/
theorem attached_of_present (fresh : host.Fresh backend) {chronicle : Chronicle}
    (lived : Lived { host } crowd chronicle) (here : crowd.host.engine.worker.gone = false) :
    crowd.host.desk.attached = true := by
  induction lived with
  | start =>
      obtain ⟨_, _, _, desk⟩ := fresh.desk
      show host.desk.attached = true
      rw [desk]
  | @move crowd next chronicle before move made ih =>
      cases moved_of_after? made with
      | began => exact ih here
      | gaveUp => exact ih here
      | dropped _ drops =>
          have present := ih (by rw [← drops.beside.worker]; exact here)
          exact (congrArg Desk.attached drops.beside.desk).trans present
      | worked step =>
          obtain ⟨_, _, _, _, _, desk⟩ := step.desk
          exact (congrArg Desk.attached desk).trans (ih step.not_gone)
      | @called _ caller call after host _ found step =>
          have present : crowd.host.engine.worker.gone = false := by
            rw [← step.worker]
            exact here
          have ordered := (Orderly.of_reachable fresh before.reachable).ordered
          rcases step.attached ordered with same | ⟨last, rfl⟩
          · exact same.trans (ih present)
          · have winding := Winding.of_reachable fresh before.reachable
            cases present.symm.trans (winding.clearing caller last found)

theorem Occasion.bytes {before next : Crowd W} {task : Task} {timeout : Nat} {s : Submitted}
    (occasion : before.Occasion next task timeout s) :
    ∃ inputs, task.input.allBytes = .ok inputs := by
  rcases (turn_of_after? occasion.made).call occasion.enters with still | ⟨after, -, goes, found⟩
  · cases still.symm.trans occasion.waits
  · cases found.symm.trans occasion.waits
    exact goes.callStep.bytes

theorem Lived.ready (fresh : host.Fresh backend) (lived : Lived { host } crowd chronicle)
    (holding : crowd.host.engine.worker = .holding request) :
    crowd.host.desk.attached = true ∧ ∃ inputs, request.input.allBytes = .ok inputs := by
  refine ⟨attached_of_present fresh lived (by rw [holding]; rfl), ?_⟩
  have told := Chronicle.Tells.of_lived fresh lived
  obtain ⟨⟨s, member, -, -, bytes⟩, -⟩ :=
    told.follows.ahead request (.inr (by rw [holding]; rfl))
  obtain ⟨_, _, _, _, _, _, _, occasion, -⟩ := lived.occasion member
  rw [← bytes, occasion.input]
  exact occasion.bytes

/-- What the worker comes back with is the outcome of the pass that it ran for the request. -/
theorem Lived.returned_outcome (fresh : host.Fresh backend)
    (lived : Lived { host } crowd chronicle) {produced : Except Fault Frame}
    (returning : crowd.host.engine.worker = .returning request produced) :
    ∃ ran ∈ chronicle.ran, ran.ticket = request.ticket
      ∧ produced = ran.outcome request.output crowd.host.engine.id := by
  induction lived with
  | start => cases fresh.worker.symm.trans returning
  | @move crowd next chronicle before move made ih =>
      have moved := moved_of_after? made
      have known {engine : Nat} (same : engine = crowd.host.engine.id)
          (old : crowd.host.engine.worker = .returning request produced) :
          ∃ ran ∈ (chronicle.after crowd next move).ran, ran.ticket = request.ticket
            ∧ produced = ran.outcome request.output engine := by
        obtain ⟨ran, member, ticket, outcome⟩ := ih old
        exact ⟨ran, (chronicle.grows_after crowd next move).ran member, ticket, same ▸ outcome⟩
      cases moved with
      | began => exact known rfl returning
      | gaveUp => exact known rfl returning
      | dropped _ drops => exact known drops.beside.id (drops.beside.worker.symm.trans returning)
      | called _ _ step => exact known step.id (step.worker.symm.trans returning)
      | worked step =>
          have id := step.id
          cases step with
          | rested parked => cases parked.symm.trans returning
          | refused holding =>
              -- It has all that it needs.
              obtain ⟨attached, inputs, bytes⟩ := before.ready fresh holding
              obtain ⟨after, work, same⟩ := Option.map_eq_some_iff.1 made
              rw [Host.stepWorker_ready holding attached bytes rfl] at work
              have worker := congrArg (·.host.engine.worker) same
              split at work <;> cases work <;> cases worker
          | @finished _ inputs _ lending pass _ after inside bytes finish ended =>
              obtain ⟨rfl, outcome⟩ := ended.outcome inputs returning
              refine ⟨_, List.mem_append_right _ ?_, rfl, outcome.trans (congrArg _ id.symm)⟩
              rw [pass?_of_inPass inside bytes finish]
              exact List.mem_cons_self
          | recorded _ recorded => cases recorded <;> cases returning
          | _ => cases returning

end Crowd

/-! ### A worker that gets on -/

/-- The backend takes back without a crash whatever it is given. -/
def Backend.TakesBack (backend : Backend W) : Prop :=
  ∀ regions world, (backend.release regions world).1 = none

namespace Host

variable {host : Host W} {request : Request}

/-- There is one thing left that the worker can die of if the backend takes back what it is
given. -/
theorem Fatal.holding (safe : host.engine.backend.TakesBack) (fatal : host.Fatal request) :
    host.engine.worker = .holding request := by
  cases fatal with
  | starved holding => exact holding
  | unguarded _ _ _ _ crash => cases (safe _ _).symm.trans crash
  | deserted _ _ _ crash => cases (safe _ _).symm.trans crash

theorem returns_of_pass {ran : Ran} (safe : host.engine.backend.TakesBack) {outputs : List Bytes}
    {lending : Bool} (inside : host.engine.worker = .inPass request outputs lending)
    (ends : host.pass? = some ran) : ran.ticket = request.ticket ∧ ran.lending = lending
      ∧ ∃ after, host.stepWorker = some after ∧ after.engine.worker
        = .returning request (ran.outcome request.output host.engine.id) := by
  obtain ⟨ticket, mode, world, step⟩ := Crowd.stepWorker_of_pass inside ends
  refine ⟨ticket, mode, _, step, ?_⟩
  have ended := Host.endPass_end { host with world } request lending ran.pass
  generalize Host.endPass { host with world } request lending ran.pass = after at ended
  obtain ⟨taken, produced, returns⟩ :
      ∃ taken produced, after.engine.worker = .returning taken produced := by
    cases ended with
    | broke _ back =>
        have crash := crash_of_release back
        cases (safe _ _).symm.trans crash
    | _ => exact ⟨_, _, rfl⟩
  obtain ⟨rfl, outcome⟩ := ended.outcome ran.inputs returns
  rw [returns, outcome, ← ticket, ← mode]

end Host

namespace Crowd

variable {crowd : Crowd W} {request : Request}

/-- The worker gets on with its request, and its caller with the outcome. -/
structure Proceeds (crowd : Crowd W) (request : Request) : Prop where
  /-- The worker enters the pass if the backend allocates the output, or if there is room for it. -/
  enters : ∀ lending, crowd.host.engine.worker = .holding request →
    crowd.host.engine.backend.allocates crowd.host.world = lending →
    lending = true ∨ request.output.Fits → ∃ next, crowd.after? .works = some next
      ∧ next.host.engine.worker = .inPass request (request.output.blankRegions lending) lending
  /-- Otherwise it dies, and nobody who waits is ever answered. -/
  starves : crowd.host.engine.worker = .holding request →
    crowd.host.engine.backend.allocates crowd.host.world = false → ¬ request.output.Fits →
    ∃ next, crowd.after? .works = some next ∧ next.host.engine.worker = .died
      ∧ ∀ later, Reachable next later → ∀ caller task timeout ticket,
        next.calls[caller]? = some (.awaiting task timeout ticket) →
          later.Unanswered caller task timeout ticket
  /-- It comes back from a pass that is over with the outcome of that pass. -/
  leaves : ∀ outputs lending ran, crowd.host.engine.worker = .inPass request outputs lending →
    crowd.host.pass? = some ran → ran.ticket = request.ticket ∧ ran.lending = lending
      ∧ ∃ next, crowd.after? .works = some next ∧ next.host.engine.worker
        = .returning request (ran.outcome request.output crowd.host.engine.id)
  /-- It records the outcome, and whoever waits for it has it with its next step. -/
  records : ∀ produced, crowd.host.engine.worker = .returning request produced →
    ∃ next, crowd.after? .works = some next ∧ crowd.Served next request produced
  /-- A caller that has copied its output ends with its answer once the backend is free. -/
  copies : ∀ (caller : Nat) output answer target,
    crowd.calls[caller]? = some (.dropping output answer target) →
    crowd.host.engine.worker.busy = false → ∃ next, crowd.after? (.steps caller) = some next
      ∧ next.calls[caller]? = some (.ended answer (some target))

theorem copied_of_free (safe : crowd.host.engine.backend.TakesBack) {caller : Nat}
    {output target : Frame} {answer : Outcome Fault Reply}
    (found : crowd.calls[caller]? = some (.dropping output answer target))
    (free : crowd.host.engine.worker.busy = false) :
    ∃ next, crowd.after? (.steps caller) = some next
      ∧ next.calls[caller]? = some (.ended answer (some target)) := by
  obtain ⟨after, drops⟩ : ∃ after, Act.drop output crowd.host = some (.done (), after) := by
    unfold Act.drop
    by_cases plain : output.lease.isNone = true
    · exact ⟨_, if_pos plain⟩
    · rw [if_neg plain, free, if_neg Bool.false_ne_true]
      cases back : crowd.host.takeBack output with
      | mk crash after =>
          cases (safe _ _).symm.trans (Host.crash_of_takeBack back)
          exact ⟨after, rfl⟩
  have step : (Call.dropping output answer target).step crowd.host
      = some (.ended answer (some target), after) := by
    rw [Call.step, drops]
    rfl
  refine ⟨_, after?_steps found step, ?_⟩
  rw [getElem?_update found, if_pos rfl]

/-- The worker gets on like this under every schedule, unless the backend crashes over what it is
given back. -/
theorem Lived.proceeds {backend : Backend W} {host : Host W} (fresh : host.Fresh backend)
    (safe : backend.TakesBack) {chronicle : Chronicle} (lived : Lived { host } crowd chronicle)
    (request : Request) : crowd.Proceeds request := by
  have orderly := Orderly.of_reachable fresh lived.reachable
  have safe : crowd.host.engine.backend.TakesBack := by
    rw [lived.reachable.backend fresh]
    exact safe
  have works {after : Host W} (step : crowd.host.stepWorker = some after) :
      crowd.after? .works = some { crowd with host := after } := by
    show crowd.host.stepWorker.map _ = _
    rw [step]
    rfl
  constructor
  · intro lending holding allocates room
    obtain ⟨attached, inputs, bytes⟩ := lived.ready fresh holding
    have step := Host.stepWorker_ready holding attached bytes allocates
    rw [if_pos room] at step
    exact ⟨_, works step, rfl⟩
  · intro holding plain crowded
    obtain ⟨attached, inputs, bytes⟩ := lived.ready fresh holding
    have step := Host.stepWorker_ready holding attached bytes plain
    rw [if_neg (by simpa using crowded)] at step
    refine ⟨_, works step, rfl, ?_⟩
    intro later onward caller task timeout ticket waits
    have taken : crowd.host.engine.worker.request? = some request := by
      rw [holding]
      rfl
    have stuck := Stuck.of_work orderly taken (works step) rfl
    exact Unanswered.of_reachable (.inl waits) stuck onward
  · intro outputs lending ran inside ends
    obtain ⟨ticket, mode, after, step, returns⟩ := Host.returns_of_pass safe inside ends
    exact ⟨ticket, mode, _, works step, returns⟩
  · intro produced returning
    have step : crowd.host.stepWorker = some (crowd.host.record request produced) := by
      unfold Host.stepWorker
      rw [returning]
    refine ⟨_, works step, ?_⟩
    rcases (Host.record_recorded crowd.host request produced).fate orderly.ordered returning with
      ⟨fatal, -⟩ | records
    · cases returning.symm.trans (fatal.holding safe)
    · exact served_of_records orderly returning records
  · intro caller output answer target found free
    exact copied_of_free safe found free

end Crowd

end Inference
