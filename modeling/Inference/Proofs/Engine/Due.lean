/-
What is still to be run.

A request that was accepted is due until its pass is over: it lies on the desk, or the worker has
it in its hands and has not run it yet.  Calls leave what is due alone, unless they submit a
request (`CallStep.due`).  A worker that still has its backend refuses nothing: it takes up what is
due and runs it; its steps are those of `CalmStep` (`Host.calmStep`), and only the end of a pass
changes what is due (`CalmStep.due`).
-/
import Inference.Proofs.Engine.Calm
import Inference.Proofs.Engine.Fate

namespace Inference

variable {W : Type}

theorem Ordered.free_of {desk : Desk} {worker place : Worker} (h : Ordered desk worker)
    (stands : worker = place) {request : Request} (inHand : place.request? = some request) :
    desk.request = none := (h.alone (stands ▸ inHand)).2.1

/-- The request that has not been run yet. -/
def Host.due? (host : Host W) : Option Request := host.desk.request.or host.engine.worker.ahead?

namespace Host

variable {host after : Host W}

theorem due_of_alike (alike : host.Alike after) : after.due? = host.due? := by
  obtain ⟨_, _, _, _, desk⟩ := alike.desk
  unfold due?
  rw [desk, alike.worker]

/-- What is due lies on the desk, or the worker has it. -/
theorem due_cases {request : Request} (h : host.due? = some request) :
    host.desk.request = some request ∨ host.engine.worker.ahead? = some request := by
  unfold due? at h
  cases queued : host.desk.request with
  | some other =>
      rw [queued] at h
      exact .inl h
  | none =>
      rw [queued] at h
      exact .inr h

theorem due_of_queued {request : Request} (queued : host.desk.request = some request) :
    host.due? = some request := by
  rw [due?, queued]
  rfl

theorem due_of_free {worker : Worker} (stands : host.engine.worker = worker)
    (free : host.desk.request = none) : host.due? = worker.ahead? := by
  rw [due?, free, stands]
  rfl

/-- Nothing is due as long as the engine is idle. -/
theorem due_of_idle (ordered : Ordered host.desk host.engine.worker)
    (idle : host.desk.mode = .idle) : host.due? = none :=
  due_of_free (ordered.idle idle).1 (ordered.idle idle).2

theorem due_ordered (ordered : Ordered host.desk host.engine.worker) {request : Request}
    (h : host.due? = some request) :
    request.ticket = host.desk.ticket ∧ host.desk.response = none := by
  rcases due_cases h with queued | ahead
  · exact (ordered.queued request queued).2
  · exact ordered.inHand request (Worker.request?_of_ahead ahead)

/-- A request that is queued or in the worker's hands is due, or its outcome is on its way back. -/
theorem due_or_returning (ordered : Ordered host.desk host.engine.worker) {request : Request}
    (h : host.desk.request = some request ∨ host.engine.worker.request? = some request) :
    host.due? = some request ∨ ∃ produced, host.engine.worker = .returning request produced := by
  rcases h with queued | inHand
  · exact .inl (due_of_queued queued)
  · have free := ordered.free_of rfl inHand
    cases worker : host.engine.worker <;> rw [worker] at inHand <;> cases inHand
    · exact .inl (due_of_free worker free)
    · exact .inl (due_of_free worker free)
    · exact .inr ⟨_, rfl⟩

/-! ### What the engine keeps -/

theorem Tuned.attached (tuned : host.Tuned after) :
    after.desk.attached = host.desk.attached := by
  cases tuned <;> rfl

theorem Touched.attached (touched : host.Touched after) :
    after.desk.attached = host.desk.attached := by
  cases touched with
  | tuned tuned => exact tuned.attached
  | wrecked wrecked =>
      cases wrecked
      rfl

theorem detach_attached (host : Host W) : host.detach.desk.attached = false := by
  unfold detach
  split
  · exact congrArg Desk.attached (settle_beside _).desk
  · rename_i attached
    simpa using attached

theorem deliver_desk (host : Host W) (ticket : Nat) (produced : Except Fault Frame) :
    ∃ response outstanding,
      (host.deliver ticket produced).desk = { host.desk with response, outstanding } := by
  unfold deliver
  split
  · exact ⟨_, host.desk.outstanding, rfl⟩
  · simp only
    split
    · exact ⟨_, _, rfl⟩
    · exact ⟨_, host.desk.outstanding, rfl⟩

end Host

namespace CallStep

variable {call next : Call} {host after : Host W}

theorem id (step : CallStep call host next after) : after.engine.id = host.engine.id := by
  cases step with
  | ran _ touched => exact touched.alike.id
  | submitted tuned _ _ _ _ drops => exact drops.beside.id.trans tuned.alike.id
  | faltered tuned _ drops => exact drops.beside.id.trans tuned.alike.id
  | copied drops => exact drops.beside.id
  | spoilt drops => exact drops.beside.id
  | cleared drops => exact (Host.leftBy_alike _ _ _).id.trans drops.beside.id
  | _ => rfl

/-- Only one who clears the desk makes the engine let go of its backend. -/
theorem attached (step : CallStep call host next after)
    (ordered : Ordered host.desk host.engine.worker) :
    after.desk.attached = host.desk.attached ∨ ∃ last, call = .clearing last := by
  cases step with
  | ran _ touched => exact .inl touched.attached
  | submitted tuned _ idle _ _ drops =>
      have desk := (ordered.cleared tuned idle drops).2.2
      exact .inl ((congrArg Desk.attached desk).trans tuned.attached)
  | faltered tuned idle drops =>
      have desk := (ordered.cleared tuned idle drops).2.2
      exact .inl ((congrArg Desk.attached desk).trans tuned.attached)
  | received _ collected =>
      rw [(Desk.collect_of_tidy ordered.tidy collected).1]
      exact .inl rfl
  | copied drops => exact .inl (congrArg Desk.attached drops.beside.desk)
  | spoilt drops => exact .inl (congrArg Desk.attached drops.beside.desk)
  | cleared => exact .inr ⟨_, rfl⟩
  | _ => exact .inl rfl

/-- Unless it submits a request, a call leaves alone what is due, and at most takes an outcome off
the desk. -/
theorem due (step : CallStep call host next after)
    (ordered : Ordered host.desk host.engine.worker) (healthy : host.Healthy)
    (idle : next.ticket? = none)
    (emptied : ∀ last, call = .clearing last → host.desk.request = none) :
    after.desk.request = host.desk.request
      ∧ (after.desk.outcome? = none ∨ after.desk.outcome? = host.desk.outcome?) := by
  have still {after : Host W} (alike : host.Alike after) :
      after.desk.request = host.desk.request
        ∧ (after.desk.outcome? = none ∨ after.desk.outcome? = host.desk.outcome?) := by
    obtain ⟨_, _, _, _, desk⟩ := alike.desk
    rw [desk]
    exact ⟨rfl, .inr (Desk.outcome?_congr rfl rfl)⟩
  cases step with
  | ran _ touched => exact still touched.alike
  | submitted => cases idle
  | faltered tuned _ drops => cases (healthy.cleared ordered tuned drops).2
  | received _ collected =>
      rw [(Desk.collect_of_tidy ordered.tidy collected).1]
      exact ⟨rfl, .inl (Desk.outcome?_of_none rfl)⟩
  | deserted => exact ⟨rfl, .inr (Desk.outcome?_congr rfl rfl)⟩
  | copied drops => exact still drops.beside.alike
  | spoilt drops => exact still drops.beside.alike
  | dismissed => exact ⟨rfl, .inr (Desk.outcome?_congr rfl rfl)⟩
  | @cleared last _ after crash answer drops _ =>
      obtain ⟨_, _, _, _, desk⟩ := (Host.leftBy_alike after last crash).desk
      rw [desk, drops.beside.desk]
      obtain ⟨-, clear⟩ | ⟨-, clear⟩ := Desk.clear_cases ordered.tidy last
      · rw [clear]
        exact ⟨rfl, .inr (Desk.outcome?_congr rfl rfl)⟩
      · rw [clear, emptied last rfl]
        exact ⟨rfl, .inl (Desk.outcome?_of_none rfl)⟩
  | _ => exact ⟨rfl, .inr rfl⟩

theorem awake (step : CallStep call host next after) (busy : host.desk.mode ≠ .idle) :
    next.ticket? = none := by
  cases step with
  | checked onward => exact Call.ticket?_onward onward
  | ran onward => exact Call.ticket?_onward onward
  | submitted tuned _ idle =>
      obtain ⟨_, _, _, _, desk⟩ := tuned.alike.desk
      rw [desk] at idle
      exact absurd idle busy
  | received => exact Call.ticket?_receive _ _
  | _ => rfl

end CallStep

namespace WorkerStep

variable {host after : Host W}

/-- What the worker does not touch. -/
theorem desk (step : WorkerStep host after) : ∃ mode request deserted response outstanding,
    after.desk = { host.desk with mode, request, deserted, response, outstanding } := by
  -- An outcome is recorded by completing the request on the desk as it is then.
  have complete {middle : Host W} {desk : Desk} (same : middle.desk = desk) :
      middle.complete.desk = { desk with mode := desk.mode.finish } :=
    congrArg (fun desk : Desk => { desk with mode := desk.mode.finish }) same
  cases step with
  | finished _ _ _ ended =>
      cases ended with
      | returned _ back => exact ⟨_, _, _, _, _, (Host.beside_of_release back).desk⟩
      | broke _ back => exact ⟨_, _, _, _, _, (Host.beside_of_release back).desk⟩
      | _ => exact ⟨_, _, _, _, _, rfl⟩
  | @recorded request produced _ _ recorded =>
      cases recorded with
      | delivered =>
          obtain ⟨response, outstanding, desk⟩ := host.deliver_desk request.ticket produced
          have same := complete desk
          exact ⟨_, _, _, _, _, same⟩
      | ignored => exact ⟨_, _, _, _, _, rfl⟩
      | returned _ _ back =>
          have same := complete (Host.beside_of_takeBack back).desk
          exact ⟨_, _, _, _, _, same⟩
      | broke _ _ back => exact ⟨_, _, _, _, _, (Host.beside_of_takeBack back).desk⟩
  | _ => exact ⟨_, _, _, _, _, rfl⟩

theorem id (step : WorkerStep host after) : after.engine.id = host.engine.id :=
  congrArg (·.2.1) step.constants

end WorkerStep

/-! ### What the worker does -/

/-- The outcome that a pass has, under the output that was agreed for it. -/
def Ran.outcome (ran : Ran) (output : Descriptor) (engine : Nat) : Except Fault Frame :=
  match ran.pass.failure? output with
  | some fault => .error fault
  | none =>
    if ran.lending then .ok (Frame.lent output ran.pass.outputs ⟨engine, ran.ticket⟩)
    else Frame.produced output ran.pass.outputs

/-- The pass for a request is over, and the worker comes back with its outcome. -/
structure Host.Passes (host : Host W) (request : Request) (ran : Ran) (after : Host W) : Prop where
  ahead : host.engine.worker.ahead? = some request
  pass : host.pass? = some ran
  served : ran.ticket = request.ticket
  inputs : request.input.allBytes = .ok ran.inputs
  desk : after.desk = host.desk
  returns : after.engine.worker = .returning request (ran.outcome request.output host.engine.id)

/-- A step of a worker that has its backend, on an engine that nothing has happened to. -/
inductive CalmStep (host : Host W) : Host W → Prop where
  | took {request : Request} (parked : host.engine.worker = .parked)
      (queued : host.desk.request = some request) :
      CalmStep host
        ((host.withDesk { host.desk with request := none }).withWorker (.holding request))
  | left (parked : host.engine.worker = .parked) (asked : host.desk.mode = .leaving)
      (empty : host.desk.request = none) : CalmStep host (host.withWorker .exited)
  | rested (parked : host.engine.worker = .parked) (asked : host.desk.mode = .running)
      (empty : host.desk.request = none) :
      CalmStep host (host.withDesk { host.desk with mode := host.desk.mode.finish })
  | entered {request : Request} {outputs : List Bytes} {lending : Bool} {world : W}
      (holding : host.engine.worker = .holding request) :
      CalmStep host (Host.withWorker { host with world } (.inPass request outputs lending))
  | passed {request : Request} {ran : Ran} {after : Host W}
      (passes : host.Passes request ran after) : CalmStep host after
  | recorded {request : Request} {produced : Except Fault Frame} {after : Host W}
      (returning : host.engine.worker = .returning request produced)
      (free : after.desk.request = none) (records : host.Records after request produced) :
      CalmStep host after

theorem Recorded.request {host after : Host W} {request : Request} {produced : Except Fault Frame}
    (recorded : Recorded host request produced after) :
    after.desk.request = host.desk.request := by
  cases recorded with
  | delivered =>
      obtain ⟨_, _, desk⟩ := host.deliver_desk request.ticket produced
      have same := congrArg Desk.request desk
      exact same
  | ignored => rfl
  | returned _ _ back =>
      have same := congrArg Desk.request (Host.beside_of_takeBack back).desk
      exact same
  | broke _ _ back =>
      have same := congrArg Desk.request (Host.beside_of_takeBack back).desk
      exact same

namespace Host

variable {host after : Host W}

theorem enters (healthy : host.Healthy) (attached : host.desk.attached = true) {request : Request}
    (holding : host.engine.worker = .holding request) {inputs : List Bytes}
    (bytes : request.input.allBytes = .ok inputs) : ∃ outputs lending,
      host.stepWorker = some (Host.withWorker
        { host with world := host.engine.backend.enter inputs outputs lending host.world }
        (.inPass request outputs lending)) := by
  have fits := healthy.inHand request (by rw [holding]; rfl)
  have room := Descriptor.checkRoom_of_fits fits
  unfold stepWorker
  rw [holding]
  cases lending : host.engine.backend.allocates host.world with
  | true =>
      refine ⟨List.replicate request.output.count [], true, ?_⟩
      simp [beginPass, attached, bytes, lending]
  | false =>
      refine ⟨request.output.sizes.map fun size => List.replicate size 0, false, ?_⟩
      simp [beginPass, attached, bytes, lending, Frame.allocate, room, Outcome.map]

/-- A pass that is over has an outcome, since the backend does not crash over what is left of it. -/
theorem passes_of_passEnd {request : Request} {inputs outputs : List Bytes} {lending : Bool}
    {pass : Pass} {world : W} (healthy : host.Healthy)
    (inside : host.engine.worker = .inPass request outputs lending)
    (bytes : request.input.allBytes = .ok inputs)
    (finish : host.engine.backend.finish inputs outputs lending host.world = some (pass, world))
    (ended : PassEnd { host with world } request pass lending after) :
    host.Passes request { ticket := request.ticket, inputs, lending, pass } after := by
  have passes (desk : after.desk = host.desk) (returns : after.engine.worker = .returning request
      (Ran.outcome { ticket := request.ticket, inputs, lending, pass } request.output
        host.engine.id)) :
      host.Passes request { ticket := request.ticket, inputs, lending, pass } after :=
    ⟨by rw [inside]; rfl, Crowd.pass?_of_inPass inside bytes finish, rfl, bytes, desk, returns⟩
  cases ended with
  | failed failure =>
      refine passes rfl ?_
      rw [Ran.outcome, failure]
      rfl
  | returned failure back =>
      refine passes (Host.beside_of_release back).desk ?_
      rw [Ran.outcome, failure]
      rfl
  | broke _ back => cases (healthy.withWorld world).calm.release back
  | produced good =>
      refine passes rfl ?_
      rw [Ran.outcome, good]
      rfl
  | lent good =>
      refine passes rfl ?_
      rw [Ran.outcome, good]
      rfl

theorem Passes.due {request : Request} {ran : Ran} (passes : host.Passes request ran after)
    (ordered : Ordered host.desk host.engine.worker) :
    host.due? = some request ∧ after.due? = none := by
  have free := ordered.free_of rfl (Worker.request?_of_ahead passes.ahead)
  constructor
  · rw [due_of_free rfl free, passes.ahead]
  · refine due_of_free passes.returns ?_
    rw [passes.desk]
    exact free

/-- Every step of the worker is one of those, as long as what it holds has all its input. -/
theorem calmStep (ordered : Ordered host.desk host.engine.worker) (healthy : host.Healthy)
    (attached : host.desk.attached = true)
    (whole : ∀ request, host.engine.worker = .holding request →
      ∃ inputs, request.input.allBytes = .ok inputs) (stepped : host.stepWorker = some after) :
    CalmStep host after := by
  have entered {request : Request} (holding : host.engine.worker = .holding request) :
      CalmStep host after := by
    obtain ⟨inputs, bytes⟩ := whole request holding
    obtain ⟨outputs, lending, enters⟩ := enters healthy attached holding bytes
    cases stepped.symm.trans enters
    exact .entered holding
  cases stepWorker_step stepped with
  | took parked _ queued => exact .took parked queued
  | left parked asked empty => exact .left parked asked empty
  | rested parked asked empty => exact .rested parked asked empty
  | refused holding => exact entered holding
  | starved holding => exact entered holding
  | entered holding => exact entered holding
  | finished inside bytes finish ended =>
      exact .passed (passes_of_passEnd healthy inside bytes finish ended)
  | recorded returning recorded =>
      rcases recorded.fate ordered returning with ⟨-, died⟩ | records
      · exact absurd died (healthy.workerStep (.recorded returning recorded)).alive
      · exact .recorded returning (recorded.request.trans (ordered.free_of returning rfl)) records

end Host

namespace CalmStep

variable {host after : Host W}

/-- A pass is over, or there is no more and no less to be run than before. -/
theorem due (step : CalmStep host after) (ordered : Ordered host.desk host.engine.worker) :
    host.pass? = none ∧ after.due? = host.due? ∨ ∃ request ran, host.Passes request ran after := by
  -- Apart from the end of a pass, the worker at most passes a request on to itself.
  have quiet {middle : Worker} (worker : host.engine.worker = middle) (free : middle.busy = false)
      (same : after.due? = host.due?) :
      host.pass? = none ∧ after.due? = host.due? ∨ ∃ request ran, host.Passes request ran after :=
    .inl ⟨Crowd.pass?_of_free (by rw [worker]; exact free), same⟩
  cases step with
  | took parked queued =>
      refine quiet parked rfl ?_
      rw [Host.due_of_queued queued]
      rfl
  | left parked _ empty =>
      refine quiet parked rfl (Eq.trans ?_ (Host.due_of_free parked empty).symm)
      show _ = Worker.exited.ahead?
      exact Host.due_of_free rfl empty
  | rested parked => exact quiet parked rfl rfl
  | @entered request outputs lending _ holding =>
      have free := ordered.free_of holding rfl
      refine quiet holding rfl (Eq.trans ?_ (Host.due_of_free holding free).symm)
      show _ = (Worker.inPass request outputs lending).ahead?
      exact Host.due_of_free rfl free
  | passed passes => exact .inr ⟨_, _, passes⟩
  | recorded returning free records =>
      have before := Host.due_of_free returning (ordered.free_of returning rfl)
      exact quiet returning rfl ((Host.due_of_free records.parked free).trans before.symm)

end CalmStep

end Inference
