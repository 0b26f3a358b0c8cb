/-
What becomes of every request.

With a backend that crashes in passes only, a request that was accepted is run: it is due, or a
pass was run for it, and what the worker comes back with and leaves on the desk is the outcome of
that pass, good or bad.  `Chronicle.Completes` says so of the history of an engine
(`Chronicle.Completes.of_lived`), and `Call.Answered` what it means for the caller
(`Crowd.Lived.answered`).
-/
import Inference.Proofs.Engine.Course
import Inference.Proofs.Engine.Due
import Inference.Proofs.Engine.Overtaking
import Inference.Proofs.Engine.Retirement

namespace Inference

variable {W : Type}

theorem Worker.request?_of_gone {worker : Worker} (gone : worker.gone = true) :
    worker.request? = none := by
  cases worker <;> first | rfl | cases gone

namespace Chronicle

/-- The pass was run for the request, on what its caller brought. -/
structure RanFor (chronicle : Chronicle) (submitted : Submitted) (ran : Ran) : Prop where
  wasSubmitted : submitted ∈ chronicle.submitted
  wasRan : ran ∈ chronicle.ran
  ticket : ran.ticket = submitted.ticket
  inputs : submitted.input.allBytes = .ok ran.inputs

/-- The outcome is the one that the pass for a ticket had. -/
def Answer (chronicle : Chronicle) (engine ticket : Nat) (result : Except Fault Frame) : Prop :=
  ∃ submitted ran, chronicle.RanFor submitted ran ∧ submitted.ticket = ticket
    ∧ result = ran.outcome submitted.output engine

theorem RanFor.grow {chronicle after : Chronicle} (grows : chronicle.Grows after)
    {submitted : Submitted} {ran : Ran} (h : chronicle.RanFor submitted ran) :
    after.RanFor submitted ran :=
  { h with wasSubmitted := grows.submitted h.wasSubmitted, wasRan := grows.ran h.wasRan }

theorem Answer.grow {chronicle after : Chronicle} (grows : chronicle.Grows after)
    {engine ticket : Nat} {result : Except Fault Frame}
    (h : chronicle.Answer engine ticket result) :
    after.Answer engine ticket result := by
  obtain ⟨submitted, ran, own, asked, same⟩ := h
  exact ⟨submitted, ran, own.grow grows, asked, same⟩

/-- No request is lost, and no outcome is made up. -/
structure Completes (chronicle : Chronicle) (host : Host W) : Prop where
  /-- A worker that is there has its backend. -/
  attached : host.engine.worker.gone = false → host.desk.attached = true
  /-- A worker that is gone was asked to leave, and has left nothing undone. -/
  gone : host.engine.worker.gone = true →
    host.desk.mode = .leaving ∧ host.desk.request = none
  /-- What is due has all its input. -/
  whole : ∀ request, host.due? = some request → ∃ inputs, request.input.allBytes = .ok inputs
  /-- A request that was submitted is due, or a pass was run for it. -/
  served : ∀ s ∈ chronicle.submitted, (∃ request, host.due? = some request
    ∧ request.ticket = s.ticket) ∨ ∃ ran, chronicle.RanFor s ran
  returning : ∀ request produced, host.engine.worker = .returning request produced →
    chronicle.Answer host.engine.id request.ticket produced
  outcome : ∀ result, host.desk.outcome? = some result →
    chronicle.Answer host.engine.id host.desk.ticket result

namespace Completes

variable {chronicle chronicle' : Chronicle} {host after : Host W}

theorem still (h : chronicle.Completes host) (id : after.engine.id = host.engine.id)
    (attached : after.engine.worker.gone = false → after.desk.attached = true)
    (gone : after.engine.worker.gone = true →
      after.desk.mode = .leaving ∧ after.desk.request = none)
    (due : after.due? = host.due?)
    (returning : ∀ request produced, after.engine.worker = .returning request produced →
      host.engine.worker = .returning request produced)
    (ticket : after.desk.ticket = host.desk.ticket)
    (outcome : after.desk.outcome? = none ∨ after.desk.outcome? = host.desk.outcome?) :
    chronicle.Completes after where
  attached := attached
  gone := gone
  whole := by
    rw [due]
    exact h.whole
  served := by
    rw [due]
    exact h.served
  returning request produced returns := by
    rw [id]
    exact h.returning request produced (returning request produced returns)
  outcome result recorded := by
    rw [id, ticket]
    rcases outcome with none | same
    · cases none.symm.trans recorded
    · exact h.outcome result (same.symm.trans recorded)

theorem callStep {call next : Call} (h : chronicle.Completes host)
    (ordered : Ordered host.desk host.engine.worker) (healthy : host.Healthy)
    (clearing : ∀ last, call = .clearing last → host.engine.worker.gone = true)
    (step : CallStep call host next after) (idle : next.ticket? = none) :
    chronicle.Completes after := by
  have worker := step.worker
  obtain ⟨request, outcome⟩ := step.due ordered healthy idle
    fun last same => (h.gone (clearing last same)).2
  refine h.still step.id ?_ ?_ ?_ ?_ ?_ outcome
  · rw [worker]
    intro here
    rcases step.attached ordered with same | ⟨last, same⟩
    · exact same.trans (h.attached here)
    · cases here.symm.trans (clearing last same)
  · rw [worker, request]
    intro gone
    exact ⟨step.leaving ordered (h.gone gone).1, (h.gone gone).2⟩
  · rw [Host.due?, request, worker]
    rfl
  · rw [worker]
    exact fun _ _ returns => returns
  · rcases step.tickets ordered with ⟨submits, -⟩ | ⟨-, ticket, -⟩
    · cases idle.symm.trans submits
    · exact ticket

/-- A call submits its task. -/
theorem submits {task : Task} {timeout ticket : Nat} (h : chronicle.Completes host)
    (ordered : Ordered host.desk host.engine.worker) (caller : Nat)
    (step : CallStep (.entering (.submit task timeout)) host
      (.awaiting task timeout ticket) after) :
    Completes { chronicle with submitted := chronicle.submitted ++
      [{ caller, ticket, input := task.input, output := after.desk.output }] } after := by
  have attached := step.attached ordered
  have grows : chronicle.Grows { chronicle with submitted := chronicle.submitted ++
      [{ caller, ticket, input := task.input, output := after.desk.output }] } :=
    ⟨List.subset_append_left _ _, fun _ ran => ran⟩
  cases step with
  | ran onward => cases onward
  | @submitted _ _ _ middle dropped inputs tuned _ idle _ bytes drops =>
      obtain ⟨-, parked, desk⟩ := ordered.cleared tuned idle drops
      have parked' : host.engine.worker = .parked := by
        rw [← tuned.alike.worker, ← parked]
        exact drops.beside.worker.symm
      have due : (dropped.enqueue task).due? = some (dropped.requestFor task) :=
        Host.due_of_queued rfl
      exact {
        attached := by
          intro here
          rcases attached with same | ⟨last, ⟨⟩⟩
          refine same.trans (h.attached ?_)
          rw [parked']
          rfl
        gone := by
          intro gone
          change dropped.engine.worker.gone = true at gone
          rw [parked] at gone
          cases gone
        whole := by
          rw [due]
          rintro request ⟨⟩
          exact ⟨inputs, bytes⟩
        served := by
          intro s member
          rcases List.mem_append.1 member with old | new
          · rcases h.served s old with ⟨request, before, -⟩ | ⟨ran, own⟩
            · rw [← Host.due_of_alike tuned.alike] at before
              cases (Host.due_of_idle (ordered.alike tuned.alike) idle).symm.trans before
            · exact .inr ⟨ran, own.grow grows⟩
          · cases List.mem_singleton.1 new
            exact .inl ⟨_, due, rfl⟩
        returning := by
          intro request produced returns
          change dropped.engine.worker = _ at returns
          cases parked.symm.trans returns
        outcome := by
          intro result recorded
          have none : (dropped.enqueue task).desk.outcome? = none :=
            Desk.outcome?_of_none (congrArg Desk.response desk)
          cases none.symm.trans recorded }

/-- The pass for what is due is over. -/
theorem passed (h : chronicle.Completes host) (follows : chronicle.Follows host)
    (ordered : Ordered host.desk host.engine.worker) {request : Request} {ran : Ran}
    (passes : host.Passes request ran after) (id : after.engine.id = host.engine.id) :
    Completes { chronicle with ran := chronicle.ran ++ [ran] } after := by
  have grows : chronicle.Grows { chronicle with ran := chronicle.ran ++ [ran] } :=
    ⟨fun _ submitted => submitted, List.subset_append_left _ _⟩
  obtain ⟨due, nothing⟩ := passes.due ordered
  obtain ⟨last, silent⟩ := Host.due_ordered ordered due
  obtain ⟨⟨s, member, ticket, output, bytes⟩, -⟩ := follows.ahead request (.inr passes.ahead)
  have own : Chronicle.RanFor { chronicle with ran := chronicle.ran ++ [ran] } s ran :=
    ⟨member, List.mem_append_right _ List.mem_cons_self, passes.served.trans ticket.symm,
      bytes.trans passes.inputs⟩
  have here : host.engine.worker.gone = false := by
    have ahead := passes.ahead
    cases worker : host.engine.worker <;> rw [worker] at ahead <;> first | rfl | cases ahead
  exact {
    attached := by
      rw [passes.desk]
      exact fun _ => h.attached here
    gone := by
      rw [passes.returns]
      nofun
    whole := by
      rw [nothing]
      rintro _ ⟨⟩
    served := by
      intro other otherMember
      rcases h.served other otherMember with ⟨request', due', same⟩ | ⟨ran', own'⟩
      · -- No other request was submitted under that ticket.
        cases due.symm.trans due'
        cases List.inj_on_of_nodup_map follows.tickets otherMember member
          (same.symm.trans ticket.symm)
        exact .inr ⟨ran, own⟩
      · exact .inr ⟨ran', own'.grow grows⟩
    returning := by
      rw [passes.returns, id]
      rintro _ _ ⟨⟩
      refine ⟨s, ran, own, ticket, ?_⟩
      rw [output]
    outcome := by
      rw [passes.desk]
      intro result recorded
      cases (Desk.outcome?_of_none silent).symm.trans recorded }

theorem calmStep (h : chronicle.Completes host) (ordered : Ordered host.desk host.engine.worker)
    (healthy : host.Healthy) (stepped : host.stepWorker = some after) : CalmStep host after := by
  have attached := h.attached (Host.stepWorker_step stepped).not_gone
  refine Host.calmStep ordered healthy attached ?_ stepped
  intro request holding
  exact h.whole request (Host.due_of_free holding (ordered.free_of holding rfl))

/-- The worker has recorded the outcome that it came back with. -/
theorem recorded (h : chronicle.Completes host) (ordered : Ordered host.desk host.engine.worker)
    {request : Request} {produced : Except Fault Frame}
    (returning : host.engine.worker = .returning request produced)
    (records : host.Records after request produced) (id : after.engine.id = host.engine.id)
    (ticket : after.desk.ticket = host.desk.ticket) (attached : after.desk.attached = true)
    (due : after.due? = host.due?) : chronicle.Completes after where
  attached _ := attached
  gone := by
    rw [records.parked]
    nofun
  whole := by
    rw [due]
    exact h.whole
  served := by
    rw [due]
    exact h.served
  returning := by
    rw [records.parked]
    rintro _ _ ⟨⟩
  outcome result recorded := by
    have last := (ordered.inHand request (by rw [returning]; rfl)).1
    by_cases deserted : host.desk.deserted = some request.ticket
    · cases (Desk.outcome?_of_none (records.deserted deserted).2).symm.trans recorded
    · cases (records.awaited deserted).2.symm.trans recorded
      rw [id, ticket, ← last]
      exact h.returning request produced returning

/-- The worker takes a step. -/
theorem workerStep (h : chronicle.Completes host) (follows : chronicle.Follows host)
    (ordered : Ordered host.desk host.engine.worker) (healthy : host.Healthy)
    (stepped : host.stepWorker = some after) :
    Completes { chronicle with ran := chronicle.ran ++ host.pass?.toList } after := by
  have step := Host.stepWorker_step stepped
  have calm := h.calmStep ordered healthy stepped
  have attached : after.desk.attached = true := by
    obtain ⟨_, _, _, _, _, desk⟩ := step.desk
    rw [desk]
    exact h.attached step.not_gone
  -- What was due still is, unless a pass is over; then the worker has its outcome in hand.
  rcases calm.due ordered with ⟨noPass, due⟩ | ⟨request, ran, passes⟩
  · rw [noPass, Option.toList_none, List.append_nil]
    have ticket := step.tickets.1
    cases calm with
    | took =>
        exact h.still step.id (fun _ => attached) nofun due (by rintro _ _ ⟨⟩) ticket
          (.inr (Desk.outcome?_congr rfl rfl))
    | left _ asked empty =>
        exact h.still step.id (fun _ => attached) (fun _ => ⟨asked, empty⟩) due (by rintro _ _ ⟨⟩)
          ticket (.inr rfl)
    | rested parked =>
        refine h.still step.id (fun _ => attached) ?_ due (fun _ _ returns => returns) ticket
          (.inr (Desk.outcome?_congr rfl rfl))
        intro gone
        change host.engine.worker.gone = true at gone
        rw [parked] at gone
        cases gone
    | entered =>
        exact h.still step.id (fun _ => attached) (by rintro ⟨⟩) due (by rintro _ _ ⟨⟩) ticket
          (.inr rfl)
    | passed passes => cases noPass.symm.trans passes.pass
    | recorded returning _ records =>
        exact h.recorded ordered returning records step.id ticket attached due
  · rw [passes.pass, Option.toList_some]
    exact h.passed follows ordered passes step.id

theorem beside (h : chronicle.Completes host) (beside : host.Beside after) :
    chronicle.Completes after := by
  have desk := beside.desk
  have worker := beside.worker
  refine h.still beside.id ?_ ?_ (Host.due_of_alike beside.alike) ?_ ?_ (.inr ?_)
  · rw [worker, desk]
    exact h.attached
  · rw [worker, desk]
    exact h.gone
  · rw [worker]
    exact fun _ _ returns => returns
  · rw [desk]
  · rw [desk]

theorem began (h : chronicle.Completes host) (begun : List Operation) :
    Completes { chronicle with begun } host := by
  have grows : chronicle.Grows { chronicle with begun } :=
    ⟨fun _ submitted => submitted, fun _ ran => ran⟩
  exact { h with
    served := fun s member => (h.served s member).imp_right fun ⟨ran, own⟩ => ⟨ran, own.grow grows⟩
    returning := fun request produced returns => (h.returning request produced returns).grow grows
    outcome := fun result recorded => (h.outcome result recorded).grow grows }

theorem of_fresh {backend : Backend W} (fresh : host.Fresh backend) : Completes {} host := by
  obtain ⟨_, _, _, desk⟩ := fresh.desk
  have worker := fresh.worker
  exact {
    attached := by
      rw [desk]
      exact fun _ => rfl
    gone := by
      rw [worker]
      nofun
    whole := by
      rw [Host.due?, desk, worker]
      rintro _ ⟨⟩
    served := by simp
    returning := by
      rw [worker]
      rintro _ _ ⟨⟩
    outcome := by
      rw [desk]
      rintro _ ⟨⟩ }

/-- With a calm backend no request is lost, from the start and under every schedule. -/
theorem of_lived {backend : Backend W} (calm : backend.Calm) {id : Nat} {options : Options}
    {framework : Framework} {world : W} {live : List Nat} {host : Host W}
    (opened : backend.openAs id options framework world live = .opened host) {crowd : Crowd W}
    {chronicle : Chronicle} (lived : Crowd.Lived { host } crowd chronicle) :
    chronicle.Completes crowd.host := by
  have fresh := Backend.fresh_of_opened opened
  induction lived with
  | start => exact .of_fresh fresh
  | @move crowd next chronicle lived move made h =>
      have follows := (Chronicle.Tells.of_lived fresh lived).follows
      obtain ⟨orderly, winding, healthy, -⟩ :=
        Crowd.Attended.of_reachable calm opened lived.reachable
      cases Crowd.moved_of_after? made with
      | began => exact h.began _
      | @called _ caller call after host mover found step =>
          rw [Chronicle.after_called mover]
          -- Only the step that submits a request adds to what is to be completed.
          rcases step.tickets orderly.ordered with ⟨waits, -⟩ | ⟨idle, -⟩
          · obtain ⟨task, timeout, rfl, rfl, -⟩ := step.submits waits
            rw [Crowd.submission?_of_awaiting found]
            exact h.submits orderly.ordered caller step
          · rw [Crowd.submission?_of_none found idle, Option.toList_none, List.append_nil]
            refine h.callStep orderly.ordered healthy ?_ step idle
            rintro last rfl
            exact winding.clearing caller last found
      | worked =>
          obtain ⟨host, stepped, same⟩ := Option.map_eq_some_iff.1 made
          cases congrArg Crowd.host same
          exact h.workerStep follows orderly.ordered healthy stepped
      | dropped _ drops => exact h.beside drops.beside
      | gaveUp => exact h

end Completes

end Chronicle

/-! ### What the callers make of it -/

/-- What becomes of a caller that waits for a ticket. -/
inductive Call.Answered (chronicle : Chronicle) (engine : Nat) (task : Task)
    (timeout ticket : Nat) :
    Call → Prop where
  | waits : Answered chronicle engine task timeout ticket (.awaiting task timeout ticket)
  | late (impatient : timeout ≠ 0) :
      Answered chronicle engine task timeout ticket (.ended (.failed .timedOut) task.target)
  /-- It is given the outcome of the pass for its ticket. -/
  | given {result : Except Fault Frame} (own : chronicle.Answer engine ticket result) :
      Answered chronicle engine task timeout ticket (Call.receive task result)
  /-- It has copied the output and dropped it. -/
  | copied {result : Except Fault Frame} {output target : Frame} {answer : Outcome Fault Reply}
      (own : chronicle.Answer engine ticket result)
      (copies : Call.receive task result = .dropping output answer target) :
      Answered chronicle engine task timeout ticket (.ended answer (some target))

namespace Call.Answered

variable {chronicle after : Chronicle} {engine timeout ticket : Nat} {task : Task}
  {call next : Call}

theorem grow (grows : chronicle.Grows after)
    (h : call.Answered chronicle engine task timeout ticket) :
    call.Answered after engine task timeout ticket := by
  cases h with
  | waits => exact .waits
  | late impatient => exact .late impatient
  | given own => exact .given (own.grow grows)
  | copied own copies => exact .copied (own.grow grows) copies

/-- The caller is told nothing else. -/
theorem goes {host host' : Host W} (h : call.Answered chronicle host.engine.id task timeout ticket)
    (completes : chronicle.Completes host) (ordered : Ordered host.desk host.engine.worker)
    (healthy : host.Healthy) (goes : call.Goes host next host') :
    next.Answered chronicle host.engine.id task timeout ticket := by
  cases h with
  | waits =>
      cases goes.callStep with
      | lockedOut poisoned => cases healthy.unpoisoned.symm.trans poisoned
      | received present collected =>
          have recorded := congrArg Prod.fst collected
          rw [ordered.ticket_of_response present]
          exact .given (completes.outcome _ recorded)
      | deserted impatient => exact .late impatient
  | late => cases goes.callStep
  | @given result own =>
      rcases Call.receive_cases task result with ⟨output, answer, target, same⟩ | ⟨_, _, same⟩
      · rw [same] at goes
        cases goes.callStep with
        | copied => exact .copied own same
        | spoilt drops => cases healthy.calm.drops drops
      · rw [same] at goes
        cases goes.callStep
  | copied => cases goes.callStep

end Call.Answered

namespace Crowd

variable {crowd next later : Crowd W} {chronicle since : Chronicle}

theorem Reachable.id (reach : Reachable crowd later) :
    later.host.engine.id = crowd.host.engine.id := by
  refine @Reachable.keeps W crowd later
    (fun later => later.host.engine.id = crowd.host.engine.id) reach rfl ?_
  intro middle next move same moved
  cases moved with
  | began => exact same
  | called _ _ step => exact step.id.trans same
  | worked step => exact step.id.trans same
  | dropped _ drops => exact drops.beside.id.trans same
  | gaveUp => exact same

variable {backend : Backend W} {id : Nat} {options : Options} {framework : Framework} {world : W}
  {live : List Nat} {host : Host W}

/-- A caller that waits goes on waiting until its time is up or it is given the outcome of the pass
for its ticket. -/
theorem Lived.answered (calm : backend.Calm)
    (opened : backend.openAs id options framework world live = .opened host)
    (lived : Lived { host } crowd chronicle) {caller timeout ticket : Nat} {task : Task}
    (waits : crowd.calls[caller]? = some (.awaiting task timeout ticket))
    (onward : Lived crowd later since) : ∃ call, later.calls[caller]? = some call
      ∧ call.Answered (chronicle.append since) host.engine.id task timeout ticket := by
  refine Lived.onward
    (Q := fun chronicle call => call.Answered chronicle host.engine.id task timeout ticket)
    Call.Answered.grow ?_ lived waits .waits onward
  intro crowd chronicle call next after lived found answered goes
  have attended := Attended.of_reachable calm opened lived.reachable
  have id : crowd.host.engine.id = host.engine.id := lived.reachable.id
  rw [← id] at answered ⊢
  exact answered.goes (.of_lived calm opened lived) attended.orderly.ordered attended.healthy goes

theorem Lived.answers (calm : backend.Calm)
    (opened : backend.openAs id options framework world live = .opened host)
    (lived : Lived { host } crowd chronicle) {caller timeout ticket : Nat} {task : Task}
    (waits : crowd.calls[caller]? = some (.awaiting task timeout ticket))
    (present : crowd.host.desk.hasResponse ticket = true) : ∃ result next,
      chronicle.Answer host.engine.id ticket result ∧ crowd.after? (.steps caller) = some next
        ∧ next.calls[caller]? = some (Call.receive task result) := by
  have attended := Attended.of_reachable calm opened lived.reachable
  have completes := Chronicle.Completes.of_lived calm opened lived
  have id : crowd.host.engine.id = host.engine.id := lived.reachable.id
  cases received : Call.tryReceive task ticket crowd.host with
  | none => cases present.symm.trans (Call.hasResponse_of_tryReceive received)
  | some ending =>
      obtain ⟨call, after⟩ := ending
      have step : CallStep (.awaiting task timeout ticket) crowd.host call after :=
        Call.tryReceive_step received
      cases step with
      | lockedOut poisoned => cases attended.healthy.unpoisoned.symm.trans poisoned
      | @received _ _ _ _ desk result _ collected =>
          have recorded := congrArg Prod.fst collected
          have mine := completes.outcome result recorded
          rw [id, ← attended.orderly.ordered.ticket_of_response present] at mine
          have inside : caller < crowd.calls.length := (List.getElem?_eq_some_iff.1 waits).1
          exact ⟨result, crowd.update caller (Call.receive task result, crowd.host.withDesk desk),
            mine, after?_steps waits received, List.getElem?_set_self inside⟩
      | deserted _ absent => cases present.symm.trans absent

/-- Once the worker is gone, the outcome that the last caller waits for is recorded. -/
theorem Lived.recorded (calm : backend.Calm)
    (opened : backend.openAs id options framework world live = .opened host)
    (lived : Lived { host } crowd chronicle) (gone : crowd.host.engine.worker.gone = true)
    {caller timeout ticket : Nat} {task : Task}
    (waits : crowd.calls[caller]? = some (.awaiting task timeout ticket))
    (last : ticket = crowd.host.desk.ticket) : crowd.host.desk.hasResponse ticket = true := by
  have attended := Attended.of_reachable calm opened lived.reachable
  have empty := ((Chronicle.Completes.of_lived calm opened lived).gone gone).2
  subst last
  rcases attended.pending caller (waiting?_eq_some.2 ⟨task, timeout, waits⟩) with
    ⟨request, queued, -⟩ | ⟨request, inHand, -⟩ | present
  · cases empty.symm.trans queued
  · rw [Worker.request?_of_gone gone] at inHand
    cases inHand
  · exact present

end Crowd

end Inference
