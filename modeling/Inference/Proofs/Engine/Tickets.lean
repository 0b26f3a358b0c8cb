/-
One request at a time.

Tickets are given out in order, one, two, three and so on, and the worker takes the requests off
the desk in the same order.  There is never more than one request that was accepted and has no
outcome yet: an engine that counts as running has exactly one, an idle engine has none, and as long
as there is one nobody else gets a request accepted (`Part.submitTask_running`).  `Crowd.InTurn`
says so of a crowd and `Crowd.InTurn.of_tallied` of every schedule.

What the worker takes is not in the chronicle, so it is tallied beside it.
-/
import Inference.Proofs.Engine.Completion
import Inference.Proofs.Engine.Survival

namespace Inference

variable {W : Type}

/-! ### What the worker takes -/

/-- The ticket of the request that the worker takes off the desk between two moments. -/
def Host.takes? (host after : Host W) : Option Nat :=
  match host.engine.worker, after.engine.worker with
  | .parked, .holding request => some request.ticket
  | _, _ => none

/-- The ticket that the worker takes with a move. -/
def Crowd.takes? (crowd next : Crowd W) : Move → Option Nat
  | .works => crowd.host.takes? next.host
  | _ => none

/-- The crowds that can be reached from another one, with what happened on the way and the tickets
that the worker took, in this order. -/
inductive Crowd.Tallied (first : Crowd W) : Crowd W → Chronicle → List Nat → Prop where
  | start : Tallied first first {} []
  | move {crowd next : Crowd W} {chronicle : Chronicle} {taken : List Nat}
      (before : Tallied first crowd chronicle taken) (move : Move)
      (made : crowd.after? move = some next) :
      Tallied first next (chronicle.after crowd next move)
        (taken ++ (crowd.takes? next move).toList)

namespace Crowd

theorem takes?_of_rest (crowd next : Crowd W) {move : Move} (rest : move.isWork = false) :
    (crowd.takes? next move).toList = [] := by
  cases move with
  | works => cases rest
  | _ => rfl

theorem Tallied.lived {first crowd : Crowd W} {chronicle : Chronicle} {taken : List Nat}
    (h : Tallied first crowd chronicle taken) : Lived first crowd chronicle := by
  induction h with
  | start => exact .start
  | move _ move made ih => exact .move ih move made

/-- Every history has its tally. -/
theorem Lived.tallied {first crowd : Crowd W} {chronicle : Chronicle}
    (h : Lived first crowd chronicle) : ∃ taken, Tallied first crowd chronicle taken := by
  induction h with
  | start => exact ⟨[], .start⟩
  | move _ move made ih =>
      obtain ⟨taken, tallied⟩ := ih
      exact ⟨_, .move tallied move made⟩

end Crowd

/-! ### What is in flight -/

namespace Host

variable {host after : Host W}

/-- The requests that were accepted and have no outcome yet. -/
def requests (host : Host W) : List Request :=
  host.desk.request.toList ++ host.engine.worker.request?.toList

theorem requests_of {request : Option Request} {worker : Worker}
    (desk : host.desk.request = request) (stands : host.engine.worker = worker) :
    host.requests = request.toList ++ worker.request?.toList := by
  rw [requests, desk, stands]

theorem length_requests_le (ordered : Ordered host.desk host.engine.worker) :
    host.requests.length ≤ 1 := by
  cases inHand : host.engine.worker.request? with
  | none =>
      cases queued : host.desk.request <;> simp [requests, inHand, queued]
  | some request =>
      have free := (ordered.alone inHand).2.1
      simp [requests, inHand, free]

theorem requests_of_idle (ordered : Ordered host.desk host.engine.worker)
    (idle : host.desk.mode = .idle) : host.requests = [] := by
  obtain ⟨parked, free⟩ := ordered.idle idle
  simp [requests_of free parked, Worker.request?]

/-- An engine counts as running only while there is a request. -/
def Engaged (host : Host W) : Prop := host.desk.mode = .running → host.requests ≠ []

theorem requests_callStep {call next : Call} (step : CallStep call host next after)
    (ordered : Ordered host.desk host.engine.worker) (healthy : host.Healthy)
    (idle : next.ticket? = none)
    (emptied : ∀ last, call = .clearing last → host.desk.request = none) :
    after.requests = host.requests := by
  have request := (step.due ordered healthy idle emptied).1
  rw [requests, request, step.worker, requests]

end Host

/-- An engine comes to run only by a request that is submitted to it. -/
theorem CallStep.mode_of_idle {call next : Call} {host after : Host W}
    (step : CallStep call host next after) (ordered : Ordered host.desk host.engine.worker)
    (healthy : host.Healthy) (idle : next.ticket? = none)
    (running : after.desk.mode = .running) : host.desk.mode = .running := by
  have still {after : Host W} (alike : host.Alike after)
      (running : after.desk.mode = .running) : host.desk.mode = .running := by
    obtain ⟨_, _, _, _, desk⟩ := alike.desk
    rw [desk] at running
    exact running
  cases step with
  | ran _ touched => exact still touched.alike running
  | submitted => cases idle
  | faltered tuned _ drops => cases (healthy.cleared ordered tuned drops).2
  | received _ collected =>
      rw [(Desk.collect_of_tidy ordered.tidy collected).1] at running
      exact running
  | copied drops => exact still drops.beside.alike running
  | spoilt drops => exact still drops.beside.alike running
  | dismissed => cases running
  | @cleared last _ after crash answer drops _ =>
      obtain ⟨_, _, _, _, desk⟩ := (Host.leftBy_alike after last crash).desk
      rw [desk, drops.beside.desk] at running
      cases last <;> exact running
  | _ => exact running

/-! ### The order of the tickets -/

namespace Crowd

/-- Requests come and go in the order of their tickets. -/
structure InTurn (crowd : Crowd W) (given taken : List Nat) : Prop where
  /-- Tickets are given out one after another. -/
  given : given = List.range' 1 crowd.host.desk.ticket
  /-- Whatever was submitted lies on the desk or was taken by the worker. -/
  took : taken ++ crowd.host.desk.request.toList.map (·.ticket)
    = List.range' 1 crowd.host.desk.ticket
  engaged : crowd.host.Engaged

namespace InTurn

variable {crowd next : Crowd W} {chronicle : Chronicle} {given taken : List Nat}

theorem still (h : crowd.InTurn given taken)
    (ticket : next.host.desk.ticket = crowd.host.desk.ticket)
    (request : next.host.desk.request = crowd.host.desk.request) (engaged : next.host.Engaged) :
    next.InTurn given taken where
  given := by
    rw [ticket]
    exact h.given
  took := by
    rw [ticket, request]
    exact h.took
  engaged := engaged

/-- A request is put on a desk that has none, under the next ticket. -/
theorem submits {caller : Nat} {task : Task} {timeout ticket : Nat} {host : Host W}
    (h : crowd.InTurn given taken) (orderly : crowd.Orderly)
    (step : CallStep (.entering (.submit task timeout)) crowd.host
      (.awaiting task timeout ticket) host) :
    (crowd.update caller (.awaiting task timeout ticket, host)).InTurn
      (given ++ [ticket]) taken := by
  obtain ⟨_, _, ⟨⟩, ⟨⟩, own, request⟩ := step.submits rfl
  -- The engine was idle, so the desk had no request.
  have free : crowd.host.desk.request = none := by
    by_cases idle : crowd.host.desk.mode = .idle
    · exact (orderly.ordered.idle idle).2
    · cases step.awake idle
  have took := h.took
  rw [free] at took
  have next : host.desk.ticket = crowd.host.desk.ticket + 1 := by
    rcases step.tickets orderly.ordered with ⟨-, next, -⟩ | ⟨idle, -⟩
    · exact next
    · cases idle
  have more : List.range' 1 host.desk.ticket
      = List.range' 1 crowd.host.desk.ticket ++ [host.desk.ticket] := by
    rw [next, List.range'_concat]
    simp [Nat.add_comm]
  exact {
    given := by
      show given ++ [ticket] = List.range' 1 host.desk.ticket
      rw [h.given, more, own]
    took := by
      show taken ++ host.desk.request.toList.map _ = List.range' 1 host.desk.ticket
      rw [request, more, own, ← took]
      simp
    engaged := by
      intro _
      show host.requests ≠ []
      simp [Host.requests, request] }

/-- The worker takes the request that is there, or goes on with the one it has. -/
theorem works {host : Host W} (h : crowd.InTurn given taken) (orderly : crowd.Orderly)
    (ticket : host.desk.ticket = crowd.host.desk.ticket) (step : CalmStep crowd.host host) :
    InTurn { crowd with host } given (taken ++ (crowd.host.takes? host).toList) := by
  have ordered := orderly.ordered
  -- A worker that is not waiting takes nothing.
  have quiet {worker : Worker} (stands : crowd.host.engine.worker = worker)
      (busy : worker.request? ≠ none) : crowd.host.takes? host = none := by
    unfold Host.takes?
    rw [stands]
    cases worker with
    | parked => exact absurd rfl busy
    | _ => rfl
  cases step with
  | @took request parked queued =>
      have took := h.took
      rw [queued] at took
      have takes : crowd.host.takes? ((crowd.host.withDesk
          { crowd.host.desk with request := none }).withWorker (.holding request))
          = some request.ticket := by
        simp [Host.takes?, parked, Host.withWorker]
      refine ⟨h.given, ?_, ?_⟩
      · rw [takes]
        show (taken ++ [request.ticket]) ++ [] = _
        rw [List.append_nil]
        exact took
      · intro _
        simp [Host.requests, Host.withWorker, Worker.request?]
  | left parked asked empty =>
      have takes : crowd.host.takes? (crowd.host.withWorker .exited) = none := by
        simp [Host.takes?, parked, Host.withWorker]
      rw [takes, Option.toList_none, List.append_nil]
      refine h.still rfl rfl ?_
      intro running
      cases asked.symm.trans running
  | rested parked asked empty =>
      -- There is a request whenever the engine counts as running.
      exact absurd (Host.requests_of empty parked) (h.engaged asked)
  | entered holding =>
      rw [quiet holding (by nofun), Option.toList_none, List.append_nil]
      refine h.still rfl rfl ?_
      intro _
      simp [Host.requests, Host.withWorker, Worker.request?]
  | @passed request ran _ passes =>
      have inHand := Worker.request?_of_ahead passes.ahead
      rw [quiet rfl (by rw [inHand]; nofun), Option.toList_none, List.append_nil]
      refine h.still ticket (congrArg Desk.request passes.desk) ?_
      intro _
      simp [Host.requests, passes.returns, Worker.request?]
  | recorded returning free records =>
      rw [quiet returning (by nofun), Option.toList_none, List.append_nil]
      refine h.still ticket (free.trans (ordered.free_of returning rfl).symm) ?_
      intro running
      exact absurd running records.mode.2

theorem called {move : Move} {caller : Nat} {call after : Call} {host : Host W}
    (h : crowd.InTurn (chronicle.submitted.map (·.ticket)) taken) (attended : crowd.Attended)
    (completes : chronicle.Completes crowd.host) (mover : move.caller? = some caller)
    (found : crowd.calls[caller]? = some call) (step : CallStep call crowd.host after host) :
    (crowd.update caller (after, host)).InTurn
      ((chronicle.after crowd (crowd.update caller (after, host)) move).submitted.map (·.ticket))
      taken := by
  obtain ⟨orderly, winding, healthy, -⟩ := attended
  rw [Chronicle.after_called mover]
  rcases step.tickets orderly.ordered with ⟨waits, -⟩ | ⟨idle, ticket, -⟩
  · obtain ⟨task, timeout, rfl, rfl, -⟩ := step.submits waits
    rw [submission?_of_awaiting found, Option.toList_some, List.map_append]
    exact h.submits orderly step
  · rw [submission?_of_none found idle, Option.toList_none, List.append_nil]
    have emptied : ∀ last, call = .clearing last → crowd.host.desk.request = none := by
      rintro last rfl
      exact (completes.gone (winding.clearing caller last found)).2
    refine h.still ticket (step.due orderly.ordered healthy idle emptied).1 ?_
    intro running
    have before := h.engaged (step.mode_of_idle orderly.ordered healthy idle running)
    rwa [← Host.requests_callStep step orderly.ordered healthy idle emptied] at before

/-- With a calm backend the tickets are in order under every schedule. -/
theorem of_tallied {backend : Backend W} (calm : backend.Calm) {id : Nat} {options : Options}
    {framework : Framework} {world : W} {live : List Nat} {host : Host W}
    (opened : backend.openAs id options framework world live = .opened host)
    (tallied : Tallied { host } crowd chronicle taken) :
    crowd.InTurn (chronicle.submitted.map (·.ticket)) taken := by
  have fresh := Backend.fresh_of_opened opened
  induction tallied with
  | start =>
      obtain ⟨input, output, timeout, desk⟩ := fresh.desk
      refine ⟨?_, ?_, ?_⟩
      · rw [desk]
        rfl
      · rw [desk]
        rfl
      · intro running
        rw [desk] at running
        cases running
  | @move crowd next chronicle taken before move made h =>
      have lived := before.lived
      have attended := Attended.of_reachable calm opened lived.reachable
      have completes := Chronicle.Completes.of_lived calm opened lived
      cases moved_of_after? made with
      | began =>
          rw [takes?_of_rest _ _ rfl, List.append_nil]
          exact h.still rfl rfl h.engaged
      | @called _ caller call after host mover found step =>
          have rest : move.isWork = false := by
            cases move <;> first | rfl | cases mover
          rw [takes?_of_rest _ _ rest, List.append_nil]
          exact h.called attended completes mover found step
      | @worked host step =>
          obtain ⟨host', stepped, same⟩ := Option.map_eq_some_iff.1 made
          cases congrArg Crowd.host same
          exact h.works attended.orderly step.tickets.1
            (completes.calmStep attended.orderly.ordered attended.healthy stepped)
      | @dropped caller output crash host held drops =>
          have desk := drops.beside.desk
          rw [takes?_of_rest _ _ rfl, List.append_nil]
          refine h.still (congrArg Desk.ticket desk) (congrArg Desk.request desk) ?_
          intro running
          have before := h.engaged ((congrArg Desk.mode desk).symm.trans running)
          show host.requests ≠ []
          rw [Host.requests, desk, drops.beside.worker]
          exact before
      | gaveUp =>
          rw [takes?_of_rest _ _ rfl, List.append_nil]
          exact h.still rfl rfl h.engaged

end InTurn

end Crowd

/-! ### Who comes second -/

/-- The task suits an engine as it is: it wants no other input, its sizes are the ones that are
expected, and all of its bytes are there. -/
structure Task.Suits (task : Task) (desk : Desk) : Prop where
  shape : ∀ info, task.reshape = some info → desk.input.agrees info = true
  sizes : task.input.sizes = desk.input.sizes
  bytes : ∃ inputs, task.input.allBytes = .ok inputs

theorem renegotiate_running {info : Descriptor} {host : Host W}
    (running : host.desk.mode = .running) :
    renegotiate info host = some (.failed .busy, host) := by
  show (if host.desk.mode = .running then Act.fail .busy else _ : Act W Unit) host = _
  rw [if_pos running]
  rfl

namespace Part

variable {task : Task} {host : Host W}

theorem submitFitting_running (running : host.desk.mode = .running) (timeout : Nat) :
    ∃ fault, submitFitting task timeout host = some (.failed fault, host)
      ∧ (task.Suits host.desk → fault = .busy) := by
  simp only [submitFitting, Act.desk_bind]
  split
  · rename_i differ
    exact ⟨_, rfl, fun suits => absurd suits.sizes (by simpa using differ)⟩
  · cases bytes : task.input.allBytes with
    | error fault =>
        refine ⟨fault, rfl, fun suits => ?_⟩
        obtain ⟨inputs, whole⟩ := suits.bytes
        cases bytes.symm.trans whole
    | ok inputs =>
        refine ⟨.busy, ?_, fun _ => rfl⟩
        rw [Act.ok_bind, running]
        rfl

/-- While a request is in flight another one is refused, and nothing changes. -/
theorem submitTask_running (running : host.desk.mode = .running) (task : Task) (timeout : Nat) :
    ∃ fault, submitTask task timeout host = some (.failed fault, host)
      ∧ (task.Suits host.desk → fault = .busy) := by
  cases reshape : task.reshape with
  | none =>
      rw [submitTask_of_none reshape]
      exact submitFitting_running running timeout
  | some info =>
      rw [submitTask_of_some reshape]
      split
      · exact submitFitting_running running timeout
      · refine ⟨.busy, ?_, fun _ => rfl⟩
        show Act.bind (renegotiate info) _ host = _
        rw [Act.bind, renegotiate_running running]

end Part

namespace Crowd

/-- A caller that comes to submit its task while another request is in flight. -/
theorem refused_of_running {crowd : Crowd W} {caller timeout : Nat} {task : Task}
    (unpoisoned : crowd.host.engine.deskPoisoned = false)
    (running : crowd.host.desk.mode = .running)
    (found : crowd.calls[caller]? = some (.entering (.submit task timeout))) :
    ∃ fault, crowd.after? (.steps caller)
        = some (crowd.update caller (.ended (.failed fault) task.target, crowd.host))
      ∧ (task.Suits crowd.host.desk → fault = .busy) := by
  obtain ⟨fault, refused, busy⟩ := Part.submitTask_running running task timeout
  exact ⟨fault, after?_steps found (Call.refused_of_submitTask unpoisoned refused), busy⟩

/-! ### One request at a time -/

/-- Never more than one request is in flight, and each is taken once, in the order of the tickets
that were given out. -/
structure OneAtATime (crowd : Crowd W) (given taken : List Nat) : Prop where
  atMostOne : crowd.host.requests.length ≤ 1
  running : crowd.host.desk.mode = .running → crowd.host.requests.length = 1
  idle : crowd.host.desk.mode = .idle → crowd.host.requests = []
  /-- A worker that wakes up on a running engine finds a request. -/
  supplied : crowd.host.engine.worker = .parked → crowd.host.desk.mode = .running →
    crowd.host.desk.request ≠ none
  /-- Every ticket is larger than all that were given out before. -/
  increasing : given.Pairwise (· < ·)
  /-- No ticket is taken twice, and all are taken but that of a request on the desk. -/
  once : taken.Nodup ∧ taken ++ crowd.host.desk.request.toList.map (·.ticket) = given
  /-- Before the worker exits it has taken all of them. -/
  exited : crowd.host.engine.worker = .exited → taken = given

theorem InTurn.oneAtATime {crowd : Crowd W} {given taken : List Nat}
    (h : crowd.InTurn given taken) (ordered : Ordered crowd.host.desk crowd.host.engine.worker)
    (gone : crowd.host.engine.worker.gone = true → crowd.host.desk.request = none) :
    crowd.OneAtATime given taken := by
  have took : taken ++ crowd.host.desk.request.toList.map (·.ticket) = given := by
    rw [h.took, h.given]
  have increasing : given.Pairwise (· < ·) := by
    rw [h.given]
    exact List.pairwise_lt_range'
  have single := Host.length_requests_le ordered
  refine ⟨single, ?_, Host.requests_of_idle ordered, ?_, increasing, ⟨?_, took⟩, ?_⟩
  · intro running
    have some := List.length_pos_of_ne_nil (h.engaged running)
    omega
  · intro parked running free
    exact h.engaged running (Host.requests_of free parked)
  · rw [← took] at increasing
    exact ((List.pairwise_append.1 increasing).1).imp Nat.ne_of_lt
  · intro exited
    have free := gone (by rw [exited]; rfl)
    rw [free] at took
    simpa using took

/-- With a backend that crashes in passes only, at most one request is in flight at any time, and
exactly one while the engine counts as running.  Tickets only go up; the worker takes every request
once, and has taken all of them before it exits.  Whoever comes to submit a request while another
one is in flight, and the engine is not asked to close, is refused and changes nothing: it is told
that the engine is busy unless it has brought an input that does not suit the engine anyway. -/
theorem one_request_at_a_time {backend : Backend W} (calm : backend.Calm) {id : Nat}
    {options : Options} {framework : Framework} {world : W} {live : List Nat} {host : Host W}
    (opened : backend.openAs id options framework world live = .opened host) {crowd : Crowd W}
    {chronicle : Chronicle} {taken : List Nat}
    (tallied : Tallied { host } crowd chronicle taken) :
    crowd.OneAtATime (chronicle.submitted.map (·.ticket)) taken
      ∧ ∀ (caller : Nat) (task : Task) (timeout : Nat),
        crowd.calls[caller]? = some (.entering (.submit task timeout)) →
        crowd.host.requests ≠ [] → crowd.host.desk.mode ≠ .leaving →
        ∃ fault, crowd.after? (.steps caller)
            = some (crowd.update caller (.ended (.failed fault) task.target, crowd.host))
          ∧ (task.Suits crowd.host.desk → fault = .busy) := by
  have attended := Attended.of_reachable calm opened tallied.lived.reachable
  have completes := Chronicle.Completes.of_lived calm opened tallied.lived
  have ordered := attended.orderly.ordered
  refine ⟨?_, ?_⟩
  · exact (InTurn.of_tallied calm opened tallied).oneAtATime ordered fun gone =>
      (completes.gone gone).2
  · intro caller task timeout found flies staying
    refine refused_of_running attended.healthy.unpoisoned ?_ found
    cases mode : crowd.host.desk.mode with
    | idle => exact absurd (Host.requests_of_idle ordered mode) flies
    | running => rfl
    | leaving => exact absurd mode staying

end Crowd

/-! ### A second caller -/

/-- The task that a call is about to submit, and how long it is going to wait. -/
def Call.submitting? : Call → Option (Task × Nat)
  | entering (.submit task timeout) => some (task, timeout)
  | _ => none

theorem Call.eq_of_submitting? {call : Call} {task : Task} {timeout : Nat}
    (h : call.submitting? = some (task, timeout)) : call = .entering (.submit task timeout) := by
  unfold submitting? at h
  split at h
  · cases h
    rfl
  · cases h

namespace CustomModel

/-- The worker is in the pass of one caller when another one is let in with a request. -/
def comingSecond : List Move :=
  [.begins (.infer (byteTask 7).input (some 0)), .steps 0, .steps 0, .works, .works,
    .begins (.infer (byteTask 9).input (some 0)), .steps 1]

/-- Whether the worker is in the first pass, and the second caller about to submit its byte. -/
def comesSecond (crowd : Crowd Unit) : Bool :=
  crowd.host.engine.worker.busy && decide (crowd.host.desk.mode = .running)
    && decide (crowd.host.desk.input = echoByte.input)
    && (crowd.calls[1]?.bind Call.submitting?).any fun (task, _) =>
      decide (task.reshape = none ∧ task.target = none ∧ task.input = (byteTask 9).input)

/-- The second caller is told that the engine is busy, and the pass goes on. -/
theorem second_caller_told_busy : ∃ (crowd : Crowd Unit) (chronicle : Chronicle)
    (taken : List Nat), Crowd.Tallied { host := echoEngine } crowd chronicle taken
      ∧ crowd.host.engine.worker.busy = true ∧ crowd.host.requests.length = 1
      ∧ crowd.OneAtATime (chronicle.submitted.map (·.ticket)) taken
      ∧ crowd.after? (.steps 1)
        = some (crowd.update 1 (.ended (.failed .busy) none, crowd.host)) := by
  have run : (Crowd.afterAll? { host := echoEngine } comingSecond).any comesSecond = true := by
    decide +kernel
  obtain ⟨crowd, reached, second⟩ := (Option.any_eq_true _ _).1 run
  simp only [comesSecond, Option.any_eq_true, Bool.and_eq_true, decide_eq_true_eq] at second
  obtain ⟨⟨⟨busy, running⟩, input⟩, ⟨task, timeout⟩, submits, fixed, bare, brought⟩ := second
  obtain ⟨call, found, submits⟩ := Option.bind_eq_some_iff.1 submits
  cases Call.eq_of_submitting? submits
  obtain ⟨chronicle, lived⟩ := (Crowd.reachable_of_afterAll? reached).lived
  obtain ⟨taken, tallied⟩ := lived.tallied
  obtain ⟨single, refused⟩ :=
    Crowd.one_request_at_a_time (backend_calm echoByte_fits) echoByte_opened tallied
  have flies := single.running running
  have suits : task.Suits crowd.host.desk := by
    refine ⟨?_, ?_, ?_⟩
    · rw [fixed]
      nofun
    · rw [brought, input]
      rfl
    · rw [brought]
      exact ⟨[[9]], rfl⟩
  obtain ⟨fault, after, told⟩ := refused 1 task timeout found
    (List.ne_nil_of_length_pos (by omega)) (by rw [running]; nofun)
  rw [told suits, bare] at after
  exact ⟨crowd, chronicle, taken, tallied, busy, flies, single, after⟩

end CustomModel

end Inference
