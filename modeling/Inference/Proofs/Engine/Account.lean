/-
What the chronicle tells of the callers.

No two callers share a ticket, and each of them only picks up the outcome of its own.
`Chronicle.Tells` says what the history of a crowd has to do with the calls in it: who waits has
submitted the request, and who has an output has got it from a pass for its own ticket.
`Tells.moved` is its step, and `Tells.of_lived` says that it holds of every crowd that can be
reached.
-/
import Mathlib.Data.List.Nodup
import Inference.Proofs.Engine.Calm
import Inference.Proofs.Engine.Origin

namespace Inference

variable {W : Type}

namespace Call

/-- Copying gives nothing to its caller but the bytes it copies. -/
theorem copyFrom_reply (source : Frame) (index : Nat) (target : Frame) (steps : Nat) :
    ∃ answer : Outcome Fault Unit,
      (copyFrom source index target steps).1 = answer.map fun () => Reply.none := by
  induction steps generalizing index target with
  | zero => exact ⟨.done (), rfl⟩
  | succ steps ih =>
      unfold copyFrom
      split
      · exact ih _ _
      · exact ⟨.failed _, rfl⟩
      · exact ⟨.crashed _, rfl⟩

/-- What is copied are the bytes of an output, whoever has allocated them. -/
theorem copyFrom_congr {source other : Frame} (same : other.regions = source.regions)
    (index : Nat) (target : Frame) (steps : Nat) :
    copyFrom other index target steps = copyFrom source index target steps := by
  have tensor (index : Nat) : other.tensor index = source.tensor index := by
    unfold Frame.tensor Frame.region Frame.count
    rw [same]
  induction steps generalizing index target with
  | zero => rfl
  | succ steps ih =>
      unfold copyFrom
      simp only [tensor, ih]

theorem bare_of_receive {task : Task} {result : Except Fault Frame} {output target : Frame}
    {answer : Outcome Fault Reply} (h : receive task result = .dropping output answer target) :
    (Call.ended answer (some target)).output? = none := by
  cases result with
  | error fault => cases h
  | ok frame =>
      simp only [receive, hand] at h
      split at h
      · cases h
        obtain ⟨answer, same⟩ := copyFrom_reply _ _ _ _
        rw [same]
        cases answer <;> rfl
      · split at h <;> cases h

/-- The output that a call is given is the one of its outcome. -/
theorem output_of_receive {task : Task} {result : Except Fault Frame} {output : Frame}
    (h : (receive task result).output? = some output) :
    ∃ frame, result = .ok frame ∧ output.regions = frame.regions ∧ output.info = frame.info
      ∧ output.lease = frame.lease := by
  cases result with
  | error fault => cases h
  | ok frame =>
      refine ⟨frame, rfl, ?_⟩
      simp only [receive, hand] at h
      split at h
      · cases h
      · split at h <;> cases h <;> split <;> exact ⟨rfl, rfl, rfl⟩

end Call

/-- A call gets an output by picking up an outcome, and in no other way. -/
theorem CallStep.output {call next : Call} {host after : Host W}
    (step : CallStep call host next after)
    (bare : ∀ output answer target, call = .dropping output answer target →
      (Call.ended answer (some target)).output? = none) {output : Frame}
    (h : next.output? = some output) :
    ∃ task timeout ticket frame, call = .awaiting task timeout ticket
      ∧ host.desk.hasResponse ticket = true ∧ host.desk.outcome? = some (.ok frame)
      ∧ output.regions = frame.regions ∧ output.info = frame.info ∧ output.lease = frame.lease := by
  cases step with
  | checked onward => cases onward <;> first | cases h | exact absurd h (by simp_all)
  | ran onward => cases onward <;> first | cases h | exact absurd h (by simp_all)
  | @received task timeout ticket _ _ _ present collected =>
      obtain ⟨frame, rfl, regions, info, lease⟩ := Call.output_of_receive h
      have outcome := congrArg Prod.fst collected
      exact ⟨task, timeout, ticket, frame, rfl, present, outcome, regions, info, lease⟩
  | copied => cases (bare _ _ _ rfl).symm.trans h
  | cleared _ empty => cases empty.symm.trans h
  | _ => cases h

/-- What a call that copies its output will answer is settled when it picks up its outcome. -/
theorem CallStep.bare {call next : Call} {host after : Host W}
    (step : CallStep call host next after)
    {output target : Frame} {answer : Outcome Fault Reply}
    (h : next = .dropping output answer target) :
    (Call.ended answer (some target)).output? = none := by
  cases step with
  | checked onward => cases onward <;> cases h
  | ran onward => cases onward <;> cases h
  | received => exact Call.bare_of_receive h
  | _ => cases h

theorem CallStep.late {call next : Call} {host after : Host W}
    (step : CallStep call host next after)
    (h : call.isEarly = false) : next.isEarly = false := by
  cases step with
  | checked => cases h
  | ran => cases h
  | received =>
      rcases Call.receive_cases _ _ with ⟨_, _, _, same⟩ | ⟨_, _, same⟩ <;> rw [same] <;> rfl
  | _ => rfl

theorem Operation.output?_call (operation : Operation) : operation.call.output? = none := by
  rcases operation.call_cases with ⟨_, same⟩ | ⟨_, same⟩ | same <;> rw [same] <;> rfl

/-- What a chronicle tells of the callers. -/
structure Chronicle.Tells (chronicle : Chronicle) (crowd : Crowd W) : Prop where
  orderly : crowd.Orderly
  follows : chronicle.Follows crowd.host
  begun : crowd.givenUp = false → chronicle.begun.length = crowd.calls.length
  /-- A call runs its pass on the input that its operation brought. -/
  asked : ∀ (caller : Nat) (call : Call) (task : Task),
    crowd.calls[caller]? = some call → call.task? = some task →
    ∃ operation : Operation,
      chronicle.begun[caller]? = some operation ∧ operation.input? = some task.input
  /-- A caller that waits has submitted its task. -/
  waiting : ∀ (caller : Nat) (task : Task) (timeout ticket : Nat),
    crowd.calls[caller]? = some (Call.awaiting task timeout ticket) →
      ∃ s ∈ chronicle.submitted, s.caller = caller ∧ s.ticket = ticket
  /-- Nobody submits twice. -/
  once : (chronicle.submitted.map (·.caller)).Nodup
  late : ∀ s ∈ chronicle.submitted, ∃ call : Call,
    crowd.calls[s.caller]? = some call ∧ call.isEarly = false
  brought : ∀ s ∈ chronicle.submitted, ∃ operation : Operation,
    chronicle.begun[s.caller]? = some operation ∧ operation.input? = some s.input
  bare : ∀ (caller : Nat) (output : Frame) (answer : Outcome Fault Reply) (target : Frame),
    crowd.calls[caller]? = some (Call.dropping output answer target) →
      (Call.ended answer (some target)).output? = none
  /-- An output is what the pass of the caller's own ticket made. -/
  outputs : ∀ (caller : Nat) (call : Call) (output : Frame), crowd.calls[caller]? = some call →
    call.output? = some output → ∃ ticket s r, chronicle.Made ticket output s r ∧ s.caller = caller

namespace Chronicle.Tells

variable {chronicle : Chronicle} {crowd next : Crowd W}

/-- A move that neither changes a call nor adds anything but passes to the chronicle. -/
theorem aside {chronicle' : Chronicle} {crowd' : Crowd W} (h : chronicle.Tells crowd)
    (orderly : crowd'.Orderly) (follows : chronicle'.Follows crowd'.host)
    (calls : crowd'.calls = crowd.calls) (givenUp : crowd'.givenUp = crowd.givenUp)
    (begun : chronicle'.begun = chronicle.begun)
    (submitted : chronicle'.submitted = chronicle.submitted)
    (grows : chronicle.Grows chronicle') : chronicle'.Tells crowd' where
  orderly := orderly
  follows := follows
  begun := by
    rw [begun, calls, givenUp]
    exact h.begun
  asked := by
    rw [begun, calls]
    exact h.asked
  waiting := by
    rw [submitted, calls]
    exact h.waiting
  once := by
    rw [submitted]
    exact h.once
  late := by
    rw [submitted, calls]
    exact h.late
  brought := by
    rw [submitted, begun]
    exact h.brought
  bare := by
    rw [calls]
    exact h.bare
  outputs := by
    rw [calls]
    intro caller call output found given
    obtain ⟨ticket, s, r, made, own⟩ := h.outputs caller call output found given
    exact ⟨ticket, s, r, made.grow grows, own⟩

theorem appended {call : Call} {crowd' : Crowd W} {begun : List Operation}
    (h : chronicle.Tells crowd)
    (orderly : crowd'.Orderly) (host : crowd'.host = crowd.host)
    (calls : crowd'.calls = crowd.calls ++ [call])
    (begins : crowd'.givenUp = false → begun.length = crowd.calls.length + 1)
    (older : ∀ (caller : Nat) (operation : Operation), chronicle.begun[caller]? = some operation →
      begun[caller]? = some operation)
    (asked : ∀ task, call.task? = some task → ∃ operation : Operation,
      begun[crowd.calls.length]? = some operation ∧ operation.input? = some task.input)
    (idle : call.ticket? = none) (empty : call.output? = none)
    (fresh : ∀ output answer target, call ≠ .dropping output answer target) :
    Tells { chronicle with begun } crowd' where
  orderly := orderly
  follows := by
    rw [host]
    exact ⟨h.follows.tickets, h.follows.passes, h.follows.submitted, h.follows.ran, h.follows.ahead,
      fun request frame returns => by
        obtain ⟨s, r, made⟩ := h.follows.returning request frame returns
        exact ⟨s, r, { made with }⟩,
      fun frame recorded => by
        obtain ⟨s, r, made⟩ := h.follows.outcome frame recorded
        exact ⟨s, r, { made with }⟩⟩
  begun kept := by
    rw [calls, List.length_append]
    exact begins kept
  asked := by
    rw [calls]
    intro caller call' task found about
    rcases Crowd.getElem?_append_cases found with old | ⟨rfl, rfl⟩
    · obtain ⟨operation, began, input⟩ := h.asked caller call' task old about
      exact ⟨operation, older caller operation began, input⟩
    · exact asked task about
  waiting := by
    rw [calls]
    intro caller task timeout ticket found
    rcases Crowd.getElem?_append_cases found with old | ⟨-, same⟩
    · exact h.waiting caller task timeout ticket old
    · rw [← same] at idle
      cases idle
  once := h.once
  late s member := by
    obtain ⟨call', found, late⟩ := h.late s member
    rw [calls]
    exact ⟨call', Crowd.getElem?_append_of_some found, late⟩
  brought s member := by
    obtain ⟨operation, began, input⟩ := h.brought s member
    exact ⟨operation, older _ operation began, input⟩
  bare := by
    rw [calls]
    intro caller output answer target found
    rcases Crowd.getElem?_append_cases found with old | ⟨-, same⟩
    · exact h.bare caller output answer target old
    · exact absurd same.symm (fresh output answer target)
  outputs := by
    rw [calls]
    intro caller call' output found given
    rcases Crowd.getElem?_append_cases found with old | ⟨-, rfl⟩
    · obtain ⟨ticket, s, r, made, own⟩ := h.outputs caller call' output old given
      exact ⟨ticket, s, r, { made with }, own⟩
    · cases empty.symm.trans given

/-- A call submits its task. -/
theorem submitted {caller timeout ticket : Nat} {task : Task} {host : Host W}
    (h : chronicle.Tells crowd)
    (found : crowd.calls[caller]? = some (.entering (.submit task timeout)))
    (orderly : (crowd.update caller (.awaiting task timeout ticket, host)).Orderly)
    (follows : Chronicle.Follows { chronicle with submitted := chronicle.submitted ++
      [{ caller, ticket, input := task.input, output := host.desk.output }] } host) :
    Tells { chronicle with submitted := chronicle.submitted ++
      [{ caller, ticket, input := task.input, output := host.desk.output }] }
      (crowd.update caller (.awaiting task timeout ticket, host)) := by
  have calls := Crowd.getElem?_update found (.awaiting task timeout ticket, host)
  -- Whoever submits has not done so before.
  have fresh : ∀ s ∈ chronicle.submitted, caller ≠ s.caller := by
    rintro s member rfl
    obtain ⟨call, found', late⟩ := h.late s member
    cases found.symm.trans found'
    cases late
  have asked := h.asked caller _ task found rfl
  exact {
    orderly := orderly
    follows := follows
    begun := by
      intro kept
      rw [Crowd.update, List.length_set]
      exact h.begun kept
    asked := by
      intro other call task' found' about
      rcases Crowd.update_cases found found' with ⟨rfl, rfl⟩ | ⟨-, old⟩
      · cases about
        exact asked
      · exact h.asked other call task' old about
    waiting := by
      intro other task' timeout' ticket' found'
      rcases Crowd.update_cases found found' with ⟨rfl, same⟩ | ⟨-, old⟩
      · cases same
        exact ⟨_, List.mem_append_right _ List.mem_cons_self, rfl, rfl⟩
      · obtain ⟨s, member, own⟩ := h.waiting other task' timeout' ticket' old
        exact ⟨s, List.mem_append_left _ member, own⟩
    once := by
      rw [List.map_append, List.nodup_append]
      refine ⟨h.once, by simp, ?_⟩
      intro old oldMem new newMem same
      obtain ⟨s, member, rfl⟩ := List.mem_map.1 oldMem
      simp only [List.map_cons, List.map_nil, List.mem_singleton] at newMem
      exact fresh s member (newMem.symm.trans same.symm)
    late := by
      intro s member
      rcases List.mem_append.1 member with old | new
      · rw [calls, if_neg (fresh s old)]
        exact h.late s old
      · cases List.mem_singleton.1 new
        rw [calls, if_pos rfl]
        exact ⟨_, rfl, rfl⟩
    brought := by
      intro s member
      rcases List.mem_append.1 member with old | new
      · exact h.brought s old
      · cases List.mem_singleton.1 new
        exact asked
    bare := by
      intro other output answer target found'
      rcases Crowd.update_cases found found' with ⟨-, same⟩ | ⟨-, old⟩
      · cases same
      · exact h.bare other output answer target old
    outputs := by
      intro other call output found' given
      rcases Crowd.update_cases found found' with ⟨-, rfl⟩ | ⟨-, old⟩
      · cases given
      · obtain ⟨ticket', s, r, made, own⟩ := h.outputs other call output old given
        refine ⟨ticket', s, r, { made with wasSubmitted := ?_ }, own⟩
        exact List.mem_append_left _ made.wasSubmitted }

/-- An output that a caller is handed is the one that was made for it. -/
theorem handed {caller : Nat} {call after : Call} {host : Host W} {output : Frame}
    (h : chronicle.Tells crowd) (found : crowd.calls[caller]? = some call)
    (step : CallStep call crowd.host after host) (given : after.output? = some output) :
    ∃ ticket s r, chronicle.Made ticket output s r ∧ s.caller = caller := by
  have bare : ∀ output answer target, call = .dropping output answer target →
      (Call.ended answer (some target)).output? = none := by
    rintro output answer target rfl
    exact h.bare caller output answer target found
  obtain ⟨task, timeout, ticket, frame, rfl, present, recorded, regions, info, lease⟩ :=
    step.output bare given
  have last : ticket = crowd.host.desk.ticket := h.orderly.ordered.ticket_of_response present
  obtain ⟨s, r, made⟩ := h.follows.outcome frame recorded
  -- The ticket is the caller's own, and nobody else has submitted anything under it.
  obtain ⟨own, member, mine, sameTicket⟩ := h.waiting caller task timeout ticket found
  have same : s = own := by
    refine List.inj_on_of_nodup_map h.follows.tickets made.wasSubmitted member ?_
    rw [made.requested, sameTicket, last]
  refine ⟨_, s, r, { made with regions := ?_, info := ?_, lease := ?_ }, ?_⟩
  · rw [regions]
    exact made.regions
  · rw [info]
    exact made.info
  · rw [lease]
    exact made.lease
  · rw [same]
    exact mine

/-- A call makes a step by which it submits nothing. -/
theorem goesOn {caller : Nat} {call after : Call} {host : Host W} (h : chronicle.Tells crowd)
    (found : crowd.calls[caller]? = some call) (step : CallStep call crowd.host after host)
    (idle : after.ticket? = none) (follows : chronicle.Follows host) :
    chronicle.Tells (crowd.update caller (after, host)) := by
  have calls := Crowd.getElem?_update found (after, host)
  exact {
    orderly := h.orderly.called found step
    follows := follows
    begun := by
      intro kept
      rw [Crowd.update, List.length_set]
      exact h.begun kept
    asked := by
      intro other call' task found' about
      rcases Crowd.update_cases found found' with ⟨rfl, rfl⟩ | ⟨-, old⟩
      · exact h.asked caller call task found (step.task about)
      · exact h.asked other call' task old about
    waiting := by
      intro other task timeout ticket found'
      rcases Crowd.update_cases found found' with ⟨-, rfl⟩ | ⟨-, old⟩
      · cases idle
      · exact h.waiting other task timeout ticket old
    once := h.once
    late := by
      intro s member
      obtain ⟨call', found', late⟩ := h.late s member
      rw [calls]
      split
      · rename_i same
        rw [← same] at found'
        cases found.symm.trans found'
        exact ⟨after, rfl, step.late late⟩
      · exact ⟨call', found', late⟩
    brought := h.brought
    bare := by
      intro other output answer target found'
      rcases Crowd.update_cases found found' with ⟨-, same⟩ | ⟨-, old⟩
      · exact step.bare same.symm
      · exact h.bare other output answer target old
    outputs := by
      intro other call' output found' given
      rcases Crowd.update_cases found found' with ⟨rfl, rfl⟩ | ⟨-, old⟩
      · exact h.handed found step given
      · exact h.outputs other call' output old given }

theorem called {caller : Nat} {call after : Call} {host : Host W} (h : chronicle.Tells crowd)
    (found : crowd.calls[caller]? = some call) (step : CallStep call crowd.host after host) :
    Tells { chronicle with submitted := chronicle.submitted
      ++ (crowd.submission? (crowd.update caller (after, host)) caller).toList }
      (crowd.update caller (after, host)) := by
  have orderly := h.orderly.called found step
  rcases step.tickets h.orderly.ordered with ⟨submits, -⟩ | ⟨idle, -⟩
  · obtain ⟨task, timeout, rfl, rfl, -⟩ := step.submits submits
    rw [Crowd.submission?_of_awaiting found]
    refine h.submitted found orderly (h.follows.callStep caller h.orderly.ordered step ?_ nofun)
    rintro task' timeout' ticket ⟨⟩ ⟨⟩
    rfl
  · rw [Crowd.submission?_of_none found idle]
    have follows : chronicle.Follows host := by
      refine h.follows.callStep caller h.orderly.ordered step ?_ (fun _ => rfl)
      rintro task timeout ticket - rfl
      cases idle
    have same : { chronicle with
        submitted := chronicle.submitted ++ (none : Option Submitted).toList }
        = chronicle := by
      simp
    rw [same]
    exact h.goesOn found step idle follows

/-- The chronicle tells of every move. -/
theorem moved {move : Move} (h : chronicle.Tells crowd) (moved : crowd.Moved move next) :
    (chronicle.after crowd next move).Tells next := by
  have orderly := h.orderly.moved moved
  have grows := chronicle.grows_after crowd next move
  cases moved with
  | began operation kept =>
      have length := h.begun kept
      refine h.appended orderly rfl rfl ?_ ?_ ?_ operation.ticket?_call operation.output?_call ?_
      · intro _
        rw [List.length_append, length]
        rfl
      · exact fun _ _ old => Crowd.getElem?_append_of_some old
      · intro task about
        refine ⟨operation, ?_, Operation.input?_of_task about⟩
        rw [← length]
        exact List.getElem?_concat_length
      · intro output answer target same
        rcases operation.call_cases with ⟨_, other⟩ | ⟨_, other⟩ | other <;>
          cases same.symm.trans other
  | called mover found step =>
      rw [Chronicle.after_called mover]
      exact h.called found step
  | worked step =>
      exact h.aside orderly (h.follows.workerStep h.orderly.ordered step) rfl rfl rfl rfl grows
  | dropped _ drops =>
      exact h.aside orderly (h.follows.alike drops.beside.alike) rfl rfl rfl rfl grows
  | gaveUp =>
      refine h.appended orderly rfl rfl ?_ (fun _ _ old => old) ?_ rfl rfl ?_
      · intro kept
        cases kept
      · intro task about
        cases about
      · intro output answer target same
        cases same

theorem of_fresh {backend : Backend W} {host : Host W} (fresh : host.Fresh backend) :
    Tells {} ({ host } : Crowd W) where
  orderly := .of_reachable fresh .refl
  follows := .of_fresh fresh
  begun _ := rfl
  asked := by
    intro caller call task found
    simp at found
  waiting := by
    intro caller task timeout ticket found
    simp at found
  once := List.nodup_nil
  late := by
    intro s member
    simp at member
  brought := by
    intro s member
    simp at member
  bare := by
    intro caller output answer target found
    simp at found
  outputs := by
    intro caller call output found
    simp at found

/-- The chronicle tells of every crowd that can be reached. -/
theorem of_lived {backend : Backend W} {host : Host W} (fresh : host.Fresh backend)
    (lived : Crowd.Lived { host } crowd chronicle) : chronicle.Tells crowd :=
  @Crowd.Lived.keeps W _ _ _ (fun crowd chronicle => chronicle.Tells crowd) lived (of_fresh fresh)
    fun told moved => told.moved moved

theorem ran_unique (h : chronicle.Tells crowd) {r other : Ran} (member : r ∈ chronicle.ran)
    (member' : other ∈ chronicle.ran) (same : r.ticket = other.ticket) : r = other :=
  List.inj_on_of_nodup_map h.follows.passes member member' same

theorem submitted_unique (h : chronicle.Tells crowd) {s other : Submitted}
    (member : s ∈ chronicle.submitted) (member' : other ∈ chronicle.submitted)
    (same : s.ticket = other.ticket) : s = other :=
  List.inj_on_of_nodup_map h.follows.tickets member member' same

end Chronicle.Tells

end Inference
