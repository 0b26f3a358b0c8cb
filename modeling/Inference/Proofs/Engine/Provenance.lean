/-
Where an answer comes from.

The history of a crowd lists the requests that were submitted.  Each of them was put on the desk
in one step of its caller, which held the lock all the while.  `Crowd.Occasion` is such a step,
and `Crowd.Lived.occasion` finds it again in the run, with what happened before it and since.
What was agreed at that moment is what the request was submitted under, whatever has become of
the engine in the meantime.

An output that a caller is given can be traced back to such an occasion
(`Crowd.Occasion.given_info`), and arrives whole (`Crowd.Lived.given_full`).
-/
import Inference.Proofs.Engine.Bargain
import Inference.Proofs.Engine.Course
import Inference.Proofs.Engine.Fullness

namespace Inference

variable {W : Type}

/-! ### The occasion of a request -/

namespace Crowd

/-- A caller holds the lock and submits its request. -/
structure Occasion (before next : Crowd W) (task : Task) (timeout : Nat) (s : Submitted) :
    Prop where
  made : before.after? (.steps s.caller) = some next
  enters : before.calls[s.caller]? = some (.entering (.submit task timeout))
  waits : next.calls[s.caller]? = some (.awaiting task timeout s.ticket)
  input : s.input = task.input
  output : s.output = next.host.desk.output

theorem submission?_eq_some {crowd next : Crowd W} {caller : Nat} {s : Submitted}
    (h : crowd.submission? next caller = some s) : ∃ task timeout task' timeout',
      crowd.calls[caller]? = some (.entering (.submit task timeout))
        ∧ next.calls[caller]? = some (.awaiting task' timeout' s.ticket) ∧ s.caller = caller
        ∧ s.input = task.input ∧ s.output = next.host.desk.output := by
  unfold submission? at h
  split at h
  · rename_i enters waits
    cases h
    exact ⟨_, _, _, _, enters, waits, rfl, rfl, rfl⟩
  · cases h

theorem occasion_of_submission {crowd next : Crowd W} {move : Move} {caller : Nat} {s : Submitted}
    (made : crowd.after? move = some next) (mover : move.caller? = some caller)
    (h : crowd.submission? next caller = some s) :
    ∃ task timeout, move = .steps s.caller ∧ crowd.Occasion next task timeout s := by
  obtain ⟨task, timeout, task', timeout', enters, waits, own, input, output⟩ :=
    submission?_eq_some h
  subst own
  have steps : move = .steps s.caller := by
    cases move with
    | steps => cases mover; rfl
    | expires =>
        -- A call that holds the lock does not run out of patience.
        cases mover
        obtain ⟨call, found, expired⟩ := Option.bind_eq_some_iff.1 made
        cases enters.symm.trans found
        cases expired
    | _ => cases mover
  subst steps
  rcases (turn_of_after? made).call enters with still | ⟨after, -, goes, found⟩
  · cases still.symm.trans waits
  · cases found.symm.trans waits
    obtain ⟨_, _, same, same', -⟩ := goes.callStep.submits rfl
    cases same
    cases same'
    exact ⟨task, timeout, rfl, made, enters, waits, input, output⟩

end Crowd

/-- What is agreed when a request is submitted. -/
structure Host.Agreed (host : Host W) (task : Task) (ticket : Nat) : Prop where
  shape : ∀ info, task.reshape = some info → host.desk.input.agrees info = true
  sizes : task.input.sizes = host.desk.input.sizes
  request : host.desk.request = some {
    ticket, input := task.input.copyFor .engine, output := host.desk.output }

theorem CallStep.agreed {task : Task} {timeout ticket : Nat} {host after : Host W}
    (step : CallStep (.entering (.submit task timeout)) host (.awaiting task timeout ticket)
      after) : after.Agreed task ticket := by
  cases step with
  | ran onward => cases onward
  | @submitted _ _ _ middle dropped _ tuned shape _ sizes _ drops =>
      -- Between the negotiation and the submission the input stays.
      have kept : (dropped.enqueue task).desk.input = middle.desk.input :=
        (middle.cleared_sameTerms.trans drops.sameTerms).input
      refine ⟨?_, ?_, rfl⟩
      · intro info wanted
        rw [kept]
        rcases shape info wanted with agrees | same
        · exact agrees
        · rw [same]
          exact Descriptor.agrees_refl info
      · rw [kept]
        exact sizes

namespace Crowd

theorem Occasion.agreed {before next : Crowd W} {task : Task} {timeout : Nat} {s : Submitted}
    (occasion : before.Occasion next task timeout s) : next.host.Agreed task s.ticket := by
  rcases (turn_of_after? occasion.made).call occasion.enters with still | ⟨after, -, goes, found⟩
  · cases still.symm.trans occasion.waits
  · cases found.symm.trans occasion.waits
    exact goes.callStep.agreed

/-- Every request in the history of a crowd has its occasion in the run. -/
theorem Lived.occasion {first crowd : Crowd W} {chronicle : Chronicle}
    (lived : Lived first crowd chronicle) {s : Submitted} (member : s ∈ chronicle.submitted) :
    ∃ before next past since task timeout, Lived first before past
      ∧ before.Occasion next task timeout s ∧ Lived next crowd since
      ∧ chronicle = (past.after before next (.steps s.caller)).append since := by
  induction lived with
  | start => simp at member
  | @move crowd later chronicle lived move made ih =>
      by_cases old : s ∈ chronicle.submitted
      · obtain ⟨before, next, past, since, task, timeout, earlier, occasion, onward, same⟩ := ih old
        refine ⟨before, next, past, since.after crowd later move, task, timeout, earlier, occasion,
          .move onward move made, ?_⟩
        rw [Chronicle.append_after, ← same]
      · obtain ⟨caller, mover, submits⟩ : ∃ caller, move.caller? = some caller
            ∧ crowd.submission? later caller = some s := by
          cases mover : move.caller? with
          | some caller =>
              rw [Chronicle.after_called mover] at member
              have new := (List.mem_append.1 member).resolve_left old
              exact ⟨caller, rfl, Option.mem_toList.1 new⟩
          | none => cases move <;> first | exact absurd member old | cases mover
        obtain ⟨task, timeout, rfl, occasion⟩ := occasion_of_submission made mover submits
        exact ⟨crowd, later, chronicle, {}, task, timeout, lived, occasion, .start,
          (Chronicle.append_nothing _).symm⟩

theorem Lived.task {backend : Backend W} {host : Host W} (fresh : host.Fresh backend)
    {crowd : Crowd W} {chronicle : Chronicle} (lived : Lived { host } crowd chronicle)
    {caller : Nat} {operation : Operation} (begun : chronicle.begun[caller]? = some operation)
    {call : Call} (found : crowd.calls[caller]? = some call) {task : Task}
    (about : call.task? = some task) : operation.call.task? = some task := by
  have course := Lived.course
    (Q := fun _ _ operation call => ∀ task, call.task? = some task →
      operation.call.task? = some task)
    fresh ?_ ?_ ?_ lived begun
  · obtain ⟨call', found', same⟩ := course
    cases found.symm.trans found'
    exact same task about
  · intro _ _ operation task about
    exact about
  · intro _ _ _ _ _ _ same
    exact same
  · intro _ _ _ _ _ _ _ _ _ same goes task about
    exact same task (goes.callStep.task about)

/-! ### Outputs -/

/-- A call that is given an output is given all of it. -/
theorem Lived.given_full {backend : Backend W} {host : Host W} (fresh : host.Fresh backend)
    {crowd : Crowd W} {chronicle : Chronicle} (lived : Lived { host } crowd chronicle)
    {caller : Nat} {output : Frame} (given : crowd.given? caller = some output) : output.Full := by
  obtain ⟨call, found, gives⟩ := Option.bind_eq_some_iff.1 given
  have told := Chronicle.Tells.of_lived fresh lived
  obtain ⟨_, s, _, made, rfl⟩ := told.outputs caller call output found gives
  obtain ⟨operation, begun, -⟩ := told.brought s made.wasSubmitted
  have course := Lived.course
    (Q := fun _ _ _ call => ∀ output, call.output? = some output → output.Full)
    fresh ?_ ?_ ?_ lived begun
  · obtain ⟨call', found', full⟩ := course
    cases found.symm.trans found'
    exact full output gives
  · intro _ _ operation output gives
    cases operation.output?_call.symm.trans gives
  · intro _ _ _ _ _ _ full
    exact full
  · intro crowd chronicle caller _ call next after lived found _ goes output gives
    have told := Chronicle.Tells.of_lived fresh lived
    have bare : ∀ output answer target, call = .dropping output answer target →
        (Call.ended answer (some target)).output? = none := by
      intro output answer target same
      exact told.bare caller output answer target (same ▸ found)
    obtain ⟨_, _, _, frame, -, -, recorded, regions, info, -⟩ := goes.callStep.output bare gives
    have full := (Host.Full.of_reachable fresh lived.reachable).outcome frame recorded
    unfold Frame.Full Frame.sizes at full ⊢
    rw [regions, info]
    exact full

/-- A request for which the engine is not given another shape is submitted for the output there
is. -/
theorem Occasion.output_of_plain {before next : Crowd W} {task : Task} {timeout : Nat}
    {s : Submitted} (occasion : before.Occasion next task timeout s)
    (plain : task.reshape = none) : next.host.desk.output = before.host.desk.output := by
  rcases (turn_of_after? occasion.made).call occasion.enters with still | ⟨after, -, goes, found⟩
  · cases still.symm.trans occasion.waits
  cases found.symm.trans occasion.waits
  obtain ⟨-, ended, -⟩ | ⟨-, outcome, middle, ran, settled, ⟨-, same⟩ | ⟨message, rfl, -⟩⟩ :=
    Call.entering_cases (goes.step rfl)
  · cases ended
  · have submitted : Part.submitFitting task timeout before.host = some (outcome, middle) := by
      rw [← Part.submitTask_of_none plain]
      exact ran
    rw [same]
    exact (Part.submitFitting_sameTerms submitted).output
  · cases settled

/-- The output that a caller is given has the descriptor that was agreed when it submitted its
request. -/
theorem Occasion.given_info {backend : Backend W} {host : Host W} (fresh : host.Fresh backend)
    {before next crowd : Crowd W} {past since : Chronicle} {task : Task} {timeout : Nat}
    {s : Submitted} (occasion : before.Occasion next task timeout s)
    (lived : Lived { host } before past) (onward : Lived next crowd since) {output : Frame}
    (given : crowd.given? s.caller = some output) : output.info = next.host.desk.output := by
  have whole := (Lived.move lived _ occasion.made).trans onward
  have told := Chronicle.Tells.of_lived fresh whole
  have submits : before.submission? next s.caller = some s := by
    unfold submission?
    rw [occasion.enters, occasion.waits]
    simp only [← occasion.input, ← occasion.output]
  have member : s ∈ ((past.after before next (.steps s.caller)).append since).submitted := by
    rw [Chronicle.after_called rfl, submits]
    exact List.mem_append_left _ (List.mem_append_right _ (List.mem_singleton_self s))
  obtain ⟨call, found, gives⟩ := Option.bind_eq_some_iff.1 given
  obtain ⟨_, s', _, made, own⟩ := told.outputs s.caller call output found gives
  -- Nobody submits twice.
  have same : s' = s := List.inj_on_of_nodup_map told.once made.wasSubmitted member own
  rw [made.info, same, occasion.output]

end Crowd

end Inference
