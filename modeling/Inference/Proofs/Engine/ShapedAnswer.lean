/-
The answer to an input that brings its own shape.

A caller may bring an input of another shape than the engine has.  Its call gives the engine that
shape and submits its request in a single step, in which it holds the lock.  Others may give the
engine other shapes and names before that step and after it, even while the pass is still to come
or the call is still to pick up its outcome.  What the call is answered goes by what was agreed in
that step, and by nothing else.  `Call.Shapes` lists the places at which such a call can be, and
`Call.Shapes.goes` is its step from one to the next.
-/
import Inference.Proofs.Engine.Contract
import Inference.Proofs.Engine.Filling
import Inference.Proofs.Engine.Provenance
import Inference.Proofs.Tensor.Agreement

namespace Inference

variable {W : Type}

/-! ### The course of such a call -/

theorem Part.task?_of_run {part : Part} {task : Task} (about : part.task? = some task)
    {host after : Host W} {next : Call} (h : part.run host = some (.done next, after)) :
    next.task? = some task := by
  cases part with
  | fit task' target =>
      simp only [run, Act.desk_bind] at h
      split at h <;> cases h
      exact about
  | learnTimeout task' =>
      cases h
      exact about
  | submit task' timeout =>
      cases submitTask_submission h
      exact about
  | _ => cases about

namespace Call

/-- Where a call stands that brings an input with its shape. -/
inductive Shapes (task : Task) : Call → Prop where
  | goesOn {call : Call} (about : call.task? = some task) : Shapes task call
  | failed {answer : Outcome Fault Reply} {target : Option Frame}
      (failing : ∀ reply, answer ≠ .done reply) : Shapes task (.ended answer target)
  /-- The output is given with its own descriptor. -/
  | answered (output : Frame) : Shapes task (.ended (.done (.shaped output output.info)) none)

theorem Shapes.of_failed (task : Task) (fault : Fault) (target : Option Frame) :
    (ended (.failed fault) target).Shapes task := .failed (by simp)

theorem Shapes.of_crashed (task : Task) (message : String) (target : Option Frame) :
    (ended (.crashed message) target).Shapes task := .failed (by simp)

/-- Every step of such a call is to another of these places. -/
theorem Shapes.goes {call next : Call} {task : Task} (shaped : task.reshape.isSome = true)
    (plain : task.target = none) (h : call.Shapes task) {host after : Host W}
    (goes : call.Goes host next after) : next.Shapes task := by
  cases h with
  | goesOn about =>
      cases call with
      | checking part =>
          have step := goes.step rfl
          simp only [Call.step] at step
          split at step <;> cases step
          · exact .goesOn about
          · exact .of_failed _ _ _
      | entering part =>
          rcases entering_cases (goes.step rfl) with ⟨-, rfl, -⟩ | ⟨-, outcome, middle, ran, rfl, -⟩
          · exact .of_failed _ _ _
          · cases outcome with
            | done call => exact .goesOn (Part.task?_of_run about ran)
            | failed fault => exact .of_failed _ _ _
            | crashed message => exact .of_crashed _ _ _
      | awaiting task' timeout ticket =>
          cases about
          cases goes.callStep with
          | lockedOut => exact .of_failed _ _ _
          | deserted => exact .of_failed _ _ _
          | @received _ _ _ _ _ result =>
              cases result with
              | error fault => exact .of_failed _ _ _
              | ok output =>
                  -- There is no frame to copy into, and a shape was asked for.
                  simp only [receive, hand, plain, shaped, if_true]
                  exact .answered _
      | _ => cases about
  | failed => cases goes.callStep
  | answered => cases goes.callStep

end Call

namespace Crowd

variable {crowd : Crowd W} {chronicle : Chronicle}

theorem Lived.shapes {backend : Backend W} {host : Host W} (fresh : host.Fresh backend)
    (lived : Lived { host } crowd chronicle) {caller : Nat} {input : Frame} {info : Descriptor}
    (begun : chronicle.begun[caller]? = some (.inferShaped input info)) :
    ∃ call, crowd.calls[caller]? = some call ∧ call.Shapes { input, reshape := some info } := by
  have course := Lived.course
    (Q := fun _ _ operation call => ∀ input info, operation = .inferShaped input info →
      call.Shapes { input, reshape := some info })
    fresh ?_ ?_ ?_ lived begun
  · obtain ⟨call, found, shapes⟩ := course
    exact ⟨call, found, shapes input info rfl⟩
  · rintro _ _ _ input info rfl
    simp only [Operation.call, Operation.guarded]
    split
    · exact .of_failed _ _ _
    · exact .goesOn rfl
  · intro _ _ _ _ _ _ holds
    exact holds
  · intro _ _ _ _ _ _ _ _ _ holds goes input info same
    exact (holds input info same).goes rfl rfl goes

theorem Lived.shaped_reply {backend : Backend W} {host : Host W} (fresh : host.Fresh backend)
    (lived : Lived { host } crowd chronicle) {caller : Nat} {input : Frame} {info : Descriptor}
    (begun : chronicle.begun[caller]? = some (.inferShaped input info)) {reply : Reply}
    {target : Option Frame} (ended : crowd.calls[caller]? = some (.ended (.done reply) target)) :
    ∃ output, reply = .shaped output output.info := by
  obtain ⟨call, found, shapes⟩ := lived.shapes fresh begun
  cases ended.symm.trans found
  cases shapes with
  | goesOn about => cases about
  | failed failing => exact absurd rfl (failing reply)
  | answered output => exact ⟨output, rfl⟩

/-- What a caller submits is the task of the operation that it began. -/
theorem Occasion.task {backend : Backend W} {host : Host W} (fresh : host.Fresh backend)
    {before next : Crowd W} {past : Chronicle} {task : Task} {timeout : Nat} {s : Submitted}
    (lived : Lived { host } before past) (occasion : before.Occasion next task timeout s)
    {later : List Operation} {operation : Operation}
    (begun : (past.begun ++ later)[s.caller]? = some operation) :
    operation.call.task? = some task := by
  have told := Chronicle.Tells.of_lived fresh lived
  obtain ⟨earlier, began, -⟩ := told.asked s.caller _ task occasion.enters rfl
  rw [List.getElem?_append_left (List.getElem?_eq_some_iff.1 began).1] at begun
  cases began.symm.trans begun
  exact lived.task fresh began occasion.enters rfl

/-- A call that is answered with an output and a descriptor has given the engine its shape and
submitted its request in one step, in which it held the lock, whatever others did before and since.
The descriptor is the output that was agreed in that step, names included.  The output is what a
pass made that was given the caller's own bytes, and it is all there. -/
theorem shaped_answer_agreed_at_submission {backend : Backend W} {id : Nat} {options : Options}
    {framework : Framework} {world : W} {live : List Nat} {host : Host W}
    (opened : backend.openAs id options framework world live = .opened host)
    (lived : Lived { host } crowd chronicle) {caller : Nat} {input : Frame} {info : Descriptor}
    (begun : chronicle.begun[caller]? = some (.inferShaped input info)) {reply : Reply}
    {target : Option Frame} (ended : crowd.calls[caller]? = some (.ended (.done reply) target)) :
    ∃ output out, reply = .shaped output out ∧ output.info = out ∧ output.Full
      ∧ ∃ before next past since task timeout s ran, Lived { host } before past
        ∧ before.Occasion next task timeout s ∧ Lived next crowd since
        ∧ chronicle = (past.after before next (.steps s.caller)).append since ∧ s.caller = caller
        ∧ next.host.desk.input.agrees info = true ∧ next.host.desk.output = out
        ∧ next.host.desk.request = some {
          ticket := s.ticket, input := input.copyFor .engine, output := out }
        ∧ chronicle.Made s.ticket output s ran ∧ input.allBytes = .ok ran.inputs
        ∧ (input.Regular → ran.inputs.map List.length = info.sizes) := by
  have fresh := Backend.fresh_of_opened opened
  have told := Chronicle.Tells.of_lived fresh lived
  obtain ⟨output, rfl⟩ := lived.shaped_reply fresh begun ended
  have given : crowd.given? caller = some output := by
    unfold given?
    rw [ended]
    rfl
  obtain ⟨ticket, s, ran, made, rfl⟩ := told.outputs caller _ output ended rfl
  have requested := made.requested
  subst requested
  obtain ⟨before, next, past, since, task, timeout, earlier, occasion, onward, whole⟩ :=
    lived.occasion made.wasSubmitted
  -- The task of this very step is the one that the operation began with.
  rw [whole] at begun
  have asked : (Operation.inferShaped input info).call.task? = some task :=
    occasion.task fresh earlier begun
  have task_eq : task = { input, reshape := some info } := by
    simp only [Operation.call, Operation.guarded] at asked
    split at asked <;> cases asked
    rfl
  have agreed := occasion.agreed
  have out : next.host.desk.output = output.info := by
    rw [made.info, occasion.output]
  have brought : s.input = input := by
    rw [occasion.input, task_eq]
  have bytes : input.allBytes = .ok ran.inputs := by
    rw [← brought]
    exact made.inputs
  have shape : next.host.desk.input.agrees info = true := agreed.shape info (by rw [task_eq])
  refine ⟨output, output.info, rfl, rfl, lived.given_full fresh given, before, next, past, since,
    task, timeout, s, ran, earlier, occasion, onward, whole, rfl, shape, out, ?_, made, bytes, ?_⟩
  · rw [agreed.request, out, task_eq]
  · intro regular
    have sizes := agreed.sizes
    rw [task_eq] at sizes
    rw [regular.lengths_of_allBytes bytes, ← Descriptor.sizes_of_agrees shape]
    exact sizes

end Crowd

namespace CustomModel

/-- A frame of three bytes. -/
def threeByteFrame : Frame := { info := threeBytes, regions := [some [1, 2, 3]] }

theorem threeByteFrame_regular : threeByteFrame.Regular :=
  Frame.regular_of_ofRegions
    (rfl : Frame.ofRegions threeBytes [[1, 2, 3]] = .ok threeByteFrame)

/-- A caller brings three bytes with their shape.  Before it submits them another one gives the
engine a single byte, and before it picks up its output a third one gives it two. -/
def reshapedAround : List Move :=
  .begins (.inferShaped threeByteFrame threeBytes) :: List.replicate 3 (.steps 0)
    ++ reshapes 1 echoByte.input ++ .steps 0 :: List.replicate 4 .works
    ++ reshapes 2 twoBytes ++ [.steps 0]

end CustomModel

theorem Call.eq_of_output? {call : Call} {output : Frame} (h : call.output? = some output) :
    ∃ reply target, call = .ended (.done reply) target := by
  unfold output? at h
  split at h
  · exact ⟨_, _, rfl⟩
  · exact ⟨_, _, rfl⟩
  · cases h

namespace Crowd

open CustomModel in
/-- Others have reshaped the engine before the submission and after the pass.  The answer is three
bytes all the same, with the descriptor that was agreed for them. -/
theorem shaped_answer_among_others : ∃ (crowd : Crowd Unit) (chronicle : Chronicle) (output : Frame)
    (s : Submitted) (ran : Ran), Lived { host := elasticEngine } crowd chronicle
      ∧ chronicle.begun[0]? = some (.inferShaped threeByteFrame threeBytes)
      ∧ crowd.host.desk.input = twoBytes ∧ crowd.given? 0 = some output
      ∧ output.info = threeBytes ∧ output.regions = [some [1, 2, 3]]
      ∧ chronicle.Made s.ticket output s ran ∧ ran.inputs.map List.length = [3] := by
  have run : (Crowd.afterAll? { host := elasticEngine } reshapedAround).any (fun crowd =>
      decide (crowd.host.desk.input = twoBytes) && (crowd.given? 0).any fun output =>
        decide (output.info = threeBytes ∧ output.regions = [some [1, 2, 3]])) = true := by
    decide +kernel
  obtain ⟨crowd, reached, seen⟩ := (Option.any_eq_true _ _).1 run
  obtain ⟨input, seen⟩ := (Bool.and_eq_true _ _).mp seen
  obtain ⟨output, given, seen⟩ := (Option.any_eq_true _ _).1 seen
  obtain ⟨info, regions⟩ := of_decide_eq_true seen
  obtain ⟨chronicle, lived, begun⟩ := Lived.run .start reached
  have mine : chronicle.begun[0]? = some (.inferShaped threeByteFrame threeBytes) := by
    rw [begun]
    rfl
  obtain ⟨call, found, gives⟩ := Option.bind_eq_some_iff.1 given
  obtain ⟨reply, target, rfl⟩ := Call.eq_of_output? gives
  obtain ⟨output', out, rfl, -, -, before, next, past, since, task, timeout, s, ran, -, -, -, -, -,
    -, -, -, made, -, sizes⟩ := shaped_answer_agreed_at_submission elastic_opened lived mine found
  cases gives
  exact ⟨crowd, chronicle, output, s, ran, lived, mine, of_decide_eq_true input, given, info,
    regions, made, sizes threeByteFrame_regular⟩

end Crowd

end Inference
