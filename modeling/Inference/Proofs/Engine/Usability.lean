/-
Descriptors that can be used.

An engine begins with descriptors that were checked.  They are changed by callers, which bring
another input or edit the one there is, and by the backend, which answers with an output of its
own.  What a caller brings is checked before its call begins, what an edit leaves as soon as it is
made, and what the backend answers before it is taken over (`renegotiate_keeps_usable`).  So both
descriptors can be used at any moment, and so can every output that was agreed for a request,
whatever the backend answers (`Crowd.Lived.careful`, `Crowd.Lived.agreed_usable`).

Nothing is checked when tensors are named, so calls that do so are left out here.
-/
import Inference.Proofs.Engine.Contract
import Inference.Proofs.Engine.Provenance

namespace Inference

variable {W α β : Type}

/-! ### Work that keeps what holds of the desk -/

namespace Act

/-- What holds of the desk before the work still holds afterwards. -/
def Keeps (act : Act W α) (P : Desk → Prop) : Prop :=
  ∀ host outcome after, act host = some (outcome, after) → P host.desk → P after.desk

variable {P : Desk → Prop}

theorem pure_keeps (value : α) : (pure value : Act W α).Keeps P := by
  intro host outcome after h holds
  cases h
  exact holds

theorem fail_keeps (fault : Fault) : (fail fault : Act W α).Keeps P := by
  intro host outcome after h holds
  cases h
  exact holds

theorem setDesk_keeps {desk : Desk} (holds : P desk) : (setDesk desk : Act W Unit).Keeps P := by
  intro host outcome after h _
  cases h
  exact holds

theorem useBackend_keeps (use : Backend W → W → Outcome Fault α × W) :
    (useBackend use).Keeps P := by
  intro host outcome after h holds
  obtain ⟨fault, -, rfl⟩ | ⟨-, world, -, ⟨-, rfl⟩ | ⟨message, -, rfl⟩⟩ := useBackend_cases h
  · exact holds
  · exact holds
  · exact holds

theorem bind_keeps {act : Act W α} {next : α → Act W β} (first : act.Keeps P)
    (rest : ∀ value, (next value).Keeps P) : (act >>= next).Keeps P := by
  intro host outcome after h holds
  obtain ⟨value, middle, hact, hrest⟩ | ⟨fault, hact, -⟩ | ⟨message, hact, -⟩ := bind_cases h
  · exact rest value middle outcome after hrest (first host _ middle hact holds)
  · exact first host _ after hact holds
  · exact first host _ after hact holds

theorem desk_keeps {next : Desk → Act W β} (rest : ∀ desk, P desk → (next desk).Keeps P) :
    (desk >>= next).Keeps P := by
  intro host outcome after h holds
  exact rest host.desk holds host outcome after h holds

end Act

/-! ### Descriptors that were checked -/

/-- Both descriptors can be used. -/
structure Desk.Usable (desk : Desk) : Prop where
  input : desk.input.validate = .ok ()
  output : desk.output.validate = .ok ()

theorem Host.SameTerms.usable {host after : Host W} (same : host.SameTerms after)
    (h : host.desk.Usable) : after.desk.Usable where
  input := by
    rw [same.input]
    exact h.input
  output := by
    rw [same.output]
    exact h.output

/-- An engine begins with descriptors that can be used. -/
theorem Backend.usable_of_opened {backend : Backend W} {id : Nat} {options : Options}
    {framework : Framework} {world : W} {live : List Nat} {host : Host W}
    (h : backend.openAs id options framework world live = .opened host) : host.desk.Usable := by
  obtain ⟨_, _, _, agreed, rfl⟩ := opened_cases h
  obtain ⟨-, -, -, input, output⟩ := agreeShapes_done agreed
  exact ⟨input, output⟩

/-- The backend's output is checked before it is taken over, together with an input that was. -/
theorem renegotiate_keeps_usable {info : Descriptor} (valid : info.validate = .ok ()) :
    (renegotiate info : Act W Unit).Keeps Desk.Usable := by
  intro host outcome after h usable
  cases renegotiate_cases h with
  | renamed => exact ⟨valid, usable.output⟩
  | reshaped _ _ _ _ checked => exact ⟨valid, checked⟩
  | _ => exact usable

theorem editInput_keeps_usable (edited : Descriptor.Edited Unit) :
    (editInput edited : Act W Unit).Keeps Desk.Usable := by
  intro host outcome after h usable
  obtain ⟨_, -, rfl⟩ | ⟨-, valid, h⟩ := editInput_cases h
  · exact usable
  · exact renegotiate_keeps_usable valid host outcome after h usable

theorem readProperty_keeps (key : String) (P : Desk → Prop) :
    (Act.readProperty key : Act W String).Keeps P := by
  intro host outcome after h holds
  obtain ⟨-, rfl⟩ | ⟨-, -, h⟩ := readProperty_cases h
  · exact holds
  · exact Act.useBackend_keeps _ host outcome after h holds

theorem writeProperty_keeps_usable {key : String} (plain : isNameKey key = false)
    (value : String) : (Act.writeProperty key value : Act W Unit).Keeps Desk.Usable := by
  intro host outcome after h usable
  simp only [isNameKey, Bool.or_eq_false_iff, beq_eq_false_iff_ne] at plain
  cases writeProperty_cases h with
  | refused => exact usable
  | edited _ ran => exact editInput_keeps_usable _ host outcome after ran usable
  | inputNames _ name => exact absurd name plain.1
  | outputNames _ name => exact absurd name plain.2
  | timeout => exact ⟨usable.input, usable.output⟩
  | foreign _ _ asked => exact Act.useBackend_keeps _ host outcome after asked usable

/-! ### Parts of calls -/

namespace Part

/-- The input that a part brings along. -/
def info? : Part → Option Descriptor
  | reshape info => some info
  | part => part.task?.bind Task.reshape

theorem submitTask_keeps_usable {task : Task}
    (checked : ∀ info, task.reshape = some info → info.validate = .ok ()) (timeout : Nat) :
    (submitTask task timeout : Act W Call).Keeps Desk.Usable := by
  intro host outcome after h usable
  obtain ⟨-, h⟩ | ⟨info, reshape, -, reshaped⟩ := submitTask_cases h
  · exact (submitFitting_sameTerms h).usable usable
  have keeps {ending : Outcome Fault Unit} {left : Host W}
      (h : renegotiate info host = some (ending, left)) : left.desk.Usable :=
    renegotiate_keeps_usable (checked info reshape) host ending left h usable
  obtain ⟨middle, hshape, h⟩ | ⟨_, -, hshape⟩ | ⟨_, -, hshape⟩ := reshaped
  · exact (submitFitting_sameTerms h).usable (keeps hshape)
  · exact keeps hshape
  · exact keeps hshape

/-- No part of a call spoils the descriptors, unless it names tensors or brings along an input that
was not checked. -/
theorem run_keeps_usable {part : Part} (plain : part.renames = false)
    (checked : ∀ info, part.info? = some info → info.validate = .ok ()) :
    (part.run : Act W Call).Keeps Desk.Usable := by
  cases part with
  | readProperty key =>
      exact Act.bind_keeps (readProperty_keeps key _) fun _ => Act.pure_keeps _
  | writeProperty key value =>
      exact Act.bind_keeps (writeProperty_keeps_usable plain value) fun _ => Act.pure_keeps _
  | reshape info =>
      exact Act.bind_keeps (renegotiate_keeps_usable (checked info rfl)) fun _ => Act.pure_keeps _
  | submit task timeout => exact submitTask_keeps_usable checked timeout
  | writeTimeout milliseconds =>
      apply Act.desk_keeps
      intro desk usable
      exact Act.bind_keeps (Act.setDesk_keeps ⟨usable.input, usable.output⟩)
        fun _ => Act.pure_keeps _
  | fit task target =>
      apply Act.desk_keeps
      intro desk _
      by_cases differ : target.sizes ≠ desk.output.sizes
      · rw [if_pos differ]
        exact Act.bind_keeps (Act.fail_keeps _) fun _ => Act.pure_keeps _
      · rw [if_neg differ]
        exact Act.bind_keeps (Act.pure_keeps _) fun _ => Act.pure_keeps _
  | _ =>
      apply Act.desk_keeps
      intro desk _
      exact Act.pure_keeps _

end Part

/-! ### Calls that do no harm -/

/-- The input that a call still brings along. -/
def Call.info? : Call → Option Descriptor
  | checking part | entering part => part.info?
  | _ => none

theorem Part.info?_of_run {part : Part} {host after : Host W} {next : Call} {info : Descriptor}
    (h : part.run host = some (.done next, after)) (brings : next.info? = some info) :
    part.info? = some info := by
  cases part with
  | readProperty key =>
      obtain ⟨value, rfl⟩ := done_of_map h
      cases brings
  | writeProperty key value =>
      obtain ⟨⟨⟩, rfl⟩ := done_of_map h
      cases brings
  | reshape info =>
      obtain ⟨⟨⟩, rfl⟩ := done_of_map h
      cases brings
  | fit task target =>
      simp only [run, Act.desk_bind] at h
      split at h <;> cases h
      exact brings
  | learnTimeout task =>
      cases h
      exact brings
  | submit task timeout =>
      cases submitTask_submission h
      cases brings
  | _ =>
      cases h
      cases brings

namespace Call

theorem info?_of_goes {call next : Call} {host after : Host W} {info : Descriptor}
    (goes : call.Goes host next after) (brings : next.info? = some info) :
    call.info? = some info := by
  cases call with
  | checking part =>
      have h := goes.step rfl
      simp only [step] at h
      split at h <;> cases h
      · exact brings
      · cases brings
  | entering part =>
      rcases entering_cases (goes.step rfl) with ⟨-, rfl, -⟩ | ⟨-, outcome, middle, ran, rfl, -⟩
      · cases brings
      · cases outcome with
        | done call => exact Part.info?_of_run ran brings
        | failed fault => cases brings
        | crashed message => cases brings
  | awaiting task timeout ticket =>
      cases goes.callStep with
      | received =>
          rcases receive_cases task _ with ⟨_, _, _, same⟩ | ⟨_, _, same⟩
          · rw [same] at brings
            cases brings
          · rw [same] at brings
            cases brings
      | lockedOut => cases brings
      | deserted => cases brings
  | ended => cases goes.callStep
  | _ => cases goes.callStep <;> cases brings

/-- A call that names no tensors, and brings along no input that was not checked. -/
structure Careful (call : Call) : Prop where
  plain : call.renames = false
  checked : ∀ info, call.info? = some info → info.validate = .ok ()

theorem Careful.goes {call next : Call} {host after : Host W} (h : call.Careful)
    (goes : call.Goes host next after) : next.Careful where
  plain := plain_of_goes h.plain goes
  checked info brings := h.checked info (info?_of_goes goes brings)

end Call

theorem Operation.careful_call {operation : Operation} (plain : operation.renames = false) :
    operation.call.Careful := by
  have guarded {info : Descriptor} {part : Part} (own : part.info? = some info)
      (other : Descriptor) (brings : (Operation.guarded info part).info? = some other) :
      other.validate = .ok () := by
    unfold Operation.guarded at brings
    split at brings
    · cases brings
    · rename_i valid
      cases own.symm.trans brings
      exact valid
  refine ⟨renames_call plain, ?_⟩
  cases operation with
  | reshape info => exact guarded rfl
  | inferShaped frame info => exact guarded rfl
  | infer frame timeout => cases timeout <;> exact nofun
  | _ => exact nofun

namespace Crowd

variable {crowd next : Crowd W}

/-- An engine with usable descriptors, on which there are only such calls. -/
structure Careful (crowd : Crowd W) : Prop where
  orderly : crowd.Orderly
  calls : ∀ (caller : Nat) (call : Call), crowd.calls[caller]? = some call → call.Careful
  usable : crowd.host.desk.Usable

/-- No move spoils the descriptors. -/
theorem Careful.after (h : crowd.Careful) {move : Move}
    (plain : ∀ operation, move = .begins operation → operation.renames = false)
    (made : crowd.after? move = some next) : next.Careful where
  orderly := h.orderly.moved (moved_of_after? made)
  calls := (turn_of_after? made).all (fun operation begins =>
    Operation.careful_call (plain operation begins)) ⟨rfl, nofun⟩ Call.Careful.goes h.calls
  usable := by
    rcases h.orderly.sameTerms_or_enters made with
      same | ⟨caller, part, call, host, -, found, step, rfl⟩
    · exact same.usable h.usable
    have careful := h.calls caller _ found
    rcases Call.entering_cases step with ⟨-, -, rfl⟩ | ⟨-, outcome, middle, ran, -, ending⟩
    · exact h.usable
    have usable : middle.desk.Usable :=
      Part.run_keeps_usable careful.plain careful.checked _ _ _ ran h.usable
    rcases ending with ⟨-, rfl⟩ | ⟨message, -, rfl⟩
    · exact usable
    · exact usable

/-- The descriptors can be used at any moment, as long as nobody names tensors. -/
theorem Lived.careful {backend : Backend W} {id : Nat} {options : Options} {framework : Framework}
    {world : W} {live : List Nat} {host : Host W}
    (opened : backend.openAs id options framework world live = .opened host)
    {chronicle : Chronicle} (lived : Lived { host } crowd chronicle)
    (plain : ∀ operation ∈ chronicle.begun, operation.renames = false) : crowd.Careful := by
  induction lived with
  | start =>
      exact {
        orderly := .of_reachable (Backend.fresh_of_opened opened) .refl
        calls := by simp
        usable := Backend.usable_of_opened opened }
  | @move crowd next chronicle before move made ih =>
      rw [Chronicle.begun_after] at plain
      refine (ih fun operation member => ?_).after ?_ made
      · exact plain operation (List.mem_append_left _ member)
      · rintro operation rfl
        exact plain operation (List.mem_append_right _ (List.mem_singleton_self _))

/-- So can the output that was agreed for a request. -/
theorem Lived.agreed_usable {backend : Backend W} {id : Nat} {options : Options}
    {framework : Framework} {world : W} {live : List Nat} {host : Host W}
    (opened : backend.openAs id options framework world live = .opened host)
    {chronicle : Chronicle} (lived : Lived { host } crowd chronicle)
    (plain : ∀ operation ∈ chronicle.begun, operation.renames = false) {s : Submitted}
    (member : s ∈ chronicle.submitted) : s.output.validate = .ok () := by
  obtain ⟨before, next, past, since, task, timeout, earlier, occasion, -, rfl⟩ :=
    lived.occasion member
  -- At that moment the output was one of the two descriptors of the engine.
  have careful : next.Careful := by
    refine Lived.careful opened (.move earlier _ occasion.made) fun operation member => ?_
    exact plain operation (List.mem_append_left _ member)
  rw [occasion.output]
  exact careful.usable.output

end Crowd

/-! ### Outputs -/

theorem Frame.ofRegions_eq_ok {info : Descriptor} {regions : List Bytes}
    (valid : info.validate = .ok ()) (fit : checkRegions info regions = .ok ()) :
    ofRegions info regions = .ok { info, regions := regions.map some } := by
  unfold ofRegions
  rw [valid, fit]
  rfl

/-- A good pass leaves the worker with its output, if the descriptor that was agreed for it can be
used. -/
theorem Host.stepWorker_of_good {host : Host W} {request : Request} {outputs : List Bytes}
    {lending : Bool} {ran : Ran} (inside : host.engine.worker = .inPass request outputs lending)
    (ends : host.pass? = some ran) (valid : request.output.validate = .ok ())
    (good : ran.pass.failure? request.output = none) : ∃ after frame,
      host.stepWorker = some after ∧ after.engine.worker = .returning request (.ok frame)
        ∧ frame.info = request.output ∧ frame.regions = ran.pass.outputs.map some := by
  obtain ⟨-, -, world, step⟩ := Crowd.stepWorker_of_pass inside ends
  rw [step]
  unfold endPass
  rw [good]
  cases lending with
  | true => exact ⟨_, _, rfl, rfl, rfl, rfl⟩
  | false =>
      have made := Frame.ofRegions_eq_ok valid (Pass.checkRegions_of_good good)
      simp only [made]
      exact ⟨_, _, rfl, rfl, rfl, rfl⟩

namespace Crowd

/-- Whatever descriptors a backend answers with, those of an engine can be used at any moment, as
long as nobody names tensors.  So the worker never refuses the regions of a good pass, and every
output that a call returns has a descriptor that can be used and is all there. -/
theorem descriptors_stay_usable {backend : Backend W} {id : Nat} {options : Options}
    {framework : Framework} {world : W} {live : List Nat} {host : Host W}
    (opened : backend.openAs id options framework world live = .opened host) {crowd : Crowd W}
    {chronicle : Chronicle} (lived : Lived { host } crowd chronicle)
    (plain : ∀ operation ∈ chronicle.begun, operation.renames = false) :
    crowd.host.desk.Usable
      ∧ (∀ request outputs lending, crowd.host.engine.worker = .inPass request outputs lending →
        (∀ regions, Frame.checkRegions request.output regions = .ok () →
          ∃ frame, Frame.ofRegions request.output regions = .ok frame)
        ∧ ∀ ran, crowd.host.pass? = some ran → ran.pass.failure? request.output = none →
          ∃ next frame, crowd.after? .works = some next
            ∧ next.host.engine.worker = .returning request (.ok frame)
            ∧ frame.info = request.output ∧ frame.regions = ran.pass.outputs.map some)
      ∧ ∀ caller output, crowd.given? caller = some output →
        output.info.validate = .ok () ∧ output.Full := by
  have fresh := Backend.fresh_of_opened opened
  have told := Chronicle.Tells.of_lived fresh lived
  refine ⟨(Lived.careful opened lived plain).usable, ?_, ?_⟩
  · intro request outputs lending inside
    have ahead : crowd.host.engine.worker.ahead? = some request := by
      rw [inside]
      rfl
    obtain ⟨⟨s, member, -, agreed, -⟩, -⟩ := told.follows.ahead request (.inr ahead)
    have valid : request.output.validate = .ok () := by
      rw [← agreed]
      exact Lived.agreed_usable opened lived plain member
    constructor
    · intro regions fit
      exact ⟨_, Frame.ofRegions_eq_ok valid fit⟩
    · intro ran ends good
      obtain ⟨after, frame, step, returns, made⟩ :=
        Host.stepWorker_of_good inside ends valid good
      refine ⟨{ crowd with host := after }, frame, ?_, returns, made⟩
      show crowd.host.stepWorker.map _ = _
      rw [step]
      rfl
  · intro caller output given
    refine ⟨?_, lived.given_full fresh given⟩
    obtain ⟨call, found, gives⟩ := Option.bind_eq_some_iff.1 given
    obtain ⟨_, s, _, made, -⟩ := told.outputs caller call output found gives
    rw [made.info]
    exact Lived.agreed_usable opened lived plain made.wasSubmitted

end Crowd

namespace CustomModel

/-- A caller asks for two bytes, for which the model has no usable output, and another one runs a
pass. -/
def shapelessAnswer : List Move :=
  reshapes 0 twoBytes ++ .begins (.infer (byteTask 7).input none) :: List.replicate 4 (.steps 1)
    ++ List.replicate 4 .works ++ [.steps 1]

end CustomModel

namespace Crowd

open CustomModel in
/-- The model has answered with a descriptor that is of no use.  Those of its engine can still be
used, and the byte of the next caller comes back in a frame that is all there. -/
theorem usable_after_shapeless_answer : ∃ (crowd : Crowd (Unit × List Question)) (output : Frame),
    Reachable { host := vagueEngine } crowd
      ∧ .adopt twoBytes (.done {}) ∈ crowd.host.world.2 ∧ crowd.host.desk.Usable
      ∧ crowd.given? 1 = some output ∧ output.info.validate = .ok () ∧ output.Full := by
  have run : (Crowd.afterAll? { host := vagueEngine } shapelessAnswer).any (fun crowd =>
      decide (.adopt twoBytes (.done {}) ∈ crowd.host.world.2) && (crowd.given? 1).isSome)
      = true := by
    decide +kernel
  obtain ⟨crowd, reached, seen⟩ := (Option.any_eq_true _ _).1 run
  obtain ⟨asked, given⟩ := (Bool.and_eq_true _ _).mp seen
  obtain ⟨output, given⟩ := Option.isSome_iff_exists.1 given
  obtain ⟨chronicle, lived, begun⟩ := Lived.run .start reached
  have plain : ∀ operation ∈ chronicle.begun, operation.renames = false := by
    rw [begun]
    intro operation member
    simp [shapelessAnswer, reshapes, Move.begun?] at member
    rcases member with rfl | rfl
    · rfl
    · rfl
  obtain ⟨usable, -, outputs⟩ := descriptors_stay_usable vague_opened lived plain
  exact ⟨crowd, output, lived.reachable, of_decide_eq_true asked, usable, given,
    outputs 1 output given⟩

end Crowd

end Inference
