/-
An operation is a function call.

Nobody but the worker comes between the steps of an operation that is the only one in progress.  If
its caller never loses patience it leads where the engine without a worker goes at once, whatever
the operation is: `brings_perform`, which puts together what a refused, an inferring, a copying, a
shaping and a closing call lead to.
-/
import Inference.Proofs.Engine.Unattended

namespace Inference

variable {W α : Type} {last : Nat} {live : List Nat} {direct after : Direct W}

/-! ### Operations -/

/-- An operation after which nobody waits for a limited time. -/
def Operation.Patient : Operation → Prop
  | setTimeout milliseconds => milliseconds = 0
  | infer _ (some milliseconds) => milliseconds = 0
  | write key value =>
    ∀ milliseconds, key = "timeout" → readTimeout value = .ok milliseconds → milliseconds = 0
  | _ => True

theorem Call.hand_of_owner {task : Task} {output : Frame} (owner : output.owner ≠ .engine) :
    hand task output = match task.target with
      | some target =>
        dropping output (copyFrom output 0 target output.count).1
          (copyFrom output 0 target output.count).2
      | none =>
        if task.reshape.isSome then ended (.done (.shaped output output.info)) none
        else ended (.done (.frame output)) none := by
  cases target : task.target <;> simp only [hand, if_neg owner, target]

namespace Direct

theorem kin_of_infer_map {input : Frame} {outcome : Outcome Fault Frame}
    (made : ((direct.infer input).map fun (result, direct) => (Outcome.ofExcept result, direct))
      = .ok (outcome, after)) :
    direct.Kin after ∧ ∀ output, outcome = .done output → output.owner ≠ .engine := by
  obtain ⟨⟨produced, ended⟩, made, same⟩ := exists_of_map_eq_ok made
  cases same
  refine ⟨.infer made, fun output done => ?_⟩
  cases produced with
  | error fault => cases done
  | ok frame =>
      cases done
      exact owner_of_infer made

theorem kin_of_inferShaped {input : Frame} {info : Descriptor}
    {outcome : Outcome Fault Frame}
    (made : direct.inferShaped input info = .ok (outcome, after)) :
    direct.Kin after ∧ ∀ output, outcome = .done output → output.owner ≠ .engine := by
  have reshapes := Kin.reshape direct info
  unfold inferShaped at made
  split at made
  · exact kin_of_infer_map made
  split at made
  · rename_i shaped
    rw [shaped] at reshapes
    obtain ⟨kin, owner⟩ := kin_of_infer_map made
    exact ⟨reshapes.trans kin, owner⟩
  · rename_i shaped
    rw [shaped] at reshapes
    cases made
    refine ⟨reshapes, ?_⟩
    rintro _ ⟨⟩
  · rename_i shaped
    rw [shaped] at reshapes
    cases made
    refine ⟨reshapes, ?_⟩
    rintro _ ⟨⟩

/-- Whoever is patient stays patient. -/
theorem timeout_of_carryOut (patient : direct.timeout = 0) {operation : Operation}
    (quick : operation.Patient) {answer : Answer}
    (made : direct.carryOut operation = .ok (answer, after)) : after.timeout = 0 := by
  cases operation with
  | setTimeout milliseconds =>
      cases made
      exact quick
  | read key =>
      cases made
      exact (Kin.read direct key).timeout.trans patient
  | write key value =>
      cases made
      rcases Kin.write direct key value with kin | ⟨timeout, own, given, same⟩
      · exact kin.timeout.trans patient
      · rw [same]
        exact quick timeout own given
  | reshape info =>
      cases made
      exact (Kin.reshape direct info).timeout.trans patient
  | infer input timeout =>
      obtain ⟨⟨produced, ended⟩, made, same⟩ := exists_of_map_eq_ok made
      cases same
      exact (Kin.infer made).timeout.trans patient
  | inferInto input target =>
      obtain ⟨⟨reply, copied, ended⟩, made, same⟩ := exists_of_map_eq_ok made
      cases same
      exact (Kin.inferInto made).timeout.trans patient
  | inferShaped input info =>
      obtain ⟨⟨produced, ended⟩, made, same⟩ := exists_of_map_eq_ok made
      cases same
      exact (kin_of_inferShaped made).1.timeout.trans patient
  | close =>
      cases made
      exact (Kin.settle { direct with isOpen := false }).timeout.trans patient
  | _ =>
      cases made
      exact patient

theorem timeout_of_perform (patient : direct.timeout = 0) {operation : Operation}
    (quick : operation.Patient) {answer : Answer}
    (made : direct.perform operation = .ok (answer, after)) : after.timeout = 0 := by
  unfold perform at made
  split at made
  · cases made
    exact patient
  split at made
  · exact timeout_of_carryOut patient quick made
  · cases made
    exact patient

end Direct

namespace Brings

theorem refused (isClosed : direct.isOpen = false) (part : Part) :
    Brings (.ok ((.failed .closedHandle, part.target?), direct)) (.checking part)
      (direct.host last live) := by
  have settled : Brings (.ok ((.failed .closedHandle, part.target?), direct))
      (.ended (.failed .closedHandle) part.target?) (direct.host last live) :=
    ended (.failed .closedHandle, part.target?)
  rw [Direct.host_of_closed isClosed] at settled ⊢
  exact .steps rfl rfl rfl settled

/-- One holding of the desk is all there is to an operation. -/
theorem tells {act : Act W α} {answer : Outcome Fault α × Direct W} {part : Part}
    (does : Act.Does last live act direct answer) (reply : α → Reply)
    (same : part.run = (do return .ended (.done (reply (← act))) none : Act W Call))
    (bare : part.target? = none) (isOpen : answer.2.isOpen = true) :
    Brings (.ok ((answer.1.map reply, none), answer.2)) (.checking part)
      (direct.idle last live) := by
  have ran := does.map fun value => Call.ended (.done (reply value)) none
  have ends : Call.settle none (answer.1.map fun value => Call.ended (.done (reply value)) none)
      = .ended (answer.1.map reply) none := by
    cases answer.1 <;> rfl
  refine holds (by rw [same]; exact ran.same) ran.calm ?_
  rw [bare, ends]
  exact settled isOpen _ _

/-- A task that is answered with its output. -/
theorem infers (calm : direct.backend.Calm) (fits : direct.output.Fits)
    (isOpen : direct.isOpen = true) (input : Frame) :
    Brings ((direct.infer input).map fun (result, direct) =>
        (((Outcome.ofExcept result).map Reply.frame, none), direct))
      (.checking (.submit { input } 0)) (direct.idle last live) := by
  refine submits calm fits rfl
    (fun world stuck => by rw [stuck]; rfl) fun produced after made last => ?_
  have isOpen := (Direct.Kin.infer made).isOpen.trans isOpen
  rw [made]
  cases produced with
  | error fault => exact settled isOpen _ _
  | ok output =>
      show Brings _ (Call.hand { input } output) _
      rw [Call.hand_of_owner (Direct.owner_of_infer made)]
      exact settled isOpen _ _

/-- A task whose output is copied. -/
theorem copies (calm : direct.backend.Calm) (fits : direct.output.Fits)
    (isOpen : direct.isOpen = true) (patient : direct.timeout = 0) (input target : Frame) :
    Brings ((direct.inferInto input target).map fun (answer, target, direct) =>
        ((answer, some target), direct))
      (.checking (.fit { input, target := some target } target)) (direct.idle last live) := by
  have output : (direct.idle last live).desk.output = direct.output := rfl
  unfold Direct.inferInto
  by_cases differs : target.sizes ≠ direct.output.sizes
  · rw [if_pos differs]
    have ran : Part.run (.fit { input, target := some target } target) (direct.idle last live)
        = some (.failed (Part.sizeMismatch "output" "produces" target.sizes direct.output.sizes),
          direct.idle last live) := by
      simp only [Part.run, Act.desk_bind, output, if_pos differs]
      rfl
    exact holds ran (by rintro _ ⟨⟩) (settled isOpen _ _)
  rw [if_neg differs]
  have ran : Part.run (.fit { input, target := some target } target) (direct.idle last live)
      = some (.done (.checking (.learnTimeout { input, target := some target })),
        direct.idle last live) := by
    simp only [Part.run, Act.desk_bind, output, if_neg differs]
    rfl
  refine holds ran (by rintro _ ⟨⟩)
    (learns patient (submits calm fits rfl (fun world stuck => by rw [stuck]; rfl) ?_))
  intro produced after made last
  have kin := Direct.Kin.infer made
  have isOpen := kin.isOpen.trans isOpen
  rw [made]
  cases produced with
  | error fault => exact settled isOpen _ _
  | ok output =>
      show Brings _ (Call.hand { input, target := some target } output) _
      rw [Call.hand_of_owner (Direct.owner_of_infer made)]
      have drops : Act.drop output (after.host last live)
          = some (.done (), (after.drop output).host last live) :=
        Direct.drop_host (kin.backend ▸ calm) output
      rw [Direct.host_of_open isOpen] at drops
      have steps : (Call.dropping output (Call.copyFrom output 0 target output.count).1
          (Call.copyFrom output 0 target output.count).2).step (after.idle last live)
          = some (.ended (Call.copyFrom output 0 target output.count).1
            (some (Call.copyFrom output 0 target output.count).2),
              (after.drop output).host last live) := by
        simp only [Call.step, drops]
        rfl
      exact .steps steps rfl rfl (ended (_, _))

/-- A task that is answered with its output and the shape of it. -/
theorem shapes (calm : direct.backend.Calm) (fits : direct.output.Fits)
    (isOpen : direct.isOpen = true) (patient : direct.timeout = 0) (input : Frame)
    (info : Descriptor) :
    Brings ((direct.inferShaped input info).map fun (result, direct) =>
        ((result.map fun output => Reply.shaped output output.info, none), direct))
      (.checking (.learnTimeout { input, reshape := some info })) (direct.idle last live) := by
  refine learns patient (submits_shaped calm fits rfl (fun world stuck => by rw [stuck]; rfl) ?_)
  intro outcome after made last
  obtain ⟨kin, owner⟩ := Direct.kin_of_inferShaped made
  have isOpen := kin.isOpen.trans isOpen
  rw [made]
  cases outcome with
  | done output =>
      show Brings _ (Call.hand { input, reshape := some info } output) _
      rw [Call.hand_of_owner (owner output rfl)]
      exact settled isOpen _ _
  | _ => exact settled isOpen _ _

/-- Closing an open engine, whose worker has nothing to do. -/
theorem closes (isOpen : direct.isOpen = true) :
    Brings (.ok ((.done .none, none), { direct with isOpen := false }.settle)) (.closing false)
      (direct.host last live) := by
  have clears : (Call.clearing false).step
      { direct.retired last (live.filter (· != direct.id)) with
        engine := { (direct.retired last (live.filter (· != direct.id))).engine with
          desk := { (direct.retired last (live.filter (· != direct.id))).desk with
            attached := true } } }
      = some (.ended (.done .none) none,
          (Direct.settle { direct with isOpen := false }).host last
            (live.filter (· != direct.id))) := by
    rw [← Direct.settle_host, Direct.host_of_closed rfl]
    rfl
  rw [Direct.host_of_open isOpen]
  -- The handle is closed, the worker asked to leave, and gone; then the backend is let go.
  refine .steps rfl rfl rfl (.steps rfl rfl ?_ (.works rfl rfl rfl rfl (.steps rfl rfl rfl
    (.steps clears rfl rfl (ended (.done .none, none))))))
  rfl

end Brings

namespace Operation

theorem guarded_of_usable {info : Descriptor} (usable : (match info.validate with
      | .error fault => some fault
      | .ok () => none) = none) (part : Part) : guarded info part = .checking part := by
  unfold guarded
  revert usable
  cases info.validate with
  | error fault => rintro ⟨⟩
  | ok => exact fun _ => rfl

theorem call_of_unusable {operation : Operation} {fault : Fault}
    (unusable : operation.unusable? = some fault) :
    operation.call = .ended (.failed fault) none := by
  cases operation with
  | reshape info | inferShaped _ info =>
      revert unusable
      simp only [unusable?, call, guarded]
      cases info.validate with
      | error fault =>
          rintro ⟨⟩
          rfl
      | ok => rintro ⟨⟩
  | _ => cases unusable

theorem call_of_usable {operation : Operation} (usable : operation.unusable? = none)
    (other : operation ≠ .close) :
    ∃ part, operation.call = .checking part ∧ part.target? = operation.target? := by
  cases operation with
  | reshape info => exact ⟨_, guarded_of_usable usable _, rfl⟩
  | inferShaped _ info => exact ⟨_, guarded_of_usable usable _, rfl⟩
  | infer _ timeout => cases timeout <;> exact ⟨_, rfl, rfl⟩
  | close => exact absurd rfl other
  | _ => exact ⟨_, rfl, rfl⟩

end Operation

namespace Brings

theorem performs_closed (isClosed : direct.isOpen = false) {operation : Operation}
    (usable : operation.unusable? = none) :
    Brings (.ok ((.failed .closedHandle, operation.target?), direct)) operation.call
      (direct.host last live) := by
  by_cases closes : operation = .close
  · subst closes
    have settled : Brings (.ok ((.failed .closedHandle, none), direct))
        (.ended (.failed .closedHandle) none) (direct.host last live) :=
      ended (.failed .closedHandle, none)
    rw [Direct.host_of_closed isClosed] at settled ⊢
    exact .steps rfl rfl rfl settled
  · obtain ⟨part, call, target⟩ := Operation.call_of_usable usable closes
    rw [call, ← target]
    exact refused isClosed part

theorem performs_open (calm : direct.backend.Calm) (fits : direct.output.Fits)
    (patient : direct.timeout = 0) (isOpen : direct.isOpen = true) {operation : Operation}
    (quick : operation.Patient) (usable : operation.unusable? = none) :
    Brings (direct.carryOut operation) operation.call (direct.host last live) := by
  have idle : direct.host last live = direct.idle last live := Direct.host_of_open isOpen
  cases operation with
  | input =>
      rw [idle]
      exact holds rfl nofun (settled isOpen _ _)
  | output =>
      rw [idle]
      exact holds rfl nofun (settled isOpen _ _)
  | timeout =>
      rw [idle]
      exact holds rfl nofun (settled isOpen _ _)
  | setTimeout milliseconds =>
      rw [idle]
      have isOpen : Direct.isOpen { direct with timeout := milliseconds } = true := isOpen
      exact holds rfl nofun (settled isOpen (.done .none) none)
  | read key =>
      rw [idle]
      exact tells (does_readProperty calm key) .text rfl rfl
        ((Direct.Kin.read direct key).isOpen.trans isOpen)
  | write key value =>
      rw [idle]
      refine tells (does_writeProperty calm key value) (fun () => .none) rfl rfl ?_
      rcases Direct.Kin.write direct key value with kin | ⟨timeout, -, -, same⟩
      · exact kin.isOpen.trans isOpen
      · rw [same]
        exact isOpen
  | reshape info =>
      rw [idle, Operation.call, Operation.guarded_of_usable usable]
      exact tells (does_renegotiate calm info) (fun () => .none) rfl rfl
        ((Direct.Kin.reshape direct info).isOpen.trans isOpen)
  | infer input timeout =>
      rw [idle]
      cases timeout with
      | none => exact learns patient (infers calm fits isOpen input)
      | some milliseconds =>
          cases quick
          exact infers calm fits isOpen input
  | inferInto input target =>
      rw [idle]
      exact copies calm fits isOpen patient input target
  | inferShaped input info =>
      rw [idle, Operation.call, Operation.guarded_of_usable usable]
      exact shapes calm fits isOpen patient input info
  | close => exact closes isOpen

end Brings

/-- An operation leads where the engine without a worker goes at once. -/
theorem brings_perform (calm : direct.backend.Calm) (fits : direct.output.Fits)
    (patient : direct.timeout = 0) {operation : Operation} (quick : operation.Patient) :
    Brings (direct.perform operation) operation.call (direct.host last live) := by
  unfold Direct.perform
  cases unusable : operation.unusable? with
  | some fault =>
      rw [Operation.call_of_unusable unusable]
      exact .ended (.failed fault, none)
  | none =>
      simp only
      cases isOpen : direct.isOpen with
      | false =>
          rw [if_neg nofun]
          exact .performs_closed isOpen unusable
      | true =>
          rw [if_pos rfl]
          exact .performs_open calm fits patient isOpen quick unusable

end Inference
