/-
What a refused shape leaves behind.

A call that brings an input with its shape asks the backend for that shape first and looks at the
input afterwards.  So it can be refused after the backend has taken the shape up, and then nothing
takes the shape back: the backend goes by it, and so do the descriptors if the answer of the
backend can be used.  `Host.TakesUp` is the condition for this, and
`Host.TakesUp.submitTask_failed` what the call leaves behind then.  Where it does not hold a call
that is refused has left everything as it was (`Part.submitTask_untaken`).
-/
import Inference.Proofs.Engine.ShapedAnswer

namespace Inference

variable {W : Type}

/-! ### Shapes that are taken up -/

namespace Host

/-- The backend is asked for a shape and takes it up. -/
structure TakesUp (host : Host W) (info output : Descriptor) (world : W) : Prop where
  unpoisoned : host.engine.deskPoisoned = false
  quiet : host.desk.mode ≠ .running
  differs : host.desk.input.agrees info = false
  attached : host.desk.attached = true
  free : host.engine.worker.busy = false
  sound : host.engine.backendPoisoned = false
  adopted : host.engine.backend.adopt info host.world = (.done output, world)

/-- The engine once its backend has taken up a shape.  Its descriptors follow if the output can be
used. -/
def takenUp (host : Host W) (info output : Descriptor) (world : W) : Host W :=
  if output.isValid then
    { host with world }.withDesk { host.desk with input := info, output }
  else { host with world }

end Host

theorem Descriptor.validate_of_useless {d : Descriptor} (h : d.isValid = false) :
    ∃ fault, d.validate = .error fault := by
  cases checked : d.validate with
  | error fault => exact ⟨fault, rfl⟩
  | ok =>
      rw [isValid_iff.2 checked] at h
      cases h

section

variable {host after : Host W} {info output : Descriptor} {world : W} {task : Task} {timeout : Nat}
  {fault : Fault}

namespace Host.TakesUp

theorem renegotiate_eq (h : host.TakesUp info output world) :
    (output.isValid = true →
        renegotiate info host = some (.done (), host.takenUp info output world))
      ∧ (output.isValid = false → ∃ fault,
        renegotiate info host = some (.failed fault, host.takenUp info output world)) := by
  have differs : info.agrees host.desk.input = false := by
    rw [Descriptor.agrees_comm]
    exact h.differs
  constructor
  · intro usable
    rw [takenUp, if_pos usable]
    exact renegotiate_of_quiet h.quiet differs h.attached h.free h.sound h.adopted
      (Descriptor.isValid_iff.1 usable)
  · intro useless
    obtain ⟨fault, refused⟩ := Descriptor.validate_of_useless useless
    have asked : Act.useBackend (fun backend => backend.adopt info) host
        = some (.done output, { host with world }) := by
      simp [Act.useBackend, h.attached, h.free, h.sound, h.adopted]
    refine ⟨.passFailed ("the backend negotiated an unusable output: " ++ fault.message), ?_⟩
    rw [takenUp, if_neg (by simp [useless])]
    simp only [renegotiate, Act.desk_bind, if_neg h.quiet, differs, Bool.false_eq_true, if_false]
    show Act.bind _ _ host = _
    simp only [Act.bind, asked, refused]
    rfl

theorem submitTask_eq (h : host.TakesUp info output world) (asks : task.reshape = some info) :
    Part.submitTask task timeout host
      = (renegotiate info >>= fun _ => Part.submitFitting task timeout) host := by
  rw [Part.submitTask_of_some asks, h.differs]
  rfl

theorem input_takenUp (usable : output.isValid = true) :
    (host.takenUp info output world).desk.input = info := by
  rw [takenUp, if_pos usable]
  rfl

@[simp] theorem mode_takenUp : (host.takenUp info output world).desk.mode = host.desk.mode := by
  unfold takenUp
  split <;> rfl

@[simp] theorem ticket_takenUp :
    (host.takenUp info output world).desk.ticket = host.desk.ticket := by
  unfold takenUp
  split <;> rfl

/-- A call that is refused after its shape was taken up leaves the engine with that shape. -/
theorem submitTask_failed (h : host.TakesUp info output world) (asks : task.reshape = some info)
    (failed : Part.submitTask task timeout host = some (.failed fault, after)) :
    after = host.takenUp info output world
      ∧ (output.isValid = true → task.input.Misfits info ∨ host.desk.mode = .leaving) := by
  rw [h.submitTask_eq asks] at failed
  by_cases usable : output.isValid = true
  · have shaped := h.renegotiate_eq.1 usable
    obtain ⟨⟨⟩, middle, hshape, hsubmit⟩ | ⟨_, hshape, -⟩ | ⟨message, hshape, -⟩ :=
      Act.bind_cases failed
    · cases shaped.symm.trans hshape
      obtain ⟨same, reason⟩ := Part.submitFitting_failed hsubmit
      rw [input_takenUp usable, mode_takenUp] at reason
      refine ⟨same, fun _ => reason.imp_right fun awake => ?_⟩
      cases mode : host.desk.mode with
      | idle => exact absurd mode awake
      | running => exact absurd mode h.quiet
      | leaving => rfl
    · cases shaped.symm.trans hshape
    · cases shaped.symm.trans hshape
  · obtain ⟨fault', shaped⟩ := h.renegotiate_eq.2 (by simpa using usable)
    obtain ⟨⟨⟩, middle, hshape, -⟩ | ⟨_, hshape, -⟩ | ⟨message, hshape, -⟩ :=
      Act.bind_cases failed
    · cases shaped.symm.trans hshape
    · cases shaped.symm.trans hshape
      exact ⟨rfl, fun valid => absurd valid usable⟩
    · cases shaped.symm.trans hshape

/-- A call is refused for every input that does not fit the shape it was brought with, and for any
input while the engine is being closed. -/
theorem submitTask_of_unfit (h : host.TakesUp info output world)
    (asks : task.reshape = some info)
    (unfit : output.isValid = true → task.input.Misfits info ∨ host.desk.mode = .leaving) :
    ∃ fault, Part.submitTask task timeout host
      = some (.failed fault, host.takenUp info output world) := by
  rw [h.submitTask_eq asks]
  show ∃ fault, Act.bind _ _ host = _
  by_cases usable : output.isValid = true
  · have refuses : task.input.Misfits (host.takenUp info output world).desk.input
        ∨ (host.takenUp info output world).desk.mode ≠ .idle := by
      rw [input_takenUp usable, mode_takenUp]
      refine (unfit usable).imp_right fun leaving => ?_
      rw [leaving]
      simp
    obtain ⟨fault, refused⟩ : ∃ fault, Part.submitFitting task timeout
        (host.takenUp info output world) = some (.failed fault, host.takenUp info output world) :=
      Part.submitFitting_of_unfit refuses
    refine ⟨fault, ?_⟩
    simp only [Act.bind, h.renegotiate_eq.1 usable]
    exact refused
  · obtain ⟨fault, shaped⟩ := h.renegotiate_eq.2 (by simpa using usable)
    refine ⟨fault, ?_⟩
    simp only [Act.bind, shaped]

end Host.TakesUp

/-- The backend leaves everything as it is when it refuses a shape. -/
def Backend.Steady (backend : Backend W) : Prop :=
  ∀ info before fault after, backend.adopt info before = (.failed fault, after) → after = before

/-- A shape that is not taken up leaves a steady backend, and with it the engine, as it was. -/
theorem renegotiate_untaken (steady : host.engine.backend.Steady)
    (unpoisoned : host.engine.deskPoisoned = false)
    (differs : host.desk.input.agrees info = false)
    (untaken : ∀ output world, ¬ host.TakesUp info output world) {outcome : Outcome Fault Unit}
    (h : renegotiate info host = some (outcome, after)) :
    (∃ fault, outcome = .failed fault ∧ after = host) ∨ ∃ message, outcome = .crashed message := by
  have takesUp {output : Descriptor} {world : W} (quiet : host.desk.mode ≠ .running)
      (atHand : host.AtHand)
      (adopted : host.engine.backend.adopt info host.world = (.done output, world)) :
      host.TakesUp info output world :=
    ⟨unpoisoned, quiet, differs, atHand.attached, atHand.free, atHand.sound, adopted⟩
  cases renegotiate_cases h with
  | busy | unasked => exact .inl ⟨_, rfl, rfl⟩
  | renamed _ agrees =>
      rw [Descriptor.agrees_comm, differs] at agrees
      cases agrees
  | refused _ _ _ adopted =>
      cases steady info host.world _ _ adopted
      exact .inl ⟨_, rfl, rfl⟩
  | useless quiet _ atHand adopted => exact absurd (takesUp quiet atHand adopted) (untaken _ _)
  | reshaped quiet _ atHand adopted => exact absurd (takesUp quiet atHand adopted) (untaken _ _)
  | crashed => exact .inr ⟨_, rfl⟩

/-- A call that is refused before its shape was taken up leaves the engine as it was. -/
theorem Part.submitTask_untaken (steady : host.engine.backend.Steady)
    (unpoisoned : host.engine.deskPoisoned = false) (asks : task.reshape = some info)
    (untaken : ∀ output world, ¬ host.TakesUp info output world)
    (failed : submitTask task timeout host = some (.failed fault, after)) : after = host := by
  obtain ⟨-, h⟩ | ⟨_, same, differs, reshaped⟩ := submitTask_cases failed
  · exact (submitFitting_failed h).1
  cases asks.symm.trans same
  have unshaped {outcome : Outcome Fault Unit} {middle : Host W}
      (h : renegotiate info host = some (outcome, middle)) :=
    renegotiate_untaken steady unpoisoned differs untaken h
  obtain ⟨middle, hshape, -⟩ | ⟨_, -, hshape⟩ | ⟨message, ⟨⟩, -⟩ := reshaped
  · rcases unshaped hshape with ⟨_, ⟨⟩, -⟩ | ⟨_, ⟨⟩⟩
  · rcases unshaped hshape with ⟨_, -, same⟩ | ⟨_, ⟨⟩⟩
    exact same

end

/-! ### Calls that are refused -/

theorem Crowd.Reachable.backend {backend : Backend W} {host : Host W} (fresh : host.Fresh backend)
    {crowd : Crowd W} (reach : Reachable { host } crowd) :
    crowd.host.engine.backend = backend :=
  reach.keeps (P := fun crowd => crowd.host.engine.backend = backend) fresh.backend
    fun kept moved => moved.backend.trans kept

theorem Part.host_of_run {part : Part} {task : Task} (about : part.task? = some task)
    (other : ∀ timeout, part ≠ .submit task timeout) {host after : Host W}
    {outcome : Outcome Fault Call} (h : part.run host = some (outcome, after)) :
    after = host ∧ ∀ message, outcome ≠ .crashed message := by
  cases part with
  | fit task' target =>
      simp only [run, Act.desk_bind] at h
      split at h <;> cases h <;> simp
  | learnTimeout task' =>
      cases h
      simp
  | submit task' timeout =>
      cases about
      exact absurd rfl (other timeout)
  | _ => cases about

namespace Call

variable {host after : Host W} {task : Task} {timeout : Nat} {call next : Call}

theorem host_of_early_step (about : call.task? = some task) (early : call.isEarly = true)
    (other : ∀ timeout, call ≠ .entering (.submit task timeout))
    (h : call.step host = some (next, after)) : after = host := by
  cases call with
  | checking part =>
      cases h
      rfl
  | entering part =>
      rcases entering_cases h with ⟨-, -, rfl⟩ | ⟨-, outcome, middle, ran, -, ending⟩
      · rfl
      obtain ⟨same, calm⟩ :=
        Part.host_of_run about (fun timeout same => other timeout (by rw [same])) ran
      rcases ending with ⟨-, rfl⟩ | ⟨message, crash, -⟩
      · exact same
      · exact absurd crash (calm message)
  | _ => cases early

/-- A call that is to submit its task is refused by the lock, or by the work under the lock. -/
theorem submitTask_of_refused
    (h : (entering (.submit task timeout)).step host = some (next, after))
    (unsent : next.isEarly = true ∨ ∃ fault target, next = .ended (.failed fault) target) :
    host.engine.deskPoisoned = true ∧ after = host
      ∨ host.engine.deskPoisoned = false
        ∧ ∃ fault, Part.submitTask task timeout host = some (.failed fault, after) := by
  rcases entering_cases h with ⟨poisoned, -, rfl⟩ | ⟨unpoisoned, outcome, middle, ran, rfl, ending⟩
  · exact .inl ⟨poisoned, rfl⟩
  refine .inr ⟨unpoisoned, ?_⟩
  cases outcome with
  | done call =>
      cases Part.submitTask_submission ran
      obtain early | ⟨fault, target, ⟨⟩⟩ := unsent
      cases early
  | failed fault =>
      rcases ending with ⟨-, rfl⟩ | ⟨message, ⟨⟩, -⟩
      exact ⟨fault, ran⟩
  | crashed message =>
      obtain early | ⟨fault, target, ⟨⟩⟩ := unsent
      cases early

end Call

namespace Crowd

/-- A caller is about to submit its request, and the backend is going to take up the shape that it
asks for. -/
structure TakesUp (crowd : Crowd W) (caller : Nat) (info output : Descriptor) (world : W) :
    Prop where
  submits : ∃ task timeout, crowd.calls[caller]? = some (.entering (.submit task timeout))
  takes : crowd.host.TakesUp info output world

/-- As long as a call that brings an input with its shape has not submitted a request, it leaves the
engine as it is, whatever it is refused for, unless the backend takes up the shape.  If the backend
does, the call is refused when the input does not fit the shape, or the answer cannot be used, or
the engine is being closed; and then the engine and its backend are left with the new shape. -/
theorem refused_shape_leaves_engine_unless_taken_up {backend : Backend W} {id : Nat}
    {options : Options} {framework : Framework} {world : W} {live : List Nat} {host : Host W}
    (opened : backend.openAs id options framework world live = .opened host)
    (steady : backend.Steady) {crowd : Crowd W} {chronicle : Chronicle}
    (lived : Lived { host } crowd chronicle) {caller : Nat} {input : Frame} {info : Descriptor}
    (begun : chronicle.begun[caller]? = some (.inferShaped input info)) :
    (∀ frame shape next, crowd.after? (.begins (.inferShaped frame shape)) = some next →
        next.host = crowd.host)
      ∧ (∀ call next after, crowd.calls[caller]? = some call → call.isEarly = true →
        crowd.after? (.steps caller) = some next → next.calls[caller]? = some after →
        (after.isEarly = true ∨ ∃ fault target, after = .ended (.failed fault) target) →
          next.host.desk.ticket = crowd.host.desk.ticket
            ∧ ((∀ output taken, ¬ crowd.TakesUp caller info output taken) → next.host = crowd.host)
            ∧ ∀ output taken, crowd.TakesUp caller info output taken →
              next.host = crowd.host.takenUp info output taken
                ∧ (output.isValid = true → input.Misfits info ∨ crowd.host.desk.mode = .leaving))
      ∧ ∀ output taken, crowd.TakesUp caller info output taken →
        (output.isValid = true → input.Misfits info ∨ crowd.host.desk.mode = .leaving) →
        ∃ next fault,
          crowd.after? (.steps caller) = some next
            ∧ next.calls[caller]? = some (.ended (.failed fault) none)
            ∧ next.host = crowd.host.takenUp info output taken := by
  have fresh := Backend.fresh_of_opened opened
  obtain ⟨call, found, shapes⟩ := lived.shapes fresh begun
  have steady' : crowd.host.engine.backend.Steady := by
    rw [lived.reachable.backend fresh]
    exact steady
  refine ⟨?_, ?_, ?_⟩
  · intro frame shape next made
    cases moved_of_after? made with
    | began => rfl
    | called mover => cases mover
  · intro call' next after found' early made ends unsent
    cases found.symm.trans found'
    obtain ⟨_, found', stepped⟩ := Option.bind_eq_some_iff.1 made
    cases found.symm.trans found'
    obtain ⟨⟨after', host'⟩, step, ⟨⟩⟩ := Option.bind_eq_some_iff.1 stepped
    rw [getElem?_update found, if_pos rfl] at ends
    cases ends
    cases shapes with
    | failed => cases early
    | answered => cases early
    | goesOn about =>
        by_cases submits : ∃ timeout,
            call = .entering (.submit { input, reshape := some info } timeout)
        · obtain ⟨timeout, rfl⟩ := submits
          rcases Call.submitTask_of_refused step unsent with
            ⟨poisoned, rfl⟩ | ⟨unpoisoned, fault, refused⟩
          · refine ⟨rfl, fun _ => rfl, fun output taken takes => ?_⟩
            cases poisoned.symm.trans takes.takes.unpoisoned
          · have here (output : Descriptor) (taken : W)
                (takes : crowd.TakesUp caller info output taken) :
                host' = crowd.host.takenUp info output taken ∧ (output.isValid = true →
                  input.Misfits info ∨ crowd.host.desk.mode = .leaving) :=
              takes.takes.submitTask_failed rfl refused
            have otherwise (untaken : ∀ output taken, ¬ crowd.TakesUp caller info output taken) :
                host' = crowd.host :=
              Part.submitTask_untaken steady' unpoisoned rfl
                (fun output taken takes => untaken output taken ⟨⟨_, timeout, found⟩, takes⟩)
                refused
            refine ⟨?_, otherwise, here⟩
            by_cases takes : ∃ output taken, crowd.TakesUp caller info output taken
            · obtain ⟨output, taken, takes⟩ := takes
              show host'.desk.ticket = _
              rw [(here output taken takes).1, Host.TakesUp.ticket_takenUp]
            · show host'.desk.ticket = _
              rw [otherwise fun output taken given => takes ⟨output, taken, given⟩]
        · have same : host' = crowd.host := Call.host_of_early_step about early
            (fun timeout same => submits ⟨timeout, same⟩) step
          refine ⟨congrArg (fun host : Host W => host.desk.ticket) same, fun _ => same, ?_⟩
          intro output taken takes
          obtain ⟨task, timeout, enters⟩ := takes.submits
          cases found.symm.trans enters
          cases about
          exact absurd ⟨timeout, rfl⟩ submits
  · intro output taken takes unfit
    obtain ⟨⟨task, timeout, enters⟩, takes⟩ := takes
    cases found.symm.trans enters
    cases shapes with
    | goesOn about =>
        cases about
        obtain ⟨fault, refused⟩ : ∃ fault, Part.submitTask { input, reshape := some info } timeout
            crowd.host = some (.failed fault, crowd.host.takenUp info output taken) :=
          takes.submitTask_of_unfit rfl unfit
        have step := Call.refused_of_submitTask takes.unpoisoned refused
        refine ⟨_, fault, after?_steps found step, ?_, rfl⟩
        rw [getElem?_update found, if_pos rfl]

end Crowd

namespace CustomModel

theorem echoByte_steady : echoByte.backend.Steady := by
  intro info before fault after h
  cases h
  rfl

theorem elastic_steady : elastic.Steady := by
  intro info before fault after h
  cases h

/-- A caller brings two bytes to a model that only takes one, and is about to submit them. -/
def unwantedShape : List Move :=
  .begins (.inferShaped (twoByteFrame [5, 6]) twoBytes) :: List.replicate 3 (.steps 0)

/-- A pass on two bytes.  Then two bytes are brought in the shape of three, and then the two bytes
once more. -/
def misfitShape : List Move :=
  .begins (.infer (twoByteFrame [5, 6]) none) :: List.replicate 4 (.steps 0)
    ++ List.replicate 4 .works ++ .steps 0
    :: .begins (.inferShaped (twoByteFrame [5, 6]) threeBytes) :: List.replicate 4 (.steps 1)
    ++ .begins (.infer (twoByteFrame [5, 6]) none) :: List.replicate 4 (.steps 2)

end CustomModel

/-- The fault that a call has ended with. -/
def Call.fault? : Call → Option Fault
  | ended (.failed fault) _ => some fault
  | _ => none

theorem Call.eq_of_fault? {call : Call} {fault : Fault} (h : call.fault? = some fault) :
    ∃ target, call = .ended (.failed fault) target := by
  unfold fault? at h
  split at h
  · cases h
    exact ⟨_, rfl⟩
  · cases h

namespace Crowd

theorem exists_of_any {crowd : Crowd W} {moves : List Move} {P : Crowd W → Prop} [DecidablePred P]
    (seen : (crowd.afterAll? moves).any (fun last => decide (P last)) = true) :
    ∃ last, crowd.afterAll? moves = some last ∧ P last := by
  obtain ⟨last, reached, holds⟩ := (Option.any_eq_true _ _).1 seen
  exact ⟨last, reached, of_decide_eq_true holds⟩

open CustomModel in
/-- The model refuses the shape, and the engine is as it was. -/
theorem unwanted_shape_leaves_engine : ∃ crowd next : Crowd Unit,
    Crowd.afterAll? { host := echoEngine } unwantedShape = some crowd
      ∧ crowd.after? (.steps 0) = some next ∧ (next.calls[0]?.bind Call.fault?).isSome = true
      ∧ next.host = crowd.host := by
  have run : (Crowd.afterAll? { host := echoEngine } unwantedShape).any (fun crowd =>
      crowd.calls[0]?.any Call.isEarly && (crowd.after? (.steps 0)).any fun next =>
        (next.calls[0]?.bind Call.fault?).isSome) = true := by
    decide +kernel
  obtain ⟨crowd, reached, seen⟩ := (Option.any_eq_true _ _).1 run
  obtain ⟨early, seen⟩ := (Bool.and_eq_true _ _).mp seen
  obtain ⟨next, made, refused⟩ := (Option.any_eq_true _ _).1 seen
  obtain ⟨call, found, early⟩ := (Option.any_eq_true _ _).1 early
  obtain ⟨fault, faulty⟩ := Option.isSome_iff_exists.1 refused
  obtain ⟨after, ends, faulty⟩ := Option.bind_eq_some_iff.1 faulty
  obtain ⟨target, rfl⟩ := Call.eq_of_fault? faulty
  obtain ⟨chronicle, lived, begun⟩ := Lived.run .start reached
  have mine : chronicle.begun[0]? = some (.inferShaped (twoByteFrame [5, 6]) twoBytes) := by
    rw [begun]
    rfl
  obtain ⟨-, leaves, -⟩ :=
    refused_shape_leaves_engine_unless_taken_up echoByte_opened echoByte_steady lived mine
  obtain ⟨-, same, -⟩ := leaves call next _ found early made ends (.inr ⟨fault, target, rfl⟩)
  refine ⟨crowd, next, reached, made, refused, same fun output taken takes => ?_⟩
  have adopted := takes.takes.adopted
  rw [lived.reachable.backend (Backend.fresh_of_opened echoByte_opened)] at adopted
  cases adopted

open CustomModel in
/-- The input does not fit the shape that it is brought with.  The call is refused, but the engine
keeps the shape, and refuses the input that it has taken before. -/
theorem misfit_shape_kept : elastic.openAs 0 {} .custom () [] = .opened elasticEngine
    ∧ elastic.Steady ∧ ∃ crowd : Crowd Unit,
      Crowd.afterAll? { host := elasticEngine } misfitShape = some crowd
        ∧ (crowd.given? 0).map Frame.regions = some [some [5, 6]]
        ∧ (crowd.calls[1]?.bind Call.fault?) = some (Part.sizeMismatch "input" "expects" [2] [3])
        ∧ (crowd.calls[2]?.bind Call.fault?) = some (Part.sizeMismatch "input" "expects" [2] [3])
        ∧ elasticEngine.desk.input = twoBytes ∧ crowd.host.desk.input = threeBytes
        ∧ crowd.host.desk.output = threeBytes := by
  refine ⟨elastic_opened, elastic_steady, exists_of_any ?_⟩
  decide +kernel

end Crowd

end Inference
