/-
What the backend is given.

A frame is looked at when its request is submitted, and the pass comes later, on a copy, and
perhaps after the engine has been given other shapes.  Nevertheless the regions of every pass have
the sizes that were agreed at the moment of the submission: the copy is one of the frame that was
looked at, and the output is the one that was on the desk.  `Descriptor.blankRegions` are the
output regions that go with a request, and `Crowd.Equipped` says that no pass is given any others
(`Crowd.equipped_of_reachable`).  Where they come from is `Crowd.Lived.pass_agreed`.

A frame that does not fit never comes that far.  It is refused, and the engine is left as it was.
-/
import Inference.Proofs.Engine.Failing
import Inference.Proofs.Engine.Rejection
import Inference.Proofs.Engine.Survival

namespace Inference

variable {W : Type}

/-! ### The regions of a pass -/

/-- Output regions for tensors like these: empty ones if the backend allocates them itself. -/
def Descriptor.blankRegions (d : Descriptor) (lending : Bool) : List Bytes :=
  if lending then List.replicate d.count [] else d.sizes.map fun size => List.replicate size 0

theorem Frame.eq_of_allocate {sizes : List Nat} {regions : List Bytes}
    (h : allocate sizes = .done regions) :
    regions = sizes.map fun size => List.replicate size 0 := by
  unfold allocate at h
  cases room : checkRoom sizes with
  | done =>
      rw [room] at h
      cases h
      rfl
  | failed fault =>
      rw [room] at h
      cases h
  | crashed message =>
      rw [room] at h
      cases h

/-- What it takes for the worker to come into a pass with its next step. -/
structure Host.Enters (host : Host W) (request : Request) (inputs outputs : List Bytes)
    (lending : Bool) (after : Host W) : Prop where
  holding : host.engine.worker = .holding request
  allocates : host.engine.backend.allocates host.world = lending
  bytes : request.input.allBytes = .ok inputs
  blank : outputs = request.output.blankRegions lending
  entered : after = Host.withWorker
    { host with world := host.engine.backend.enter inputs outputs lending host.world }
    (.inPass request outputs lending)

namespace Host

variable {host after : Host W} {request taken : Request} {outputs : List Bytes} {lending : Bool}

theorem enters_of_beginPass (holding : host.engine.worker = .holding request)
    (inside : (host.beginPass request).engine.worker = .inPass taken outputs lending) :
    ∃ inputs, host.Enters taken inputs outputs lending (host.beginPass request) := by
  generalize same : host.beginPass request = after at inside ⊢
  unfold beginPass at same
  split at same
  · subst same
    cases inside
  split at same
  · subst same
    cases inside
  rename_i inputs bytes
  simp only at same
  split at same
  · rename_i regions made
    subst same
    cases inside
    refine ⟨inputs, holding, rfl, bytes, ?_, rfl⟩
    unfold Descriptor.blankRegions
    split at made
    · rename_i lends
      rw [if_pos lends]
      cases made
      rfl
    · rename_i plain
      rw [if_neg plain]
      exact Frame.eq_of_allocate made
  · subst same
    cases inside
  · subst same
    cases inside

theorem enters_of_work (work : host.stepWorker = some after)
    (inside : after.engine.worker = .inPass request outputs lending) :
    ∃ inputs, host.Enters request inputs outputs lending after := by
  cases stepWorker_step work with
  | rested parked => cases parked.symm.trans inside
  | @entered taken _ _ _ holding =>
      unfold stepWorker at work
      rw [holding] at work
      have begun := Option.some.inj work
      rw [← begun] at inside ⊢
      exact enters_of_beginPass holding inside
  | finished _ _ _ ended => cases ended <;> cases inside
  | recorded _ recorded => cases recorded <;> cases inside
  | _ => cases inside

end Host

/-- The output regions that the worker runs its pass on, and who allocates them. -/
def Worker.regions? : Worker → Option (List Bytes × Bool)
  | inPass _ outputs lending => some (outputs, lending)
  | _ => none

theorem Worker.eq_of_regions? {worker : Worker} {outputs : List Bytes} {lending : Bool}
    (h : worker.regions? = some (outputs, lending)) :
    ∃ request, worker = .inPass request outputs lending := by
  cases worker with
  | inPass request _ _ =>
      cases h
      exact ⟨request, rfl⟩
  | _ => cases h

namespace Crowd

variable {crowd : Crowd W}

/-- The worker runs its pass on the regions that go with the request. -/
def Equipped (crowd : Crowd W) : Prop :=
  ∀ request outputs lending, crowd.host.engine.worker = .inPass request outputs lending →
    outputs = request.output.blankRegions lending

theorem equipped_of_reachable {backend : Backend W} {host : Host W} (fresh : host.Fresh backend)
    (reach : Reachable { host } crowd) : crowd.Equipped := by
  induction reach with
  | refl =>
      intro request outputs lending inside
      cases fresh.worker.symm.trans inside
  | @step crowd next before move made ih =>
      intro request outputs lending inside
      by_cases works : move = .works
      · subst works
        obtain ⟨after, work, rfl⟩ := Option.map_eq_some_iff.1 made
        obtain ⟨inputs, enters⟩ := Host.enters_of_work work inside
        exact enters.blank
      · have other : move.isWork = false := by
          cases move with
          | works => exact absurd rfl works
          | _ => rfl
        rw [(moved_of_after? made).worker other] at inside
        exact ih request outputs lending inside

/-- The regions that the worker runs its pass on go back to the moment at which the request was
submitted: those of the input have the sizes that were agreed then, and so have those of the output,
unless the backend allocates them. -/
theorem Lived.pass_agreed {backend : Backend W} {host : Host W} (fresh : host.Fresh backend)
    {chronicle : Chronicle} (lived : Lived { host } crowd chronicle) {request : Request}
    {outputs : List Bytes} {lending : Bool}
    (inside : crowd.host.engine.worker = .inPass request outputs lending) :
    ∃ inputs before submitted past since task timeout s operation,
      Lived { host } before past ∧ before.Occasion submitted task timeout s
        ∧ Lived submitted crowd since
        ∧ chronicle = (past.after before submitted (.steps s.caller)).append since
        ∧ s.ticket = request.ticket
        ∧ chronicle.begun[s.caller]? = some operation ∧ operation.input? = some task.input
        ∧ request.input.allBytes = .ok inputs ∧ task.input.allBytes = .ok inputs
        ∧ (task.input.Regular → inputs.map List.length = submitted.host.desk.input.sizes)
        ∧ outputs = submitted.host.desk.output.blankRegions lending := by
  have told := Chronicle.Tells.of_lived fresh lived
  have ahead : crowd.host.engine.worker.ahead? = some request := by
    rw [inside]
    rfl
  obtain ⟨⟨s, member, ticket, output, bytes⟩, -⟩ := told.follows.ahead request (.inr ahead)
  obtain ⟨operation, begun, brought⟩ := told.brought s member
  obtain ⟨before, submitted, past, since, task, timeout, earlier, occasion, onward, whole⟩ :=
    lived.occasion member
  obtain ⟨inputs, read⟩ :=
    supplied_of_reachable fresh lived.reachable request outputs lending inside
  have copied : task.input.allBytes = .ok inputs := by
    rw [← occasion.input, bytes]
    exact read
  refine ⟨inputs, before, submitted, past, since, task, timeout, s, operation, earlier, occasion,
    onward, whole, ticket, begun, ?_, read, copied, ?_, ?_⟩
  · rw [← occasion.input]
    exact brought
  · intro regular
    rw [regular.lengths_of_allBytes copied]
    exact occasion.agreed.sizes
  · rw [equipped_of_reachable fresh lived.reachable request outputs lending inside, ← output,
      occasion.output]

/-- Under every schedule, and whatever the backend does: the worker runs each pass on regions whose
sizes were agreed at the moment at which the request was submitted, no matter what the engine has
been given since; and those are the regions that the backend is given when the worker comes into the
pass.  The library makes regular frames only.  A frame of other sizes, or with a tensor that has no
memory, is refused wherever it is brought to an engine in the shape that the engine has, and nothing
else happens. -/
theorem passes_on_agreed_sizes {backend : Backend W} {id : Nat} {options : Options}
    {framework : Framework} {world : W} {live : List Nat} {host : Host W}
    (opened : backend.openAs id options framework world live = .opened host)
    {chronicle : Chronicle} (lived : Lived { host } crowd chronicle) :
    (∀ request outputs lending, crowd.host.engine.worker = .inPass request outputs lending →
        ∃ inputs before submitted past since task timeout s operation,
          Lived { host } before past ∧ before.Occasion submitted task timeout s
            ∧ Lived submitted crowd since
            ∧ chronicle = (past.after before submitted (.steps s.caller)).append since
            ∧ s.ticket = request.ticket
            ∧ chronicle.begun[s.caller]? = some operation ∧ operation.input? = some task.input
            ∧ request.input.allBytes = .ok inputs ∧ task.input.allBytes = .ok inputs
            ∧ (task.input.Regular → inputs.map List.length = submitted.host.desk.input.sizes)
            ∧ outputs = submitted.host.desk.output.blankRegions lending)
      ∧ (∀ next request outputs lending, crowd.after? .works = some next →
        next.host.engine.worker = .inPass request outputs lending →
          ∃ inputs, crowd.host.Enters request inputs outputs lending next.host)
      ∧ (crowd.host.engine.isOpen = true → crowd.host.desk.mode = .idle → ∀ input operation,
        input.sizes ≠ crowd.host.desk.input.sizes ∨ none ∈ input.regions →
        (∃ timeout, operation = .infer input timeout)
          ∨ (∃ target, operation = .inferInto input target) →
        ∃ fault, crowd.host.perform operation = (.failed fault, crowd.host)
          ∧ (crowd.host.engine.deskPoisoned = false → fault.Invalid)
          ∧ (crowd.host.engine.deskPoisoned = true → fault = .poisonedLock))
      ∧ ∀ (caller : Nat) task timeout,
        crowd.calls[caller]? = some (.entering (.submit task timeout)) → task.reshape = none →
        task.input.sizes ≠ crowd.host.desk.input.sizes ∨ none ∈ task.input.regions →
        ∃ next fault, crowd.after? (.steps caller) = some next ∧ next.host = crowd.host
          ∧ next.calls[caller]? = some (.ended (.failed fault) task.target)
          ∧ (crowd.host.engine.deskPoisoned = false → fault.Invalid)
          ∧ (crowd.host.engine.deskPoisoned = true → fault = .poisonedLock) := by
  have fresh := Backend.fresh_of_opened opened
  have ordered := (Orderly.of_reachable fresh lived.reachable).ordered
  refine ⟨fun request outputs lending inside => lived.pass_agreed fresh inside, ?_, ?_, ?_⟩
  · intro next request outputs lending made inside
    obtain ⟨after, work, rfl⟩ := Option.map_eq_some_iff.1 made
    exact Host.enters_of_work work inside
  · intro isOpen idle input operation unfit runs
    exact Host.perform_of_misfit ordered isOpen idle (Frame.misfits_of_unfit unfit) runs
  · intro caller task timeout enters plain unfit
    obtain ⟨fault, step, reason⟩ : ∃ fault,
        (Call.entering (.submit task timeout)).step crowd.host
            = some (.ended (.failed fault) task.target, crowd.host)
          ∧ (crowd.host.engine.deskPoisoned = false → fault.Invalid)
          ∧ (crowd.host.engine.deskPoisoned = true → fault = .poisonedLock) := by
      cases poisoned : crowd.host.engine.deskPoisoned with
      | false =>
          obtain ⟨fault, step, invalid⟩ :=
            Call.step_submitting_of_misfit poisoned plain (Frame.misfits_of_unfit unfit) timeout
          exact ⟨fault, step, fun _ => invalid, nofun⟩
      | true => exact ⟨_, Call.step_poisoned poisoned, nofun, fun _ => rfl⟩
    refine ⟨_, fault, after?_steps enters step, rfl, ?_, reason⟩
    rw [getElem?_update enters, if_pos rfl]

open CustomModel in
/-- A pass on one byte is run on one byte, and a frame of two bytes is refused before it. -/
theorem pass_on_agreed_byte : ∃ (crowd : Crowd Unit) (chronicle : Chronicle) (request : Request)
    (inputs : List Bytes) (submitted : Crowd Unit),
      Lived { host := echoEngine } crowd chronicle
        ∧ crowd.host.engine.worker = .inPass request [[0]] false
        ∧ request.input.allBytes = .ok inputs
        ∧ inputs.map List.length = submitted.host.desk.input.sizes
        ∧ [[0]] = submitted.host.desk.output.blankRegions false
        ∧ ∃ fault, echoEngine.perform (.infer (twoByteFrame [5, 6]) none)
            = (.failed fault, echoEngine) ∧ fault.Invalid := by
  have run : (Crowd.afterAll? { host := echoEngine }
      [.begins (.infer (byteTask 7).input (some 0)), .steps 0, .steps 0, .works, .works]).bind
      (fun crowd => crowd.host.engine.worker.regions?) = some ([[0]], false) := by
    decide +kernel
  obtain ⟨crowd, reached, seen⟩ := Option.bind_eq_some_iff.1 run
  obtain ⟨request, inside⟩ := Worker.eq_of_regions? seen
  obtain ⟨chronicle, lived, begun⟩ := Lived.run .start reached
  obtain ⟨inputs, before, submitted, past, since, task, timeout, s, operation, -, -, -, -, -, mine,
    brought, bytes, -, sizes, blank⟩ :=
    (passes_on_agreed_sizes echoByte_opened lived).1 request _ _ inside
  have regular : (byteTask 7).input.Regular :=
    Frame.regular_of_ofRegions
      (rfl : Frame.ofRegions echoByte.input [[7]] = .ok (byteTask 7).input)
  have given : task.input = (byteTask 7).input := by
    rw [begun] at mine
    cases List.mem_singleton.1 (List.mem_of_getElem? mine)
    exact (Option.some.inj brought).symm
  obtain ⟨fault, performed, invalid, -⟩ := (passes_on_agreed_sizes echoByte_opened .start).2.2.1 rfl
    rfl (twoByteFrame [5, 6]) _ (.inl (by decide +kernel)) (.inl ⟨none, rfl⟩)
  exact ⟨crowd, chronicle, request, inputs, submitted, lived, inside, bytes,
    sizes (given ▸ regular), blank, fault, performed, invalid rfl⟩

end Crowd

namespace CustomModel

/-! ### A model that crashes over its properties -/

/-- The model that answers with the byte it is given and crashes when it is asked for a property. -/
def touchyByte : Backend Unit := { echoByte.backend with
  readProperty := fun _ world => (.crashed "the property is out of reach", world) }

/-- An engine on that model. -/
def touchyEngine : Host Unit where
  engine := {
    id := 0, framework := .custom, accelerator := .any, backend := touchyByte
    desk := { input := echoByte.input, output := echoByte.output, timeout := 0 } }
  world := ()
  live := [0]

theorem touchyByte_opened : touchyByte.openAs 0 {} .custom () [] = .opened touchyEngine := rfl

/-- A caller asks for a property. -/
def propertyRead : List Move := [.begins (.read "speed"), .steps 0, .steps 0]

end CustomModel

namespace Crowd

open CustomModel

/-- After a crash under the lock the engine is open and idle, and a frame that does not fit is not
refused as such: the lock turns its caller away. -/
theorem misfit_turned_away_by_lock : touchyByte.openAs 0 {} .custom () [] = .opened touchyEngine
    ∧ ∃ crowd : Crowd Unit, Crowd.afterAll? { host := touchyEngine } propertyRead = some crowd
      ∧ crowd.host.engine.isOpen = true ∧ crowd.host.desk.mode = .idle
      ∧ (twoByteFrame [5, 6]).sizes ≠ crowd.host.desk.input.sizes
      ∧ crowd.host.perform (.infer (twoByteFrame [5, 6]) none)
        = (.failed .poisonedLock, crowd.host)
      ∧ ¬ Fault.poisonedLock.Invalid := by
  have run : (Crowd.afterAll? { host := touchyEngine } propertyRead).any (fun crowd => decide (
      crowd.host.engine.isOpen = true ∧ crowd.host.desk.mode = .idle
        ∧ (twoByteFrame [5, 6]).sizes ≠ crowd.host.desk.input.sizes
        ∧ crowd.host.engine.deskPoisoned = true)) = true := by
    decide +kernel
  obtain ⟨crowd, reached, isOpen, idle, differ, poisoned⟩ := exists_of_any run
  have ordered := (Orderly.of_reachable (Backend.fresh_of_opened touchyByte_opened)
    (reachable_of_afterAll? reached)).ordered
  obtain ⟨fault, performed, -, locked⟩ := Host.perform_of_misfit ordered isOpen idle (.inl differ)
    (.inl ⟨none, rfl⟩)
  rw [locked poisoned] at performed
  exact ⟨touchyByte_opened, crowd, reached, isOpen, idle, differ, performed, nofun⟩

end Crowd

end Inference
