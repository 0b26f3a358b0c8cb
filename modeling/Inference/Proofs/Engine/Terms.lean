/-
The terms of a request.

A request is submitted under the descriptors that are agreed at that moment and to a backend
that has been configured for them.  `Host.SameTerms` says that none of this has changed
between two moments: the descriptors are the same, and the backend was asked nothing.

As long as the engine counts as running nobody can change the terms (`CallStep.sameTerms`,
`Crowd.Moved.terms`).  But an engine that is being closed does not count as running, even while a
request is in flight.  Nobody gets in any more, but a caller that was let in before and has yet to
take the lock finds nothing in its way (`Crowd.reshaped_of_leaving`).
-/
import Inference.Proofs.Engine.Due
import Inference.Proofs.Engine.Questions
import Inference.Proofs.Engine.Retirement

namespace Inference

variable {W : Type}

namespace Host

/-- A request was submitted and no outcome has been recorded for it. -/
def InFlight (host : Host W) : Prop :=
  host.desk.request ≠ none ∨ host.engine.worker.request? ≠ none ∨ host.engine.worker = .died

/-- Two hosts with the same agreed descriptors, between which the backend was asked nothing. -/
structure SameTerms (host after : Host W) : Prop where
  backend : after.engine.backend = host.engine.backend
  input : after.desk.input = host.desk.input
  output : after.desk.output = host.desk.output
  unasked : ∀ notes, host.engine.backend.Notes notes → notes after.world = notes host.world

namespace SameTerms

variable {host middle after : Host W}

theorem refl (host : Host W) : host.SameTerms host := ⟨rfl, rfl, rfl, fun _ _ => rfl⟩

theorem trans (h : host.SameTerms middle) (h' : middle.SameTerms after) : host.SameTerms after where
  backend := h'.backend.trans h.backend
  input := h'.input.trans h.input
  output := h'.output.trans h.output
  unasked notes kept := by
    refine (h'.unasked notes ?_).trans (h.unasked notes kept)
    rw [h.backend]
    exact kept

theorem withDesk (h : host.SameTerms after) {desk : Desk} (input : desk.input = after.desk.input)
    (output : desk.output = after.desk.output) : host.SameTerms (after.withDesk desk) :=
  ⟨h.backend, input.trans h.input, output.trans h.output, h.unasked⟩

end SameTerms

theorem Drops.sameTerms {host after : Host W} {frames : List Frame} {crash : Option String}
    (drops : host.Drops frames crash after) : host.SameTerms after where
  backend := drops.beside.backend
  input := congrArg Desk.input drops.beside.desk
  output := congrArg Desk.output drops.beside.desk
  unasked _ kept := drops.noted kept

theorem settle_sameTerms (host : Host W) : host.SameTerms host.settle where
  backend := (settle_beside host).backend
  input := congrArg Desk.input (settle_beside host).desk
  output := congrArg Desk.output (settle_beside host).desk
  unasked _ kept := settle_notes kept

theorem detach_sameTerms (host : Host W) : host.SameTerms host.detach := by
  unfold detach
  split
  · have letGo : host.SameTerms (host.withDesk { host.desk with attached := false }) :=
      (SameTerms.refl host).withDesk rfl rfl
    exact letGo.trans (settle_sameTerms _)
  · exact .refl host

theorem leftBy_sameTerms (host : Host W) (last : Bool) (crash : Option String) :
    host.SameTerms (host.leftBy last crash) := by
  unfold leftBy
  split
  · exact detach_sameTerms host
  · exact ⟨rfl, rfl, rfl, fun _ _ => rfl⟩

end Host

/-! ### Who changes the terms -/

namespace CallStep

variable {call next : Call} {host after : Host W}

/-- Nobody changes the terms who has not just taken the lock, and not even then while the engine
counts as running. -/
theorem sameTerms (step : CallStep call host next after)
    (ordered : Ordered host.desk host.engine.worker) :
    host.SameTerms after ∨ host.desk.mode ≠ .running ∧ ∃ part, call = .entering part := by
  have idle {middle : Host W} (tuned : host.Tuned middle) (idle : middle.desk.mode = .idle) :
      host.desk.mode ≠ .running := by
    obtain ⟨_, _, _, _, desk⟩ := tuned.alike.desk
    rw [desk] at idle
    change host.desk.mode = .idle at idle
    rw [idle]
    nofun
  cases step with
  | ran _ touched =>
      cases touched with
      | tuned tuned =>
          cases tuned with
          | same => exact .inl (.refl _)
          | timeout => exact .inl ((Host.SameTerms.refl _).withDesk rfl rfl)
          | renamed quiet => exact .inr ⟨quiet, _, rfl⟩
          | inputNames _ quiet => exact .inr ⟨quiet, _, rfl⟩
          | outputNames _ quiet => exact .inr ⟨quiet, _, rfl⟩
          | asked quiet => exact .inr ⟨quiet, _, rfl⟩
          | reshaped quiet => exact .inr ⟨quiet, _, rfl⟩
      | wrecked wrecked =>
          cases wrecked with
          | intro quiet => exact .inr ⟨quiet, _, rfl⟩
  | submitted tuned _ quiet => exact .inr ⟨idle tuned quiet, _, rfl⟩
  | faltered tuned quiet => exact .inr ⟨idle tuned quiet, _, rfl⟩
  | received _ collected =>
      rw [(Desk.collect_of_tidy ordered.tidy collected).1]
      exact .inl ((Host.SameTerms.refl _).withDesk rfl rfl)
  | deserted => exact .inl ((Host.SameTerms.refl _).withDesk rfl rfl)
  | copied drops => exact .inl drops.sameTerms
  | spoilt drops => exact .inl drops.sameTerms
  | retired => exact .inl ⟨rfl, rfl, rfl, fun _ _ => rfl⟩
  | dismissed => exact .inl ((Host.SameTerms.refl _).withDesk rfl rfl)
  | @cleared last _ after crash _ drops _ =>
      have cleared : host.SameTerms (host.withDesk (host.desk.clear last).2) :=
        (Host.SameTerms.refl host).withDesk (by cases last <;> rfl) (by cases last <;> rfl)
      exact .inl ((cleared.trans drops.sameTerms).trans (Host.leftBy_sameTerms after last crash))
  | _ => exact .inl (.refl _)

/-- A request is in flight after a step only if it was before, or has just been submitted. -/
theorem inFlight (step : CallStep call host next after)
    (ordered : Ordered host.desk host.engine.worker) (flies : after.InFlight) :
    host.InFlight ∨ after.desk.ticket = host.desk.ticket + 1 := by
  have worker := step.worker
  have sameRequest (same : after.desk.request = host.desk.request) : host.InFlight := by
    unfold Host.InFlight at flies ⊢
    rwa [same, worker] at flies
  have still (alike : host.Alike after) : host.InFlight := by
    obtain ⟨_, _, _, _, desk⟩ := alike.desk
    exact sameRequest (by rw [desk])
  cases step with
  | ran _ touched => exact .inl (still touched.alike)
  | @submitted _ _ _ _ dropped _ tuned _ idle _ _ drops =>
      obtain ⟨_, _, _, _, before⟩ := tuned.alike.desk
      have desk := (ordered.cleared tuned idle drops).2.2
      refine .inr ?_
      show dropped.desk.ticket + 1 = _
      rw [desk, before]
      rfl
  | @faltered _ _ _ _ after _ tuned idle drops =>
      obtain ⟨_, _, _, _, before⟩ := tuned.alike.desk
      have desk := (ordered.cleared tuned idle drops).2.2
      refine .inl (sameRequest ?_)
      show after.desk.request = _
      rw [desk, before]
      rfl
  | received _ collected =>
      rw [(Desk.collect_of_tidy ordered.tidy collected).1] at flies
      exact .inl flies
  | copied drops => exact .inl (still drops.beside.alike)
  | spoilt drops => exact .inl (still drops.beside.alike)
  | @cleared last _ after crash _ drops _ =>
      obtain ⟨_, _, _, _, desk⟩ := (Host.leftBy_alike after last crash).desk
      have cleared : (after.leftBy last crash).desk.request = (host.desk.clear last).2.request := by
        rw [desk, drops.beside.desk]
        rfl
      cases last with
      | false => exact .inl (sameRequest cleared)
      | true =>
          have none : (after.leftBy true crash).desk.request = none := cleared
          refine .inl ?_
          unfold Host.InFlight at flies ⊢
          rw [none, worker] at flies
          exact .inr (flies.resolve_left fun some => some rfl)
  | _ => exact .inl flies

end CallStep

namespace WorkerStep

variable {host after : Host W}

theorem descriptors (step : WorkerStep host after) :
    after.desk.input = host.desk.input ∧ after.desk.output = host.desk.output := by
  obtain ⟨_, _, _, _, _, desk⟩ := step.desk
  rw [desk]
  exact ⟨rfl, rfl⟩

theorem sameTerms (step : WorkerStep host after) : host.SameTerms after where
  backend := step.backend
  input := step.descriptors.1
  output := step.descriptors.2
  unasked _ kept := step.noted kept

theorem inFlight (step : WorkerStep host after) (flies : after.InFlight) : host.InFlight := by
  have inHand {request : Request} (taken : host.engine.worker.request? = some request) :
      host.InFlight := by
    refine .inr (.inl ?_)
    rw [taken]
    nofun
  cases step with
  | took _ _ queued =>
      refine .inl ?_
      rw [queued]
      nofun
  | left _ _ empty =>
      rcases flies with queued | busy | died
      · exact absurd empty queued
      · exact absurd rfl busy
      · cases died
  | rested => exact flies
  | refused holding => exact inHand (by rw [holding]; rfl)
  | starved holding => exact inHand (by rw [holding]; rfl)
  | entered holding => exact inHand (by rw [holding]; rfl)
  | finished inside => exact inHand (by rw [inside]; rfl)
  | recorded returning => exact inHand (by rw [returning]; rfl)

end WorkerStep

/-! ### Terms over time -/

namespace Crowd

variable {crowd next later : Crowd W}

theorem Orderly.awake (h : crowd.Orderly) (flies : crowd.host.InFlight) :
    crowd.host.desk.mode ≠ .idle := by
  intro idle
  obtain ⟨parked, free⟩ := h.ordered.idle idle
  rcases flies with queued | busy | died
  · exact queued free
  · rw [parked] at busy
    exact busy rfl
  · cases parked.symm.trans died

/-- A move that changes the terms of a request in flight is made by a caller that holds the lock on
an engine whose worker was asked to leave. -/
theorem Moved.terms {move : Move} (moved : crowd.Moved move next) (orderly : crowd.Orderly)
    (flies : crowd.host.InFlight) :
    crowd.host.SameTerms next.host ∨ crowd.host.desk.mode = .leaving
      ∧ ∃ caller part, move.caller? = some caller
        ∧ crowd.calls[caller]? = some (.entering part) := by
  cases moved with
  | began => exact .inl (.refl _)
  | @called _ caller call after host mover found step =>
      rcases step.sameTerms orderly.ordered with same | ⟨quiet, part, rfl⟩
      · exact .inl same
      · refine .inr ⟨?_, caller, part, mover, found⟩
        -- With a request in flight, an engine that does not count as running is one being closed.
        cases mode : crowd.host.desk.mode with
        | idle => exact absurd mode (orderly.awake flies)
        | running => exact absurd mode quiet
        | leaving => rfl
  | worked step => exact .inl step.sameTerms
  | dropped _ drops => exact .inl drops.sameTerms
  | gaveUp => exact .inl (.refl _)

/-- A request that is in flight after a move was so before, unless a new one was submitted. -/
theorem Moved.inFlight {move : Move} (moved : crowd.Moved move next) (orderly : crowd.Orderly)
    (flies : next.host.InFlight) :
    crowd.host.InFlight ∨ next.host.desk.ticket = crowd.host.desk.ticket + 1 := by
  cases moved with
  | began => exact .inl flies
  | called _ _ step => exact step.inFlight orderly.ordered flies
  | worked step => exact .inl (step.inFlight flies)
  | @dropped _ _ _ host _ drops =>
      refine .inl ?_
      change host.InFlight at flies
      unfold Host.InFlight at flies ⊢
      rwa [drops.beside.desk, drops.beside.worker] at flies
  | gaveUp => exact .inl flies

/-- How the request that was in flight at an earlier moment stands by now. -/
inductive Since (earlier : Crowd W) (crowd : Crowd W) : Prop where
  /-- Another request was submitted after it. -/
  | passed (newer : earlier.host.desk.ticket < crowd.host.desk.ticket)
  | recorded (last : crowd.host.desk.ticket = earlier.host.desk.ticket)
      (landed : ¬ crowd.host.InFlight)
  | dismissed (last : crowd.host.desk.ticket = earlier.host.desk.ticket)
      (leaving : crowd.host.desk.mode = .leaving)
  | kept (last : crowd.host.desk.ticket = earlier.host.desk.ticket)
      (flies : crowd.host.InFlight) (same : earlier.host.SameTerms crowd.host)

theorem Since.moved {earlier : Crowd W} {move : Move} (h : earlier.Since crowd)
    (orderly : crowd.Orderly) (moved : crowd.Moved move next) : earlier.Since next := by
  have grows := orderly.ticket_le moved
  -- Tickets only grow: unless this move takes a new one, it is still about the same request.
  rcases Nat.eq_or_lt_of_le grows with still | newer
  · cases h with
    | passed newer => exact .passed (Nat.lt_of_lt_of_le newer grows)
    | recorded last landed =>
        refine .recorded (still.symm.trans last) fun flies => ?_
        rcases moved.inFlight orderly flies with before | newer
        · exact landed before
        · omega
    | dismissed last leaving =>
        exact .dismissed (still.symm.trans last) (moved.leaving orderly leaving)
    | kept last flies same =>
        rcases moved.terms orderly flies with kept | ⟨leaving, -⟩
        · by_cases flies' : next.host.InFlight
          · exact .kept (still.symm.trans last) flies' (same.trans kept)
          · exact .recorded (still.symm.trans last) flies'
        · exact .dismissed (still.symm.trans last) (moved.leaving orderly leaving)
  · refine .passed ?_
    cases h with
    | passed before => exact Nat.lt_trans before newer
    | recorded last => rwa [← last]
    | dismissed last => rwa [← last]
    | kept last => rwa [← last]

theorem Since.of_reachable (orderly : crowd.Orderly) (flies : crowd.host.InFlight)
    (onward : Reachable crowd later) : crowd.Since later := by
  have both := @Reachable.keeps W crowd later (fun later => later.Orderly ∧ crowd.Since later)
    onward ⟨orderly, .kept rfl flies (.refl _)⟩
    fun both moved => ⟨both.1.moved moved, both.2.moved both.1 moved⟩
  exact both.2

end Crowd

/-! ### A caller that comes late -/

/-- An engine that does not count as running takes up the input it is given. -/
theorem renegotiate_of_quiet {info output : Descriptor} {host : Host W} {world : W}
    (quiet : host.desk.mode ≠ .running) (differs : info.agrees host.desk.input = false)
    (attached : host.desk.attached = true) (free : host.engine.worker.busy = false)
    (sound : host.engine.backendPoisoned = false)
    (adopted : host.engine.backend.adopt info host.world = (.done output, world))
    (valid : output.validate = .ok ()) :
    renegotiate info host
      = some (.done (), { host with world }.withDesk { host.desk with input := info, output }) := by
  have asked : Act.useBackend (fun backend => backend.adopt info) host
      = some (.done output, { host with world }) := by
    simp [Act.useBackend, attached, free, sound, adopted]
  simp only [renegotiate, Act.desk_bind, if_neg quiet, differs, Bool.false_eq_true, if_false]
  show Act.bind _ _ host = _
  simp only [Act.bind, asked, valid]
  rfl

namespace Crowd

variable {crowd : Crowd W}

/-- An engine with a request in flight takes up the input as well, if its worker was asked to
leave. -/
theorem reshaped_of_leaving {caller : Nat} {info output : Descriptor} {world : W}
    (flies : crowd.host.InFlight) (leaving : crowd.host.desk.mode = .leaving)
    (late : crowd.calls[caller]? = some (.entering (.reshape info)))
    (unpoisoned : crowd.host.engine.deskPoisoned = false)
    (sound : crowd.host.engine.backendPoisoned = false)
    (differs : info.agrees crowd.host.desk.input = false)
    (attached : crowd.host.desk.attached = true)
    (free : crowd.host.engine.worker.busy = false)
    (adopted : crowd.host.engine.backend.adopt info crowd.host.world = (.done output, world))
    (valid : output.validate = .ok ()) :
    ∃ next, crowd.after? (.steps caller) = some next ∧ next.host.InFlight
      ∧ next.host.desk.ticket = crowd.host.desk.ticket ∧ next.host.desk.input = info
      ∧ next.host.desk.output = output ∧ next.host.world = world := by
  have quiet : crowd.host.desk.mode ≠ .running := by
    rw [leaving]
    nofun
  have shaped := renegotiate_of_quiet quiet differs attached free sound adopted valid
  have ran : Part.run (.reshape info) crowd.host = some (.done (.ended (.done .none) none),
      { crowd.host with world }.withDesk { crowd.host.desk with input := info, output }) := by
    show Act.bind _ _ crowd.host = _
    simp only [Act.bind, shaped]
    rfl
  have step : Call.step (.entering (.reshape info)) crowd.host
      = some (.ended (.done .none) none, { crowd.host with world }.withDesk
        { crowd.host.desk with input := info, output }) :=
    Call.step_of_run unpoisoned ran (by simp)
  have made : crowd.after? (.steps caller) = some (crowd.update caller
      (.ended (.done .none) none, { crowd.host with world }.withDesk
        { crowd.host.desk with input := info, output })) := by
    show (crowd.calls[caller]?.bind fun call => (call.step crowd.host).bind fun _ => _) = _
    rw [late, Option.bind_some, step]
    rfl
  exact ⟨_, made, flies, rfl, rfl, rfl, rfl⟩

/-- The terms of a request in flight stay the same until its outcome is recorded, unless the worker
is asked to leave in between.  From then on they are changed only by callers that hold the lock on a
handle that is closed by now, but a caller that does so has its way. -/
theorem terms_kept_until_dismissal {backend : Backend W} {id : Nat} {options : Options}
    {framework : Framework} {world : W} {live : List Nat} {host : Host W}
    (opened : backend.openAs id options framework world live = .opened host) {crowd : Crowd W}
    (reach : Reachable { host } crowd) (flies : crowd.host.InFlight) :
    (∀ later, Reachable crowd later → later.host.desk.ticket = crowd.host.desk.ticket →
        later.host.InFlight → later.host.desk.mode ≠ .leaving →
          crowd.host.SameTerms later.host)
      ∧ (∀ move next, crowd.after? move = some next → ¬ crowd.host.SameTerms next.host →
        crowd.host.desk.mode = .leaving ∧ crowd.host.engine.isOpen = false
          ∧ ∃ caller part, move.caller? = some caller
            ∧ crowd.calls[caller]? = some (.entering part))
      ∧ ∀ caller info output world', crowd.host.desk.mode = .leaving →
        crowd.calls[caller]? = some (.entering (.reshape info)) →
        crowd.host.engine.deskPoisoned = false → crowd.host.engine.backendPoisoned = false →
        info.agrees crowd.host.desk.input = false → crowd.host.desk.attached = true →
        crowd.host.engine.worker.busy = false →
        crowd.host.engine.backend.adopt info crowd.host.world = (.done output, world') →
        output.validate = .ok () →
          ∃ next, crowd.after? (.steps caller) = some next ∧ next.host.InFlight
            ∧ next.host.desk.ticket = crowd.host.desk.ticket ∧ next.host.desk.input = info
            ∧ next.host.desk.output = output ∧ next.host.world = world' := by
  have fresh := Backend.fresh_of_opened opened
  have orderly := Orderly.of_reachable fresh reach
  refine ⟨?_, ?_, ?_⟩
  · intro later onward last flies' stays
    cases Since.of_reachable orderly flies onward with
    | passed newer => omega
    | recorded _ landed => exact absurd flies' landed
    | dismissed _ leaving => exact absurd leaving stays
    | kept _ _ same => exact same
  · intro move next made changed
    rcases (moved_of_after? made).terms orderly flies with same | ⟨leaving, late⟩
    · exact absurd same changed
    · exact ⟨leaving, (Retiring.of_reachable fresh reach).leaving leaving, late⟩
  · intro caller info output world' leaving late unpoisoned sound differs attached free adopted
      valid
    exact reshaped_of_leaving flies leaving late unpoisoned sound differs attached free adopted
      valid

end Crowd

namespace CustomModel

/-- A model that takes one byte, or any other input it is given. -/
def pliable : Backend (Unit × List Question) :=
  { echoByte.backend with adopt := fun _ world => (.done echoByte.output, world) }.noting

/-- An engine on that model. -/
def pliableEngine : Host (Unit × List Question) where
  engine := {
    id := 0, framework := .custom, accelerator := .any, backend := pliable
    desk := { input := echoByte.input, output := echoByte.output, timeout := 0 } }
  world := ((), [])
  live := [0]

theorem pliable_opened : pliable.openAs 0 {} .custom ((), []) [] = .opened pliableEngine := rfl

/-- An input of two bytes. -/
def twoBytes : Descriptor := { tensors := [{ type := .uint8, shape := Shape.ofList [2] }] }

/-- A caller submits a request. -/
def submitByte : List Move := [.begins (.infer (byteTask 7).input (some 0)), .steps 0, .steps 0]

/-- Another one wants to give the engine a new input, and takes the lock only after the handle was
closed and the worker asked to leave.  Then the worker takes the request and enters its pass. -/
def lateReshape : List Move :=
  [.begins (.reshape twoBytes), .steps 1, .begins .close, .steps 2, .steps 2, .steps 1, .works,
    .works]

end CustomModel

namespace Crowd

open CustomModel in
/-- During the pass above the terms are those of its submission, also after somebody has tried to
change them in vain. -/
theorem terms_kept_in_pass : ∃ crowd later : Crowd (Unit × List Question),
    Reachable { host := pliableEngine } crowd ∧ crowd.host.InFlight ∧ Reachable crowd later
      ∧ later.host.engine.worker.busy = true
      ∧ (later.calls[1]?.any Call.isOver) = true ∧ crowd.host.SameTerms later.host := by
  have run : (Crowd.afterAll? { host := pliableEngine } submitByte).any (fun crowd =>
      crowd.host.desk.request.isSome && (crowd.afterAll?
        [.begins (.reshape twoBytes), .steps 1, .steps 1, .works, .works]).any fun later =>
          later.host.engine.worker.request?.isSome && decide (later.host.engine.worker.busy = true
            ∧ (later.calls[1]?.any Call.isOver) = true ∧ later.host.desk.mode = .running
            ∧ later.host.desk.ticket = crowd.host.desk.ticket)) = true := by
    decide +kernel
  obtain ⟨crowd, reached, seen⟩ := (Option.any_eq_true _ _).1 run
  obtain ⟨queued, seen⟩ := (Bool.and_eq_true _ _).mp seen
  obtain ⟨later, onward, seen⟩ := (Option.any_eq_true _ _).1 seen
  obtain ⟨inHand, seen⟩ := (Bool.and_eq_true _ _).mp seen
  obtain ⟨busy, ended, running, last⟩ := of_decide_eq_true seen
  have reach := reachable_of_afterAll? reached
  have flies : crowd.host.InFlight := .inl (Option.isSome_iff_ne_none.1 queued)
  have flies' : later.host.InFlight := .inr (.inl (Option.isSome_iff_ne_none.1 inHand))
  refine ⟨crowd, later, reach, flies, reachable_of_afterAll? onward, busy, ended, ?_⟩
  refine (terms_kept_until_dismissal pliable_opened reach flies).1 later
    (reachable_of_afterAll? onward) last flies' ?_
  rw [running]
  nofun

open CustomModel in
/-- A caller that comes late can give an engine another input between the submission of a request
and its pass. -/
theorem terms_changed_before_pass :
    pliable.openAs 0 {} .custom ((), []) [] = .opened pliableEngine
      ∧ ∃ (crowd later : Crowd (Unit × List Question)) (request : Request),
        Reachable { host := pliableEngine } crowd ∧ crowd.host.desk.request = some request
          ∧ Reachable crowd later ∧ later.host.engine.worker.request? = some request
          ∧ later.host.engine.worker.busy = true
          ∧ later.host.desk.input = twoBytes ∧ crowd.host.desk.input = echoByte.input
          ∧ later.host.world.2.length = crowd.host.world.2.length + 1
          ∧ ¬ crowd.host.SameTerms later.host := by
  refine ⟨pliable_opened, ?_⟩
  have run : (Crowd.afterAll? { host := pliableEngine } submitByte).any (fun crowd =>
      crowd.host.desk.request.any fun request => (crowd.afterAll? lateReshape).any fun later =>
        decide (later.host.engine.worker.request? = some request
          ∧ later.host.engine.worker.busy = true ∧ later.host.desk.input = twoBytes
          ∧ crowd.host.desk.input = echoByte.input
          ∧ later.host.world.2.length = crowd.host.world.2.length + 1)) = true := by
    decide +kernel
  obtain ⟨crowd, reached, seen⟩ := (Option.any_eq_true _ _).1 run
  obtain ⟨request, queued, seen⟩ := (Option.any_eq_true _ _).1 seen
  obtain ⟨later, onward, seen⟩ := (Option.any_eq_true _ _).1 seen
  obtain ⟨inHand, busy, reshaped, agreed, asked⟩ := of_decide_eq_true seen
  refine ⟨crowd, later, request, reachable_of_afterAll? reached, queued,
    reachable_of_afterAll? onward, inHand, busy, reshaped, agreed, asked, fun same => ?_⟩
  have kept : twoBytes = echoByte.input := reshaped.symm.trans (same.input.trans agreed)
  exact absurd kept (by decide)

end Crowd

end Inference
