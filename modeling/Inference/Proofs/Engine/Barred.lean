/-
Behind a poisoned lock.

Once the lock of an idle engine is poisoned nobody is let in any more.  Whatever is asked of the
engine fails (`Crowd.lockedOut_of_reachable`), its desk stays as it was, and its worker rests; the
one thing that can still be done is to close it, since that takes the lock regardless.
`Host.Barred` is the invariant that carries this from the crash on (`Crowd.barred_of_reachable`).
It compares the engine with what it was at first, and follows it until the worker was asked to
leave and has gone.
-/
import Inference.Proofs.Engine.Failing
import Inference.Proofs.Engine.Latecomers

namespace Inference

variable {W : Type}

/-! ### One step of a call -/

namespace Call

variable {host after : Host W} {next : Call}

/-- Whoever waits for an outcome is turned away by a poisoned lock, whether or not its time is
up. -/
theorem Goes.awaiting_of_poisoned {task : Task} {timeout ticket : Nat}
    (poisoned : host.engine.deskPoisoned = true)
    (goes : (awaiting task timeout ticket).Goes host next after) :
    next = .ended (.failed .poisonedLock) task.target ∧ after = host := by
  have received : tryReceive task ticket host
      = some (.ended (.failed .poisonedLock) task.target, host) := if_pos poisoned
  rcases goes with stepped | expired
  · cases received.symm.trans stepped
    exact ⟨rfl, rfl⟩
  · simp only [expire, received] at expired
    split at expired <;> cases expired
    exact ⟨rfl, rfl⟩

theorem Goes.entering_of_poisoned {part : Part} (poisoned : host.engine.deskPoisoned = true)
    (goes : (entering part).Goes host next after) :
    next = .ended (.failed .poisonedLock) part.target? ∧ after = host := by
  cases (step_poisoned poisoned).symm.trans (goes.step rfl)
  exact ⟨rfl, rfl⟩

/-- Behind a poisoned lock a step changes the engine only if it drops an output or closes the
engine. -/
inductive Spends (host : Host W) : Call → Host W → Prop where
  | nothing (call : Call) : Spends host call host
  | drops {output target : Frame} {answer : Outcome Fault Reply} {crash : Option String}
      {after : Host W} (drops : host.Drops [output] crash after) :
      Spends host (.dropping output answer target) after
  | closes {last : Bool} {after : Host W} (retires : host.retire = some after) :
      Spends host (.closing last) after
  | dismisses (last : Bool) :
      Spends host (.dismissing last) (host.withDesk { host.desk with mode := .leaving })
  | clears {last : Bool} {crash : Option String} {after : Host W}
      (drops : (host.withDesk (host.desk.clear last).2).Drops
        (host.desk.clear last).1 crash after) :
      Spends host (.clearing last) (after.leftBy last crash)

theorem Goes.spends {call : Call} (poisoned : host.engine.deskPoisoned = true)
    (goes : call.Goes host next after) : Spends host call after := by
  have entering {part : Part} (goes : (entering part).Goes host next after) :
      Spends host (.entering part) after := by
    rw [(goes.entering_of_poisoned poisoned).2]
    exact .nothing _
  have awaiting {task : Task} {timeout ticket : Nat}
      (goes : (awaiting task timeout ticket).Goes host next after) :
      Spends host (.awaiting task timeout ticket) after := by
    rw [(goes.awaiting_of_poisoned poisoned).2]
    exact .nothing _
  cases goes.callStep with
  | ran | submitted | faltered => exact entering goes
  | lockedOut | received | deserted => exact awaiting goes
  | copied drops => exact .drops drops
  | spoilt drops => exact .drops drops
  | retired isOpen => exact .closes (if_pos isOpen)
  | dismissed => exact .dismisses _
  | cleared drops => exact .clears drops
  | _ => exact .nothing _

end Call

/-- The frame that a call gives back that has come to the lock, for the first time or again. -/
def Call.atLock? : Call → Option (Option Frame)
  | entering part => some part.target?
  | awaiting task _ _ => some task.target
  | _ => none

namespace Call

variable {host after : Host W} {call next : Call} {target : Option Frame}

/-- Whoever has come to a poisoned lock is turned away and changes nothing. -/
theorem Goes.turned_away (here : call.atLock? = some target)
    (poisoned : host.engine.deskPoisoned = true) (goes : call.Goes host next after) :
    next = .ended (.failed .poisonedLock) target ∧ after = host := by
  cases call with
  | entering part =>
      cases here
      exact goes.entering_of_poisoned poisoned
  | awaiting task timeout ticket =>
      cases here
      exact goes.awaiting_of_poisoned poisoned
  | _ => cases here

theorem step_at_lock (here : call.atLock? = some target)
    (poisoned : host.engine.deskPoisoned = true) :
    call.step host = some (.ended (.failed .poisonedLock) target, host) := by
  cases call with
  | entering part =>
      cases here
      exact step_poisoned poisoned
  | awaiting task timeout ticket =>
      cases here
      exact if_pos poisoned
  | _ => cases here

end Call

/-! ### An operation that begins -/

/-- What becomes of an operation that begins when the lock is poisoned. -/
inductive Call.LockedOut (operation : Operation) (isOpen : Bool) : Call → Prop where
  | coming {part : Part} (begins : operation.call = .checking part) :
      LockedOut operation isOpen (.checking part)
  | waiting {part : Part} (begins : operation.call = .checking part) :
      LockedOut operation isOpen (.entering part)
  | refused {part : Part} (begins : operation.call = .checking part) :
      LockedOut operation isOpen (.ended (.failed .poisonedLock) part.target?)
  /-- The handle was closed before it came to look at it. -/
  | late {part : Part} (begins : operation.call = .checking part) (closed : isOpen = false) :
      LockedOut operation isOpen (.ended (.failed .closedHandle) part.target?)
  /-- It has brought a descriptor that cannot be used. -/
  | unusable {info : Descriptor} {reason : String} (brought : operation.shape? = some info)
      (defect : info.defect? = some reason) :
      LockedOut operation isOpen (.ended (.failed (.invalidParameter reason)) none)

namespace Call.LockedOut

variable {operation : Operation} {call next : Call} {host after : Host W}

theorem begins (other : operation ≠ .close) (isOpen : Bool) :
    operation.call.LockedOut operation isOpen := by
  have away := Operation.turnedAway other
  generalize same : operation.call = call at away
  cases away with
  | coming begins => exact .coming begins
  | refused begins => cases same.symm.trans begins
  | unusable brought defect => exact .unusable brought defect

theorem goes (h : call.LockedOut operation host.engine.isOpen)
    (poisoned : host.engine.deskPoisoned = true) (goes : call.Goes host next after) :
    next.LockedOut operation host.engine.isOpen ∧ after = host := by
  cases h with
  | coming begins =>
      have stepped := goes.step rfl
      simp only [Call.step] at stepped
      cases isOpen : host.engine.isOpen with
      | true =>
          rw [isOpen] at stepped
          cases stepped
          exact ⟨.waiting begins, rfl⟩
      | false =>
          rw [isOpen] at stepped
          cases stepped
          exact ⟨.late begins rfl, rfl⟩
  | waiting begins =>
      obtain ⟨rfl, same⟩ := goes.entering_of_poisoned poisoned
      exact ⟨.refused begins, same⟩
  | refused => cases goes.callStep
  | late => cases goes.callStep
  | unusable => cases goes.callStep

theorem isOver_or_step (h : call.LockedOut operation host.engine.isOpen)
    (poisoned : host.engine.deskPoisoned = true) :
    call.isOver = true ∨ ∃ after, call.step host = some after := by
  cases h with
  | coming => exact .inr ⟨_, rfl⟩
  | waiting => exact .inr ⟨_, step_poisoned poisoned⟩
  | refused => exact .inl rfl
  | late => exact .inl rfl
  | unusable => exact .inl rfl

theorem closes {isOpen : Bool} (h : call.LockedOut operation isOpen) :
    call.LockedOut operation false := by
  cases h with
  | coming begins => exact .coming begins
  | waiting begins => exact .waiting begins
  | refused begins => exact .refused begins
  | late begins => exact .late begins rfl
  | unusable brought defect => exact .unusable brought defect

end Call.LockedOut

/-! ### The engine since then -/

namespace Host

/-- An engine that has nothing to do and has its backend. -/
structure Rests (host : Host W) : Prop where
  idle : host.desk.mode = .idle
  empty : host.desk.request = none
  attached : host.desk.attached = true

/-- What has become of an engine with a poisoned lock that was like `first` at rest. -/
inductive Barred (host first : Host W) : Prop where
  | resting (poisoned : host.engine.deskPoisoned = true) (desk : host.desk = first.desk)
      (parked : host.engine.worker = .parked) : Barred host first
  /-- The worker was asked to leave. -/
  | asked (poisoned : host.engine.deskPoisoned = true) (leaving : host.desk.mode = .leaving)
      (empty : host.desk.request = none) (attached : host.desk.attached = true)
      (parked : host.engine.worker = .parked) : Barred host first
  | left (poisoned : host.engine.deskPoisoned = true) (leaving : host.desk.mode = .leaving)
      (empty : host.desk.request = none) (exited : host.engine.worker = .exited) :
      Barred host first

theorem leftBy_deskPoisoned {host : Host W} (poisoned : host.engine.deskPoisoned = true)
    (last : Bool) (crash : Option String) :
    (host.leftBy last crash).engine.deskPoisoned = true := by
  unfold leftBy
  split
  · unfold detach
    split
    · exact (settle_beside _).deskPoisoned.trans poisoned
    · exact poisoned
  · rfl

namespace Barred

variable {first host after : Host W}

theorem poisoned (h : host.Barred first) : host.engine.deskPoisoned = true := by
  cases h <;> assumption

theorem same (h : host.Barred first) (poisoned : after.engine.deskPoisoned = true)
    (desk : after.desk = host.desk) (worker : after.engine.worker = host.engine.worker) :
    after.Barred first := by
  cases h with
  | resting _ desk' parked => exact .resting poisoned (desk.trans desk') (worker.trans parked)
  | asked _ leaving empty attached parked =>
      rw [← desk] at leaving empty attached
      exact .asked poisoned leaving empty attached (worker.trans parked)
  | left _ leaving empty exited =>
      rw [← desk] at leaving empty
      exact .left poisoned leaving empty (worker.trans exited)

theorem beside (h : host.Barred first) (beside : host.Beside after) : after.Barred first :=
  h.same (beside.deskPoisoned.trans h.poisoned) beside.desk beside.worker

theorem clears (h : host.Barred first) (gone : host.engine.worker.gone = true)
    (tidy : host.desk.Tidy) {last : Bool} {crash : Option String} {dropped : Host W}
    (drops : (host.withDesk (host.desk.clear last).2).Drops
      (host.desk.clear last).1 crash dropped) :
    (dropped.leftBy last crash).Barred first := by
  have beside := drops.beside
  obtain ⟨_, _, _, _, desk⟩ := (leftBy_alike dropped last crash).desk
  have worker : (dropped.leftBy last crash).engine.worker = host.engine.worker :=
    (leftBy_alike dropped last crash).worker.trans beside.worker
  have poisoned := leftBy_deskPoisoned (beside.deskPoisoned.trans h.poisoned) last crash
  rw [beside.desk] at desk
  cases h with
  | resting _ _ parked => cases (parked ▸ gone : Worker.gone .parked = true)
  | asked _ _ _ _ parked => cases (parked ▸ gone : Worker.gone .parked = true)
  | left _ leaving empty exited =>
      refine .left poisoned ?_ ?_ (worker.trans exited)
      · rw [desk]
        obtain ⟨-, clear⟩ | ⟨-, clear⟩ := Desk.clear_cases tidy last <;>
          rw [clear] <;> exact leaving
      · rw [desk]
        obtain ⟨-, clear⟩ | ⟨-, clear⟩ := Desk.clear_cases tidy last <;> rw [clear]
        · exact empty
        · rfl

/-- A step of a call leaves the desk as it was, or leads on to its end. -/
theorem spends (h : host.Barred first) (rests : first.Rests) {call : Call}
    (gone : ∀ last, call = .clearing last → host.engine.worker.gone = true)
    (tidy : host.desk.Tidy) (spends : Call.Spends host call after) : after.Barred first := by
  cases spends with
  | nothing => exact h
  | drops drops => exact h.beside drops.beside
  | closes retires =>
      unfold retire at retires
      split at retires <;> cases retires
      exact h.same h.poisoned rfl rfl
  | dismisses =>
      cases h with
      | resting poisoned desk parked =>
          refine .asked poisoned rfl ?_ ?_ parked
          · exact (congrArg Desk.request desk).trans rests.empty
          · exact (congrArg Desk.attached desk).trans rests.attached
      | asked poisoned leaving empty attached parked =>
          exact .asked poisoned rfl empty attached parked
      | left poisoned leaving empty exited => exact .left poisoned rfl empty exited
  | clears drops => exact h.clears (gone _ rfl) tidy drops

/-- The worker rests until it is asked to leave. -/
theorem still (h : host.Barred first) (rests : first.Rests) (stays : host.desk.mode ≠ .leaving) :
    host.desk = first.desk ∧ host.engine.worker = .parked ∧ host.stepWorker = none := by
  cases h with
  | resting _ desk parked =>
      have idle : host.desk.mode = .idle := desk ▸ rests.idle
      refine ⟨desk, parked, ?_⟩
      simp only [stepWorker, parked, wake, idle]
  | asked _ leaving => exact absurd leaving stays
  | left _ leaving => exact absurd leaving stays

/-- Then it goes with its next step. -/
theorem leaves (h : host.Barred first) (rests : first.Rests) (leaving : host.desk.mode = .leaving) :
    host.desk.request = none
      ∧ (host.engine.worker = .exited ∨ host.engine.worker = .parked ∧ host.desk.attached = true
        ∧ host.stepWorker = some (host.withWorker .exited)) := by
  cases h with
  | resting _ desk =>
      cases leaving.symm.trans (desk ▸ rests.idle : host.desk.mode = .idle)
  | asked _ _ empty attached parked =>
      refine ⟨empty, .inr ⟨parked, attached, ?_⟩⟩
      simp only [stepWorker, parked, wake, leaving, empty]
  | left _ _ empty exited => exact ⟨empty, .inl exited⟩

theorem works (h : host.Barred first) (rests : first.Rests) (made : host.stepWorker = some after) :
    after.Barred first := by
  by_cases leaving : host.desk.mode = .leaving
  · obtain ⟨empty, exited | ⟨-, -, step⟩⟩ := h.leaves rests leaving
    · rw [stepWorker, exited] at made
      cases made
    · cases step.symm.trans made
      exact .left h.poisoned leaving empty rfl
  · cases (h.still rests leaving).2.2.symm.trans made

theorem free (h : host.Barred first) : host.engine.worker.busy = false := by
  cases h with
  | resting _ _ parked => rw [parked]; rfl
  | asked _ _ _ _ parked => rw [parked]; rfl
  | left _ _ _ exited => rw [exited]; rfl

end Barred

end Host

namespace Crowd

variable {crowd next later : Crowd W} {first : Host W} {move : Move}

/-- No move lets anybody in. -/
theorem barred_of_after? (barred : crowd.host.Barred first) (rests : first.Rests)
    (orderly : crowd.Orderly) (winding : crowd.Winding) (made : crowd.after? move = some next) :
    next.host.Barred first := by
  cases moved_of_after? made with
  | began => exact barred
  | gaveUp => exact barred
  | dropped _ drops => exact barred.beside drops.beside
  | worked =>
      obtain ⟨host, worked, same⟩ := Option.map_eq_some_iff.1 made
      cases same
      exact barred.works rests worked
  | called mover =>
      obtain ⟨call, after, host, found, goes, same⟩ := goes_of_after? made mover
      rw [same]
      refine barred.spends rests (fun last here => ?_) orderly.ordered.tidy
        (goes.spends barred.poisoned)
      exact winding.clearing _ last (here ▸ found)

theorem barred_of_reachable {backend : Backend W} {host : Host W} (fresh : host.Fresh backend)
    (reach : Reachable { host } crowd) (barred : crowd.host.Barred first) (rests : first.Rests)
    (onward : Reachable crowd later) : later.host.Barred first := by
  induction onward with
  | refl => exact barred
  | step before move made ih =>
      have whole := reach.trans before
      exact barred_of_after? ih rests (.of_reachable fresh whole) (.of_reachable fresh whole) made

/-- Until the worker is asked to leave, the engine has its backend. -/
theorem attached_of_reachable {backend : Backend W} {host : Host W} (fresh : host.Fresh backend)
    (reach : Reachable { host } crowd) (stays : crowd.host.desk.mode ≠ .leaving) :
    crowd.host.desk.attached = true := by
  induction reach with
  | refl =>
      obtain ⟨_, _, _, desk⟩ := fresh.desk
      show host.desk.attached = true
      rw [desk]
  | @step crowd next before move made ih =>
      have moved := moved_of_after? made
      have orderly := Orderly.of_reachable fresh before
      have attached := ih fun leaving => stays (moved.leaving orderly leaving)
      cases moved with
      | began => exact attached
      | gaveUp => exact attached
      | dropped _ drops => exact (congrArg Desk.attached drops.beside.desk).trans attached
      | worked step =>
          obtain ⟨_, _, _, _, _, desk⟩ := step.desk
          exact (congrArg Desk.attached desk).trans attached
      | @called _ caller call _ _ mover found step =>
          rcases step.attached orderly.ordered with same | ⟨last, rfl⟩
          · exact same.trans attached
          · have leaving := (Retiring.of_reachable fresh before).patient caller _ found rfl
            exact absurd (step.leaving orderly.ordered leaving) stays

theorem rests_of_idle {backend : Backend W} {host : Host W} (fresh : host.Fresh backend)
    (reach : Reachable { host } crowd) (idle : crowd.host.desk.mode = .idle) :
    crowd.host.Rests ∧ crowd.host.engine.worker = .parked := by
  obtain ⟨parked, empty⟩ := (Orderly.of_reachable fresh reach).ordered.idle idle
  exact ⟨⟨idle, empty, attached_of_reachable fresh reach (by rw [idle]; nofun)⟩, parked⟩

/-! ### As long as it is open -/

/-- What a move does to an open engine with a poisoned lock. -/
inductive Idles (crowd : Crowd W) : Move → Host W → Prop where
  | nothing (move : Move) : Idles crowd move crowd.host
  | dropped {caller : Nat} {output : Frame} {crash : Option String} {after : Host W}
      (held : crowd.held? caller = some output) (drops : crowd.host.Drops [output] crash after) :
      Idles crowd (.drops caller) after
  /-- A call that was given its output before drops it, once it is copied. -/
  | copied {caller : Nat} {output target : Frame} {answer : Outcome Fault Reply}
      {crash : Option String} {after : Host W}
      (found : crowd.calls[caller]? = some (.dropping output answer target))
      (drops : crowd.host.Drops [output] crash after) : Idles crowd (.steps caller) after
  | closed {caller : Nat} {last : Bool} {after : Host W}
      (found : crowd.calls[caller]? = some (.closing last))
      (retires : crowd.host.retire = some after) : Idles crowd (.steps caller) after

theorem Retiring.stays (h : crowd.Retiring) (isOpen : crowd.host.engine.isOpen = true) :
    crowd.host.desk.mode ≠ .leaving := fun leaving => by
  cases (h.leaving leaving).symm.trans isOpen

theorem idles_of_after? (barred : crowd.host.Barred first) (rests : first.Rests)
    (retiring : crowd.Retiring) (isOpen : crowd.host.engine.isOpen = true)
    (made : crowd.after? move = some next) : crowd.Idles move next.host := by
  have stays := retiring.stays isOpen
  cases move with
  | begins operation =>
      cases moved_of_after? made with
      | called mover => cases mover
      | began => exact .nothing _
  | givesUp =>
      cases moved_of_after? made with
      | called mover => cases mover
      | gaveUp => exact .nothing _
  | works =>
      obtain ⟨host, worked, -⟩ := Option.map_eq_some_iff.1 made
      cases (barred.still rests stays).2.2.symm.trans worked
  | drops caller =>
      cases moved_of_after? made with
      | called mover => cases mover
      | dropped held drops => exact .dropped held drops
  | expires caller =>
      obtain ⟨call, -, made⟩ := Option.bind_eq_some_iff.1 made
      obtain ⟨⟨after, host⟩, expired, ⟨⟩⟩ := Option.bind_eq_some_iff.1 made
      cases call with
      | awaiting =>
          have same := (Call.Goes.awaiting_of_poisoned barred.poisoned (.inr expired)).2
          show crowd.Idles _ host
          rw [same]
          exact .nothing _
      | _ => cases expired
  | steps caller =>
      obtain ⟨call, found, made⟩ := Option.bind_eq_some_iff.1 made
      obtain ⟨⟨after, host⟩, stepped, ⟨⟩⟩ := Option.bind_eq_some_iff.1 made
      have goes : call.Goes crowd.host after host := .inl stepped
      show crowd.Idles _ host
      cases goes.spends barred.poisoned with
      | nothing => exact .nothing _
      | drops drops => exact .copied found drops
      | closes retires => exact .closed found retires
      | dismisses => cases (retiring.closed caller _ found rfl).symm.trans isOpen
      | clears => cases (retiring.closed caller _ found rfl).symm.trans isOpen

theorem Idles.isOpen {after : Host W} (idles : crowd.Idles move after)
    (isOpen : crowd.host.engine.isOpen = true) : after.engine.isOpen = true
      ∨ ∃ caller last, move = .steps caller ∧ crowd.calls[caller]? = some (.closing last) := by
  cases idles with
  | nothing => exact .inl isOpen
  | dropped _ drops => exact .inl (drops.beside.isOpen.trans isOpen)
  | copied _ drops => exact .inl (drops.beside.isOpen.trans isOpen)
  | closed found => exact .inr ⟨_, _, rfl, found⟩

/-- An operation that begins when the lock is poisoned never gets past it. -/
theorem lockedOut_of_reachable {backend : Backend W} {host : Host W} (fresh : host.Fresh backend)
    (reach : Reachable { host } crowd) (barred : crowd.host.Barred first) (rests : first.Rests)
    {operation : Operation} (other : operation ≠ .close)
    (made : crowd.after? (.begins operation) = some next) (onward : Reachable next later) :
    ∃ call, later.calls[crowd.calls.length]? = some call
      ∧ call.LockedOut operation later.host.engine.isOpen := by
  have reach' := reach.step _ made
  have barred' := barred_of_reachable fresh reach barred rests (.step .refl _ made)
  induction onward with
  | refl =>
      cases turn_of_after? made with
      | aside quiet => cases quiet
      | went mover => cases mover
      | began =>
          exact ⟨_, List.getElem?_concat_length, .begins other _⟩
  | @step middle last before move made ih =>
      obtain ⟨call, found, out⟩ := ih
      have poisoned := (barred_of_reachable fresh reach' barred' rests before).poisoned
      -- The handle may have been closed meanwhile, but it is not opened again.
      have onward {call : Call} (out : call.LockedOut operation middle.host.engine.isOpen) :
          call.LockedOut operation last.host.engine.isOpen := by
        cases isOpen : last.host.engine.isOpen with
        | false => exact out.closes
        | true =>
            cases before : middle.host.engine.isOpen with
            | true => exact before ▸ out
            | false => cases ((moved_of_after? made).stays_closed before).symm.trans isOpen
      rcases (turn_of_after? made).call found with still | ⟨after, -, goes, ends⟩
      · exact ⟨call, still, onward out⟩
      · exact ⟨after, ends, onward (out.goes poisoned goes).1⟩

end Crowd

end Inference
