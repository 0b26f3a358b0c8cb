/-
How an engine is retired.

Retiring goes by stages: the handle is closed, the worker is asked to leave, the worker goes, and
the desk is cleared.  Each stage is reached by a step of one call and never undone
(`CallStep.closes`, `CallStep.retires`, `CallStep.dismisses`).  `Crowd.Retiring` relates the stages
to the calls that are at them, so that what is known of one who closes is known of the engine and
the other way round, under every schedule by `Crowd.Retiring.of_reachable`.
-/
import Inference.Proofs.Engine.Closing

namespace Inference

variable {W : Type}

namespace Call

/-- Whether the call has closed the handle, or goes on for one who has. -/
def isRetiring : Call → Bool
  | dismissing _ | expecting _ | clearing _ => true
  | _ => false

/-- Whether the worker was asked to leave before the call came this far. -/
def isPatient : Call → Bool
  | expecting _ | clearing _ => true
  | _ => false

theorem isRetiring_of_isPatient {call : Call} (h : call.isPatient = true) :
    call.isRetiring = true := by
  cases call with
  | expecting => rfl
  | clearing => rfl
  | _ => cases h

theorem isRetiring_onward {call : Call} {task : Option Task} (h : call.Onward task) :
    call.isRetiring = false := by
  cases h <;> rfl

theorem isRetiring_receive (task : Task) (result : Except Fault Frame) :
    (receive task result).isRetiring = false := by
  rcases receive_cases task result with ⟨_, _, _, same⟩ | ⟨_, _, same⟩ <;> rw [same] <;> rfl

end Call

theorem Operation.isRetiring_call (operation : Operation) : operation.call.isRetiring = false := by
  rcases operation.call_cases with ⟨_, same⟩ | ⟨_, same⟩ | same <;> rw [same] <;> rfl

/-! ### The mode -/

/-- A call changes the mode when it submits, and when it asks the worker to leave. -/
theorem CallStep.mode {call next : Call} {host after : Host W}
    (step : CallStep call host next after) (ordered : Ordered host.desk host.engine.worker) :
    after.desk.mode = host.desk.mode
      ∨ (host.desk.mode = .idle ∧ after.desk.mode = .running)
      ∨ ∃ last, call = .dismissing last ∧ next = .expecting last ∧ after.desk.mode = .leaving := by
  have still {after : Host W} (alike : host.Alike after) :
      after.desk.mode = host.desk.mode := by
    obtain ⟨_, _, _, _, desk⟩ := alike.desk
    rw [desk]
  cases step with
  | ran _ touched => exact .inl (still touched.alike)
  | submitted tuned _ idle _ _ drops =>
      have desk := (ordered.cleared tuned idle drops).2.2
      exact .inr (.inl ⟨(still tuned.alike).symm.trans idle, congrArg Desk.mode desk⟩)
  | faltered tuned idle drops =>
      have desk := (ordered.cleared tuned idle drops).2.2
      exact .inr (.inl ⟨(still tuned.alike).symm.trans idle, congrArg Desk.mode desk⟩)
  | received _ collected =>
      rw [(Desk.collect_of_tidy ordered.tidy collected).1]
      exact .inl rfl
  | copied drops => exact .inl (still drops.beside.alike)
  | spoilt drops => exact .inl (still drops.beside.alike)
  | dismissed => exact .inr (.inr ⟨_, rfl, rfl, rfl⟩)
  | @cleared last _ after crash _ drops _ =>
      obtain ⟨_, _, _, _, desk⟩ := (Host.leftBy_alike after last crash).desk
      refine .inl ?_
      rw [desk, drops.beside.desk]
      cases last <;> rfl
  | _ => exact .inl rfl

theorem Host.deliver_mode (host : Host W) (ticket : Nat) (produced : Except Fault Frame) :
    (host.deliver ticket produced).desk.mode = host.desk.mode := by
  unfold deliver
  split
  · rfl
  · simp only
    split <;> rfl

/-- The worker changes the mode only when it is through with a request. -/
theorem WorkerStep.mode {host after : Host W} (step : WorkerStep host after) :
    after.desk.mode = host.desk.mode ∨ after.desk.mode = host.desk.mode.finish := by
  cases step with
  | rested => exact .inr rfl
  | @finished request _ _ lending pass world _ _ _ _ ended =>
      cases ended with
      | @returned _ middle _ back =>
          exact .inl (congrArg Desk.mode (Host.beside_of_release back).desk)
      | @broke _ _ middle _ back =>
          exact .inl (congrArg Desk.mode (Host.beside_of_release back).desk)
      | _ => exact .inl rfl
  | @recorded request produced _ _ recorded =>
      cases recorded with
      | delivered => exact .inr (congrArg Mode.finish (host.deliver_mode request.ticket produced))
      | ignored => exact .inr rfl
      | @returned _ middle _ _ back =>
          have desk : middle.desk = host.unmarked.desk := (Host.beside_of_takeBack back).desk
          have mode : middle.desk.mode = host.unmarked.desk.mode := congrArg Desk.mode desk
          exact .inr (congrArg Mode.finish mode)
      | @broke _ _ middle _ _ back =>
          have desk : middle.desk = host.unmarked.desk := (Host.beside_of_takeBack back).desk
          have mode : middle.desk.mode = host.unmarked.desk.mode := congrArg Desk.mode desk
          exact .inl mode
  | _ => exact .inl rfl

theorem Mode.finish_eq_leaving {mode : Mode} : mode.finish = .leaving ↔ mode = .leaving := by
  cases mode <;> decide

/-- The worker asks nobody to leave, and does not change its mind. -/
theorem WorkerStep.leaving {host after : Host W} (step : WorkerStep host after) :
    after.desk.mode = .leaving ↔ host.desk.mode = .leaving := by
  rcases step.mode with same | same
  · rw [same]
  · rw [same]
    exact Mode.finish_eq_leaving

namespace CallStep

variable {call next : Call} {host after : Host W}

theorem leaving (step : CallStep call host next after)
    (ordered : Ordered host.desk host.engine.worker) (h : host.desk.mode = .leaving) :
    after.desk.mode = .leaving := by
  rcases step.mode ordered with same | ⟨idle, -⟩ | ⟨_, -, -, leaving⟩
  · exact same.trans h
  · cases h.symm.trans idle
  · exact leaving

theorem stays_closed (step : CallStep call host next after) (h : host.engine.isOpen = false) :
    after.engine.isOpen = false := by
  cases step with
  | ran _ touched => exact touched.alike.isOpen.trans h
  | submitted tuned _ _ _ _ drops => exact (drops.beside.isOpen.trans tuned.alike.isOpen).trans h
  | faltered tuned _ drops => exact (drops.beside.isOpen.trans tuned.alike.isOpen).trans h
  | copied drops => exact drops.beside.isOpen.trans h
  | spoilt drops => exact drops.beside.isOpen.trans h
  | retired => rfl
  | cleared drops => exact ((Host.leftBy_alike _ _ _).isOpen.trans drops.beside.isOpen).trans h
  | _ => exact h

/-- A handle that is closed by a step is about to be seen to. -/
theorem closes (step : CallStep call host next after) (h : host.engine.isOpen = true)
    (closed : after.engine.isOpen = false) : ∃ last, call = .closing last ∧ next = .dismissing last
      ∧ after.desk = host.desk := by
  have fixed (alike : host.Alike after) : False := by
    cases (closed.symm.trans alike.isOpen).trans h
  cases step with
  | ran _ touched => exact (fixed touched.alike).elim
  | submitted tuned _ _ _ _ drops =>
      cases closed.symm.trans ((drops.beside.isOpen.trans tuned.alike.isOpen).trans h)
  | faltered tuned _ drops =>
      cases closed.symm.trans ((drops.beside.isOpen.trans tuned.alike.isOpen).trans h)
  | copied drops => exact (fixed drops.beside.alike).elim
  | spoilt drops => exact (fixed drops.beside.alike).elim
  | retired => exact ⟨_, rfl, rfl, rfl⟩
  | cleared drops =>
      cases closed.symm.trans (((Host.leftBy_alike _ _ _).isOpen.trans drops.beside.isOpen).trans h)
  | _ => cases closed.symm.trans h

/-- Whoever sees to a closed handle has done so before, or has just found it open or closed. -/
theorem retires (step : CallStep call host next after) (h : next.isRetiring = true) :
    call.isRetiring = true
      ∨ (∃ last, call = .closing last ∧ next = .dismissing last ∧ after.engine.isOpen = false)
      ∨ call = .closing true ∧ next = .clearing true ∧ host.engine.isOpen = false := by
  cases step with
  | checked onward => cases (Call.isRetiring_onward onward).symm.trans h
  | ran onward => cases (Call.isRetiring_onward onward).symm.trans h
  | received => cases (Call.isRetiring_receive _ _).symm.trans h
  | retired => exact .inr (.inl ⟨_, rfl, rfl, rfl⟩)
  | inherited closed => exact .inr (.inr ⟨rfl, rfl, closed⟩)
  | dismissed => exact .inl rfl
  | parted => exact .inl rfl
  | _ => cases h

theorem patient (step : CallStep call host next after) (h : next.isPatient = true) :
    call.isPatient = true ∨ after.desk.mode = .leaving
      ∨ call = .closing true ∧ next = .clearing true ∧ host.engine.isOpen = false := by
  have retiring := Call.isRetiring_of_isPatient h
  cases step with
  | checked onward => cases (Call.isRetiring_onward onward).symm.trans retiring
  | ran onward => cases (Call.isRetiring_onward onward).symm.trans retiring
  | received => cases (Call.isRetiring_receive _ _).symm.trans retiring
  | inherited closed => exact .inr (.inr ⟨rfl, rfl, closed⟩)
  | dismissed => exact .inr (.inl rfl)
  | parted => exact .inl rfl
  | _ => cases h

/-- Whoever is about to ask the worker to leave does so with its next step. -/
theorem dismisses {last : Bool} (step : CallStep (.dismissing last) host next after) :
    after.desk.mode = .leaving := by
  cases step
  rfl

end CallStep

namespace Crowd

section moves

variable {crowd next : Crowd W} {move : Move}

theorem Moved.leaving (moved : crowd.Moved move next) (orderly : crowd.Orderly)
    (h : crowd.host.desk.mode = .leaving) : next.host.desk.mode = .leaving := by
  cases moved with
  | began => exact h
  | called _ _ step => exact step.leaving orderly.ordered h
  | worked step => exact step.leaving.2 h
  | @dropped _ _ _ host _ drops => exact (congrArg Desk.mode drops.beside.desk).trans h
  | gaveUp => exact h

theorem Moved.stays_closed (moved : crowd.Moved move next)
    (closed : crowd.host.engine.isOpen = false) : next.host.engine.isOpen = false := by
  cases moved with
  | began => exact closed
  | called _ _ step => exact step.stays_closed closed
  | worked step => exact step.isOpen.trans closed
  | dropped _ drops => exact drops.beside.isOpen.trans closed
  | gaveUp => exact closed

end moves

/-- How far the closing of a handle has come. -/
structure Retiring (crowd : Crowd W) : Prop where
  /-- Only a closed handle is seen to. -/
  closed : ∀ (caller : Nat) (call : Call), crowd.calls[caller]? = some call →
    call.isRetiring = true → crowd.host.engine.isOpen = false
  /-- Nobody waits for a worker that was not asked to leave. -/
  patient : ∀ (caller : Nat) (call : Call), crowd.calls[caller]? = some call →
    call.isPatient = true → crowd.host.desk.mode = .leaving
  /-- The worker is not asked to leave before the handle is closed. -/
  leaving : crowd.host.desk.mode = .leaving → crowd.host.engine.isOpen = false
  /-- When it is, the worker was asked, or somebody is about to. -/
  seenTo : crowd.host.engine.isOpen = false → crowd.host.desk.mode = .leaving
    ∨ ∃ (caller : Nat) (last : Bool), crowd.calls[caller]? = some (.dismissing last)

namespace Retiring

variable {crowd next : Crowd W}

theorem appended (h : crowd.Retiring) {call : Call} {givenUp : Bool}
    (fresh : call.isRetiring = false) :
    Retiring { crowd with calls := crowd.calls ++ [call], givenUp } where
  closed caller call' found retiring := by
    rcases getElem?_append_cases found with old | ⟨-, rfl⟩
    · exact h.closed caller call' old retiring
    · cases fresh.symm.trans retiring
  patient caller call' found patient := by
    rcases getElem?_append_cases found with old | ⟨-, rfl⟩
    · exact h.patient caller call' old patient
    · cases fresh.symm.trans (Call.isRetiring_of_isPatient patient)
  leaving := h.leaving
  seenTo closed := by
    rcases h.seenTo closed with leaving | ⟨caller, last, found⟩
    · exact .inl leaving
    · exact .inr ⟨caller, last, getElem?_append_of_some found⟩

theorem aside (h : crowd.Retiring) (calls : next.calls = crowd.calls)
    (isOpen : next.host.engine.isOpen = crowd.host.engine.isOpen)
    (mode : next.host.desk.mode = .leaving ↔ crowd.host.desk.mode = .leaving) : next.Retiring where
  closed := by
    rw [calls, isOpen]
    exact h.closed
  patient := by
    rw [calls, mode]
    exact h.patient
  leaving := by
    rw [mode, isOpen]
    exact h.leaving
  seenTo := by
    rw [isOpen, mode, calls]
    exact h.seenTo

/-- A last user finds that the worker of a closed handle was asked to leave: whoever closed it is
through. -/
theorem leaving_of_alone (h : crowd.Retiring) (winding : crowd.Winding) {caller : Nat}
    (found : crowd.calls[caller]? = some (.closing true))
    (closed : crowd.host.engine.isOpen = false) :
    crowd.host.desk.mode = .leaving := by
  rcases h.seenTo closed with leaving | ⟨other, last, foundOther⟩
  · exact leaving
  · by_cases same : other = caller
    · subst same
      cases found.symm.trans foundOther
    · have ended := (winding.alone caller _ found rfl).2 other _ same foundOther
      cases ended

theorem called {caller : Nat} {call after : Call} {host : Host W} (h : crowd.Retiring)
    (orderly : crowd.Orderly) (winding : crowd.Winding) (found : crowd.calls[caller]? = some call)
    (step : CallStep call crowd.host after host) :
    (crowd.update caller (after, host)).Retiring where
  closed other call' foundOther retiring := by
    show host.engine.isOpen = false
    rcases update_cases found foundOther with ⟨rfl, rfl⟩ | ⟨-, old⟩
    · rcases step.retires retiring with before | ⟨_, -, -, closed⟩ | ⟨-, -, closed⟩
      · exact step.stays_closed (h.closed caller call found before)
      · exact closed
      · exact step.stays_closed closed
    · exact step.stays_closed (h.closed other call' old retiring)
  patient other call' foundOther patient := by
    show host.desk.mode = .leaving
    rcases update_cases found foundOther with ⟨rfl, rfl⟩ | ⟨-, old⟩
    · rcases step.patient patient with before | leaving | ⟨rfl, -, closed⟩
      · exact step.leaving orderly.ordered (h.patient caller call found before)
      · exact leaving
      · exact step.leaving orderly.ordered (h.leaving_of_alone winding found closed)
    · exact step.leaving orderly.ordered (h.patient other call' old patient)
  leaving leaving := by
    change host.desk.mode = .leaving at leaving
    show host.engine.isOpen = false
    rcases step.mode orderly.ordered with same | ⟨-, running⟩ | ⟨last, rfl, -, -⟩
    · exact step.stays_closed (h.leaving (same.symm.trans leaving))
    · cases leaving.symm.trans running
    · exact step.stays_closed (h.closed caller _ found rfl)
  seenTo closed := by
    change host.engine.isOpen = false at closed
    show host.desk.mode = .leaving ∨ _
    have calls := getElem?_update found (after, host)
    cases isOpen : crowd.host.engine.isOpen with
    | true =>
        -- Whoever closes the handle is the one that is about to ask the worker to leave.
        obtain ⟨last, rfl, rfl, -⟩ := step.closes isOpen closed
        refine .inr ⟨caller, last, ?_⟩
        rw [calls, if_pos rfl]
    | false =>
        rcases h.seenTo isOpen with leaving | ⟨other, last, foundOther⟩
        · exact .inl (step.leaving orderly.ordered leaving)
        · by_cases same : caller = other
          · subst same
            cases found.symm.trans foundOther
            exact .inl step.dismisses
          · refine .inr ⟨other, last, ?_⟩
            rw [calls, if_neg same]
            exact foundOther

/-- No move is out of turn. -/
theorem moved {move : Move} (h : crowd.Retiring) (orderly : crowd.Orderly)
    (winding : crowd.Winding) (moved : crowd.Moved move next) : next.Retiring := by
  cases moved with
  | began operation => exact h.appended operation.isRetiring_call
  | called _ found step => exact h.called orderly winding found step
  | worked step => exact h.aside rfl step.isOpen step.leaving
  | dropped _ drops =>
      refine h.aside rfl drops.beside.isOpen ?_
      show Desk.mode (Host.desk _) = _ ↔ _
      rw [drops.beside.desk]
  | gaveUp => exact h.appended rfl

/-- Engines are retired stage by stage, under every schedule. -/
theorem of_reachable {backend : Backend W} {host : Host W} (fresh : host.Fresh backend)
    (reach : Reachable { host } crowd) : crowd.Retiring := by
  have all := @Reachable.keeps W _ _ (fun crowd : Crowd W => (crowd.Orderly ∧ crowd.Winding)
    ∧ crowd.Retiring) reach ?_ ?_
  · exact all.2
  · obtain ⟨_, _, _, desk⟩ := fresh.desk
    refine ⟨⟨.of_reachable fresh .refl, .of_reachable fresh .refl⟩, ?_⟩
    exact {
      closed := by
        intro caller call found
        simp at found
      patient := by
        intro caller call found
        simp at found
      leaving := by
        intro leaving
        change host.desk.mode = .leaving at leaving
        rw [desk] at leaving
        cases leaving
      seenTo := by
        intro closed
        cases fresh.isOpen.symm.trans closed }
  · rintro crowd next move ⟨⟨orderly, winding⟩, retiring⟩ moved
    exact ⟨⟨orderly.moved moved, winding.moved moved⟩, retiring.moved orderly winding moved⟩

end Retiring

end Crowd

end Inference
