/-
What the table of live handles sees of an engine.

It sees the identifier, the marker, and the table itself.  All three stay as they are under every
move but one: the step by which a call that is about to close the handle finds it open.  That step
clears the marker and takes the identifier off the table (`CallStep.closing`,
`Crowd.Moved.closing`), and the call goes on to dismiss the worker; so the calls tell how often a
handle was closed.
-/
import Inference.Proofs.Engine.Handles
import Inference.Proofs.Engine.Retirement

namespace Inference

variable {W : Type}

namespace Call

/-- Whether the call is about to close the handle. -/
def isClosing : Call → Bool
  | closing _ => true
  | _ => false

/-- Whether the call has closed the handle just now. -/
def isDismissing : Call → Bool
  | dismissing _ => true
  | _ => false

end Call

namespace Host

variable {host after : Host W}

/-- The identifier of the engine, its marker, and the table. -/
def entry (host : Host W) : Nat × Bool × List Nat := (host.engine.id, host.engine.isOpen, host.live)

theorem entry_eq (constants : after.engine.constants = host.engine.constants)
    (live : after.live = host.live) : after.entry = host.entry := by
  have id : after.engine.id = host.engine.id := congrArg (·.2.1) constants
  have isOpen : after.engine.isOpen = host.engine.isOpen := congrArg (·.1) constants
  unfold entry
  rw [id, isOpen, live]

theorem Beside.entry (beside : host.Beside after) : after.entry = host.entry :=
  entry_eq beside.alike.constants beside.live

theorem Tuned.entry (tuned : host.Tuned after) : after.entry = host.entry :=
  entry_eq tuned.alike.constants tuned.live

theorem leftBy_entry (host : Host W) (last : Bool) (crash : Option String) :
    (host.leftBy last crash).entry = host.entry :=
  entry_eq (host.leftBy_alike last crash).constants (host.leftBy_live last crash)

end Host

theorem WorkerStep.entry {host after : Host W} (step : WorkerStep host after) :
    after.entry = host.entry :=
  Host.entry_eq step.constants step.live

namespace CallStep

variable {call next : Call} {host after : Host W}

/-- A step by which a handle is closed clears the marker, which was set, and takes the handle off
the table. -/
theorem closing (step : CallStep call host next after) (before : call.isClosing = true)
    (done : next.isDismissing = true) :
    host.engine.isOpen = true
      ∧ after.entry = (host.engine.id, false, host.live.filter (· != host.engine.id)) := by
  cases step with
  | retired isOpen => exact ⟨isOpen, rfl⟩
  | refused => cases done
  | inherited => cases done
  | _ => cases before

theorem entry (step : CallStep call host next after)
    (other : (call.isClosing && next.isDismissing) = false) : after.entry = host.entry := by
  cases step with
  | ran _ touched => exact Host.entry_eq touched.alike.constants touched.live
  | @submitted task _ _ _ dropped _ tuned _ _ _ _ drops =>
      exact (drops.beside.entry : dropped.entry = _).trans tuned.entry
  | @faltered _ _ _ _ after _ tuned _ drops =>
      exact (drops.beside.entry : after.entry = _).trans tuned.entry
  | copied drops => exact drops.beside.entry
  | spoilt drops => exact drops.beside.entry
  | retired => cases other
  | @cleared last _ after crash _ drops =>
      exact (after.leftBy_entry last crash).trans drops.beside.entry
  | _ => rfl

/-- The last user of an open handle closes it. -/
theorem closes_last (step : CallStep (.closing true) host next after)
    (isOpen : host.engine.isOpen = true) : after.engine.isOpen = false := by
  cases step with
  | retired => rfl
  | inherited closed => cases closed.symm.trans isOpen

end CallStep

namespace Crowd

variable {crowd next : Crowd W} {move : Move}

/-- Whether a move closes the handle: the call whose move it is was about to close it, and is now
about to dismiss the worker. -/
def closedBy (crowd : Crowd W) (move : Move) (next : Crowd W) : Bool :=
  match move.caller? with
  | some caller => crowd.calls[caller]?.any Call.isClosing
      && next.calls[caller]?.any Call.isDismissing
  | none => false

theorem closedBy_update {caller : Nat} {call after : Call} {host : Host W}
    (mover : move.caller? = some caller) (found : crowd.calls[caller]? = some call) :
    crowd.closedBy move (crowd.update caller (after, host))
      = (call.isClosing && after.isDismissing) := by
  unfold closedBy
  rw [mover]
  simp only [found, getElem?_update found, if_pos, Option.any_some]

/-- A move that closes the handle finds the marker set, clears it, and takes the handle off the
table. -/
theorem Moved.closing (moved : crowd.Moved move next) (closes : crowd.closedBy move next = true) :
    crowd.host.engine.isOpen = true ∧ next.host.entry
      = (crowd.host.engine.id, false, crowd.host.live.filter (· != crowd.host.engine.id)) := by
  cases moved with
  | called mover found step =>
      rw [closedBy_update mover found, Bool.and_eq_true] at closes
      exact step.closing closes.1 closes.2
  | _ => cases closes

theorem Moved.entry (moved : crowd.Moved move next) (other : crowd.closedBy move next = false) :
    next.host.entry = crowd.host.entry := by
  cases moved with
  | began => rfl
  | called mover found step =>
      rw [closedBy_update mover found] at other
      exact step.entry other
  | worked step => exact step.entry
  | dropped _ drops => exact drops.beside.entry
  | gaveUp => rfl

/-! ### Giving up an open handle -/

/-- Whoever has given up a handle that is still open is about to close it. -/
def Parting (crowd : Crowd W) : Prop :=
  crowd.givenUp = true → crowd.host.engine.isOpen = true →
    ∃ caller : Nat, crowd.calls[caller]? = some (.closing true)

theorem Moved.isOpen_of_isOpen (moved : crowd.Moved move next)
    (isOpen : next.host.engine.isOpen = true) : crowd.host.engine.isOpen = true := by
  cases before : crowd.host.engine.isOpen with
  | true => rfl
  | false => cases (moved.stays_closed before).symm.trans isOpen

theorem Moved.parting (moved : crowd.Moved move next) (h : crowd.Parting) : next.Parting := by
  intro givenUp isOpen
  have before := moved.isOpen_of_isOpen isOpen
  cases moved with
  | began _ kept => cases kept.symm.trans givenUp
  | @called _ mover call after host _ found step =>
      obtain ⟨caller, about⟩ := h givenUp before
      -- The one that is about to close the handle has not done so, or the handle would be closed.
      have other : mover ≠ caller := by
        rintro rfl
        cases found.symm.trans about
        cases (step.closes_last before).symm.trans isOpen
      refine ⟨caller, ?_⟩
      rw [getElem?_update found, if_neg other]
      exact about
  | worked => exact h givenUp before
  | dropped => exact h givenUp before
  | gaveUp =>
      refine ⟨crowd.calls.length, ?_⟩
      show (crowd.calls ++ [Call.giveUp])[crowd.calls.length]? = _
      rw [List.getElem?_concat_length]
      rfl

end Crowd

end Inference
