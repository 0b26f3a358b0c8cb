/-
Coming to a handle that is closed.

Every operation looks at the handle before it takes the lock.  One that begins when the handle is
closed is turned away there, whatever the others do, and leaves the engine and its backend as they
are (`Crowd.turnsAway`).  Only an operation that brings a descriptor along can be refused even
earlier, because of it.
-/
import Inference.Proofs.Engine.Closers

namespace Inference

variable {W : Type}

/-- The descriptor that an operation brings along. -/
def Operation.shape? : Operation → Option Descriptor
  | reshape info => some info
  | inferShaped _ info => some info
  | _ => none

/-- What becomes of an operation on a handle that is closed. -/
inductive Call.TurnedAway (operation : Operation) : Call → Prop where
  | coming {part : Part} (begins : operation.call = .checking part) :
      TurnedAway operation (.checking part)
  | refused {part : Part} (begins : operation.call = .checking part) :
      TurnedAway operation (.ended (.failed .closedHandle) part.target?)
  /-- It has brought a descriptor that cannot be used. -/
  | unusable {info : Descriptor} {reason : String} (brought : operation.shape? = some info)
      (defect : info.defect? = some reason) :
      TurnedAway operation (.ended (.failed (.invalidParameter reason)) none)

namespace Operation

theorem turnedAway_guarded {operation : Operation} {info : Descriptor} {part : Part}
    (begins : operation.call = guarded info part) (brought : operation.shape? = some info) :
    operation.call.TurnedAway operation := by
  rw [guarded, Descriptor.validate] at begins
  cases defect : info.defect? with
  | some reason =>
      rw [defect] at begins
      rw [begins]
      exact .unusable brought defect
  | none =>
      rw [defect] at begins
      rw [begins]
      exact .coming begins

/-- Every operation but the closing of the handle begins by looking at it. -/
theorem turnedAway {operation : Operation} (other : operation ≠ .close) :
    operation.call.TurnedAway operation := by
  cases operation with
  | reshape info => exact turnedAway_guarded rfl rfl
  | inferShaped frame info => exact turnedAway_guarded rfl rfl
  | infer frame timeout => cases timeout <;> exact .coming rfl
  | close => exact absurd rfl other
  | _ => exact .coming rfl

end Operation

namespace Call.TurnedAway

variable {operation : Operation} {call next : Call} {host after : Host W}

theorem goes (h : call.TurnedAway operation) (closed : host.engine.isOpen = false)
    (goes : call.Goes host next after) :
    next.TurnedAway operation ∧ next.isOver = true ∧ after = host := by
  cases h with
  | coming begins =>
      have stepped := goes.step rfl
      simp only [Call.step, closed, Bool.false_eq_true, if_false] at stepped
      cases stepped
      exact ⟨.refused begins, rfl, rfl⟩
  | refused => cases goes.callStep
  | unusable => cases goes.callStep

/-- A call that is turned away does not have to wait for that. -/
theorem isOver_or_step (h : call.TurnedAway operation) (host : Host W) :
    call.isOver = true ∨ ∃ after, call.step host = some after := by
  cases h with
  | coming => exact .inr ⟨_, rfl⟩
  | refused => exact .inl rfl
  | unusable => exact .inl rfl

end Call.TurnedAway

namespace Crowd

variable {crowd next later : Crowd W}

/-- A caller that is turned away and has no part in anything. -/
structure TurnsAway (crowd : Crowd W) (caller : Nat) (operation : Operation) : Prop where
  turnedAway : ∃ call : Call, crowd.calls[caller]? = some call ∧ call.TurnedAway operation
    ∧ (call.isOver = true ∨ ∃ next, crowd.after? (.steps caller) = some next)
  /-- Its next move ends it and leaves the engine and the world of its backend as they are. -/
  idle : ∀ (move : Move) (next : Crowd W), move.caller? = some caller →
    crowd.after? move = some next → next.host = crowd.host
      ∧ ∃ call : Call, next.calls[caller]? = some call ∧ call.isOver = true

theorem turnsAway_of_found {caller : Nat} {call : Call} {operation : Operation}
    (closed : crowd.host.engine.isOpen = false) (found : crowd.calls[caller]? = some call)
    (away : call.TurnedAway operation) : crowd.TurnsAway caller operation where
  turnedAway := by
    refine ⟨call, found, away, ?_⟩
    rcases away.isOver_or_step crowd.host with isOver | ⟨after, step⟩
    · exact .inl isOver
    · exact .inr ⟨_, after?_steps found step⟩
  idle move next mover made := by
    obtain ⟨_, after, host, found', goes, rfl⟩ := goes_of_after? made mover
    cases found.symm.trans found'
    obtain ⟨-, isOver, same⟩ := away.goes closed goes
    refine ⟨same, after, ?_, isOver⟩
    rw [getElem?_update found, if_pos rfl]

/-- An operation that begins on a closed handle is turned away, whatever happens meanwhile. -/
theorem turnsAway (closed : crowd.host.engine.isOpen = false) {operation : Operation}
    (other : operation ≠ .close) (made : crowd.after? (.begins operation) = some next)
    (reach : Reachable next later) : later.TurnsAway crowd.calls.length operation := by
  have away : later.host.engine.isOpen = false ∧ ∃ call : Call,
      later.calls[crowd.calls.length]? = some call ∧ call.TurnedAway operation := by
    induction reach with
    | refl =>
        cases turn_of_after? made with
        | aside quiet => cases quiet
        | went mover => cases mover
        | began _ kept =>
            exact ⟨closed, _, List.getElem?_concat_length, Operation.turnedAway other⟩
    | step _ move moves ih =>
        obtain ⟨closed, call, found, away⟩ := ih
        refine ⟨(moved_of_after? moves).stays_closed closed, ?_⟩
        rcases (turn_of_after? moves).call found with still | ⟨after, -, goes, ends⟩
        · exact ⟨call, still, away⟩
        · exact ⟨after, ends, (away.goes closed goes).1⟩
  obtain ⟨closed, call, found, away⟩ := away
  exact turnsAway_of_found closed found away

end Crowd

end Inference
