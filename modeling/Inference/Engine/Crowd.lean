/-
Any number of callers on one engine.

A crowd is an engine together with every call that was ever made on it.  A move is one
step of somebody who can act: a caller begins an operation, a call takes its next step or
runs out of patience, the worker takes a step, or a caller drops an output it was given.
At the very end, when all calls are over, the handle itself may be given up.

Nothing is said about who moves when.  What holds of every crowd that can be reached
therefore holds under every schedule, and in particular when a caller that could go on is
overtaken by another one.
-/
import Inference.Engine.Operation

namespace Inference

/-- An engine and the calls on it, in the order in which they began. -/
structure Crowd (W : Type) where
  host : Host W
  calls : List Call := []
  /-- The calls whose output has been dropped by its caller. -/
  dropped : List Nat := []
  /-- Whether the handle has been given up. -/
  givenUp : Bool := false

/-- One step of one of those who can act. -/
inductive Move where
  /-- A caller begins an operation. -/
  | begins (operation : Operation)
  /-- A call takes its next step. -/
  | steps (caller : Nat)
  /-- A waiting call runs out of patience. -/
  | expires (caller : Nat)
  /-- The worker takes a step. -/
  | works
  /-- A caller drops the output it was given. -/
  | drops (caller : Nat)
  /-- The handle is given up. -/
  | givesUp

namespace Call

/-- Whether the call is over. -/
def isOver : Call → Bool
  | ended .. => true
  | _ => false

/-- The output a call that is over has given to its caller. -/
def output? : Call → Option Frame
  | ended (.done (.frame output)) _ => some output
  | ended (.done (.shaped output _)) _ => some output
  | _ => none

end Call

namespace Crowd

variable {W : Type}

/-- Puts in place what a caller and the engine have become. -/
def update (crowd : Crowd W) (caller : Nat) (after : Call × Host W) : Crowd W :=
  { crowd with host := after.2, calls := crowd.calls.set caller after.1 }

/-- The output that a caller was given and has not dropped. -/
def held? (crowd : Crowd W) (caller : Nat) : Option Frame :=
  if crowd.dropped.contains caller then none else crowd.calls[caller]?.bind Call.output?

/-- The crowd after a move, if the move can be made. -/
def after? (crowd : Crowd W) : Move → Option (Crowd W)
  | .begins operation =>
    if crowd.givenUp then none else some { crowd with calls := crowd.calls ++ [operation.call] }
  | .steps caller => do
    let call ← crowd.calls[caller]?
    return crowd.update caller (← call.step crowd.host)
  | .expires caller => do
    let call ← crowd.calls[caller]?
    return crowd.update caller (← call.expire crowd.host)
  | .works => crowd.host.stepWorker.map fun host => { crowd with host }
  | .drops caller => do
    let output ← crowd.held? caller
    let (_, host) ← Act.drop output crowd.host
    return { crowd with host, dropped := caller :: crowd.dropped }
  | .givesUp =>
    if !crowd.givenUp && crowd.calls.all Call.isOver then
      some { crowd with calls := crowd.calls ++ [Call.giveUp], givenUp := true }
    else none

/-- The crowd after a list of moves, if they can all be made. -/
def afterAll? (crowd : Crowd W) : List Move → Option (Crowd W)
  | [] => some crowd
  | move :: rest => (crowd.after? move).bind fun crowd => crowd.afterAll? rest

/-- The crowds that can be reached from another one. -/
inductive Reachable (first : Crowd W) : Crowd W → Prop where
  | refl : Reachable first first
  | step {crowd next : Crowd W} (before : Reachable first crowd) (move : Move)
      (made : crowd.after? move = some next) : Reachable first next

theorem Reachable.trans {a b c : Crowd W} (hab : Reachable a b) (hbc : Reachable b c) :
    Reachable a c := by
  induction hbc with
  | refl => exact hab
  | step _ move made ih => exact .step ih move made

/-- A list of moves leads to a crowd that can be reached. -/
theorem reachable_of_afterAll? {crowd last : Crowd W} {moves : List Move}
    (h : crowd.afterAll? moves = some last) : Reachable crowd last := by
  induction moves generalizing crowd with
  | nil =>
    cases h
    exact .refl
  | cons move rest ih =>
    obtain ⟨next, made, h⟩ := Option.bind_eq_some_iff.1 h
    exact (Reachable.step .refl move made).trans (ih h)

end Crowd

end Inference
