/-
Whose turn it is.

A move is a turn of one call, which takes its next step, or it leaves the calls as they are, or it
adds one.  `Crowd.Turn` lists the moves by what they do to the calls, with the step itself where
there is one: what `Crowd.Moved` says of a step is enough for the engine, but not for the answer
that a call ends with.  What each call keeps by its own steps every move keeps, by
`Crowd.Turn.all`.
-/
import Inference.Proofs.Engine.Flow

namespace Inference

variable {W : Type}

/-- A call takes its next step, or runs out of patience. -/
def Call.Goes (call : Call) (host : Host W) (next : Call) (after : Host W) : Prop :=
  call.step host = some (next, after) ∨ call.expire host = some (next, after)

namespace Call.Goes

variable {call next : Call} {host after : Host W}

theorem callStep (goes : call.Goes host next after) : CallStep call host next after := by
  rcases goes with step | expiry
  · exact Call.step_callStep step
  · exact Call.expire_callStep expiry

theorem step (goes : call.Goes host next after) (busy : call.ticket? = none) :
    call.step host = some (next, after) := by
  rcases goes with step | expiry
  · exact step
  · cases call with
    | awaiting => cases busy
    | _ => cases expiry

end Call.Goes

/-- The operation that a move begins. -/
def Move.begun? : Move → Option Operation
  | begins operation => some operation
  | _ => none

namespace Crowd

/-- What a move does to the calls of a crowd. -/
inductive Turn (crowd : Crowd W) : Move → Crowd W → Prop where
  /-- The calls stay where they are. -/
  | aside {move : Move} {next : Crowd W} (quiet : move.begun? = none) (other : move.caller? = none)
      (calls : next.calls = crowd.calls) (givenUp : next.givenUp = crowd.givenUp) :
      Turn crowd move next
  | began (operation : Operation) (kept : crowd.givenUp = false) :
      Turn crowd (.begins operation) { crowd with calls := crowd.calls ++ [operation.call] }
  | went {move : Move} {caller : Nat} {call after : Call} {host : Host W}
      (mover : move.caller? = some caller) (found : crowd.calls[caller]? = some call)
      (goes : call.Goes crowd.host after host) : Turn crowd move (crowd.update caller (after, host))
  | gaveUp (kept : crowd.givenUp = false) (ended : ∀ call ∈ crowd.calls, call.isOver = true) :
      Turn crowd .givesUp { crowd with calls := crowd.calls ++ [Call.giveUp], givenUp := true }

/-- Every move is one of those listed. -/
theorem turn_of_after? {crowd next : Crowd W} {move : Move} (made : crowd.after? move = some next) :
    crowd.Turn move next := by
  cases move with
  | begins operation =>
      simp only [after?] at made
      split at made
      · cases made
      · rename_i kept
        cases made
        exact .began operation (by simpa using kept)
  | steps caller =>
      obtain ⟨call, found, made⟩ := Option.bind_eq_some_iff.1 made
      obtain ⟨⟨after, host⟩, step, ⟨⟩⟩ := Option.bind_eq_some_iff.1 made
      exact .went rfl found (.inl step)
  | expires caller =>
      obtain ⟨call, found, made⟩ := Option.bind_eq_some_iff.1 made
      obtain ⟨⟨after, host⟩, expiry, ⟨⟩⟩ := Option.bind_eq_some_iff.1 made
      exact .went rfl found (.inr expiry)
  | works =>
      obtain ⟨host, -, rfl⟩ := Option.map_eq_some_iff.1 made
      exact .aside rfl rfl rfl rfl
  | drops caller =>
      obtain ⟨output, -, made⟩ := Option.bind_eq_some_iff.1 made
      obtain ⟨⟨outcome, host⟩, -, ⟨⟩⟩ := Option.bind_eq_some_iff.1 made
      exact .aside rfl rfl rfl rfl
  | givesUp =>
      simp only [after?] at made
      split at made
      · rename_i ready
        cases made
        rw [Bool.and_eq_true, Bool.not_eq_true', List.all_eq_true] at ready
        exact .gaveUp ready.1 ready.2
      · cases made

/-- A move that a caller makes is one of its own steps. -/
theorem goes_of_after? {crowd next : Crowd W} {move : Move} {caller : Nat}
    (made : crowd.after? move = some next) (mover : move.caller? = some caller) :
    ∃ call after host, crowd.calls[caller]? = some call
      ∧ call.Goes crowd.host after host ∧ next = crowd.update caller (after, host) := by
  cases turn_of_after? made with
  | aside _ other => cases other.symm.trans mover
  | began => cases mover
  | gaveUp => cases mover
  | went mover' found goes =>
      cases mover.symm.trans mover'
      exact ⟨_, _, _, found, goes, rfl⟩

theorem after?_steps {crowd : Crowd W} {caller : Nat} {call : Call} {after : Call × Host W}
    (found : crowd.calls[caller]? = some call) (step : call.step crowd.host = some after) :
    crowd.after? (.steps caller) = some (crowd.update caller after) := by
  show (crowd.calls[caller]?.bind fun call => (call.step crowd.host).bind fun after => _) = _
  rw [found]
  show (call.step crowd.host).bind _ = _
  rw [step]
  rfl

theorem Turn.call {crowd next : Crowd W} {move : Move} (turn : crowd.Turn move next) {caller : Nat}
    {call : Call} (found : crowd.calls[caller]? = some call) :
    next.calls[caller]? = some call
      ∨ ∃ after, move.caller? = some caller ∧ call.Goes crowd.host after next.host
        ∧ next.calls[caller]? = some after := by
  cases turn with
  | aside _ _ calls =>
      rw [calls]
      exact .inl found
  | began => exact .inl (getElem?_append_of_some found)
  | @went _ mover other after host moves found' goes =>
      have calls := getElem?_update found' (after, host) caller
      by_cases mine : mover = caller
      · subst mine
        cases found.symm.trans found'
        rw [if_pos rfl] at calls
        exact .inr ⟨after, moves, goes, calls⟩
      · rw [if_neg mine] at calls
        exact .inl (calls.trans found)
  | gaveUp => exact .inl (getElem?_append_of_some found)

/-- What holds of every call when it begins, and is kept by its own steps, is kept by every move. -/
theorem Turn.all {crowd next : Crowd W} {move : Move} (turn : crowd.Turn move next)
    {P : Call → Prop} (begins : ∀ operation, move = .begins operation → P operation.call)
    (givesUp : P Call.giveUp)
    (goes : ∀ {call after : Call} {host : Host W}, P call → call.Goes crowd.host after host
      → P after)
    (all : ∀ (caller : Nat) (call : Call), crowd.calls[caller]? = some call → P call) :
    ∀ (caller : Nat) (call : Call), next.calls[caller]? = some call → P call := by
  have appended {new : Call} (holds : P new) (caller : Nat) (call : Call)
      (found : (crowd.calls ++ [new])[caller]? = some call) : P call := by
    rcases getElem?_append_cases found with old | ⟨-, rfl⟩
    · exact all caller call old
    · exact holds
  cases turn with
  | aside _ _ calls =>
      rw [calls]
      exact all
  | began operation => exact appended (begins operation rfl)
  | went _ found moves =>
      intro caller call found'
      rcases update_cases found found' with ⟨-, rfl⟩ | ⟨-, kept⟩
      · exact goes (all _ _ found) moves
      · exact all caller call kept
  | gaveUp => exact appended givesUp

end Crowd

end Inference
