/-
The course of a call.

A call is begun for an operation and from then on takes one step after another.  What holds of
the call an operation begins with, and is kept by each of its steps, holds of it for good:
`Crowd.Lived.course` is this induction over the history of a crowd, once and for all, and
`Crowd.Lived.onward` the same from a later moment on.
-/
import Inference.Proofs.Engine.Account
import Inference.Proofs.Engine.Turn

namespace Inference

variable {W : Type}

/-! ### One history after another -/

/-- What happened up to a moment, and since. -/
def Chronicle.append (past since : Chronicle) : Chronicle where
  begun := past.begun ++ since.begun
  submitted := past.submitted ++ since.submitted
  ran := past.ran ++ since.ran

namespace Chronicle

variable {past since : Chronicle}

theorem append_nothing (past : Chronicle) : past.append {} = past := by
  simp [append]

theorem append_after (crowd next : Crowd W) (move : Move) :
    past.append (since.after crowd next move) = (past.append since).after crowd next move := by
  cases move <;> simp [append, after]

theorem begun_after (chronicle : Chronicle) (crowd next : Crowd W) (move : Move) :
    (chronicle.after crowd next move).begun = chronicle.begun ++ move.begun?.toList := by
  cases move with
  | begins operation => rfl
  | _ => exact (List.append_nil _).symm

end Chronicle

namespace Crowd

variable {first crowd next later : Crowd W} {chronicle past since : Chronicle}

theorem Lived.trans (before : Lived first crowd past) (onward : Lived crowd later since) :
    Lived first later (past.append since) := by
  induction onward with
  | start =>
      rw [Chronicle.append_nothing]
      exact before
  | move _ move made ih =>
      rw [Chronicle.append_after]
      exact .move ih move made

/-- Every run has a history, which lists the operations that were begun. -/
theorem Lived.run {moves : List Move} (lived : Lived first crowd chronicle)
    (run : crowd.afterAll? moves = some next) : ∃ after, Lived first next after
      ∧ after.begun = chronicle.begun ++ moves.filterMap Move.begun? := by
  induction moves generalizing crowd chronicle with
  | nil =>
      cases run
      exact ⟨chronicle, lived, (List.append_nil _).symm⟩
  | cons move rest ih =>
      obtain ⟨middle, made, run⟩ := Option.bind_eq_some_iff.1 run
      obtain ⟨after, lived', begun⟩ := ih (.move lived move made) run
      refine ⟨after, lived', ?_⟩
      rw [begun, Chronicle.begun_after, List.append_assoc]
      cases move <;> rfl

/-- What holds of a call at some moment, is not affected by what happens elsewhere, and is kept by
its own steps, holds of it from then on. -/
theorem Lived.onward {caller : Nat} {call : Call} {Q : Chronicle → Call → Prop}
    (grows : ∀ {chronicle after : Chronicle} {call : Call},
      chronicle.Grows after → Q chronicle call → Q after call)
    (keeps : ∀ {crowd : Crowd W} {chronicle : Chronicle} {call next : Call} {after : Host W},
      Lived first crowd chronicle → crowd.calls[caller]? = some call → Q chronicle call →
        call.Goes crowd.host next after → Q chronicle next)
    (before : Lived first crowd past) (found : crowd.calls[caller]? = some call)
    (holds : Q past call) (onward : Lived crowd later since) :
    ∃ call, later.calls[caller]? = some call ∧ Q (past.append since) call := by
  induction onward with
  | start =>
      rw [Chronicle.append_nothing]
      exact ⟨call, found, holds⟩
  | @move crowd next since lived move made ih =>
      obtain ⟨call, found, holds⟩ := ih
      rw [Chronicle.append_after]
      have grow := (past.append since).grows_after crowd next move
      rcases (turn_of_after? made).call found with still | ⟨after, -, goes, ends⟩
      · exact ⟨call, still, grows grow holds⟩
      · exact ⟨after, ends, grows grow (keeps (before.trans lived) found holds goes)⟩

/-- What holds of every call when it begins, is not affected by what happens elsewhere, and is kept
by its own steps, holds of every call for good. -/
theorem Lived.course {backend : Backend W} {host : Host W} (fresh : host.Fresh backend)
    {Q : Chronicle → Nat → Operation → Call → Prop}
    (begins : ∀ chronicle caller operation, Q chronicle caller operation operation.call)
    (grows : ∀ {chronicle after : Chronicle} {caller : Nat} {operation : Operation} {call : Call},
      chronicle.Grows after → Q chronicle caller operation call → Q after caller operation call)
    (keeps : ∀ {crowd : Crowd W} {chronicle : Chronicle} {caller : Nat} {operation : Operation}
      {call next : Call} {after : Host W}, Lived { host } crowd chronicle →
      crowd.calls[caller]? = some call → Q chronicle caller operation call →
      call.Goes crowd.host next after → Q chronicle caller operation next)
    (lived : Lived { host } crowd chronicle) {caller : Nat} {operation : Operation}
    (begun : chronicle.begun[caller]? = some operation) :
    ∃ call, crowd.calls[caller]? = some call ∧ Q chronicle caller operation call := by
  induction lived with
  | start => simp at begun
  | @move crowd next chronicle before move made ih =>
      have turn := turn_of_after? made
      have grow := chronicle.grows_after crowd next move
      by_cases old : chronicle.begun[caller]? = some operation
      · obtain ⟨call, found, holds⟩ := ih old
        rcases turn.call found with still | ⟨after, -, goes, ends⟩
        · exact ⟨call, still, grows grow holds⟩
        · exact ⟨after, ends, grows grow (keeps before found holds goes)⟩
      · -- The operation begins with this very move.
        rw [Chronicle.begun_after] at begun
        have some : move.begun? ≠ none := by
          intro quiet
          rw [quiet, Option.toList_none, List.append_nil] at begun
          exact old begun
        cases turn with
        | began operation' kept =>
            rcases getElem?_append_cases begun with before | ⟨rfl, rfl⟩
            · exact absurd before old
            · refine ⟨operation.call, ?_, begins _ _ _⟩
              rw [(Chronicle.Tells.of_lived fresh before).begun kept]
              exact List.getElem?_concat_length
        | aside quiet => exact absurd quiet some
        | went mover => cases move <;> cases mover <;> exact absurd rfl some
        | gaveUp => exact absurd rfl some

end Crowd

end Inference
