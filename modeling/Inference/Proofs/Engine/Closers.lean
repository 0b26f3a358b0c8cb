/-
Closing an engine.

However many calls are to close a handle, the first that comes to it closes it, and every other one
finds it closed and changes nothing.  `Chronicle.Closing` says where all of them stand, and what
the one that has closed the handle has done when it is through.  `Chronicle.Closing.called` is the
step of one call, and `Chronicle.Closing.of_lived` the whole run.
-/
import Inference.Proofs.Engine.Completion

namespace Inference

variable {W : Type}

/-! ### One call that is to close the handle -/

/-- Where a call stands that is to close the handle, and whether it is the one that has done so. -/
inductive Call.Closes : Bool → Call → Prop where
  | coming : Closes false (.closing false)
  | refused : Closes false (.ended (.failed .closedHandle) none)
  | dismissing : Closes true (.dismissing false)
  | expecting : Closes true (.expecting false)
  | clearing : Closes true (.clearing false)
  | through : Closes true (.ended (.done .none) none)

namespace Call

/-- Whoever closes a handle finds nothing to be dropped, and then lets go of the backend. -/
theorem step_clearing {host : Host W} (tidy : host.desk.Tidy) :
    (clearing false).step host = some (.ended (.done .none) none, host.detach) := by
  have swept := Desk.sweep_of_tidy tidy
  simp only [step, swept, Bool.false_eq_true, if_false]
  rfl

namespace Closes

variable {won : Bool} {call next : Call} {host after : Host W}

/-- Such a call closes the handle, is refused because it is closed already, or goes on. -/
theorem goes (h : call.Closes won) (tidy : host.desk.Tidy) (goes : call.Goes host next after) :
    won = false ∧ host.engine.isOpen = true ∧ next = .dismissing false
        ∧ after.engine.isOpen = false
      ∨ won = false ∧ host.engine.isOpen = false ∧ next = .ended (.failed .closedHandle) none
        ∧ after = host
      ∨ won = true ∧ next.Closes true
        ∧ (next = .ended (.done .none) none → after = host.detach) := by
  cases h with
  | coming =>
      cases goes.callStep with
      | retired isOpen => exact .inl ⟨rfl, isOpen, rfl, rfl⟩
      | refused closed => exact .inr (.inl ⟨rfl, closed, rfl, rfl⟩)
  | refused => cases goes.callStep
  | dismissing =>
      cases goes.callStep
      exact .inr (.inr ⟨rfl, .expecting, nofun⟩)
  | expecting =>
      cases goes.callStep
      exact .inr (.inr ⟨rfl, .clearing, by rintro ⟨⟩⟩)
  | clearing =>
      cases (step_clearing tidy).symm.trans (goes.step rfl)
      exact .inr (.inr ⟨rfl, .through, fun _ => rfl⟩)
  | through => cases goes.callStep

theorem progress (h : call.Closes won) (active : call.isOver = false) (tidy : host.desk.Tidy)
    (free : call = .expecting false → host.engine.worker.gone = true) :
    ∃ next after, call.step host = some (next, after) := by
  cases h with
  | coming => exact ⟨_, _, rfl⟩
  | refused => cases active
  | dismissing => exact ⟨_, _, rfl⟩
  | expecting => exact ⟨_, _, if_pos (free rfl)⟩
  | clearing => exact ⟨_, _, step_clearing tidy⟩
  | through => cases active

end Closes

end Call

/-- An engine that has let go of its backend does not get it back. -/
theorem CallStep.stays_detached {call next : Call} {host after : Host W}
    (step : CallStep call host next after) (ordered : Ordered host.desk host.engine.worker)
    (h : host.desk.attached = false) : after.desk.attached = false := by
  rcases step.attached ordered with same | ⟨last, rfl⟩
  · exact same.trans h
  · cases step with
    | @cleared last _ after crash _ drops =>
        have dropped : after.desk.attached = false := by
          rw [drops.beside.desk]
          cases last <;> exact h
        unfold Host.leftBy
        split
        · exact after.detach_attached
        · exact dropped

theorem CallStep.not_closing {call next : Call} {host after : Host W}
    (step : CallStep call host next after) (last : Bool) : next ≠ .closing last := by
  rintro rfl
  generalize same : Call.closing last = next at step
  cases step with
  | checked onward => cases onward <;> cases same
  | ran onward => cases onward <;> cases same
  | @received task _ _ _ _ result =>
      rcases Call.receive_cases task result with ⟨_, _, _, other⟩ | ⟨_, _, other⟩ <;>
        cases same.trans other
  | _ => cases same

namespace Crowd

variable {crowd next : Crowd W} {move : Move} {chronicle : Chronicle}

theorem Moved.isOpen (moved : crowd.Moved move next) (other : move.caller? = none) :
    next.host.engine.isOpen = crowd.host.engine.isOpen := by
  cases moved with
  | began => rfl
  | called mover => cases other.symm.trans mover
  | worked step => exact step.isOpen
  | dropped _ drops => exact drops.beside.isOpen
  | gaveUp => rfl

theorem Moved.stays_detached (moved : crowd.Moved move next) (orderly : crowd.Orderly)
    (h : crowd.host.desk.attached = false) : next.host.desk.attached = false := by
  cases moved with
  | began => exact h
  | called _ _ step => exact step.stays_detached orderly.ordered h
  | worked step =>
      obtain ⟨_, _, _, _, _, desk⟩ := step.desk
      show Desk.attached (Host.desk _) = false
      rw [desk]
      exact h
  | dropped _ drops =>
      show Desk.attached (Host.desk _) = false
      rw [drops.beside.desk]
      exact h
  | gaveUp => exact h

end Crowd

/-! ### All of them -/

theorem Operation.eq_close {operation : Operation} (h : operation.call = .closing false) :
    operation = .close := by
  cases operation with
  | close => rfl
  | reshape info =>
      simp only [call, guarded] at h
      split at h <;> cases h
  | inferShaped frame info =>
      simp only [call, guarded] at h
      split at h <;> cases h
  | infer frame timeout => cases timeout <;> cases h
  | _ => cases h

/-- The call is the one that has closed the handle. -/
def Chronicle.HasClosed (chronicle : Chronicle) (crowd : Crowd W) (caller : Nat) : Prop :=
  chronicle.begun[caller]? = some Operation.close
    ∧ ∃ call : Call, crowd.calls[caller]? = some call ∧ call.Closes true

/-- Where the calls stand that are to close the handle. -/
structure Chronicle.Closing (chronicle : Chronicle) (crowd : Crowd W) : Prop where
  stands : ∀ caller : Nat, chronicle.begun[caller]? = some Operation.close →
    ∃ (won : Bool) (call : Call), crowd.calls[caller]? = some call ∧ call.Closes won
  /-- Nobody else is to close it, but for the last user. -/
  own : ∀ caller : Nat, crowd.calls[caller]? = some (Call.closing false) →
    chronicle.begun[caller]? = some Operation.close
  /-- As long as it is open, none of them has come to it. -/
  coming : crowd.host.engine.isOpen = true → ∀ caller : Nat,
    chronicle.begun[caller]? = some Operation.close →
      crowd.calls[caller]? = some (Call.closing false)
  /-- Once it is closed, one of them has closed it, or the last user when there was none of them. -/
  closer : crowd.host.engine.isOpen = false → (∃ caller, chronicle.HasClosed crowd caller)
    ∨ crowd.givenUp = true ∧ ∀ caller : Nat, chronicle.begun[caller]? ≠ some Operation.close
  one : ∀ caller other, chronicle.HasClosed crowd caller → chronicle.HasClosed crowd other →
    caller = other
  /-- When that one is through, the engine has let go of its backend. -/
  through : ∀ caller : Nat, chronicle.begun[caller]? = some Operation.close →
    crowd.calls[caller]? = some (Call.ended (.done .none) none) → crowd.host.desk.attached = false

namespace Chronicle.Closing

variable {crowd next : Crowd W} {chronicle : Chronicle}

theorem not_closed (h : chronicle.Closing crowd) (isOpen : crowd.host.engine.isOpen = true)
    {caller : Nat} (closed : chronicle.HasClosed crowd caller) : False := by
  obtain ⟨begun, call, found, closes⟩ := closed
  cases (h.coming isOpen caller begun).symm.trans found
  cases closes

theorem aside (h : chronicle.Closing crowd) {chronicle' : Chronicle}
    (begun : chronicle'.begun = chronicle.begun) (calls : next.calls = crowd.calls)
    (givenUp : next.givenUp = crowd.givenUp)
    (isOpen : next.host.engine.isOpen = crowd.host.engine.isOpen)
    (detached : crowd.host.desk.attached = false → next.host.desk.attached = false) :
    chronicle'.Closing next where
  stands := by
    rw [begun, calls]
    exact h.stands
  own := by
    rw [begun, calls]
    exact h.own
  coming := by
    rw [begun, calls, isOpen]
    exact h.coming
  closer := by
    unfold HasClosed
    rw [begun, calls, isOpen, givenUp]
    exact h.closer
  one := by
    unfold HasClosed
    rw [begun, calls]
    exact h.one
  through := by
    rw [begun, calls]
    exact fun caller mine through => detached (h.through caller mine through)

/-- Nothing has happened but that a call has begun, in the place of its operation. -/
theorem appended (h : chronicle.Closing crowd) (kept : crowd.givenUp = false)
    {chronicle' : Chronicle} {call : Call} {givenUp : Bool}
    (grows : ∀ caller : Nat, chronicle.begun[caller]? = some Operation.close →
      chronicle'.begun[caller]? = some Operation.close)
    (placed : ∀ caller : Nat, chronicle'.begun[caller]? = some Operation.close →
      chronicle.begun[caller]? = some Operation.close
        ∨ (crowd.calls ++ [call])[caller]? = some (Call.closing false))
    (own : ∀ caller : Nat, (crowd.calls ++ [call])[caller]? = some (Call.closing false) →
      chronicle'.begun[caller]? = some Operation.close) :
    chronicle'.Closing { crowd with calls := crowd.calls ++ [call], givenUp } := by
  have old {caller : Nat} (closed : chronicle'.HasClosed
      { crowd with calls := crowd.calls ++ [call], givenUp } caller) :
      chronicle.HasClosed crowd caller := by
    obtain ⟨begun, call', found, closes⟩ := closed
    rcases placed caller begun with old | new
    · obtain ⟨won, _, found', -⟩ := h.stands caller old
      cases found.symm.trans (Crowd.getElem?_append_of_some found')
      exact ⟨old, call', found', closes⟩
    · cases found.symm.trans new
      cases closes
  exact {
    stands := by
      intro caller begun
      rcases placed caller begun with old | new
      · obtain ⟨won, call', found, closes⟩ := h.stands caller old
        exact ⟨won, call', Crowd.getElem?_append_of_some found, closes⟩
      · exact ⟨false, _, new, .coming⟩
    own := own
    coming := by
      intro isOpen caller begun
      rcases placed caller begun with old | new
      · exact Crowd.getElem?_append_of_some (h.coming isOpen caller old)
      · exact new
    closer := by
      intro closed
      rcases h.closer closed with ⟨caller, begun, call', found, closes⟩ | ⟨givenUp, -⟩
      · exact .inl ⟨caller, grows caller begun, call', Crowd.getElem?_append_of_some found, closes⟩
      · cases kept.symm.trans givenUp
    one := fun caller other closed closed' => h.one caller other (old closed) (old closed')
    through := by
      intro caller begun ended
      rcases placed caller begun with old | new
      · obtain ⟨won, call', found, -⟩ := h.stands caller old
        cases ended.symm.trans (Crowd.getElem?_append_of_some found)
        exact h.through caller old found
      · cases ended.symm.trans new }

theorem began (h : chronicle.Closing crowd) (length : chronicle.begun.length = crowd.calls.length)
    (kept : crowd.givenUp = false) (operation : Operation) :
    Closing { chronicle with begun := chronicle.begun ++ [operation] }
      { crowd with calls := crowd.calls ++ [operation.call] } := by
  refine h.appended kept (fun _ begun => Crowd.getElem?_append_of_some begun) ?_ ?_
  · intro caller begun
    rcases Crowd.getElem?_append_cases begun with old | ⟨rfl, rfl⟩
    · exact .inl old
    · rw [length]
      exact .inr List.getElem?_concat_length
  · intro caller found
    rcases Crowd.getElem?_append_cases found with old | ⟨rfl, same⟩
    · exact Crowd.getElem?_append_of_some (h.own caller old)
    · rw [operation.eq_close same.symm, ← length]
      exact List.getElem?_concat_length

theorem gaveUp (h : chronicle.Closing crowd) (kept : crowd.givenUp = false) :
    chronicle.Closing { crowd with calls := crowd.calls ++ [Call.giveUp], givenUp := true } := by
  refine h.appended kept (fun _ begun => begun) (fun _ begun => .inl begun) ?_
  intro caller found
  rcases Crowd.getElem?_append_cases found with old | ⟨-, ⟨⟩⟩
  exact h.own caller old

section called

variable {caller : Nat} {call after : Call} {host : Host W}

theorem stands_called (h : chronicle.Closing crowd) (found : crowd.calls[caller]? = some call)
    (after : Call × Host W) {one : Nat} (begun : chronicle.begun[one]? = some .close) :
    ∃ won here, crowd.calls[one]? = some here ∧ here.Closes won
      ∧ ((crowd.update caller after).calls[one]? = some here
        ∨ caller = one ∧ here = call ∧ (crowd.update caller after).calls[one]? = some after.1) := by
  obtain ⟨won, here, foundOne, closes⟩ := h.stands one begun
  have calls := Crowd.getElem?_update found after one
  refine ⟨won, here, foundOne, closes, ?_⟩
  by_cases same : caller = one
  · subst same
    cases found.symm.trans foundOne
    rw [if_pos rfl] at calls
    exact .inr ⟨rfl, rfl, calls⟩
  · rw [if_neg same] at calls
    exact .inl (calls.trans foundOne)

/-- The one that has closed the handle had done so before, or does so with this step. -/
theorem closed_called (h : chronicle.Closing crowd) (tidy : crowd.host.desk.Tidy)
    (found : crowd.calls[caller]? = some call) (goes : call.Goes crowd.host after host) {one : Nat}
    (closed : chronicle.HasClosed (crowd.update caller (after, host)) one) :
    chronicle.HasClosed crowd one ∨ caller = one ∧ crowd.host.engine.isOpen = true := by
  obtain ⟨begun, there, foundThere, closes⟩ := closed
  obtain ⟨won, here, foundHere, stood, still | ⟨rfl, rfl, moves⟩⟩ :=
    h.stands_called found (after, host) begun
  · cases foundThere.symm.trans still
    exact .inl ⟨begun, _, foundHere, closes⟩
  · cases foundThere.symm.trans moves
    rcases stood.goes tidy goes with ⟨-, isOpen, -⟩ | ⟨-, -, rfl, -⟩ | ⟨rfl, -, -⟩
    · exact .inr ⟨rfl, isOpen⟩
    · cases closes
    · exact .inl ⟨begun, _, foundHere, stood⟩

/-- Somebody has closed the handle, if it is closed. -/
theorem closer_called (h : chronicle.Closing crowd) (tidy : crowd.host.desk.Tidy)
    (winding : crowd.Winding) (found : crowd.calls[caller]? = some call)
    (goes : call.Goes crowd.host after host) (closed : host.engine.isOpen = false) :
    (∃ one, chronicle.HasClosed (crowd.update caller (after, host)) one)
      ∨ crowd.givenUp = true ∧ ∀ one : Nat, chronicle.begun[one]? ≠ some Operation.close := by
  cases before : crowd.host.engine.isOpen with
  | false =>
      rcases h.closer before with ⟨one, begun, call', foundOne, closes⟩ | nobody
      · refine .inl ⟨one, begun, ?_⟩
        obtain ⟨won, here, foundHere, -, still | ⟨rfl, rfl, moves⟩⟩ :=
          h.stands_called found (after, host) begun
        · cases foundOne.symm.trans foundHere
          exact ⟨_, still, closes⟩
        · cases foundOne.symm.trans foundHere
          rcases closes.goes tidy goes with ⟨⟨⟩, -⟩ | ⟨⟨⟩, -⟩ | ⟨-, closes', -⟩
          exact ⟨after, moves, closes'⟩
      · exact .inr nobody
  | true =>
      obtain ⟨last, rfl, rfl, -⟩ := goes.callStep.closes before closed
      cases last with
      | false =>
          refine .inl ⟨caller, h.own caller found, .dismissing false, ?_, .dismissing⟩
          rw [Crowd.getElem?_update found, if_pos rfl]
      | true =>
          -- The last user is alone, and a call that is still to close the handle is not over.
          obtain ⟨givenUp, others⟩ := winding.alone caller _ found rfl
          refine .inr ⟨givenUp, fun one begun => ?_⟩
          have waits := h.coming before one begun
          by_cases same : one = caller
          · subst same
            cases found.symm.trans waits
          · cases others one _ same waits

/-- A step of one call. -/
theorem called (h : chronicle.Closing crowd) (orderly : crowd.Orderly) (winding : crowd.Winding)
    (found : crowd.calls[caller]? = some call) (goes : call.Goes crowd.host after host) :
    chronicle.Closing (crowd.update caller (after, host)) where
  stands one begun := by
    obtain ⟨won, here, -, closes, still | ⟨rfl, rfl, moves⟩⟩ :=
      h.stands_called found (after, host) begun
    · exact ⟨won, here, still, closes⟩
    · rcases closes.goes orderly.ordered.tidy goes with
        ⟨-, -, rfl, -⟩ | ⟨-, -, rfl, -⟩ | ⟨-, goesOn, -⟩
      · exact ⟨true, _, moves, .dismissing⟩
      · exact ⟨false, _, moves, .refused⟩
      · exact ⟨true, _, moves, goesOn⟩
  own one foundOne := by
    rcases Crowd.update_cases found foundOne with ⟨-, same⟩ | ⟨-, old⟩
    · exact absurd same.symm (goes.callStep.not_closing false)
    · exact h.own one old
  coming isOpen one begun := by
    change host.engine.isOpen = true at isOpen
    have before : crowd.host.engine.isOpen = true := by
      cases before : crowd.host.engine.isOpen with
      | true => rfl
      | false => cases (goes.callStep.stays_closed before).symm.trans isOpen
    have waits := h.coming before one begun
    obtain ⟨won, here, foundHere, -, still | ⟨rfl, rfl, -⟩⟩ :=
      h.stands_called found (after, host) begun
    · cases waits.symm.trans foundHere
      exact still
    · cases waits.symm.trans foundHere
      rcases Call.Closes.coming.goes orderly.ordered.tidy goes with
        ⟨-, -, -, closed⟩ | ⟨-, closed, -⟩ | ⟨⟨⟩, -⟩
      · cases isOpen.symm.trans closed
      · cases before.symm.trans closed
  closer closed := h.closer_called orderly.ordered.tidy winding found goes closed
  one one other closed closed' := by
    have tidy := orderly.ordered.tidy
    -- A step closes the handle only while it is open, and then nobody has closed it before.
    rcases h.closed_called tidy found goes closed with old | ⟨rfl, isOpen⟩
    · rcases h.closed_called tidy found goes closed' with old' | ⟨-, isOpen⟩
      · exact h.one one other old old'
      · exact (h.not_closed isOpen old).elim
    · rcases h.closed_called tidy found goes closed' with old' | ⟨same, -⟩
      · exact (h.not_closed isOpen old').elim
      · exact same
  through one begun ended := by
    show host.desk.attached = false
    obtain ⟨won, here, foundHere, closes, still | ⟨rfl, rfl, moves⟩⟩ :=
      h.stands_called found (after, host) begun
    · cases ended.symm.trans still
      exact goes.callStep.stays_detached orderly.ordered (h.through one begun foundHere)
    · cases ended.symm.trans moves
      rcases closes.goes orderly.ordered.tidy goes with
        ⟨-, -, ⟨⟩, -⟩ | ⟨-, -, ⟨⟩, -⟩ | ⟨-, -, detached⟩
      rw [detached rfl]
      exact crowd.host.detach_attached

end called

theorem of_lived {backend : Backend W} {host : Host W} (fresh : host.Fresh backend)
    (lived : Crowd.Lived { host } crowd chronicle) : chronicle.Closing crowd := by
  induction lived with
  | start =>
      exact {
        stands := by simp
        own := by simp
        coming := by simp
        closer := by
          intro closed
          cases fresh.isOpen.symm.trans closed
        one := by
          rintro caller other ⟨begun, -⟩
          simp at begun
        through := by simp }
  | @move crowd next chronicle before move made h =>
      have moved := Crowd.moved_of_after? made
      have orderly := Crowd.Orderly.of_reachable fresh before.reachable
      have winding := Crowd.Winding.of_reachable fresh before.reachable
      have told := Chronicle.Tells.of_lived fresh before
      have begun := chronicle.begun_after crowd next move
      cases Crowd.turn_of_after? made with
      | aside quiet other calls givenUp =>
          rw [quiet, Option.toList_none, List.append_nil] at begun
          exact h.aside begun calls givenUp (moved.isOpen other) (moved.stays_detached orderly)
      | began operation kept => exact h.began (told.begun kept) kept operation
      | went mover found goes =>
          refine (h.called orderly winding found goes).aside ?_ rfl rfl rfl id
          rw [Chronicle.after_called mover]
      | gaveUp kept => exact h.gaveUp kept

end Chronicle.Closing

/-! ### What they come to -/

/-- Of all calls that are to close a handle one does, and the others leave everything as it is. -/
structure Chronicle.ClosedByOne (chronicle : Chronicle) (crowd : Crowd W) : Prop where
  /-- Each of them has closed the handle, or was told that it is closed. -/
  answers : ∀ (caller : Nat) (answer : Outcome Fault Reply) (target : Option Frame),
    chronicle.begun[caller]? = some Operation.close →
      crowd.calls[caller]? = some (Call.ended answer target) →
        answer = .done .none ∨ answer = .failed .closedHandle
  /-- No two have closed it, at any time. -/
  atMost : ∀ (caller other : Nat), chronicle.begun[caller]? = some Operation.close →
    chronicle.begun[other]? = some Operation.close →
      crowd.calls[caller]? = some (Call.ended (.done .none) none) →
        crowd.calls[other]? = some (Call.ended (.done .none) none) → caller = other
  /-- When all of them are over, exactly one has. -/
  exactly : (∃ caller : Nat, chronicle.begun[caller]? = some Operation.close) →
    (∀ (caller : Nat) (call : Call), chronicle.begun[caller]? = some Operation.close →
      crowd.calls[caller]? = some call → call.isOver = true) →
    ∃! caller : Nat, chronicle.begun[caller]? = some Operation.close
      ∧ crowd.calls[caller]? = some (Call.ended (.done .none) none)
  /-- The step by which one of the others is refused changes nothing else. -/
  harmless : ∀ (caller : Nat) (target : Option Frame) (next : Crowd W),
    chronicle.begun[caller]? = some Operation.close → crowd.after? (.steps caller) = some next →
      next.calls[caller]? = some (Call.ended (.failed .closedHandle) target) →
        next.host = crowd.host
  /-- None of them waits for anything but the worker. -/
  progress : ∀ (caller : Nat) (call : Call), chronicle.begun[caller]? = some Operation.close →
    crowd.calls[caller]? = some call → call.isOver = false →
      (call = .expecting false → crowd.host.engine.worker.gone = true) →
        ∃ next, crowd.after? (.steps caller) = some next
  /-- When the one is through, the worker is to leave, nothing is queued and the backend is gone. -/
  through : ∀ caller : Nat, chronicle.begun[caller]? = some Operation.close →
    crowd.calls[caller]? = some (Call.ended (.done .none) none) →
      crowd.host.desk.mode = .leaving ∧ crowd.host.desk.request = none
        ∧ crowd.host.desk.attached = false

namespace Chronicle.Closing

variable {crowd : Crowd W} {chronicle : Chronicle}

theorem ended (h : chronicle.Closing crowd) {caller : Nat}
    (begun : chronicle.begun[caller]? = some .close) {answer : Outcome Fault Reply}
    {target : Option Frame} (found : crowd.calls[caller]? = some (.ended answer target)) :
    target = none ∧ (answer = .done .none ∧ chronicle.HasClosed crowd caller
      ∨ answer = .failed .closedHandle) := by
  obtain ⟨won, call, found', closes⟩ := h.stands caller begun
  cases found.symm.trans found'
  cases closes with
  | refused => exact ⟨rfl, .inr rfl⟩
  | through => exact ⟨rfl, .inl ⟨rfl, begun, _, found, .through⟩⟩

/-- If the calls that are to close the handle are over, one of them has. -/
theorem exists_closer (h : chronicle.Closing crowd)
    (made : ∃ caller : Nat, chronicle.begun[caller]? = some Operation.close)
    (ended : ∀ (caller : Nat) (call : Call), chronicle.begun[caller]? = some Operation.close →
      crowd.calls[caller]? = some call → call.isOver = true) :
    ∃ caller : Nat, chronicle.begun[caller]? = some Operation.close
      ∧ crowd.calls[caller]? = some (Call.ended (.done .none) none) := by
  obtain ⟨caller, begun⟩ := made
  have closed : crowd.host.engine.isOpen = false := by
    cases isOpen : crowd.host.engine.isOpen with
    | false => rfl
    | true => cases ended caller _ begun (h.coming isOpen caller begun)
  rcases h.closer closed with ⟨closer, begun, call, found, closes⟩ | ⟨-, nobody⟩
  · have isOver := ended closer call begun found
    cases closes with
    | through => exact ⟨closer, begun, found⟩
    | _ => cases isOver
  · exact absurd begun (nobody caller)

theorem closedByOne (h : chronicle.Closing crowd) (orderly : crowd.Orderly)
    (gone : crowd.host.desk.attached = false →
      crowd.host.desk.mode = .leaving ∧ crowd.host.desk.request = none) :
    chronicle.ClosedByOne crowd where
  answers caller answer target begun found := (h.ended begun found).2.imp And.left id
  atMost caller other begun begun' found found' :=
    h.one caller other ⟨begun, _, found, .through⟩ ⟨begun', _, found', .through⟩
  exactly made ended := by
    obtain ⟨caller, begun, found⟩ := h.exists_closer made ended
    refine ⟨caller, ⟨begun, found⟩, ?_⟩
    rintro other ⟨begun', found'⟩
    exact h.one other caller ⟨begun', _, found', .through⟩ ⟨begun, _, found, .through⟩
  harmless caller target next begun made refused := by
    obtain ⟨call, found, made⟩ := Option.bind_eq_some_iff.1 made
    obtain ⟨⟨after, host⟩, step, ⟨⟩⟩ := Option.bind_eq_some_iff.1 made
    obtain ⟨won, here, foundHere, closes⟩ := h.stands caller begun
    cases found.symm.trans foundHere
    have mine := Crowd.getElem?_update found (after, host) caller
    rw [if_pos rfl] at mine
    cases refused.symm.trans mine
    rcases closes.goes orderly.ordered.tidy (.inl step) with
      ⟨-, -, ⟨⟩, -⟩ | ⟨-, -, -, same⟩ | ⟨-, ⟨⟩, -⟩
    exact same
  progress caller call begun found active free := by
    obtain ⟨won, here, foundHere, closes⟩ := h.stands caller begun
    cases found.symm.trans foundHere
    obtain ⟨next, after, step⟩ := closes.progress active orderly.ordered.tidy free
    exact ⟨_, Crowd.after?_steps found step⟩
  through caller begun found := by
    have detached := h.through caller begun found
    exact ⟨(gone detached).1, (gone detached).2, detached⟩

end Chronicle.Closing

end Inference
