/-
How an engine comes to an end.

Whoever closes an engine asks the worker to leave and waits until it is gone, and only then clears
the desk.  The last user, who gives the handle up, is alone by then, and it clears the desk even of
what others were waiting for.  `Crowd.Winding` says so of a crowd, no move upsets it
(`Crowd.Winding.moved`), and it holds under every schedule (`Crowd.Winding.of_reachable`).
-/
import Inference.Proofs.Engine.Flow

namespace Inference

variable {W : Type}

namespace Call

/-- Whether the call is the one by which the handle is given up. -/
def isLast : Call → Bool
  | closing last | dismissing last | expecting last | clearing last => last
  | _ => false

/-- Whether the call has closed the handle and not yet seen the worker leave. -/
def isParting : Call → Bool
  | dismissing _ | expecting _ => true
  | _ => false

theorem not_parting_of_over {call : Call} (h : call.isOver = true) : call.isParting = false := by
  cases call with
  | ended => rfl
  | _ => cases h

theorem not_last_of_over {call : Call} (h : call.isOver = true) : call.isLast = false := by
  cases call with
  | ended => rfl
  | _ => cases h

theorem isLast_onward {call : Call} {task : Option Task} (h : call.Onward task) :
    call.isLast = false := by
  cases h <;> rfl

theorem isLast_receive (task : Task) (result : Except Fault Frame) :
    (receive task result).isLast = false := by
  rcases receive_cases task result with ⟨_, _, _, same⟩ | ⟨_, _, same⟩ <;> rw [same] <;> rfl

end Call

theorem Operation.isLast_call (operation : Operation) : operation.call.isLast = false := by
  rcases operation.call_cases with ⟨_, same⟩ | ⟨_, same⟩ | same <;> rw [same] <;> rfl

namespace CallStep

variable {call next : Call} {host after : Host W}

theorem not_over (step : CallStep call host next after) : call.isOver = false := by
  cases step <;> rfl

theorem isLast (step : CallStep call host next after) (h : next.isLast = true) :
    call.isLast = true := by
  cases step with
  | checked onward => rw [Call.isLast_onward onward] at h; cases h
  | ran onward => rw [Call.isLast_onward onward] at h; cases h
  | received =>
      rw [Call.isLast_receive] at h
      cases h
  | retired => exact h
  | inherited => rfl
  | dismissed => exact h
  | parted => exact h
  | _ => cases h

/-- Calls touch neither the worker nor the choice of the backend. -/
theorem beyond (step : CallStep call host next after) :
    after.engine.worker = host.engine.worker ∧ after.engine.backend = host.engine.backend := by
  have alike {after : Host W} (alike : host.Alike after) :
      after.engine.worker = host.engine.worker ∧ after.engine.backend = host.engine.backend :=
    ⟨alike.worker, alike.backend⟩
  cases step with
  | ran _ touched => exact alike touched.alike
  | submitted tuned _ _ _ _ drops =>
      exact ⟨drops.beside.worker.trans tuned.alike.worker,
        drops.beside.backend.trans tuned.alike.backend⟩
  | faltered tuned _ drops =>
      exact ⟨drops.beside.worker.trans tuned.alike.worker,
        drops.beside.backend.trans tuned.alike.backend⟩
  | copied drops => exact alike drops.beside.alike
  | spoilt drops => exact alike drops.beside.alike
  | @cleared last _ after crash _ drops _ =>
      have left := Host.leftBy_alike after last crash
      exact ⟨left.worker.trans drops.beside.worker, left.backend.trans drops.beside.backend⟩
  | _ => exact ⟨rfl, rfl⟩

theorem worker (step : CallStep call host next after) : after.engine.worker = host.engine.worker :=
  step.beyond.1

theorem backend (step : CallStep call host next after) :
    after.engine.backend = host.engine.backend := step.beyond.2

/-- A desk is cleared by one who has seen the worker leave, or by the last user if the engine was
closed before. -/
theorem clearing {last : Bool} (step : CallStep call host (.clearing last) after) :
    host.engine.worker.gone = true ∨ call = .closing true ∧ host.engine.isOpen = false := by
  generalize same : Call.clearing last = next at step
  cases step with
  | checked onward => cases onward <;> cases same
  | ran onward => cases onward <;> cases same
  | @received task _ _ _ _ result =>
      rcases Call.receive_cases task result with ⟨_, _, _, other⟩ | ⟨_, _, other⟩ <;>
        cases same.trans other
  | inherited closed => exact .inr ⟨rfl, closed⟩
  | parted gone => exact .inl gone
  | _ => cases same

theorem parting (step : CallStep call host next after) :
    (after.engine.isOpen = host.engine.isOpen ∨ next.isParting = true)
      ∧ (call.isParting = true → next.isParting = true ∨ host.engine.worker.gone = true) := by
  have fixed (alike : host.Alike after) : after.engine.isOpen = host.engine.isOpen
      ∨ next.isParting = true := .inl alike.isOpen
  cases step with
  | ran _ touched => exact ⟨fixed touched.alike, nofun⟩
  | submitted tuned _ _ _ _ drops =>
      exact ⟨.inl (drops.beside.isOpen.trans tuned.alike.isOpen), nofun⟩
  | faltered tuned _ drops => exact ⟨.inl (drops.beside.isOpen.trans tuned.alike.isOpen), nofun⟩
  | copied drops => exact ⟨.inl drops.beside.isOpen, nofun⟩
  | spoilt drops => exact ⟨.inl drops.beside.isOpen, nofun⟩
  | retired => exact ⟨.inr rfl, nofun⟩
  | dismissed => exact ⟨.inl rfl, fun _ => .inl rfl⟩
  | parted gone => exact ⟨.inl rfl, fun _ => .inr gone⟩
  | cleared drops =>
      exact ⟨.inl ((Host.leftBy_alike _ _ _).isOpen.trans drops.beside.isOpen), nofun⟩
  | _ => exact ⟨.inl rfl, nofun⟩

/-- The last user ends only by clearing the desk altogether. -/
theorem last (step : CallStep call host next after) (h : call.isLast = true) :
    next.isLast = true ∨ call = .clearing true ∧ next.isOver = true
      ∧ after.desk.outstanding.entries = [] := by
  cases step with
  | retired => exact .inl h
  | refused => cases h
  | inherited => exact .inl rfl
  | dismissed => exact .inl h
  | parted => exact .inl h
  | @cleared last _ after crash answer drops _ =>
      change last = true at h
      subst h
      obtain ⟨_, _, _, _, desk⟩ := (Host.leftBy_alike after true crash).desk
      refine .inr ⟨rfl, rfl, ?_⟩
      rw [desk, drops.beside.desk]
      show host.desk.empty.2.outstanding.entries = []
      rw [Desk.empty_eq]
      rfl
  | _ => cases h

end CallStep

theorem WorkerStep.not_gone {host after : Host W} (step : WorkerStep host after) :
    host.engine.worker.gone = false := by
  cases step with
  | took parked => rw [parked]; rfl
  | left parked => rw [parked]; rfl
  | rested parked => rw [parked]; rfl
  | refused holding => rw [holding]; rfl
  | starved holding => rw [holding]; rfl
  | entered holding => rw [holding]; rfl
  | finished inside => rw [inside]; rfl
  | recorded returning => rw [returning]; rfl

namespace Crowd

/-- How far the end of an engine has come. -/
structure Winding (crowd : Crowd W) : Prop where
  /-- The last user is alone. -/
  alone : ∀ (caller : Nat) (call : Call), crowd.calls[caller]? = some call → call.isLast = true →
    crowd.givenUp = true ∧ ∀ (other : Nat) (call' : Call), other ≠ caller →
      crowd.calls[other]? = some call' → call'.isOver = true
  /-- Once an engine is closed its worker is gone, or somebody sees to it. -/
  closed : crowd.host.engine.isOpen = false → crowd.host.engine.worker.gone = true
    ∨ ∃ (caller : Nat) (call : Call), crowd.calls[caller]? = some call ∧ call.isParting = true
  /-- The desk is not cleared before the worker is gone. -/
  clearing : ∀ (caller : Nat) (last : Bool), crowd.calls[caller]? = some (Call.clearing last) →
    crowd.host.engine.worker.gone = true
  /-- When the last user is through nothing is left. -/
  ended : crowd.givenUp = true →
    (∃ (caller : Nat) (call : Call), crowd.calls[caller]? = some call ∧ call.isLast = true)
    ∨ (∀ call ∈ crowd.calls, call.isOver = true) ∧ crowd.host.engine.worker.gone = true
      ∧ crowd.host.desk.outstanding.entries = []

namespace Winding

variable {crowd next : Crowd W}

/-- If the last user is there, nobody else makes a step. -/
theorem eq_of_isLast (h : crowd.Winding) {caller other : Nat} {call call' : Call}
    (found : crowd.calls[caller]? = some call) (active : call.isOver = false)
    (found' : crowd.calls[other]? = some call') (last : call'.isLast = true) : caller = other := by
  by_cases same : caller = other
  · exact same
  · have ended := (h.alone other call' found' last).2 caller call same found
    rw [active] at ended
    cases ended

/-- The last user stays alone when it makes a step. -/
theorem alone_called {caller : Nat} {call after : Call} {host : Host W} (h : crowd.Winding)
    (found : crowd.calls[caller]? = some call) (step : CallStep call crowd.host after host)
    {one : Nat} {call' : Call}
    (foundOne : (crowd.update caller (after, host)).calls[one]? = some call')
    (lastOne : call'.isLast = true) : crowd.givenUp = true ∧ ∀ (other : Nat) (call'' : Call),
      other ≠ one → (crowd.update caller (after, host)).calls[other]? = some call'' →
        call''.isOver = true := by
  rcases update_cases found foundOne with ⟨rfl, rfl⟩ | ⟨differ, old⟩
  · obtain ⟨givenUp, others⟩ := h.alone caller call found (step.isLast lastOne)
    refine ⟨givenUp, ?_⟩
    intro other call'' differ foundOther
    rcases update_cases found foundOther with ⟨same, -⟩ | ⟨-, old⟩
    · exact absurd same.symm differ
    · exact others other call'' differ old
  · exact absurd (h.eq_of_isLast found step.not_over old lastOne) differ

theorem closed_called {caller : Nat} {call after : Call} {host : Host W} (h : crowd.Winding)
    (found : crowd.calls[caller]? = some call) (step : CallStep call crowd.host after host)
    (closed : host.engine.isOpen = false) : host.engine.worker.gone = true
      ∨ ∃ (other : Nat) (call' : Call),
        (crowd.update caller (after, host)).calls[other]? = some call'
          ∧ call'.isParting = true := by
  have calls := getElem?_update found (after, host)
  have mine : (crowd.update caller (after, host)).calls[caller]? = some after := by
    rw [calls, if_pos rfl]
  have parting := step.parting
  rw [step.worker]
  rcases parting.1 with kept | goes
  · rcases h.closed (kept ▸ closed) with gone | ⟨other, call', foundOther, parts⟩
    · exact .inl gone
    · by_cases same : caller = other
      · subst same
        cases found.symm.trans foundOther
        rcases parting.2 parts with goes | gone
        · exact .inr ⟨caller, after, mine, goes⟩
        · exact .inl gone
      · refine .inr ⟨other, call', ?_, parts⟩
        rw [calls, if_neg same]
        exact foundOther
  · exact .inr ⟨caller, after, mine, goes⟩

theorem clearing_called {caller : Nat} {call after : Call} {host : Host W} (h : crowd.Winding)
    (found : crowd.calls[caller]? = some call) (step : CallStep call crowd.host after host)
    {other : Nat} {last : Bool}
    (foundOther : (crowd.update caller (after, host)).calls[other]? = some (.clearing last)) :
    crowd.host.engine.worker.gone = true := by
  rcases update_cases found foundOther with ⟨-, rfl⟩ | ⟨-, old⟩
  · rcases step.clearing with gone | ⟨rfl, closed⟩
    · exact gone
    · -- Whoever closed the engine before is through by now, so the worker is gone.
      rcases h.closed closed with gone | ⟨closer, call', foundCloser, parts⟩
      · exact gone
      · by_cases same : closer = caller
        · subst same
          cases found.symm.trans foundCloser
          cases parts
        · have ended := (h.alone caller _ found rfl).2 closer call' same foundCloser
          rw [Call.not_parting_of_over ended] at parts
          cases parts
  · exact h.clearing other last old

/-- The last user goes on until nothing is left. -/
theorem ended_called {caller : Nat} {call after : Call} {host : Host W} (h : crowd.Winding)
    (found : crowd.calls[caller]? = some call) (step : CallStep call crowd.host after host)
    (givenUp : crowd.givenUp = true) :
    (∃ (other : Nat) (call' : Call),
        (crowd.update caller (after, host)).calls[other]? = some call' ∧ call'.isLast = true)
      ∨ (∀ call' ∈ (crowd.update caller (after, host)).calls, call'.isOver = true)
        ∧ host.engine.worker.gone = true ∧ host.desk.outstanding.entries = [] := by
  rcases h.ended givenUp with ⟨other, call', foundOther, isLast⟩ | ⟨ended, -, -⟩
  · have same : caller = other := h.eq_of_isLast found step.not_over foundOther isLast
    subst same
    cases found.symm.trans foundOther
    rcases step.last isLast with still | ⟨rfl, ends, entries⟩
    · refine .inl ⟨caller, after, ?_, still⟩
      rw [getElem?_update found, if_pos rfl]
    · refine .inr ⟨?_, ?_, entries⟩
      · intro call' member
        obtain ⟨i, foundHere⟩ := List.mem_iff_getElem?.1 member
        rcases update_cases found foundHere with ⟨-, rfl⟩ | ⟨differ, old⟩
        · exact ends
        · exact (h.alone caller _ found rfl).2 i call' differ.symm old
      · rw [step.worker]
        exact h.clearing caller true found
  · have ended := ended call (List.mem_of_getElem? found)
    rw [step.not_over] at ended
    cases ended

theorem called {caller : Nat} {call after : Call} {host : Host W} (h : crowd.Winding)
    (found : crowd.calls[caller]? = some call) (step : CallStep call crowd.host after host) :
    (crowd.update caller (after, host)).Winding where
  alone _ _ foundOne lastOne := h.alone_called found step foundOne lastOne
  closed := h.closed_called found step
  clearing other last foundOther := by
    show host.engine.worker.gone = true
    rw [step.worker]
    exact h.clearing_called found step foundOther
  ended := h.ended_called found step

/-- Whoever sees to the worker still does when a call is added. -/
theorem closed_appended (h : crowd.Winding) (added : Call)
    (closed : crowd.host.engine.isOpen = false) : crowd.host.engine.worker.gone = true
      ∨ ∃ (caller : Nat) (call : Call), (crowd.calls ++ [added])[caller]? = some call
        ∧ call.isParting = true := by
  rcases h.closed closed with gone | ⟨caller, call, found, parts⟩
  · exact .inl gone
  · exact .inr ⟨caller, call, getElem?_append_of_some found, parts⟩

/-- A call that begins gets in nobody's way. -/
theorem began (h : crowd.Winding) (kept : crowd.givenUp = false) (operation : Operation) :
    Winding { crowd with calls := crowd.calls ++ [operation.call] } := by
  have before {caller : Nat} {call : Call}
      (found : (crowd.calls ++ [operation.call])[caller]? = some call)
      (other : call ≠ operation.call) : crowd.calls[caller]? = some call :=
    (getElem?_append_cases found).resolve_right fun added => other added.2
  exact {
    alone := by
      intro caller call found last
      have old := before found (by rintro rfl; rw [operation.isLast_call] at last; cases last)
      rw [(h.alone caller call old last).1] at kept
      cases kept
    closed := h.closed_appended _
    clearing := by
      intro caller last found
      refine h.clearing caller last (before found ?_)
      intro same
      rcases operation.call_cases with ⟨_, other⟩ | ⟨_, other⟩ | other <;> cases same.trans other
    ended := by
      intro givenUp
      cases kept.symm.trans givenUp }

theorem gaveUp (h : crowd.Winding) (ended : ∀ call ∈ crowd.calls, call.isOver = true) :
    Winding { crowd with calls := crowd.calls ++ [Call.giveUp], givenUp := true } := by
  have old {caller : Nat} {call : Call} (found : crowd.calls[caller]? = some call) :
      call.isOver = true := ended call (List.mem_of_getElem? found)
  exact {
    alone := by
      intro caller call found last
      refine ⟨rfl, ?_⟩
      intro other call' differ foundOther
      rcases getElem?_append_cases found with foundHere | ⟨at_, -⟩
      · rw [Call.not_last_of_over (old foundHere)] at last
        cases last
      · rcases getElem?_append_cases foundOther with foundHere | ⟨at', -⟩
        · exact old foundHere
        · exact absurd (at'.trans at_.symm) differ
    closed := h.closed_appended _
    clearing := by
      intro caller last found
      rcases getElem?_append_cases found with foundHere | ⟨-, same⟩
      · exact h.clearing caller last foundHere
      · cases same
    ended := fun _ => .inl ⟨crowd.calls.length, Call.giveUp, List.getElem?_concat_length, rfl⟩ }

/-- No move upsets the end of an engine. -/
theorem moved {move : Move} (h : crowd.Winding) (moved : crowd.Moved move next) : next.Winding := by
  cases moved with
  | began operation kept => exact h.began kept operation
  | called _ found step => exact h.called found step
  | @worked host step =>
      have here := step.not_gone
      exact {
        alone := h.alone
        closed := by
          intro closed
          rcases h.closed (step.isOpen.symm.trans closed) with gone | parting
          · cases here.symm.trans gone
          · exact .inr parting
        clearing := by
          intro caller last found
          cases here.symm.trans (h.clearing caller last found)
        ended := by
          intro givenUp
          rcases h.ended givenUp with last | ⟨-, gone, -⟩
          · exact .inl last
          · cases here.symm.trans gone }
  | @dropped _ _ _ host _ drops =>
      have worker : host.engine.worker = crowd.host.engine.worker := drops.beside.worker
      exact {
        alone := h.alone
        closed := by
          intro closed
          show host.engine.worker.gone = true ∨ _
          rw [worker]
          exact h.closed (drops.beside.isOpen.symm.trans closed)
        clearing := by
          intro caller last found
          show host.engine.worker.gone = true
          rw [worker]
          exact h.clearing caller last found
        ended := by
          intro givenUp
          rcases h.ended givenUp with last | ⟨ended, gone, entries⟩
          · exact .inl last
          · refine .inr ⟨ended, ?_, ?_⟩
            · show host.engine.worker.gone = true
              rw [worker]
              exact gone
            · show host.desk.outstanding.entries = []
              rw [drops.beside.desk]
              exact entries }
  | gaveUp _ ended => exact h.gaveUp ended

/-- Engines come to an end in an orderly way, under every schedule. -/
theorem of_reachable {backend : Backend W} {host : Host W} (fresh : host.Fresh backend)
    (reach : Reachable { host } crowd) : crowd.Winding := by
  refine reach.keeps ?_ moved
  exact {
    alone := by
      intro caller call found
      simp at found
    closed := by
      intro closed
      cases fresh.isOpen.symm.trans closed
    clearing := by
      intro caller last found
      simp at found
    ended := by
      intro givenUp
      cases givenUp }

end Winding

end Crowd

end Inference
