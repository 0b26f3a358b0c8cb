/-
Who waits for what.

`Crowd.Orderly` adds the callers to what is known of an engine: nobody waits for a ticket that is
still to come or that counts as deserted, and no two callers wait for the same one.  No move upsets
it (`Crowd.Orderly.moved`), so it holds of every crowd that can be reached, whatever the backend
does (`Crowd.Orderly.of_reachable`).
-/
import Inference.Proofs.Engine.Order

namespace Inference

variable {W : Type}

/-- The ticket a call waits for. -/
def Call.ticket? : Call → Option Nat
  | awaiting _ _ ticket => some ticket
  | _ => none

/-- How long a call waits, and for which ticket. -/
def Call.wait? : Call → Option (Nat × Nat)
  | awaiting _ timeout ticket => some (timeout, ticket)
  | _ => none

theorem Call.eq_of_wait? {call : Call} {timeout ticket : Nat}
    (h : call.wait? = some (timeout, ticket)) : ∃ task, call = .awaiting task timeout ticket := by
  cases call with
  | awaiting task =>
      cases h
      exact ⟨task, rfl⟩
  | _ => cases h

theorem Call.ticket?_onward {call : Call} {task : Option Task} (h : call.Onward task) :
    call.ticket? = none := by
  cases h <;> rfl

theorem Call.receive_cases (task : Task) (result : Except Fault Frame) :
    (∃ output answer target, Call.receive task result = .dropping output answer target)
      ∨ ∃ answer target, Call.receive task result = .ended answer target := by
  cases result with
  | error fault => exact .inr ⟨_, _, rfl⟩
  | ok frame =>
      simp only [receive, hand]
      split
      · exact .inl ⟨_, _, _, rfl⟩
      · split <;> exact .inr ⟨_, _, rfl⟩

theorem Call.ticket?_receive (task : Task) (result : Except Fault Frame) :
    (Call.receive task result).ticket? = none := by
  rcases Call.receive_cases task result with ⟨_, _, _, same⟩ | ⟨_, _, same⟩ <;> rw [same] <;> rfl

/-- How an operation begins. -/
theorem Operation.call_cases (operation : Operation) :
    (∃ part, operation.call = .checking part)
      ∨ (∃ fault, operation.call = .ended (.failed fault) none)
      ∨ operation.call = .closing false := by
  cases operation with
  | reshape info =>
      simp only [call, guarded]
      split
      · exact .inr (.inl ⟨_, rfl⟩)
      · exact .inl ⟨_, rfl⟩
  | inferShaped frame info =>
      simp only [call, guarded]
      split
      · exact .inr (.inl ⟨_, rfl⟩)
      · exact .inl ⟨_, rfl⟩
  | infer frame timeout => cases timeout <;> exact .inl ⟨_, rfl⟩
  | close => exact .inr (.inr rfl)
  | _ => exact .inl ⟨_, rfl⟩

theorem Operation.ticket?_call (operation : Operation) : operation.call.ticket? = none := by
  rcases operation.call_cases with ⟨_, same⟩ | ⟨_, same⟩ | same <;> rw [same] <;> rfl

/-- Tickets are given out one after another, one to each caller that submits a request. -/
theorem CallStep.tickets {call next : Call} {host after : Host W}
    (step : CallStep call host next after)
    (ordered : Ordered host.desk host.engine.worker) :
    (next.ticket? = some (host.desk.ticket + 1) ∧ after.desk.ticket = host.desk.ticket + 1
        ∧ after.desk.deserted = host.desk.deserted)
      ∨ next.ticket? = none ∧ after.desk.ticket = host.desk.ticket
        ∧ (after.desk.deserted = host.desk.deserted ∨ after.desk.deserted = call.ticket?) := by
  have still {after : Host W} (alike : host.Alike after) :
      after.desk.ticket = host.desk.ticket ∧ after.desk.deserted = host.desk.deserted := by
    obtain ⟨_, _, _, _, desk⟩ := alike.desk
    rw [desk]
    exact ⟨rfl, rfl⟩
  cases step with
  | checked onward => exact .inr ⟨Call.ticket?_onward onward, rfl, .inl rfl⟩
  | ran onward touched =>
      have same := still touched.alike
      exact .inr ⟨Call.ticket?_onward onward, same.1, .inl same.2⟩
  | @submitted task timeout _ middle dropped inputs tuned _ idle _ _ drops =>
      have desk := (ordered.cleared tuned idle drops).2.2
      have same := still tuned.alike
      have ticket : dropped.desk.ticket = host.desk.ticket := by
        rw [desk]
        exact same.1
      have deserted : dropped.desk.deserted = host.desk.deserted := by
        rw [desk]
        exact same.2
      refine .inl ⟨?_, ?_, deserted⟩
      · rw [← ticket]
        rfl
      · rw [← ticket]
        rfl
  | @faltered task timeout _ middle after message tuned idle drops =>
      have desk := (ordered.cleared tuned idle drops).2.2
      have same := still tuned.alike
      refine .inr ⟨rfl, ?_, .inl ?_⟩
      · show after.desk.ticket = _
        rw [desk]
        exact same.1
      · show after.desk.deserted = _
        rw [desk]
        exact same.2
  | lockedOut => exact .inr ⟨rfl, rfl, .inl rfl⟩
  | received _ collected =>
      rw [(Desk.collect_of_tidy ordered.tidy collected).1]
      exact .inr ⟨Call.ticket?_receive _ _, rfl, .inl rfl⟩
  | deserted => exact .inr ⟨rfl, rfl, .inr rfl⟩
  | copied drops =>
      obtain ⟨ticket, deserted⟩ := still drops.beside.alike
      exact .inr ⟨rfl, ticket, .inl deserted⟩
  | spoilt drops =>
      obtain ⟨ticket, deserted⟩ := still drops.beside.alike
      exact .inr ⟨rfl, ticket, .inl deserted⟩
  | retired => exact .inr ⟨rfl, rfl, .inl rfl⟩
  | refused => exact .inr ⟨rfl, rfl, .inl rfl⟩
  | inherited => exact .inr ⟨rfl, rfl, .inl rfl⟩
  | dismissed => exact .inr ⟨rfl, rfl, .inl rfl⟩
  | parted => exact .inr ⟨rfl, rfl, .inl rfl⟩
  | @cleared last _ after crash answer drops _ =>
      obtain ⟨_, _, _, _, desk⟩ := (Host.leftBy_alike after last crash).desk
      refine .inr ⟨rfl, ?_, .inl ?_⟩
      · rw [desk, drops.beside.desk]
        cases last <;> rfl
      · rw [desk, drops.beside.desk]
        cases last <;> rfl

theorem CallStep.submits {call next : Call} {host after : Host W}
    (step : CallStep call host next after)
    {ticket : Nat} (waits : next.ticket? = some ticket) :
    ∃ task timeout, call = .entering (.submit task timeout) ∧ next = .awaiting task timeout ticket
      ∧ after.desk.ticket = ticket ∧ after.desk.request
        = some { ticket, input := task.input.copyFor .engine, output := after.desk.output } := by
  cases step with
  | checked onward => cases (Call.ticket?_onward onward).symm.trans waits
  | ran onward => cases (Call.ticket?_onward onward).symm.trans waits
  | submitted =>
      cases waits
      exact ⟨_, _, rfl, rfl, rfl, rfl⟩
  | received => cases (Call.ticket?_receive _ _).symm.trans waits
  | _ => cases waits

/-- What only opening and closing an engine can change. -/
def Engine.constants (engine : Engine W) : Bool × Nat × Backend W :=
  (engine.isOpen, engine.id, engine.backend)

theorem Host.Alike.constants {host after : Host W} (h : host.Alike after) :
    after.engine.constants = host.engine.constants := by
  unfold Engine.constants
  rw [h.isOpen, h.id, h.backend]

theorem Host.deliver_eq (host : Host W) (ticket : Nat) (produced : Except Fault Frame) :
    host.deliver ticket produced = host.withDesk (host.deliver ticket produced).desk := by
  unfold deliver
  split
  · rfl
  · simp only
    split <;> rfl

theorem Host.deliver_constants (host : Host W) (ticket : Nat) (produced : Except Fault Frame) :
    (host.deliver ticket produced).engine.constants = host.engine.constants := by
  rw [deliver_eq]
  rfl

/-- The worker neither closes the engine nor changes its backend. -/
theorem WorkerStep.constants {host after : Host W} (step : WorkerStep host after) :
    after.engine.constants = host.engine.constants := by
  cases step with
  | finished _ _ _ ended =>
      cases ended with
      | returned _ back => exact (Host.beside_of_release back).alike.constants
      | broke _ back => exact (Host.beside_of_release back).alike.constants
      | _ => rfl
  | recorded _ recorded =>
      cases recorded with
      | delivered => exact host.deliver_constants _ _
      | ignored => rfl
      | returned _ _ back => exact (Host.beside_of_takeBack back).alike.constants
      | broke _ _ back => exact (Host.beside_of_takeBack back).alike.constants
  | _ => rfl

theorem WorkerStep.isOpen {host after : Host W} (step : WorkerStep host after) :
    after.engine.isOpen = host.engine.isOpen := congrArg Prod.fst step.constants

theorem WorkerStep.backend {host after : Host W} (step : WorkerStep host after) :
    after.engine.backend = host.engine.backend := congrArg (·.2.2) step.constants

theorem Host.deliver_tickets (host : Host W) (ticket : Nat) (produced : Except Fault Frame) :
    (host.deliver ticket produced).desk.ticket = host.desk.ticket
      ∧ (host.deliver ticket produced).desk.deserted = host.desk.deserted := by
  unfold deliver
  split
  · exact ⟨rfl, rfl⟩
  · simp only
    split <;> exact ⟨rfl, rfl⟩

theorem WorkerStep.tickets {host after : Host W} (step : WorkerStep host after) :
    after.desk.ticket = host.desk.ticket
      ∧ (after.desk.deserted = host.desk.deserted ∨ after.desk.deserted = none) := by
  cases step with
  | took => exact ⟨rfl, .inl rfl⟩
  | left => exact ⟨rfl, .inl rfl⟩
  | rested => exact ⟨rfl, .inl rfl⟩
  | refused => exact ⟨rfl, .inl rfl⟩
  | starved => exact ⟨rfl, .inl rfl⟩
  | entered => exact ⟨rfl, .inl rfl⟩
  | @finished request _ _ lending pass world _ _ _ _ ended =>
      cases ended with
      | failed => exact ⟨rfl, .inl rfl⟩
      | @returned _ middle _ back =>
          have desk := (Host.beside_of_release back).desk
          exact ⟨congrArg Desk.ticket desk, .inl (congrArg Desk.deserted desk)⟩
      | @broke _ _ middle _ back =>
          have desk := (Host.beside_of_release back).desk
          exact ⟨congrArg Desk.ticket desk, .inl (congrArg Desk.deserted desk)⟩
      | produced => exact ⟨rfl, .inl rfl⟩
      | lent => exact ⟨rfl, .inl rfl⟩
  | @recorded request produced _ _ recorded =>
      have taken {frame : Frame} {crash : Option String} {middle : Host W}
          (back : host.unmarked.takeBack frame = (crash, middle)) :
          middle.desk.ticket = host.desk.ticket ∧ middle.desk.deserted = none := by
        rw [(Host.beside_of_takeBack back).desk]
        exact ⟨rfl, rfl⟩
      cases recorded with
      | delivered =>
          have same := host.deliver_tickets request.ticket produced
          exact ⟨same.1, .inl same.2⟩
      | ignored => exact ⟨rfl, .inr rfl⟩
      | returned _ _ back => exact ⟨(taken back).1, .inr (taken back).2⟩
      | broke _ _ back => exact ⟨(taken back).1, .inr (taken back).2⟩

namespace Crowd

/-- The ticket that a caller waits for. -/
def waiting? (crowd : Crowd W) (caller : Nat) : Option Nat :=
  crowd.calls[caller]?.bind Call.ticket?

theorem waiting?_eq_some {crowd : Crowd W} {caller ticket : Nat} :
    crowd.waiting? caller = some ticket
      ↔ ∃ task timeout, crowd.calls[caller]? = some (.awaiting task timeout ticket) := by
  unfold waiting?
  constructor
  · intro waits
    obtain ⟨call, found, waits⟩ := Option.bind_eq_some_iff.1 waits
    cases call with
    | awaiting task timeout ticket' =>
        cases waits
        exact ⟨task, timeout, found⟩
    | _ => cases waits
  · rintro ⟨task, timeout, found⟩
    rw [found]
    rfl

/-- Everybody has a place of its own. -/
structure Orderly (crowd : Crowd W) : Prop where
  ordered : Ordered crowd.host.desk crowd.host.engine.worker
  /-- A caller waits for a ticket that was given out. -/
  given : ∀ caller ticket, crowd.waiting? caller = some ticket → ticket ≤ crowd.host.desk.ticket
  /-- Nobody waits for a ticket that is deserted. -/
  patient : ∀ caller ticket, crowd.waiting? caller = some ticket →
    crowd.host.desk.deserted ≠ some ticket
  /-- No two callers wait for the same ticket. -/
  apart : ∀ caller other ticket, crowd.waiting? caller = some ticket →
    crowd.waiting? other = some ticket → caller = other

theorem getElem?_set_of_some {α : Type} {list : List α} {index : Nat} {old : α}
    (found : list[index]? = some old) (new : α) (other : Nat) :
    (list.set index new)[other]? = if index = other then some new else list[other]? := by
  rw [List.getElem?_set, if_pos (List.getElem?_eq_some_iff.1 found).1]

/-- A list with one entry put in place of another has that one, and the others where they were. -/
theorem set_cases {α : Type} {list : List α} {index other : Nat} {old new here : α}
    (found : list[index]? = some old) (h : (list.set index new)[other]? = some here) :
    index = other ∧ here = new ∨ index ≠ other ∧ list[other]? = some here := by
  rw [getElem?_set_of_some found] at h
  split at h
  · rename_i same
    cases h
    exact .inl ⟨same, rfl⟩
  · rename_i differ
    exact .inr ⟨differ, h⟩

theorem getElem?_update {crowd : Crowd W} {caller : Nat} {call : Call}
    (found : crowd.calls[caller]? = some call) (after : Call × Host W) (other : Nat) :
    (crowd.update caller after).calls[other]?
      = if caller = other then some after.1 else crowd.calls[other]? :=
  getElem?_set_of_some found after.1 other

theorem update_cases {crowd : Crowd W} {caller other : Nat} {call after here : Call} {host : Host W}
    (found : crowd.calls[caller]? = some call)
    (h : (crowd.update caller (after, host)).calls[other]? = some here) :
    (caller = other ∧ here = after) ∨ (caller ≠ other ∧ crowd.calls[other]? = some here) :=
  set_cases found h

/-- Who waits for what, after a step of one call. -/
theorem waiting?_update {crowd : Crowd W} {caller : Nat} {call : Call}
    (found : crowd.calls[caller]? = some call) (after : Call × Host W) (other : Nat) :
    (crowd.update caller after).waiting? other
      = if caller = other then after.1.ticket? else crowd.waiting? other := by
  unfold waiting?
  rw [getElem?_update found]
  split <;> rfl

theorem getElem?_append_cases {α : Type} {old : List α} {new entry : α} {index : Nat}
    (h : (old ++ [new])[index]? = some entry) :
    old[index]? = some entry ∨ index = old.length ∧ entry = new := by
  rw [List.getElem?_append] at h
  split at h
  · exact .inl h
  · rename_i beyond
    obtain ⟨inside, same⟩ := List.getElem?_eq_some_iff.1 h
    simp only [List.length_cons, List.length_nil] at inside
    refine .inr ⟨by omega, ?_⟩
    rw [← same]
    simp

theorem getElem?_append_of_some {α : Type} {old : List α} {new entry : α} {index : Nat}
    (h : old[index]? = some entry) : (old ++ [new])[index]? = some entry := by
  rw [List.getElem?_append_left (List.getElem?_eq_some_iff.1 h).1]
  exact h

theorem Moved.call {crowd next : Crowd W} {move : Move} (moved : crowd.Moved move next)
    {caller : Nat} {call : Call} (found : crowd.calls[caller]? = some call) :
    next.calls[caller]? = some call
      ∨ ∃ after host, CallStep call crowd.host after host ∧ next.calls[caller]? = some after := by
  cases moved with
  | began => exact .inl (getElem?_append_of_some found)
  | @called _ mover other after host _ found' step =>
      have calls := getElem?_update found' (after, host) caller
      by_cases mine : mover = caller
      · subst mine
        cases found.symm.trans found'
        rw [if_pos rfl] at calls
        exact .inr ⟨after, host, step, calls⟩
      · rw [if_neg mine] at calls
        exact .inl (calls.trans found)
  | worked => exact .inl found
  | dropped => exact .inl found
  | gaveUp => exact .inl (getElem?_append_of_some found)

theorem waiting?_append (crowd : Crowd W) {call : Call} (idle : call.ticket? = none)
    (caller : Nat) :
    (crowd.calls ++ [call])[caller]?.bind Call.ticket? = crowd.waiting? caller := by
  unfold waiting?
  cases found : crowd.calls[caller]? with
  | some old =>
      rw [getElem?_append_of_some found]
  | none =>
      cases added : (crowd.calls ++ [call])[caller]? with
      | none => rfl
      | some new =>
          rcases getElem?_append_cases added with old | ⟨-, rfl⟩
          · cases found.symm.trans old
          · exact idle

namespace Orderly

variable {crowd next : Crowd W}

/-- Nobody comes to wait, and nobody is deserted. -/
theorem same (h : crowd.Orderly) (ordered : Ordered next.host.desk next.host.engine.worker)
    (waiting : ∀ caller, next.waiting? caller = crowd.waiting? caller)
    (ticket : next.host.desk.ticket = crowd.host.desk.ticket)
    (deserted : next.host.desk.deserted = crowd.host.desk.deserted
      ∨ next.host.desk.deserted = none) : next.Orderly where
  ordered := ordered
  given caller ticket' waits := by
    rw [waiting] at waits
    rw [ticket]
    exact h.given caller ticket' waits
  patient caller ticket' waits := by
    rw [waiting] at waits
    rcases deserted with same | none
    · rw [same]
      exact h.patient caller ticket' waits
    · rw [none]
      nofun
  apart caller other ticket' waits waits' := by
    rw [waiting] at waits waits'
    exact h.apart caller other ticket' waits waits'

/-- A caller submits a request, under a ticket nobody has waited for before. -/
theorem submitted {caller : Nat} {call after : Call} {host : Host W} (h : crowd.Orderly)
    (found : crowd.calls[caller]? = some call) (ordered : Ordered host.desk host.engine.worker)
    (mine : after.ticket? = some (crowd.host.desk.ticket + 1))
    (ticket : host.desk.ticket = crowd.host.desk.ticket + 1)
    (deserted : host.desk.deserted = crowd.host.desk.deserted) :
    (crowd.update caller (after, host)).Orderly := by
  have waits := waiting?_update found (after, host)
  have fresh {other : Nat} (waiting : crowd.waiting? other = some (crowd.host.desk.ticket + 1)) :
      False := Nat.not_succ_le_self _ (h.given other _ waiting)
  exact {
    ordered := ordered
    given := by
      intro other number waiting
      show number ≤ host.desk.ticket
      rw [waits] at waiting
      split at waiting
      · cases mine.symm.trans waiting
        exact Nat.le_of_eq ticket.symm
      · have before := h.given other number waiting
        omega
    patient := by
      intro other number waiting marked
      change host.desk.deserted = _ at marked
      rw [deserted] at marked
      have before := h.ordered.marked number marked
      rw [waits] at waiting
      split at waiting
      · cases mine.symm.trans waiting
        omega
      · exact h.patient other number waiting marked
    apart := by
      intro one other number waiting waiting'
      rw [waits] at waiting waiting'
      split at waiting <;> split at waiting'
      · omega
      · cases mine.symm.trans waiting
        exact (fresh waiting').elim
      · cases mine.symm.trans waiting'
        exact (fresh waiting).elim
      · exact h.apart one other number waiting waiting' }

/-- A caller takes a step after which it waits for nothing, be it that it has deserted. -/
theorem wentOn {caller : Nat} {call after : Call} {host : Host W} (h : crowd.Orderly)
    (found : crowd.calls[caller]? = some call) (ordered : Ordered host.desk host.engine.worker)
    (mine : after.ticket? = none) (ticket : host.desk.ticket = crowd.host.desk.ticket)
    (deserted : host.desk.deserted = crowd.host.desk.deserted
      ∨ host.desk.deserted = crowd.waiting? caller) :
    (crowd.update caller (after, host)).Orderly := by
  have left {other number : Nat}
      (waiting : (crowd.update caller (after, host)).waiting? other = some number) :
      caller ≠ other ∧ crowd.waiting? other = some number := by
    rw [waiting?_update found] at waiting
    split at waiting
    · cases mine.symm.trans waiting
    · exact ⟨‹_›, waiting⟩
  exact {
    ordered := ordered
    given := by
      intro other number waiting
      show number ≤ host.desk.ticket
      rw [ticket]
      exact h.given other number (left waiting).2
    patient := by
      intro other number waiting marked
      change host.desk.deserted = _ at marked
      rcases deserted with same | same
      · exact h.patient other number (left waiting).2 (same ▸ marked)
      · -- Only the call itself can have been deserted.
        rw [same] at marked
        exact (left waiting).1 (h.apart caller other number marked (left waiting).2)
    apart := by
      intro one other number waiting waiting'
      exact h.apart one other number (left waiting).2 (left waiting').2 }

/-- A step of one call keeps all of them in order. -/
theorem called {caller : Nat} {call after : Call} {host : Host W} (h : crowd.Orderly)
    (found : crowd.calls[caller]? = some call) (step : CallStep call crowd.host after host) :
    (crowd.update caller (after, host)).Orderly := by
  have own : crowd.waiting? caller = call.ticket? := by
    unfold waiting?
    rw [found]
    rfl
  have ordered := h.ordered.callStep step fun task timeout ticket same =>
    h.given caller ticket (by rw [own, same]; rfl)
  rcases step.tickets h.ordered with ⟨mine, ticket, deserted⟩ | ⟨mine, ticket, deserted⟩
  · exact h.submitted found ordered mine ticket deserted
  · rw [← own] at deserted
    exact h.wentOn found ordered mine ticket deserted

/-- No move brings disorder. -/
theorem moved {move : Move} (h : crowd.Orderly) (moved : crowd.Moved move next) : next.Orderly := by
  cases moved with
  | began operation =>
      exact h.same h.ordered (crowd.waiting?_append operation.ticket?_call) rfl (.inl rfl)
  | called _ found step => exact h.called found step
  | worked step =>
      have tickets := step.tickets
      exact h.same (h.ordered.workerStep step) (fun _ => rfl) tickets.1 tickets.2
  | dropped _ drops =>
      have desk := drops.beside.desk
      refine h.same (h.ordered.alike drops.beside.alike) (fun _ => rfl) ?_ (.inl ?_)
      · exact congrArg Desk.ticket desk
      · exact congrArg Desk.deserted desk
  | gaveUp => exact h.same h.ordered (crowd.waiting?_append rfl) rfl (.inl rfl)

theorem ticket_le {move : Move} (h : crowd.Orderly) (moved : crowd.Moved move next) :
    crowd.host.desk.ticket ≤ next.host.desk.ticket := by
  cases moved with
  | began => exact Nat.le_refl _
  | @called _ _ _ _ host _ _ step =>
      show crowd.host.desk.ticket ≤ host.desk.ticket
      rcases step.tickets h.ordered with ⟨-, ticket, -⟩ | ⟨-, ticket, -⟩ <;> omega
  | worked step => exact Nat.le_of_eq step.tickets.1.symm
  | dropped _ drops => exact Nat.le_of_eq (congrArg Desk.ticket drops.beside.desk.symm)
  | gaveUp => exact Nat.le_refl _

/-- Everybody has a place of its own, from the start and under every schedule. -/
theorem of_reachable {backend : Backend W} {host : Host W} (fresh : host.Fresh backend)
    (reach : Reachable { host } crowd) : crowd.Orderly := by
  refine reach.keeps ?_ moved
  exact {
    ordered := .of_fresh fresh
    given := nofun
    patient := nofun
    apart := nofun }

end Orderly

end Crowd

end Inference
