/-
What the desk knows of the outputs on lease.

Two places speak of an output that the backend lent and no caller has received: the outcome on the
desk, which gives its number, and the list of what is outstanding, which has the frame.  They agree
at any time (`Desk.outstanding_iff_of_tidy`), so nothing is outstanding that no outcome speaks of,
and no caller that collects an outcome finds that its frame has gone back before.

The only other way to be told that it has would be that a pass failed of it.  `Host.Reported`
excludes that, under every schedule by `Host.Reported.of_reachable`: what a pass is reported to
have failed of is always the pass or its frames.
-/
import Inference.Proofs.Engine.Custody
import Inference.Proofs.Engine.Rejection
import Inference.Proofs.Engine.Survival
import Inference.Proofs.Tensor.Refusal

namespace Inference

variable {W : Type}

/-! ### The two accounts of one output -/

namespace Desk

variable {desk : Desk}

theorem outstanding_iff_of_tidy (tidy : desk.Tidy) (number : Nat) :
    number ∈ desk.outstanding.entries.map (·.1)
      ↔ ∃ ticket, desk.response = some ⟨ticket, .ok (.tracked number)⟩ := by
  obtain ⟨mode, request, ticket, deserted, response, ⟨entries, last⟩⟩ := desk
  cases tidy <;> simp [eq_comm]

theorem size_le_of_tidy (tidy : desk.Tidy) : desk.outstanding.size ≤ 1 := by
  obtain ⟨mode, request, ticket, deserted, response, ⟨entries, last⟩⟩ := desk
  cases tidy <;> simp [Outstanding.size]

/-- A caller is told of a fault only if that is what was recorded. -/
theorem recorded_of_collect {fault : Fault} (tidy : desk.Tidy)
    (h : desk.collect.1 = some (.error fault)) :
    ∃ ticket, desk.response = some ⟨ticket, .error fault⟩ := by
  obtain ⟨mode, request, ticket, deserted, response, ⟨entries, last⟩⟩ := desk
  cases tidy with
  | blank => cases h
  | failed =>
      cases h
      exact ⟨_, rfl⟩
  | owned => cases h
  | tracked =>
      simp [collect, Outstanding.take, Outstanding.find?] at h

end Desk

/-! ### What a pass fails of -/

/-- What a pass is reported to have failed of. -/
inductive Fault.OfPass : Fault → Prop where
  | failed (text : String) : OfPass (.passFailed text)
  | invalid {fault : Fault} (invalid : fault.Invalid) : OfPass fault

theorem Fault.OfPass.ne_releasedEarly {fault : Fault} (h : fault.OfPass) (number : Nat) :
    fault ≠ Desk.releasedEarly number := by
  cases h with
  | failed => nofun
  | invalid invalid =>
      cases invalid
      nofun

theorem Fault.poisonedLock_ne_releasedEarly (number : Nat) :
    Fault.poisonedLock ≠ Desk.releasedEarly number := by
  intro same
  have texts := congrArg String.toList (Fault.unknown.inj same)
  simp at texts

namespace Host

/-- Every fault on its way to a caller is one of a pass. -/
structure Reported (host : Host W) : Prop where
  returning : ∀ request fault, host.engine.worker = .returning request (.error fault) → fault.OfPass
  recorded : ∀ ticket fault, host.desk.response = some ⟨ticket, .error fault⟩ → fault.OfPass

theorem ofPass_of_beginPass {host : Host W} {request other : Request} {fault : Fault}
    (returns : (host.beginPass request).engine.worker = .returning other (.error fault)) :
    fault.OfPass := by
  unfold beginPass at returns
  split at returns
  · cases returns
    exact .failed _
  split at returns
  · cases returns
    rename_i missing
    exact .invalid (Frame.invalid_of_allBytes missing)
  · simp only at returns
    split at returns
    · cases returns
    · rename_i refused
      split at refused
      · cases refused
      · exact absurd refused (Frame.allocate_ne_failed _ _)
    · cases returns

end Host

theorem Frame.ofPass_of_produced {info : Descriptor} {regions : List Bytes} {fault : Fault}
    (h : Frame.produced info regions = .error fault) : fault.OfPass := by
  unfold produced at h
  cases made : ofRegions info regions with
  | ok frame =>
      rw [made] at h
      cases h
  | error cause =>
      rw [made] at h
      cases h
      exact .invalid (invalid_of_ofRegions made)

/-! ### What a step does to the outcome on the desk -/

/-- A step of a call takes the outcome off the desk or leaves it there. -/
theorem CallStep.response {call next : Call} {host after : Host W}
    (ordered : Ordered host.desk host.engine.worker) (step : CallStep call host next after) :
    after.desk.response = none ∨ after.desk.response = host.desk.response := by
  have alike {before after : Host W} (alike : before.Alike after) :
      after.desk.response = before.desk.response := by
    obtain ⟨_, _, _, _, desk⟩ := alike.desk
    rw [desk]
  cases step with
  | ran _ touched => exact .inr (alike touched.alike)
  | submitted tuned _ idle _ _ drops =>
      exact .inl (congrArg Desk.response (ordered.cleared tuned idle drops).2.2)
  | faltered tuned idle drops =>
      exact .inl (congrArg Desk.response (ordered.cleared tuned idle drops).2.2)
  | received _ collected =>
      rw [(Desk.collect_of_tidy ordered.tidy collected).1]
      exact .inl rfl
  | copied drops => exact .inr (alike drops.beside.alike)
  | spoilt drops => exact .inr (alike drops.beside.alike)
  | @cleared last _ after crash _ drops _ =>
      rw [alike (Host.leftBy_alike after last crash), alike drops.beside.alike]
      rcases Desk.clear_cases ordered.tidy last with ⟨-, clear⟩ | ⟨-, clear⟩
      · rw [clear]
        exact .inr rfl
      · rw [clear]
        exact .inl rfl
  | _ => exact .inr rfl

theorem PassEnd.desk {host after : Host W} {request : Request} {pass : Pass} {lending : Bool}
    (ended : PassEnd host request pass lending after) : after.desk = host.desk := by
  cases ended with
  | returned _ back => exact (Host.beside_of_release back).desk
  | broke _ back => exact (Host.beside_of_release back).desk
  | _ => rfl

/-- The worker records an outcome where there is none, and leaves one that is there alone. -/
theorem WorkerStep.response {host after : Host W} (step : WorkerStep host after) :
    after.desk.response = host.desk.response
      ∨ ∃ request produced, host.engine.worker = .returning request produced
        ∧ after = (host.deliver request.ticket produced).complete := by
  cases step with
  | finished _ _ _ ended => exact .inl (congrArg Desk.response ended.desk)
  | @recorded request produced after returning recorded =>
      cases recorded with
      | delivered => exact .inr ⟨request, produced, returning, rfl⟩
      | ignored => exact .inl rfl
      | @returned _ middle _ _ back =>
          refine .inl ?_
          show middle.desk.response = _
          rw [(Host.beside_of_takeBack back).desk]
          rfl
      | @broke _ _ middle _ _ back =>
          refine .inl ?_
          show middle.desk.response = _
          rw [(Host.beside_of_takeBack back).desk]
          rfl
  | _ => exact .inl rfl

namespace Host

theorem response_of_deliver {host : Host W} {ticket number : Nat} {produced : Except Fault Frame}
    {fault : Fault}
    (recorded : (host.deliver ticket produced).complete.desk.response
      = some ⟨number, .error fault⟩) : produced = .error fault := by
  change (host.deliver ticket produced).desk.response = _ at recorded
  cases produced with
  | error cause =>
      cases recorded
      rfl
  | ok frame =>
      simp only [deliver] at recorded
      split at recorded <;> cases recorded

namespace Reported

variable {host after : Host W}

theorem callStep {call next : Call} (h : host.Reported)
    (ordered : Ordered host.desk host.engine.worker) (step : CallStep call host next after) :
    after.Reported where
  returning request fault returns := by
    rw [step.worker] at returns
    exact h.returning request fault returns
  recorded ticket fault recorded := by
    rcases step.response ordered with none | same
    · rw [none] at recorded
      cases recorded
    · rw [same] at recorded
      exact h.recorded ticket fault recorded

/-- The worker comes back with a fault of the pass. -/
theorem ofPass_of_work (h : host.Reported) (work : host.stepWorker = some after)
    {request : Request} {fault : Fault}
    (returns : after.engine.worker = .returning request (.error fault)) : fault.OfPass := by
  cases stepWorker_step work with
  | took => cases returns
  | left => cases returns
  | rested =>
      exact h.returning request fault returns
  | @refused taken cause holding =>
      unfold stepWorker at work
      rw [holding] at work
      have begun : host.beginPass taken = host.withWorker (.returning taken (.error cause)) :=
        Option.some.inj work
      rw [← begun] at returns
      exact ofPass_of_beginPass returns
  | starved => cases returns
  | entered => cases returns
  | finished _ _ _ ended =>
      cases ended with
      | failed failure =>
          cases returns
          obtain ⟨text, rfl⟩ := Pass.failure?_eq failure
          exact .failed text
      | returned failure =>
          cases returns
          obtain ⟨text, rfl⟩ := Pass.failure?_eq failure
          exact .failed text
      | broke => cases returns
      | produced => exact Frame.ofPass_of_produced (Worker.returning.inj returns).2
      | lent => cases returns
  | recorded _ recorded => cases recorded <;> cases returns

theorem work (h : host.Reported) (work : host.stepWorker = some after) : after.Reported where
  returning _ _ returns := h.ofPass_of_work work returns
  recorded ticket fault recorded := by
    rcases (stepWorker_step work).response with same | ⟨request, produced, returning, rfl⟩
    · rw [same] at recorded
      exact h.recorded ticket fault recorded
    · rw [response_of_deliver recorded] at returning
      exact h.returning request fault returning

theorem alike (h : host.Reported) (alike : host.Alike after) : after.Reported := by
  obtain ⟨_, _, _, _, desk⟩ := alike.desk
  refine ⟨?_, ?_⟩
  · rw [alike.worker]
    exact h.returning
  · rw [desk]
    exact h.recorded

/-- What is reported to have failed is a pass, whatever the backend does and under every
schedule. -/
theorem of_reachable {backend : Backend W} {crowd : Crowd W} (fresh : host.Fresh backend)
    (reach : Crowd.Reachable { host } crowd) : crowd.host.Reported := by
  induction reach with
  | refl =>
      obtain ⟨_, _, _, desk⟩ := fresh.desk
      refine ⟨?_, ?_⟩
      · rw [fresh.worker]
        nofun
      · rw [desk]
        nofun
  | @step crowd next before move made ih =>
      cases Crowd.moved_of_after? made with
      | began => exact ih
      | called _ _ step => exact ih.callStep (Crowd.Orderly.of_reachable fresh before).ordered step
      | worked =>
          obtain ⟨after, work, ⟨⟩⟩ := Option.map_eq_some_iff.1 made
          exact ih.work work
      | dropped _ drops => exact ih.alike drops.beside.alike
      | gaveUp => exact ih

end Reported

end Host

/-! ### The accounts agree -/

namespace Crowd

variable {crowd : Crowd W}

/-- A caller that is told of a fault is told by the lock, or runs out of patience, or collects what
was recorded. -/
theorem told_of_awaiting {host after : Host W} {task : Task} {timeout ticket : Nat} {fault : Fault}
    {target : Option Frame}
    (step : CallStep (.awaiting task timeout ticket) host (.ended (.failed fault) target) after) :
    fault = .poisonedLock ∨ fault = .timedOut ∨ host.desk.collect.1 = some (.error fault) := by
  generalize told : Call.ended (.failed fault) target = next at step
  cases step with
  | lockedOut =>
      cases told
      exact .inl rfl
  | deserted =>
      cases told
      exact .inr (.inl rfl)
  | @received _ _ _ _ _ result _ collected =>
      refine .inr (.inr ?_)
      cases result with
      | error cause =>
          cases told
          rw [collected]
      | ok output =>
          simp only [Call.receive, Call.hand] at told
          split at told
          · cases told
          · split at told <;> cases told

/-- Under every schedule, and whatever the backend does or crashes over: the numbers under which
outputs are outstanding are exactly those that the outcome on the desk gives, so there is one at
most.  The worker finds no outcome on the desk when it comes to record its own, and none of its
steps changes one that is there.  No caller that collects an outcome, and none that waits for one,
is told that its output went back too early. -/
theorem outstanding_iff_recorded {backend : Backend W} {id : Nat} {options : Options}
    {framework : Framework} {world : W} {live : List Nat} {host : Host W}
    (opened : backend.openAs id options framework world live = .opened host)
    (reach : Reachable { host } crowd) :
    (∀ number, number ∈ crowd.host.desk.outstanding.entries.map (·.1)
        ↔ ∃ ticket, crowd.host.desk.response = some ⟨ticket, .ok (.tracked number)⟩)
      ∧ crowd.host.desk.outstanding.size ≤ 1
      ∧ (∀ request produced, crowd.host.engine.worker = .returning request produced →
        crowd.host.desk.response = none)
      ∧ (∀ next response, crowd.after? .works = some next →
        crowd.host.desk.response = some response → next.host.desk.response = some response)
      ∧ (∀ number, crowd.host.desk.collect.1 ≠ some (.error (Desk.releasedEarly number)))
      ∧ ∀ (caller : Nat) task timeout ticket move next number target,
        crowd.calls[caller]? = some (.awaiting task timeout ticket) →
        crowd.after? move = some next →
        next.calls[caller]? ≠ some (.ended (.failed (Desk.releasedEarly number)) target) := by
  have fresh := Backend.fresh_of_opened opened
  have ordered := (Orderly.of_reachable fresh reach).ordered
  have silent : ∀ request produced, crowd.host.engine.worker = .returning request produced →
      crowd.host.desk.response = none := by
    intro request produced returning
    have inHand : crowd.host.engine.worker.request? = some request := by
      rw [returning]
      rfl
    exact (ordered.inHand request inHand).2
  have kept : ∀ number, crowd.host.desk.collect.1 ≠ some (.error (Desk.releasedEarly number)) := by
    intro number collected
    obtain ⟨ticket, recorded⟩ := Desk.recorded_of_collect ordered.tidy collected
    have reported := (Host.Reported.of_reachable fresh reach).recorded ticket _ recorded
    exact reported.ne_releasedEarly number rfl
  refine ⟨Desk.outstanding_iff_of_tidy ordered.tidy, Desk.size_le_of_tidy ordered.tidy, silent, ?_,
    kept, ?_⟩
  · intro next response made recorded
    obtain ⟨after, work, rfl⟩ := Option.map_eq_some_iff.1 made
    rcases (Host.stepWorker_step work).response with same | ⟨request, produced, returning, -⟩
    · exact same.trans recorded
    · rw [silent request produced returning] at recorded
      cases recorded
  · intro caller task timeout ticket move next number target waits made told
    rcases (turn_of_after? made).call waits with still | ⟨after, -, goes, ends⟩
    · cases still.symm.trans told
    · cases ends.symm.trans told
      rcases told_of_awaiting goes.callStep with locked | late | collected
      · exact Fault.poisonedLock_ne_releasedEarly number locked.symm
      · cases late
      · exact kept number collected

end Crowd

namespace CustomModel

/-- A pass whose output waits for its caller. -/
def outputWaits : List Move :=
  [.begins (.infer (byteTask 7).input (some 0)), .steps 0, .steps 0, .works, .works, .works, .works]

/-- The output is outstanding under the number that the outcome gives, and its caller gets it. -/
theorem waiting_output_recorded : ∃ crowd : Crowd Unit,
    Crowd.afterAll? { host := lendingEngine } outputWaits = some crowd
      ∧ crowd.host.desk.outstanding.entries.map (·.1) = [1]
      ∧ (∃ ticket, crowd.host.desk.response = some ⟨ticket, .ok (.tracked 1)⟩)
      ∧ crowd.calls.map Call.isOver = [false]
      ∧ ∀ number, crowd.host.desk.collect.1 ≠ some (.error (Desk.releasedEarly number)) := by
  have run : (Crowd.afterAll? { host := lendingEngine } outputWaits).any (fun crowd =>
      decide (crowd.host.desk.outstanding.entries.map (·.1) = [1]
        ∧ crowd.calls.map Call.isOver = [false])) = true := by
    decide +kernel
  obtain ⟨crowd, reached, outstanding, waits⟩ := Crowd.exists_of_any run
  have opened : lendingByte.openAs 0 {} .custom () [] = .opened lendingEngine := rfl
  obtain ⟨agree, -, -, -, kept, -⟩ :=
    Crowd.outstanding_iff_recorded opened (Crowd.reachable_of_afterAll? reached)
  refine ⟨crowd, reached, outstanding, (agree 1).1 ?_, waits, kept⟩
  rw [outstanding]
  exact List.mem_singleton_self 1

end CustomModel

end Inference
