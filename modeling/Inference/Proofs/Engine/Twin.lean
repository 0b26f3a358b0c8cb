/-
An engine and its audited twin.

Calls and worker take the same steps with a record and without one, and so do whole crowds.  In the
end every history of an engine is one of the audited engine as well (`Crowd.Lived.returned`); what
the twin has on its record is what the backend was given back in the course of that history.
-/
import Inference.Proofs.Engine.Chronicle
import Inference.Proofs.Engine.Transparency

namespace Inference

variable {W : Type}

/-! ### Steps -/

namespace Call

variable (call : Call) (host : Host W) (record : Returns)

theorem mirrors_tryReceive (task : Task) (ticket : Nat) :
    Mirrors (tryReceive task ticket host) (tryReceive task ticket (host.withRecord record)) := by
  refine .ite .same (.ite ?_ .none)
  have collected : (host.withRecord record).desk.collect = host.desk.collect := rfl
  rw [collected]
  obtain ⟨result, desk⟩ := host.desk.collect
  cases result with
  | none => exact .none
  | some result => exact .same

theorem mirrors_expire : Mirrors (call.expire host) (call.expire (host.withRecord record)) := by
  cases call with
  | awaiting task timeout ticket =>
      refine .ite .none ?_
      obtain ⟨middle, mirrors⟩ := mirrors_tryReceive host record task ticket
      rw [mirrors]
      cases tryReceive task ticket host with
      | none => exact .same
      | some next => exact .same
  | _ => exact .none

theorem mirrors_step : Mirrors (call.step host) (call.step (host.withRecord record)) := by
  cases call with
  | checking part => exact .same
  | entering part => exact (Act.blind_locked part.blind_run host record).map fun _ _ _ => rfl
  | awaiting task timeout ticket => exact mirrors_tryReceive host record task ticket
  | dropping output answer target =>
      refine (Act.blind_drop output host record).map ?_
      intro outcome after record
      cases outcome <;> rfl
  | closing last =>
      simp only [step, Host.withRecord_retire]
      cases host.retire <;> exact .same
  | dismissing last => exact .same
  | expecting last => exact .ite .same .none
  | clearing last =>
      have blind := Act.blind_dropAll (host.desk.clear last).1
        (host.withDesk (host.desk.clear last).2) record
      refine blind.map ?_
      intro outcome after record
      cases outcome with
      | crashed message =>
          cases last with
          | false => rfl
          | true => exact congrArg (Prod.mk _) (after.withRecord_detach record)
      | _ => exact congrArg (Prod.mk _) (after.withRecord_detach record)
  | ended => exact .none

end Call

namespace Host

variable (host : Host W) (record : Returns)

theorem withRecord_wake :
    (host.withRecord record).wake = host.wake.map fun after => after.withRecord record := by
  have desk : (host.withRecord record).desk = host.desk := rfl
  unfold wake
  rw [desk]
  simp only
  split <;> rfl

theorem withRecord_beginPass (request : Request) :
    (host.withRecord record).beginPass request = (host.beginPass request).withRecord record := by
  by_cases attached : (!host.desk.attached) = true
  · unfold beginPass
    rw [if_pos attached]
    exact if_pos attached
  · unfold beginPass
    rw [if_neg attached]
    refine (if_neg attached).trans ?_
    cases request.input.allBytes with
    | error fault => rfl
    | ok inputs =>
        simp only
        have allocates :
            (host.withRecord record).engine.backend.allocates (host.withRecord record).world
              = host.engine.backend.allocates host.world := rfl
        rw [allocates]
        split <;> rfl

theorem withRecord_endPass (request : Request) (lending : Bool) (pass : Pass) :
    ∃ after, (host.withRecord record).endPass request lending pass
      = (host.endPass request lending pass).withRecord after := by
  unfold endPass
  cases pass.failure? request.output with
  | none =>
      refine ⟨record, ?_⟩
      cases lending <;> rfl
  | some fault =>
      cases lending with
      | false => exact ⟨record, rfl⟩
      | true =>
          refine ⟨record ++ [pass.outputs], ?_⟩
          simp only [if_true, withRecord_release]
          obtain ⟨crash, after⟩ := host.release pass.outputs
          cases crash <;> rfl

theorem withRecord_deliver (ticket : Nat) (produced : Except Fault Frame) :
    (host.withRecord record).deliver ticket produced
      = (host.deliver ticket produced).withRecord record := by
  cases produced with
  | error fault => rfl
  | ok frame =>
      by_cases owned : frame.owner = .backend
      · unfold deliver
        simp only [if_pos owned]
        rfl
      · unfold deliver
        simp only [if_neg owned]
        rfl

theorem withRecord_record (request : Request) (produced : Except Fault Frame) :
    ∃ after, (host.withRecord record).record request produced
      = (host.record request produced).withRecord after := by
  by_cases deserted : host.desk.deserted = some request.ticket
  · have wiped : (host.withRecord record).desk.deserted = some request.ticket := deserted
    unfold Host.record
    rw [if_pos deserted, if_pos wiped]
    cases produced with
    | error fault => exact ⟨record, rfl⟩
    | ok frame =>
        by_cases plain : frame.lease.isNone = true
        · refine ⟨record, ?_⟩
          simp only [if_pos plain]
          rfl
        · refine ⟨record ++ [frame.present], ?_⟩
          have unmarked : (host.withRecord record).withDesk
              { (host.withRecord record).desk with deserted := none }
              = (host.withDesk { host.desk with deserted := none }).withRecord record := rfl
          simp only [if_neg plain]
          rw [unmarked, withRecord_takeBack]
          obtain ⟨crash, after⟩ :=
            (host.withDesk { host.desk with deserted := none }).takeBack frame
          cases crash <;> rfl
  · refine ⟨record, ?_⟩
    unfold Host.record
    rw [if_neg deserted]
    refine (if_neg deserted).trans ?_
    rw [withRecord_deliver]
    rfl

theorem withRecord_stepWorker : ∃ after, (host.withRecord record).stepWorker
    = host.stepWorker.map fun next => next.withRecord after := by
  have worker : (host.withRecord record).engine.worker = host.engine.worker := rfl
  unfold stepWorker
  rw [worker]
  cases host.engine.worker with
  | parked => exact ⟨record, withRecord_wake host record⟩
  | holding request => exact ⟨record, congrArg some (withRecord_beginPass host record request)⟩
  | inPass request outputs lending =>
      simp only
      cases request.input.allBytes with
      | error fault => exact ⟨record, rfl⟩
      | ok inputs =>
          have finish : (host.withRecord record).engine.backend.finish inputs outputs lending
                (host.withRecord record).world
              = (host.engine.backend.finish inputs outputs lending host.world).map
                  fun ended => (ended.1, ended.2, record) := rfl
          simp only [finish]
          cases host.engine.backend.finish inputs outputs lending host.world with
          | none => exact ⟨record, rfl⟩
          | some result =>
              obtain ⟨after, same⟩ := withRecord_endPass { host with world := result.2 } record
                request lending result.1
              exact ⟨after, congrArg some same⟩
  | returning request produced =>
      obtain ⟨after, same⟩ := withRecord_record host record request produced
      exact ⟨after, congrArg some same⟩
  | exited => exact ⟨record, rfl⟩
  | died => exact ⟨record, rfl⟩

end Host

/-! ### Whole runs -/

namespace Crowd

/-- The crowd on the audited backend, with a record beside its world. -/
def withRecord (crowd : Crowd W) (record : Returns) : Crowd (W × Returns) where
  host := crowd.host.withRecord record
  calls := crowd.calls
  dropped := crowd.dropped
  givenUp := crowd.givenUp

/-- A move that can be made can be made with a record as well, with the same effect. -/
theorem withRecord_after? {crowd next : Crowd W} {move : Move} (record : Returns)
    (made : crowd.after? move = some next) :
    ∃ after, (crowd.withRecord record).after? move = some (next.withRecord after) := by
  cases move with
  | begins operation =>
      simp only [after?] at made
      split at made
      · cases made
      · rename_i kept
        cases made
        exact ⟨record, if_neg kept⟩
  | steps caller =>
      obtain ⟨call, found, made⟩ := Option.bind_eq_some_iff.1 made
      obtain ⟨result, stepped, ⟨⟩⟩ := Option.bind_eq_some_iff.1 made
      obtain ⟨after, mirrors⟩ := call.mirrors_step crowd.host record
      rw [stepped] at mirrors
      refine ⟨after, Option.bind_eq_some_iff.2 ⟨call, found, ?_⟩⟩
      exact Option.bind_eq_some_iff.2 ⟨_, mirrors, rfl⟩
  | expires caller =>
      obtain ⟨call, found, made⟩ := Option.bind_eq_some_iff.1 made
      obtain ⟨result, expired, ⟨⟩⟩ := Option.bind_eq_some_iff.1 made
      obtain ⟨after, mirrors⟩ := call.mirrors_expire crowd.host record
      rw [expired] at mirrors
      refine ⟨after, Option.bind_eq_some_iff.2 ⟨call, found, ?_⟩⟩
      exact Option.bind_eq_some_iff.2 ⟨_, mirrors, rfl⟩
  | works =>
      obtain ⟨host, worked, rfl⟩ := Option.map_eq_some_iff.1 made
      obtain ⟨after, same⟩ := crowd.host.withRecord_stepWorker record
      rw [worked] at same
      exact ⟨after, Option.map_eq_some_iff.2 ⟨_, same, rfl⟩⟩
  | drops caller =>
      obtain ⟨output, held, made⟩ := Option.bind_eq_some_iff.1 made
      obtain ⟨result, dropped, ⟨⟩⟩ := Option.bind_eq_some_iff.1 made
      obtain ⟨after, mirrors⟩ := Act.blind_drop output crowd.host record
      rw [dropped] at mirrors
      refine ⟨after, Option.bind_eq_some_iff.2 ⟨output, held, ?_⟩⟩
      exact Option.bind_eq_some_iff.2 ⟨_, mirrors, rfl⟩
  | givesUp =>
      simp only [after?] at made
      split at made
      · rename_i through
        cases made
        exact ⟨record, if_pos through⟩
      · cases made

/-- The chronicle notices the record as little as the engine does. -/
theorem withRecord_chronicle (chronicle : Chronicle) (crowd next : Crowd W) (record after : Returns)
    (move : Move) : chronicle.after (crowd.withRecord record) (next.withRecord after) move
      = chronicle.after crowd next move := by
  have pass : (crowd.withRecord record).host.pass? = crowd.host.pass? := by
    have worker : (crowd.withRecord record).host.engine.worker = crowd.host.engine.worker := rfl
    unfold Host.pass?
    rw [worker]
    split
    · rename_i request outputs lending _
      split
      · rename_i inputs _
        have finish : (crowd.withRecord record).host.engine.backend.finish inputs outputs lending
              (crowd.withRecord record).host.world
            = (crowd.host.engine.backend.finish inputs outputs lending crowd.host.world).map
                fun ended => (ended.1, ended.2, record) := rfl
        rw [finish, Option.map_map]
        rfl
      · rfl
    · rfl
  cases move with
  | works =>
      unfold Chronicle.after
      rw [pass]
  | _ => rfl

/-- The regions that the backend was given back in the course of a history, as the audited backend
writes them down. -/
def Returned (host : Host W) (crowd : Crowd W) (chronicle : Chronicle) (returns : Returns) : Prop :=
  Lived { host := host.withRecord [] } (crowd.withRecord returns) chronicle

theorem Returned.move {host : Host W} {crowd next : Crowd W} {chronicle : Chronicle}
    {returns : Returns} (returned : crowd.Returned host chronicle returns) {move : Move}
    (made : crowd.after? move = some next) :
    ∃ after, (crowd.withRecord returns).after? move = some (next.withRecord after)
      ∧ next.Returned host (chronicle.after crowd next move) after := by
  obtain ⟨after, audited⟩ := withRecord_after? returns made
  have lived := Lived.move returned move audited
  rw [withRecord_chronicle] at lived
  exact ⟨after, audited, lived⟩

/-- Every history of an engine is one of the audited engine. -/
theorem Lived.returned {host : Host W} {crowd : Crowd W} {chronicle : Chronicle}
    (lived : Lived { host } crowd chronicle) :
    ∃ returns, crowd.Returned host chronicle returns := by
  induction lived with
  | start => exact ⟨[], .start⟩
  | move _ move made ih =>
      obtain ⟨returns, returned⟩ := ih
      obtain ⟨after, -, next⟩ := returned.move made
      exact ⟨after, next⟩

theorem Lived.afterAll {host : Host W} {crowd last : Crowd W} {chronicle : Chronicle}
    {returns : Returns} {moves : List Move} (lived : Lived { host } crowd chronicle)
    (returned : crowd.Returned host chronicle returns) (h : crowd.afterAll? moves = some last) :
    ∃ chronicle after, Lived { host } last chronicle ∧ last.Returned host chronicle after
      ∧ (crowd.withRecord returns).afterAll? moves = some (last.withRecord after) := by
  induction moves generalizing crowd chronicle returns with
  | nil =>
      cases h
      exact ⟨chronicle, returns, lived, returned, rfl⟩
  | cons move rest ih =>
      obtain ⟨next, made, h⟩ := Option.bind_eq_some_iff.1 h
      obtain ⟨middle, audited, returned⟩ := returned.move made
      obtain ⟨chronicle, after, lived, returned, run⟩ := ih (lived.move move made) returned h
      exact ⟨chronicle, after, lived, returned, Option.bind_eq_some_iff.2 ⟨_, audited, run⟩⟩

end Crowd

namespace Backend

variable (backend : Backend W) (world : W) (record : Returns)

theorem agreeInput_audited (requested : Option Descriptor) :
    backend.audited.agreeInput requested (world, record)
      = ((backend.agreeInput requested world).1,
          (backend.agreeInput requested world).2, record) := by
  cases requested with
  | none => rfl
  | some request =>
      simp only [agreeInput]
      cases request.validate with
      | error fault => rfl
      | ok =>
          by_cases agrees : request.agrees (backend.input world) = true
          · simp only [if_pos agrees]
            exact if_pos agrees
          · simp only [if_neg agrees]
            exact if_neg agrees

/-- The audited backend opens the same engine. -/
theorem openAs_audited {id : Nat} {options : Options} {framework : Framework} {live : List Nat}
    {host : Host W} (opened : backend.openAs id options framework world live = .opened host) :
    backend.audited.openAs id options framework (world, record) live
      = .opened (host.withRecord record) := by
  have shapes : backend.audited.agreeShapes options (world, record)
      = ((backend.agreeShapes options world).1, (backend.agreeShapes options world).2, record) := by
    unfold agreeShapes
    rw [agreeInput_audited]
  obtain ⟨input, output, after, agreed, rfl⟩ := opened_cases opened
  unfold openAs
  rw [shapes, agreed]
  rfl

end Backend

end Inference
