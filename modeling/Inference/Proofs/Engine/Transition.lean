/-
What one move can do.

A move of a crowd is a step of one of its calls, a step of the worker, or something a caller does
on its own.  Each of them is one of a few transitions, and the transitions are listed here and in
the module before: `CallStep` for the calls, `WorkerStep` for the worker, `Crowd.Moved` for the
crowd.  Whatever is claimed of every reachable crowd is proved by going through these lists
(`Host.stepWorker_step`, `Crowd.moved_of_after?`, `Crowd.Reachable.keeps`), and never by opening
the steps themselves.
-/
import Inference.Proofs.Engine.CallStep

namespace Inference

variable {W : Type}

/-! ### Steps of the worker -/

/-- What is on lease after one more frame. -/
def Host.lending (host : Host W) : Host W :=
  { host with engine := { host.engine with lent := host.engine.lent + 1 } }

/-- The output of a pass in regions of the engine. -/
def Frame.produced (info : Descriptor) (regions : List Bytes) : Except Fault Frame :=
  (Frame.ofRegions info regions).map fun frame => { frame with owner := .engine }

theorem Frame.eq_of_produced {info : Descriptor} {regions : List Bytes} {frame : Frame}
    (h : Frame.produced info regions = .ok frame) :
    frame = { info, regions := regions.map some, owner := .engine } := by
  unfold produced ofRegions at h
  cases valid : info.validate with
  | error fault =>
      rw [valid] at h
      cases h
  | ok =>
      cases fits : Frame.checkRegions info regions with
      | error fault =>
          rw [valid, fits] at h
          cases h
      | ok =>
          rw [valid, fits] at h
          cases h
          rfl

/-- The mark of a caller that stopped waiting is wiped out. -/
def Host.unmarked (host : Host W) : Host W := host.withDesk { host.desk with deserted := none }

/-- How a worker leaves a pass. -/
inductive PassEnd (host : Host W) (request : Request) (pass : Pass) : Bool → Host W → Prop where
  | failed {fault : Fault} (failure : pass.failure? request.output = some fault) :
      PassEnd host request pass false (host.withWorker (.returning request (.error fault)))
  | returned {fault : Fault} {after : Host W} (failure : pass.failure? request.output = some fault)
      (back : host.release pass.outputs = (none, after)) :
      PassEnd host request pass true (after.withWorker (.returning request (.error fault)))
  /-- The backend crashed over the memory of a failed pass, outside of what the worker guards. -/
  | broke {fault : Fault} {message : String} {after : Host W}
      (failure : pass.failure? request.output = some fault)
      (back : host.release pass.outputs = (some message, after)) :
      PassEnd host request pass true after.workerDies
  | produced (good : pass.failure? request.output = none) :
      PassEnd host request pass false
        (host.withWorker (.returning request (Frame.produced request.output pass.outputs)))
  | lent (good : pass.failure? request.output = none) :
      PassEnd host request pass true
        (host.lending.withWorker (.returning request
          (.ok (Frame.lent request.output pass.outputs ⟨host.engine.id, request.ticket⟩))))

/-- How a worker gets rid of an outcome. -/
inductive Recorded (host : Host W) (request : Request) :
    Except Fault Frame → Host W → Prop where
  | delivered {produced : Except Fault Frame} (awaited : host.desk.deserted ≠ some request.ticket) :
      Recorded host request produced (host.deliver request.ticket produced).complete
  | ignored {produced : Except Fault Frame} (deserted : host.desk.deserted = some request.ticket)
      (plain : ∀ frame, produced = .ok frame → frame.lease = none) :
      Recorded host request produced host.unmarked.complete
  | returned {frame : Frame} {after : Host W} (deserted : host.desk.deserted = some request.ticket)
      (leased : frame.lease ≠ none) (back : host.unmarked.takeBack frame = (none, after)) :
      Recorded host request (.ok frame) after.complete
  /-- The backend crashed over the output of a caller that stopped waiting. -/
  | broke {frame : Frame} {message : String} {after : Host W}
      (deserted : host.desk.deserted = some request.ticket) (leased : frame.lease ≠ none)
      (back : host.unmarked.takeBack frame = (some message, after)) :
      Recorded host request (.ok frame) after.poisonDesk.workerDies

/-- One step of the worker. -/
inductive WorkerStep (host : Host W) : Host W → Prop where
  | took {request : Request} (parked : host.engine.worker = .parked)
      (awake : host.desk.mode ≠ .idle) (queued : host.desk.request = some request) :
      WorkerStep host
        ((host.withDesk { host.desk with request := none }).withWorker (.holding request))
  | left (parked : host.engine.worker = .parked) (asked : host.desk.mode = .leaving)
      (empty : host.desk.request = none) : WorkerStep host (host.withWorker .exited)
  | rested (parked : host.engine.worker = .parked) (asked : host.desk.mode = .running)
      (empty : host.desk.request = none) :
      WorkerStep host (host.withDesk { host.desk with mode := host.desk.mode.finish })
  | refused {request : Request} {fault : Fault} (holding : host.engine.worker = .holding request) :
      WorkerStep host (host.withWorker (.returning request (.error fault)))
  /-- The output regions could not be allocated. -/
  | starved {request : Request} {inputs : List Bytes} {message : String}
      (holding : host.engine.worker = .holding request) (attached : host.desk.attached = true)
      (bytes : request.input.allBytes = .ok inputs)
      (plain : host.engine.backend.allocates host.world = false)
      (room : Frame.checkRoom request.output.sizes = .crashed message) :
      WorkerStep host host.poisonBackend.workerDies
  | entered {request : Request} {inputs outputs : List Bytes} {lending : Bool}
      (holding : host.engine.worker = .holding request)
      (allocates : host.engine.backend.allocates host.world = lending)
      (bytes : request.input.allBytes = .ok inputs) :
      WorkerStep host
        (Host.withWorker
          { host with world := host.engine.backend.enter inputs outputs lending host.world }
          (.inPass request outputs lending))
  | finished {request : Request} {inputs outputs : List Bytes} {lending : Bool} {pass : Pass}
      {world : W} {after : Host W} (inside : host.engine.worker = .inPass request outputs lending)
      (bytes : request.input.allBytes = .ok inputs)
      (finish : host.engine.backend.finish inputs outputs lending host.world = some (pass, world))
      (ended : PassEnd { host with world } request pass lending after) : WorkerStep host after
  | recorded {request : Request} {produced : Except Fault Frame} {after : Host W}
      (returning : host.engine.worker = .returning request produced)
      (recorded : Recorded host request produced after) : WorkerStep host after

namespace Host

theorem endPass_end (host : Host W) (request : Request) (lending : Bool) (pass : Pass) :
    PassEnd host request pass lending (host.endPass request lending pass) := by
  unfold endPass
  cases failure : pass.failure? request.output with
  | some fault =>
      cases lending with
      | false => exact .failed failure
      | true =>
          cases back : host.release pass.outputs with
          | mk crash after =>
              cases crash with
              | none =>
                  simp only [if_true]
                  exact .returned failure back
              | some message =>
                  simp only [if_true]
                  exact .broke failure back
  | none =>
      cases lending with
      | false => exact .produced failure
      | true => exact .lent failure

theorem record_recorded (host : Host W) (request : Request) (produced : Except Fault Frame) :
    Recorded host request produced (host.record request produced) := by
  unfold record
  split
  · rename_i deserted
    cases produced with
    | error fault => exact .ignored deserted (by simp)
    | ok frame =>
        simp only
        split
        · rename_i plain
          exact .ignored deserted fun other same => by
            cases same
            simpa using plain
        · rename_i leased
          split
          · rename_i back
            exact .broke deserted (by simpa using leased) back
          · rename_i back
            exact .returned deserted (by simpa using leased) back
  · rename_i awaited
    exact .delivered awaited

theorem wake_step {host after : Host W} (parked : host.engine.worker = .parked)
    (h : host.wake = some after) : WorkerStep host after := by
  unfold wake at h
  simp only at h
  split at h
  · cases h
  · rename_i request queued awake
    cases h
    exact .took parked (fun idle => awake idle) queued
  · rename_i asked empty
    cases h
    exact .left parked asked empty
  · rename_i asked empty
    cases h
    exact .rested parked asked empty

theorem beginPass_step {host : Host W} {request : Request}
    (holding : host.engine.worker = .holding request) :
    WorkerStep host (host.beginPass request) := by
  unfold beginPass
  split
  · exact .refused holding
  rename_i attached
  split
  · exact .refused holding
  rename_i bytes
  simp only
  split
  · exact .entered holding rfl bytes
  · exact .refused holding
  · rename_i regions
    split at regions
    · cases regions
    rename_i plain
    cases room : Frame.checkRoom request.output.sizes with
    | crashed message =>
        exact .starved holding (by simpa using attached) bytes (by simpa using plain) room
    | _ =>
        rw [Frame.allocate, room] at regions
        cases regions

/-- Every step of the worker is one of those listed. -/
theorem stepWorker_step {host after : Host W} (h : host.stepWorker = some after) :
    WorkerStep host after := by
  unfold stepWorker at h
  split at h
  · exact wake_step ‹_› h
  · cases h
    exact beginPass_step ‹_›
  · rename_i inside
    split at h
    · cases h
    · rename_i bytes
      obtain ⟨⟨pass, world⟩, finish, rfl⟩ := Option.map_eq_some_iff.1 h
      exact .finished inside bytes finish (endPass_end _ _ _ _)
  · cases h
    exact .recorded ‹_› (record_recorded _ _ _)
  · cases h
  · cases h

end Host

/-! ### Moves of a crowd -/

/-- The call that a move is a step of. -/
def Move.caller? : Move → Option Nat
  | steps caller => some caller
  | expires caller => some caller
  | _ => none

namespace Crowd

/-- What a move does to a crowd. -/
inductive Moved (crowd : Crowd W) : Move → Crowd W → Prop where
  | began (operation : Operation) (kept : crowd.givenUp = false) :
      Moved crowd (.begins operation) { crowd with calls := crowd.calls ++ [operation.call] }
  | called {move : Move} {caller : Nat} {call next : Call} {host : Host W}
      (mover : move.caller? = some caller) (found : crowd.calls[caller]? = some call)
      (step : CallStep call crowd.host next host) :
      Moved crowd move (crowd.update caller (next, host))
  | worked {host : Host W} (step : WorkerStep crowd.host host) :
      Moved crowd .works { crowd with host }
  | dropped {caller : Nat} {output : Frame} {crash : Option String} {host : Host W}
      (held : crowd.held? caller = some output) (drops : crowd.host.Drops [output] crash host) :
      Moved crowd (.drops caller) { crowd with host, dropped := caller :: crowd.dropped }
  | gaveUp (kept : crowd.givenUp = false) (ended : ∀ call ∈ crowd.calls, call.isOver = true) :
      Moved crowd .givesUp { crowd with calls := crowd.calls ++ [Call.giveUp], givenUp := true }

/-- Every move is one of those listed. -/
theorem moved_of_after? {crowd next : Crowd W} {move : Move} (h : crowd.after? move = some next) :
    crowd.Moved move next := by
  cases move with
  | begins operation =>
      simp only [after?] at h
      split at h
      · cases h
      · rename_i kept
        cases h
        exact .began operation (by simpa using kept)
  | steps caller =>
      obtain ⟨call, found, h⟩ := Option.bind_eq_some_iff.1 h
      obtain ⟨⟨next, host⟩, stepped, ⟨⟩⟩ := Option.bind_eq_some_iff.1 h
      exact .called rfl found (Call.step_callStep stepped)
  | expires caller =>
      obtain ⟨call, found, h⟩ := Option.bind_eq_some_iff.1 h
      obtain ⟨⟨next, host⟩, expired, ⟨⟩⟩ := Option.bind_eq_some_iff.1 h
      exact .called rfl found (Call.expire_callStep expired)
  | works =>
      obtain ⟨host, worked, rfl⟩ := Option.map_eq_some_iff.1 h
      exact .worked (Host.stepWorker_step worked)
  | drops caller =>
      obtain ⟨output, held, h⟩ := Option.bind_eq_some_iff.1 h
      obtain ⟨⟨outcome, host⟩, dropped, ⟨⟩⟩ := Option.bind_eq_some_iff.1 h
      obtain ⟨crash, drops, rfl⟩ := drop_drops dropped
      exact .dropped held drops
  | givesUp =>
      simp only [after?] at h
      split at h
      · rename_i ready
        cases h
        rw [Bool.and_eq_true, Bool.not_eq_true', List.all_eq_true] at ready
        exact .gaveUp ready.1 ready.2
      · cases h

/-- What holds at first and is kept by every move holds of every crowd that can be reached. -/
theorem Reachable.keeps {first crowd : Crowd W} {P : Crowd W → Prop} (reach : Reachable first crowd)
    (start : P first)
    (keep : ∀ {crowd next : Crowd W} {move : Move}, P crowd → crowd.Moved move next → P next) :
    P crowd := by
  induction reach with
  | refl => exact start
  | step before move made ih => exact keep ih (moved_of_after? made)

end Crowd

end Inference
