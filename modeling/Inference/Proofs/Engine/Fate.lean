/-
What becomes of a request that the worker has taken.

A crash in a pass is an outcome like any other.  What the worker does around a pass is not
guarded, and `Host.Fatal` lists what can go wrong there: the output regions cannot be
allocated, or the backend crashes when the output of a failed pass is given back, or that of
a caller that stopped waiting.  In these cases the worker dies (`Host.Fatal.dies`), and in no
other: every other step brings the request nearer to its outcome, or records it, which is
`WorkerStep.fate`.

The list is complete under the assumption that is stated with `Backend`: its `input`, `output`,
`allocates` and `dropped` do not crash, and dropping what a crash or a failure carried with it does
not either.  The worker asks for `allocates` and does the dropping unguarded as well.
-/
import Inference.Proofs.Engine.Handover

namespace Inference

variable {W : Type}

/-! ### Fatal steps -/

/-- The next step of the worker is its last.  That is so in three cases only, as long as a backend
crashes nowhere but where its answers say so. -/
inductive Host.Fatal (host : Host W) (request : Request) : Prop where
  /-- The output regions cannot be allocated. -/
  | starved {inputs : List Bytes} {message : String}
      (holding : host.engine.worker = .holding request)
      (attached : host.desk.attached = true) (bytes : request.input.allBytes = .ok inputs)
      (plain : host.engine.backend.allocates host.world = false)
      (room : Frame.checkRoom request.output.sizes = .crashed message) : Fatal host request
  /-- The backend crashes over the output of a failed pass. -/
  | unguarded {inputs outputs : List Bytes} {pass : Pass} {world : W} {fault : Fault}
      {message : String}
      (inside : host.engine.worker = .inPass request outputs true)
      (bytes : request.input.allBytes = .ok inputs)
      (finish : host.engine.backend.finish inputs outputs true host.world = some (pass, world))
      (failure : pass.failure? request.output = some fault)
      (crash : (host.engine.backend.release pass.outputs world).1 = some message) :
      Fatal host request
  /-- The backend crashes over the output of a caller that stopped waiting. -/
  | deserted {frame : Frame} {message : String}
      (returning : host.engine.worker = .returning request (.ok frame))
      (deserted : host.desk.deserted = some request.ticket) (leased : frame.lease ≠ none)
      (crash : (host.engine.backend.release frame.present host.world).1 = some message) :
      Fatal host request

namespace Host

theorem crash_of_release {host after : Host W} {regions : List Bytes} {crash : Option String}
    (back : host.release regions = (crash, after)) :
    (host.engine.backend.release regions host.world).1 = crash := congrArg Prod.fst back

theorem crash_of_takeBack {host after : Host W} {frame : Frame} {crash : Option String}
    (back : host.takeBack frame = (crash, after)) :
    (host.engine.backend.release frame.present host.world).1 = crash := congrArg Prod.fst back

theorem inPass_of_still {host : Host W} {request : Request}
    (inHand : host.engine.worker.request? = some request)
    (supplied : ∀ outputs lending, host.engine.worker = .inPass request outputs lending →
      ∃ inputs, request.input.allBytes = .ok inputs) (still : host.stepWorker = none) :
    ∃ inputs outputs lending, host.engine.worker = .inPass request outputs lending
      ∧ request.input.allBytes = .ok inputs
      ∧ host.engine.backend.finish inputs outputs lending host.world = none := by
  unfold stepWorker at still
  cases worker : host.engine.worker with
  | holding =>
      rw [worker] at still
      cases still
  | inPass taken outputs lending =>
      rw [worker] at inHand still
      cases inHand
      obtain ⟨inputs, bytes⟩ := supplied outputs lending worker
      simp only [bytes, Option.map_eq_none_iff] at still
      exact ⟨inputs, outputs, lending, rfl, bytes, still⟩
  | returning =>
      rw [worker] at still
      cases still
  | _ =>
      rw [worker] at inHand
      cases inHand

end Host

theorem Pass.failure?_eq {pass : Pass} {info : Descriptor} {fault : Fault}
    (h : pass.failure? info = some fault) : ∃ text, fault = .passFailed text := by
  unfold failure? at h
  split at h
  · split at h
    · cases h
    · cases h
      exact ⟨_, rfl⟩
  · cases h
    exact ⟨_, rfl⟩
  · cases h
    exact ⟨_, rfl⟩

/-- How many steps the worker has to make until it is through with its request. -/
def Worker.stepsLeft : Worker → Nat
  | holding _ => 3
  | inPass .. => 2
  | returning .. => 1
  | _ => 0

namespace Host.Fatal

variable {host : Host W} {request : Request}

/-- A fatal step can be made, and the worker dies of it. -/
theorem dies (fatal : host.Fatal request) :
    ∃ after, host.stepWorker = some after ∧ after.engine.worker = .died := by
  cases fatal with
  | starved holding attached bytes plain room =>
      refine ⟨host.poisonBackend.workerDies, ?_, rfl⟩
      unfold stepWorker
      rw [holding]
      simp [beginPass, attached, bytes, plain, Frame.allocate, room, Outcome.map]
  | @unguarded _ _ pass world _ message inside bytes finish failure crash =>
      have back : ({ host with world } : Host W).release pass.outputs
          = (some message, (({ host with world } : Host W).release pass.outputs).2) :=
        Prod.ext crash rfl
      refine ⟨(({ host with world } : Host W).release pass.outputs).2.workerDies, ?_, rfl⟩
      unfold stepWorker
      rw [inside]
      simp only [bytes, finish, Option.map_some, endPass, failure, if_true]
      rw [back]
  | @deserted frame message returning deserted leased crash =>
      obtain ⟨after, recorded⟩ : ∃ after, host.record request (.ok frame) = after := ⟨_, rfl⟩
      refine ⟨after, ?_, ?_⟩
      · unfold stepWorker
        rw [returning]
        exact congrArg some recorded
      have cases := record_recorded host request (.ok frame)
      rw [recorded] at cases
      cases cases with
      | delivered awaited => exact absurd deserted awaited
      | ignored _ plain => exact absurd (plain frame rfl) leased
      | returned _ _ back =>
          have survived : (host.unmarked.takeBack frame).1 = none := congrArg Prod.fst back
          cases survived.symm.trans crash
      | broke => rfl

end Host.Fatal

/-! ### Steps that are survived -/

/-- The worker has recorded the outcome of its request and waits for the next one. -/
structure Host.Records (host after : Host W) (request : Request) (produced : Except Fault Frame) :
    Prop where
  parked : after.engine.worker = .parked
  /-- The engine does not count as running any more; one that is closing goes on closing. -/
  mode : after.desk.mode = host.desk.mode.finish ∧ after.desk.mode ≠ .running
  /-- A caller that still waits finds the outcome. -/
  awaited : host.desk.deserted ≠ some request.ticket →
    after.desk.hasResponse request.ticket = true ∧ after.desk.outcome? = some produced
  /-- If it does not, nothing is left of the request. -/
  deserted : host.desk.deserted = some request.ticket →
    after.desk.deserted = none ∧ after.desk.response = none

theorem Mode.finish_ne_running (mode : Mode) : mode.finish ≠ .running := by
  cases mode <;> nofun

/-- An outcome is recorded, unless the worker dies over an output that nobody waits for. -/
theorem Recorded.fate {host after : Host W} {request : Request} {produced : Except Fault Frame}
    (recorded : Recorded host request produced after)
    (ordered : Ordered host.desk host.engine.worker)
    (returning : host.engine.worker = .returning request produced) :
    host.Fatal request ∧ after.engine.worker = .died ∨ host.Records after request produced := by
  have inHand : host.engine.worker.request? = some request := by
    rw [returning]
    rfl
  have silent : host.desk.response = none := (ordered.inHand request inHand).2
  have rests : ∀ mode : Mode, mode = host.desk.mode.finish →
      mode = host.desk.mode.finish ∧ mode ≠ .running := by
    intro mode same
    refine ⟨same, ?_⟩
    rw [same]
    exact Mode.finish_ne_running _
  cases recorded with
  | delivered awaited =>
      obtain ⟨response, outstanding, desk, ticket, -, outcome⟩ := ordered.delivered returning
      have mode : (host.deliver request.ticket produced).complete.desk.mode
          = host.desk.mode.finish := by
        show (host.deliver request.ticket produced).desk.mode.finish = _
        rw [desk]
      refine .inr ⟨rfl, rests _ mode, fun _ => ⟨?_, ?_⟩, fun deserted => absurd deserted awaited⟩
      · refine Desk.hasResponse_iff.2 ⟨response, ?_, ticket⟩
        show (host.deliver request.ticket produced).desk.response = some response
        rw [desk]
      · rw [← outcome]
        exact Desk.outcome?_congr rfl rfl
  | ignored deserted =>
      exact .inr ⟨rfl, rests _ rfl, fun awaited => absurd deserted awaited, fun _ => ⟨rfl, silent⟩⟩
  | @returned frame after deserted leased back =>
      have desk : after.desk = host.unmarked.desk := (Host.beside_of_takeBack back).desk
      refine .inr ⟨rfl, rests _ ?_, fun awaited => absurd deserted awaited, fun _ => ⟨?_, ?_⟩⟩
      · show after.desk.mode.finish = _
        rw [desk]
        rfl
      · show after.desk.deserted = none
        rw [desk]
        rfl
      · show after.desk.response = none
        rw [desk]
        exact silent
  | broke deserted leased back =>
      have crash := Host.crash_of_takeBack back
      exact .inl ⟨.deserted returning deserted leased crash, rfl⟩

/-- With a request in its hands the worker dies, records the outcome, or gets one step further. -/
theorem WorkerStep.fate {host after : Host W} (step : WorkerStep host after)
    (ordered : Ordered host.desk host.engine.worker) {request : Request}
    (inHand : host.engine.worker.request? = some request) :
    host.Fatal request ∧ after.engine.worker = .died
      ∨ (∃ produced, host.engine.worker = .returning request produced
        ∧ host.Records after request produced)
      ∨ after.engine.worker.request? = some request
        ∧ after.engine.worker.stepsLeft + 1 ≤ host.engine.worker.stepsLeft := by
  have own {taken : Request} (found : host.engine.worker.request? = some taken) : taken = request :=
    Option.some.inj (found.symm.trans inHand)
  cases step with
  | took parked =>
      rw [parked] at inHand
      cases inHand
  | left parked =>
      rw [parked] at inHand
      cases inHand
  | rested parked =>
      rw [parked] at inHand
      cases inHand
  | @refused taken _ holding =>
      cases own (show host.engine.worker.request? = some taken by rw [holding]; rfl)
      refine .inr (.inr ⟨rfl, ?_⟩)
      rw [holding]
      exact Nat.le_succ 2
  | @starved taken _ _ holding attached bytes plain room =>
      cases own (show host.engine.worker.request? = some taken by rw [holding]; rfl)
      exact .inl ⟨.starved holding attached bytes plain room, rfl⟩
  | @entered taken _ _ _ holding _ _ =>
      cases own (show host.engine.worker.request? = some taken by rw [holding]; rfl)
      refine .inr (.inr ⟨rfl, ?_⟩)
      rw [holding]
      exact Nat.le_refl 3
  | @finished taken inputs outputs lending pass world after inside bytes finish ended =>
      cases own (show host.engine.worker.request? = some taken by rw [inside]; rfl)
      have further {next : Worker} (returns : ∃ produced, next = .returning request produced) :
          next.request? = some request ∧ next.stepsLeft + 1 ≤ host.engine.worker.stepsLeft := by
        obtain ⟨produced, rfl⟩ := returns
        rw [inside]
        exact ⟨rfl, Nat.le_refl 2⟩
      cases ended with
      | failed => exact .inr (.inr (further ⟨_, rfl⟩))
      | returned => exact .inr (.inr (further ⟨_, rfl⟩))
      | broke failure back =>
          exact .inl ⟨.unguarded inside bytes finish failure (Host.crash_of_release back), rfl⟩
      | produced => exact .inr (.inr (further ⟨_, rfl⟩))
      | lent => exact .inr (.inr (further ⟨_, rfl⟩))
  | @recorded taken produced after returning recorded =>
      cases own (show host.engine.worker.request? = some taken by rw [returning]; rfl)
      rcases recorded.fate ordered returning with fatal | records
      · exact .inl fatal
      · exact .inr (.inl ⟨produced, returning, records⟩)

/-- The worker survives a pass that fails, and comes back with the failure. -/
theorem WorkerStep.reports {host after : Host W} (step : WorkerStep host after) {request : Request}
    {inputs outputs : List Bytes} {lending : Bool} {pass : Pass} {world : W} {fault : Fault}
    (inside : host.engine.worker = .inPass request outputs lending)
    (bytes : request.input.allBytes = .ok inputs)
    (finish : host.engine.backend.finish inputs outputs lending host.world = some (pass, world))
    (failure : pass.failure? request.output = some fault) (safe : ¬ host.Fatal request) :
    after.engine.worker = .returning request (.error fault) := by
  cases step with
  | took parked => cases inside.symm.trans parked
  | left parked => cases inside.symm.trans parked
  | rested parked => cases inside.symm.trans parked
  | refused holding => cases inside.symm.trans holding
  | starved holding => cases inside.symm.trans holding
  | entered holding => cases inside.symm.trans holding
  | recorded returning => cases inside.symm.trans returning
  | finished inside' bytes' finish' ended =>
      cases inside.symm.trans inside'
      cases bytes.symm.trans bytes'
      cases finish.symm.trans finish'
      cases ended with
      | failed failure' =>
          cases failure.symm.trans failure'
          rfl
      | returned failure' =>
          cases failure.symm.trans failure'
          rfl
      | broke failure' back =>
          exact absurd (.unguarded inside bytes finish failure' (Host.crash_of_release back)) safe
      | produced good => cases failure.symm.trans good
      | lent good => cases failure.symm.trans good

/-- A caller that finds its outcome recorded gets it, unless somebody has crashed under the lock. -/
theorem Call.tryReceive_of_outcome (task : Task) {ticket : Nat} {host : Host W}
    {produced : Except Fault Frame} (present : host.desk.hasResponse ticket = true)
    (outcome : host.desk.outcome? = some produced) :
    ∃ after, tryReceive task ticket host = some (if host.engine.deskPoisoned
      then .ended (.failed .poisonedLock) task.target else .receive task produced, after) := by
  unfold tryReceive
  rw [if_pos present]
  split
  · exact ⟨_, rfl⟩
  · unfold Desk.outcome? at outcome
    split
    · rename_i collected
      rw [collected] at outcome
      cases outcome
      exact ⟨_, rfl⟩
    · rename_i collected
      rw [collected] at outcome
      cases outcome

end Inference
