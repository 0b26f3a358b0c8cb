/-
Outputs that are all there.

A pass counts as good only if its regions have the sizes that were agreed when its request was
submitted.  So every output that the worker comes back with is full: each of its tensors holds just
as many bytes as its descriptor says, until it is handed to a caller (`Host.Full.of_reachable`).
That is decided when the pass is over, in `Pass.checkRegions_of_good`.
-/
import Inference.Proofs.Engine.Closing
import Inference.Proofs.Engine.Handover
import Inference.Proofs.Tensor.Regular

namespace Inference

variable {W : Type}

/-- The regions of a good pass are such as were agreed. -/
theorem Pass.checkRegions_of_good {pass : Pass} {info : Descriptor}
    (h : pass.failure? info = none) : Frame.checkRegions info pass.outputs = .ok () := by
  unfold failure? at h
  split at h
  · split at h
    · assumption
    · cases h
  · cases h
  · cases h

theorem Pass.lengths_of_good {pass : Pass} {info : Descriptor} (h : pass.failure? info = none) :
    pass.outputs.map List.length = info.sizes :=
  Frame.lengths_of_checkRegions (checkRegions_of_good h)

namespace Host

/-- The output that the worker comes back with is full, and so is the one that waits for its
caller. -/
structure Full (host : Host W) : Prop where
  returning : ∀ request frame, host.engine.worker = .returning request (.ok frame) → frame.Full
  outcome : ∀ frame, host.desk.outcome? = some (.ok frame) → frame.Full

namespace Full

variable {host after : Host W}

theorem still (h : host.Full) (worker : ∀ request frame,
      after.engine.worker = .returning request (.ok frame) →
        host.engine.worker = .returning request (.ok frame))
    (outcome : after.desk.response = none ∨ after.desk.response = host.desk.response
      ∧ after.desk.outstanding = host.desk.outstanding) : after.Full where
  returning request frame returns := h.returning request frame (worker request frame returns)
  outcome frame recorded := by
    rcases outcome with none | ⟨response, outstanding⟩
    · cases (Desk.outcome?_of_none none).symm.trans recorded
    · rw [Desk.outcome?_congr response outstanding] at recorded
      exact h.outcome frame recorded

theorem alike (h : host.Full) (alike : host.Alike after) : after.Full := by
  obtain ⟨_, _, _, _, desk⟩ := alike.desk
  refine h.still ?_ (.inr ⟨by rw [desk], by rw [desk]⟩)
  rw [alike.worker]
  exact fun _ _ returns => returns

/-- No step of a call leaves an output behind that is not full. -/
theorem callStep {call next : Call} (h : host.Full)
    (ordered : Ordered host.desk host.engine.worker) (step : CallStep call host next after) :
    after.Full := by
  have worker : ∀ request frame, after.engine.worker = .returning request (.ok frame) →
      host.engine.worker = .returning request (.ok frame) := by
    rw [step.worker]
    exact fun _ _ returns => returns
  cases step with
  | ran _ touched => exact h.alike touched.alike
  | submitted tuned _ idle _ _ drops =>
      have desk := (ordered.cleared tuned idle drops).2.2
      exact h.still worker (.inl (congrArg Desk.response desk))
  | faltered tuned idle drops =>
      have desk := (ordered.cleared tuned idle drops).2.2
      exact h.still worker (.inl (congrArg Desk.response desk))
  | received _ collected =>
      rw [(Desk.collect_of_tidy ordered.tidy collected).1]
      exact h.still (fun _ _ returns => returns) (.inl rfl)
  | copied drops => exact h.alike drops.beside.alike
  | spoilt drops => exact h.alike drops.beside.alike
  | @cleared last _ after crash _ drops _ =>
      have before : (host.withDesk (host.desk.clear last).2).Full := by
        obtain ⟨-, clear⟩ | ⟨-, clear⟩ := Desk.clear_cases ordered.tidy last
        · rw [clear]
          exact h
        · rw [clear]
          exact h.still (fun _ _ returns => returns) (.inl rfl)
      exact (before.alike drops.beside.alike).alike (Host.leftBy_alike _ _ _)
  | _ => exact h.still worker (.inr ⟨rfl, rfl⟩)

theorem ended (h : host.Full) (desk : after.desk = host.desk)
    (full : ∀ request frame, after.engine.worker = .returning request (.ok frame) → frame.Full) :
    after.Full where
  returning := full
  outcome := by
    rw [desk]
    exact h.outcome

/-- The worker has an output only after a good pass. -/
theorem passEnd {world : W} {request : Request} {pass : Pass} {lending : Bool} (h : host.Full)
    (ended : PassEnd { host with world } request pass lending after) : after.Full := by
  cases ended with
  | failed => exact h.ended rfl (Worker.made_of_none rfl)
  | returned _ back =>
      exact h.ended (Host.beside_of_release back).desk (Worker.made_of_none rfl)
  | broke _ back =>
      exact h.ended (Host.beside_of_release back).desk (Worker.made_of_none rfl)
  | produced good =>
      refine h.ended rfl fun other frame returns => ?_
      have made := Frame.eq_of_produced (Worker.returning.inj returns).2
      refine (Frame.full_iff (by rw [made])).2 ?_
      rw [made]
      exact Pass.lengths_of_good good
  | lent good =>
      refine h.ended rfl fun other frame returns => ?_
      cases (Worker.returning.inj returns).2
      exact (Frame.full_iff rfl).2 (Pass.lengths_of_good good)

/-- The worker leaves none behind either. -/
theorem workerStep (h : host.Full) (ordered : Ordered host.desk host.engine.worker)
    (step : WorkerStep host after) : after.Full := by
  cases step with
  | took => exact h.still (Worker.made_of_none rfl) (.inr ⟨rfl, rfl⟩)
  | left => exact h.ended rfl (Worker.made_of_none rfl)
  | rested => exact h.still (fun _ _ returns => returns) (.inr ⟨rfl, rfl⟩)
  | refused => exact h.ended rfl (Worker.made_of_none rfl)
  | starved => exact h.ended rfl (Worker.made_of_none rfl)
  | entered => exact h.ended rfl (Worker.made_of_none rfl)
  | finished _ _ _ ended => exact h.passEnd ended
  | @recorded request produced after returning recorded =>
      have inHand : host.engine.worker.request? = some request := by
        rw [returning]
        rfl
      have silent : host.desk.response = none := (ordered.inHand request inHand).2
      cases recorded with
      | delivered =>
          obtain ⟨response, outstanding, desk, -, -, outcome⟩ := ordered.delivered returning
          refine ⟨Worker.made_of_none rfl, fun frame recorded => ?_⟩
          have same : (host.deliver request.ticket produced).complete.desk.outcome?
              = some produced := by
            rw [← outcome]
            exact Desk.outcome?_congr rfl rfl
          cases same.symm.trans recorded
          exact h.returning request frame returning
      | ignored => exact h.still (Worker.made_of_none rfl) (.inl silent)
      | @returned _ middle _ _ back =>
          refine h.still (Worker.made_of_none rfl) (.inl ?_)
          show middle.desk.response = none
          rw [(Host.beside_of_takeBack back).desk]
          exact silent
      | @broke _ _ middle _ _ back =>
          refine h.still (Worker.made_of_none rfl) (.inl ?_)
          show middle.desk.response = none
          rw [(Host.beside_of_takeBack back).desk]
          exact silent

/-- Every output is full, from the start and under every schedule. -/
theorem of_reachable {backend : Backend W} {crowd : Crowd W} (fresh : host.Fresh backend)
    (reach : Crowd.Reachable { host } crowd) : crowd.host.Full := by
  have both := @Crowd.Reachable.keeps W _ _
    (fun crowd : Crowd W => crowd.Orderly ∧ crowd.host.Full) reach ?_ ?_
  · exact both.2
  · obtain ⟨_, _, _, desk⟩ := fresh.desk
    have silent : host.desk.response = none := by rw [desk]
    refine ⟨.of_reachable fresh .refl, Worker.made_of_none (by rw [fresh.worker]; rfl), ?_⟩
    intro frame recorded
    cases (Desk.outcome?_of_none silent).symm.trans recorded
  · rintro crowd next move ⟨orderly, full⟩ moved
    refine ⟨orderly.moved moved, ?_⟩
    cases moved with
    | began => exact full
    | called _ _ step => exact full.callStep orderly.ordered step
    | worked step => exact full.workerStep orderly.ordered step
    | dropped _ drops => exact full.alike drops.beside.alike
    | gaveUp => exact full

end Full

end Host

end Inference
