/-
The table of live handles.

An engine is entered into the table when it is opened, and whoever closes its handle takes it off
in the same stroke.  Nothing else touches the table, so a handle counts as live exactly as long as
it is open, whatever has become of the engine behind it: `CallStep.listed` is one step of a call,
and `Crowd.listed_of_reachable` the whole run.
-/
import Inference.Proofs.Engine.Flow

namespace Inference

variable {W : Type}

namespace Host

variable {host after : Host W}

/-- The table tells whether the handle is open. -/
def Listed (host : Host W) : Prop := host.isLive = host.engine.isOpen

theorem Listed.same (h : host.Listed) (live : after.live = host.live)
    (constants : after.engine.constants = host.engine.constants) : after.Listed := by
  have id : after.engine.id = host.engine.id := congrArg (·.2.1) constants
  have isOpen : after.engine.isOpen = host.engine.isOpen := congrArg (·.1) constants
  unfold Listed isLive
  rw [live, id, isOpen]
  exact h

theorem Listed.withDesk (h : host.Listed) (desk : Desk) : (host.withDesk desk).Listed := h

theorem Beside.listed (h : host.Listed) (beside : host.Beside after) : after.Listed :=
  h.same beside.live beside.alike.constants

theorem Tuned.live (tuned : host.Tuned after) : after.live = host.live := by
  cases tuned <;> rfl

theorem Touched.live (touched : host.Touched after) : after.live = host.live := by
  cases touched with
  | tuned tuned => exact tuned.live
  | wrecked wrecked =>
      cases wrecked
      rfl

theorem detach_live (host : Host W) : host.detach.live = host.live := by
  unfold detach
  split
  · exact (settle_beside _).live
  · rfl

theorem leftBy_live (host : Host W) (last : Bool) (crash : Option String) :
    (host.leftBy last crash).live = host.live := by
  unfold leftBy
  split
  · exact host.detach_live
  · rfl

end Host

/-- A call leaves the table as it is, unless it closes the handle. -/
theorem CallStep.listed {call next : Call} {host after : Host W} (h : host.Listed)
    (step : CallStep call host next after) : after.Listed := by
  cases step with
  | ran _ touched => exact h.same touched.live touched.alike.constants
  | submitted tuned _ _ _ _ drops =>
      have ready := h.same tuned.live tuned.alike.constants
      exact (drops.beside.listed (ready.withDesk _)).withDesk _
  | faltered tuned _ drops =>
      have ready := h.same tuned.live tuned.alike.constants
      exact (drops.beside.listed (ready.withDesk _)).same rfl rfl
  | copied drops => exact drops.beside.listed h
  | spoilt drops => exact drops.beside.listed h
  | retired => simp [Host.Listed, Host.isLive]
  | @cleared last _ dropped crash _ drops =>
      exact (drops.beside.listed (h.withDesk _)).same (Host.leftBy_live dropped last crash)
        (Host.leftBy_alike dropped last crash).constants
  | _ => exact h.same rfl rfl

theorem WorkerStep.live {host after : Host W} (step : WorkerStep host after) :
    after.live = host.live := by
  cases step with
  | finished _ _ _ ended =>
      cases ended with
      | returned _ back => exact (Host.beside_of_release back).live
      | broke _ back => exact (Host.beside_of_release back).live
      | _ => rfl
  | recorded _ recorded =>
      cases recorded with
      | delivered =>
          show (host.deliver _ _).live = host.live
          rw [Host.deliver_eq]
          rfl
      | ignored => rfl
      | returned _ _ back => exact (Host.beside_of_takeBack back).live
      | broke _ _ back => exact (Host.beside_of_takeBack back).live
  | _ => rfl

namespace Crowd

theorem Moved.listed {crowd next : Crowd W} {move : Move} (h : crowd.host.Listed)
    (moved : crowd.Moved move next) : next.host.Listed := by
  cases moved with
  | began => exact h
  | called _ _ step => exact step.listed h
  | worked step => exact h.same step.live step.constants
  | dropped _ drops => exact drops.beside.listed h
  | gaveUp => exact h

/-- Under every schedule, and whatever the backend does: the handle of an engine counts as live as
long as nobody has closed it. -/
theorem listed_of_reachable {backend : Backend W} {id : Nat} {options : Options}
    {framework : Framework} {world : W} {live : List Nat} {host : Host W}
    (opened : backend.openAs id options framework world live = .opened host) {crowd : Crowd W}
    (reach : Reachable { host } crowd) : crowd.host.Listed := by
  refine @Reachable.keeps W _ _ (·.host.Listed) reach ?_ fun h moved => moved.listed h
  show host.Listed
  obtain ⟨input, output, after, -, rfl⟩ := Backend.opened_cases opened
  simp [Host.Listed, Host.isLive, Backend.started]

end Crowd

end Inference
