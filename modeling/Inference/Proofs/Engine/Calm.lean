/-
Backends that crash in passes only.

The worker guards against whatever happens in a pass, so a crash there is an outcome like any
other.  Everything else that is asked of a backend, and the allocation of output regions, is not
guarded.  A backend is calm if none of this can go wrong; then no lock is ever poisoned by it and
the worker never dies (`Host.Healthy.callStep`, `Host.Healthy.workerStep`).  If only the allocation
can go wrong, the lock on the desk is safe still (`Crowd.unharmed_of_reachable`).
-/
import Inference.Catalog
import Inference.Proofs.Engine.Flow
import Inference.Proofs.Tensor.Room

namespace Inference

variable {W : Type}

/-- A backend that crashes in passes only. -/
structure Backend.Reliable (backend : Backend W) : Prop where
  adopts : ∀ info world message, (backend.adopt info world).1 ≠ .crashed message
  reads : ∀ key world message, (backend.readProperty key world).1 ≠ .crashed message
  writes : ∀ key value world message, (backend.writeProperty key value world).1 ≠ .crashed message
  releases : ∀ regions world, (backend.release regions world).1 = none

/-- A backend that crashes in passes only, and whose outputs can all be allocated. -/
structure Backend.Calm (backend : Backend W) : Prop extends backend.Reliable where
  room : ∀ world, (backend.output world).Fits
  adopted : ∀ info world output, (backend.adopt info world).1 = .done output → output.Fits

namespace Backend.Reliable

variable {backend : Backend W}

theorem no_crash (reliable : backend.Reliable) {world after : W} {message : String}
    (crash : backend.AskCrashes world message after) : False := by
  cases crash with
  | adopt crash => exact reliable.adopts _ world message (congrArg Prod.fst crash)
  | read crash => exact reliable.reads _ world message (congrArg Prod.fst crash)
  | write crash => exact reliable.writes _ _ world message (congrArg Prod.fst crash)

theorem release {host after : Host W} {regions : List Bytes} {crash : Option String}
    (reliable : host.engine.backend.Reliable) (back : host.release regions = (crash, after)) :
    crash = none := by
  have answer := reliable.releases regions host.world
  unfold Host.release at back
  cases released : host.engine.backend.release regions host.world with
  | mk crash' world =>
      rw [released] at back answer
      cases back
      exact answer

theorem takeBack {host after : Host W} {frame : Frame} {crash : Option String}
    (reliable : host.engine.backend.Reliable) (back : host.takeBack frame = (crash, after)) :
    crash = none := by
  unfold Host.takeBack at back
  cases released : host.release frame.present with
  | mk crash' middle =>
      rw [released] at back
      cases back
      exact reliable.release released

theorem drops {host after : Host W} {frames : List Frame} {crash : Option String}
    (reliable : host.engine.backend.Reliable) (drops : host.Drops frames crash after) :
    crash = none := by
  induction drops with
  | nil => rfl
  | plain _ _ ih => exact ih reliable
  | returned _ _ back _ ih =>
      refine ih ?_
      rw [(Host.beside_of_takeBack back).backend]
      exact reliable
  | crashed _ _ back => exact reliable.takeBack back

end Backend.Reliable

namespace Host

/-- An engine that nothing has happened to. -/
structure Healthy (host : Host W) : Prop where
  calm : host.engine.backend.Calm
  unpoisoned : host.engine.deskPoisoned = false
  alive : host.engine.worker ≠ .died
  /-- The output that is agreed can be allocated. -/
  output : host.desk.output.Fits
  /-- So can those of the requests that are still there. -/
  queued : ∀ request, host.desk.request = some request → request.output.Fits
  inHand : ∀ request, host.engine.worker.request? = some request → request.output.Fits

namespace Healthy

variable {host middle after : Host W}

theorem beside (h : host.Healthy) (beside : host.Beside after) : after.Healthy where
  calm := by
    rw [beside.backend]
    exact h.calm
  unpoisoned := by
    rw [beside.deskPoisoned]
    exact h.unpoisoned
  alive := by
    rw [beside.worker]
    exact h.alive
  output := by
    rw [beside.desk]
    exact h.output
  queued := by
    rw [beside.desk]
    exact h.queued
  inHand := by
    rw [beside.worker]
    exact h.inHand

theorem withDesk (h : host.Healthy) {desk : Desk} (output : desk.output.Fits)
    (queued : ∀ request, desk.request = some request → request.output.Fits) :
    (host.withDesk desk).Healthy :=
  ⟨h.calm, h.unpoisoned, h.alive, output, queued, h.inHand⟩

theorem withWorld (h : host.Healthy) (world : W) : Host.Healthy { host with world } :=
  ⟨h.calm, h.unpoisoned, h.alive, h.output, h.queued, h.inHand⟩

theorem withWorker (h : host.Healthy) {worker : Worker} (alive : worker ≠ .died)
    (inHand : ∀ request, worker.request? = some request → request.output.Fits) :
    (host.withWorker worker).Healthy :=
  ⟨h.calm, h.unpoisoned, alive, h.output, h.queued, inHand⟩

theorem tuned (h : host.Healthy) (tuned : host.Tuned after) : after.Healthy := by
  cases tuned with
  | same => exact h
  | timeout => exact h.withDesk h.output h.queued
  | renamed => exact h.withDesk h.output h.queued
  | inputNames => exact h.withDesk h.output h.queued
  | outputNames text =>
      exact h.withDesk (Descriptor.setNamesText_fits h.output text) h.queued
  | asked => exact h.withWorld _
  | reshaped _ _ adopted =>
      have fits := h.calm.adopted _ _ _ (congrArg Prod.fst adopted)
      exact ⟨h.calm, h.unpoisoned, h.alive, fits, h.queued, h.inHand⟩

theorem touched (h : host.Healthy) (touched : host.Touched after) : after.Healthy := by
  cases touched with
  | tuned tuned => exact h.tuned tuned
  | wrecked wrecked =>
      cases wrecked with
      | intro _ crash => exact (h.calm.no_crash crash).elim

theorem cleared {dropped : Host W} {crash : Option String} (h : host.Healthy)
    (ordered : Ordered host.desk host.engine.worker) (tuned : host.Tuned middle)
    (drops : middle.cleared.Drops middle.stale crash dropped) :
    dropped.Healthy ∧ crash = none := by
  have before := h.tuned tuned
  have tidy : Desk.Tidy { middle.desk with mode := .running } := (ordered.alike tuned.alike).tidy
  have cleared : middle.cleared.Healthy := by
    unfold Host.cleared
    rw [(Desk.forget_of_tidy tidy).2]
    exact before.withDesk before.output before.queued
  exact ⟨cleared.beside drops.beside, cleared.calm.drops drops⟩

/-- No step of a call spoils a healthy engine. -/
theorem callStep {call next : Call} (h : host.Healthy)
    (ordered : Ordered host.desk host.engine.worker)
    (step : CallStep call host next after) : after.Healthy := by
  cases step with
  | ran _ touched => exact h.touched touched
  | submitted tuned _ _ _ _ drops =>
      have before := (h.cleared ordered tuned drops).1
      refine before.withDesk before.output ?_
      rintro request ⟨⟩
      exact before.output
  | faltered tuned _ drops => cases (h.cleared ordered tuned drops).2
  | received _ collected =>
      rw [(Desk.collect_of_tidy ordered.tidy collected).1]
      exact h.withDesk h.output h.queued
  | deserted => exact h.withDesk h.output h.queued
  | copied drops => exact h.beside drops.beside
  | spoilt drops => cases h.calm.drops drops
  | retired => exact ⟨h.calm, h.unpoisoned, h.alive, h.output, h.queued, h.inHand⟩
  | dismissed => exact h.withDesk h.output h.queued
  | @cleared last _ after crash _ drops _ =>
      have before : (host.withDesk (host.desk.clear last).2).Healthy := by
        obtain ⟨-, clear⟩ | ⟨-, clear⟩ := Desk.clear_cases ordered.tidy last
        · rw [clear]
          exact h.withDesk h.output h.queued
        · rw [clear]
          exact ⟨h.calm, h.unpoisoned, h.alive, h.output, nofun, h.inHand⟩
      have dropped := before.beside drops.beside
      cases before.calm.drops drops
      show after.detach.Healthy
      unfold Host.detach
      split
      · have letGo : (after.withDesk { after.desk with attached := false }).Healthy :=
          dropped.withDesk dropped.output dropped.queued
        exact letGo.beside (Host.settle_beside _)
      · exact dropped
  | _ => exact h

/-- Nor does the worker. -/
theorem workerStep (h : host.Healthy) (step : WorkerStep host after) : after.Healthy := by
  cases step with
  | took _ _ queued =>
      refine ⟨h.calm, h.unpoisoned, nofun, h.output, nofun, ?_⟩
      rintro request ⟨⟩
      exact h.queued _ queued
  | left => exact h.withWorker nofun nofun
  | rested => exact h.withDesk h.output h.queued
  | refused holding =>
      refine h.withWorker nofun ?_
      rintro request ⟨⟩
      exact h.inHand _ (by rw [holding]; rfl)
  | @starved request _ _ holding _ _ _ room =>
      -- The output of the request was agreed, and what is agreed can be allocated.
      have fits := h.inHand request (by rw [holding]; rfl)
      rw [Descriptor.checkRoom_of_fits fits] at room
      cases room
  | entered holding =>
      refine ⟨h.calm, h.unpoisoned, nofun, h.output, h.queued, ?_⟩
      rintro request ⟨⟩
      exact h.inHand _ (by rw [holding]; rfl)
  | @finished request _ _ lending pass world after inside _ _ ended =>
      have inHand : request.output.Fits := h.inHand request (by rw [inside]; rfl)
      have moved := h.withWorld world
      cases ended with
      | failed =>
          refine moved.withWorker nofun ?_
          rintro request ⟨⟩
          exact inHand
      | returned _ back =>
          refine (moved.beside (Host.beside_of_release back)).withWorker nofun ?_
          rintro request ⟨⟩
          exact inHand
      | broke _ back => cases moved.calm.release back
      | produced =>
          refine moved.withWorker nofun ?_
          rintro request ⟨⟩
          exact inHand
      | lent =>
          refine ⟨h.calm, h.unpoisoned, nofun, h.output, h.queued, ?_⟩
          rintro request ⟨⟩
          exact inHand
  | @recorded request produced _ _ recorded =>
      have unmarked : host.unmarked.Healthy := h.withDesk h.output h.queued
      have complete {middle : Host W} (h : middle.Healthy) : middle.complete.Healthy :=
        ⟨h.calm, h.unpoisoned, nofun, h.output, h.queued, nofun⟩
      cases recorded with
      | delivered =>
          refine complete ?_
          unfold Host.deliver
          split
          · exact h.withDesk h.output h.queued
          · simp only
            split <;> exact h.withDesk h.output h.queued
      | ignored => exact complete unmarked
      | returned _ _ back => exact complete (unmarked.beside (Host.beside_of_takeBack back))
      | broke _ _ back => cases unmarked.calm.takeBack back

end Healthy

end Host

/-! ### The lock on the desk -/

namespace Host

/-- An engine on a backend that crashes in passes only, and whose desk is not locked for good. -/
structure Unharmed (host : Host W) : Prop where
  reliable : host.engine.backend.Reliable
  unpoisoned : host.engine.deskPoisoned = false

namespace Unharmed

variable {host middle after : Host W}

theorem beside (h : host.Unharmed) (beside : host.Beside after) : after.Unharmed where
  reliable := by
    rw [beside.backend]
    exact h.reliable
  unpoisoned := by
    rw [beside.deskPoisoned]
    exact h.unpoisoned

theorem tuned (h : host.Unharmed) (tuned : host.Tuned after) : after.Unharmed := by
  cases tuned <;> exact ⟨h.reliable, h.unpoisoned⟩

theorem touched (h : host.Unharmed) (touched : host.Touched after) : after.Unharmed := by
  cases touched with
  | tuned tuned => exact h.tuned tuned
  | wrecked wrecked =>
      cases wrecked with
      | intro _ crash => exact (h.reliable.no_crash crash).elim

theorem cleared (h : host.Unharmed) : host.cleared.Unharmed := ⟨h.reliable, h.unpoisoned⟩

theorem detach (h : host.Unharmed) : host.detach.Unharmed := by
  unfold Host.detach
  split
  · have letGo : (host.withDesk { host.desk with attached := false }).Unharmed :=
      ⟨h.reliable, h.unpoisoned⟩
    exact letGo.beside (Host.settle_beside _)
  · exact h

theorem deliver (h : host.Unharmed) (ticket : Nat) (produced : Except Fault Frame) :
    (host.deliver ticket produced).Unharmed := by
  unfold Host.deliver
  split
  · exact ⟨h.reliable, h.unpoisoned⟩
  · simp only
    split <;> exact ⟨h.reliable, h.unpoisoned⟩

theorem callStep {call next : Call} (h : host.Unharmed) (step : CallStep call host next after) :
    after.Unharmed := by
  cases step with
  | ran _ touched => exact h.touched touched
  | submitted tuned _ _ _ _ drops =>
      have dropped := (h.tuned tuned).cleared.beside drops.beside
      exact ⟨dropped.reliable, dropped.unpoisoned⟩
  | faltered tuned _ drops => cases (h.tuned tuned).cleared.reliable.drops drops
  | copied drops => exact h.beside drops.beside
  | spoilt drops => cases h.reliable.drops drops
  | @cleared last _ after crash _ drops _ =>
      have before : (host.withDesk (host.desk.clear last).2).Unharmed :=
        ⟨h.reliable, h.unpoisoned⟩
      cases before.reliable.drops drops
      exact (before.beside drops.beside).detach
  | _ => exact ⟨h.reliable, h.unpoisoned⟩

theorem workerStep (h : host.Unharmed) (step : WorkerStep host after) : after.Unharmed := by
  cases step with
  | @finished request _ _ lending pass world after _ _ _ ended =>
      have moved : Unharmed { host with world } := ⟨h.reliable, h.unpoisoned⟩
      cases ended with
      | returned _ back =>
          have before := moved.beside (Host.beside_of_release back)
          exact ⟨before.reliable, before.unpoisoned⟩
      | broke _ back => cases moved.reliable.release back
      | _ => exact ⟨h.reliable, h.unpoisoned⟩
  | @recorded request produced _ _ recorded =>
      have unmarked : host.unmarked.Unharmed := ⟨h.reliable, h.unpoisoned⟩
      cases recorded with
      | delivered =>
          have before := h.deliver request.ticket produced
          exact ⟨before.reliable, before.unpoisoned⟩
      | ignored => exact ⟨h.reliable, h.unpoisoned⟩
      | returned _ _ back =>
          have before := unmarked.beside (Host.beside_of_takeBack back)
          exact ⟨before.reliable, before.unpoisoned⟩
      | broke _ _ back => cases unmarked.reliable.takeBack back
  | _ => exact ⟨h.reliable, h.unpoisoned⟩

end Unharmed

end Host

/-- A backend that crashes in passes only never has the lock on the desk poisoned. -/
theorem Crowd.unharmed_of_reachable {first crowd : Crowd W} (unharmed : first.host.Unharmed)
    (reach : Reachable first crowd) : crowd.host.Unharmed := by
  refine reach.keeps (P := fun crowd => crowd.host.Unharmed) unharmed fun before moved => ?_
  cases moved with
  | called _ _ step => exact before.callStep step
  | worked step => exact before.workerStep step
  | dropped _ drops => exact before.beside drops.beside
  | _ => exact before

/-! ### From the start -/

theorem Backend.Reliable.opened {backend : Backend W} (reliable : backend.Reliable) {id : Nat}
    {options : Options} {framework : Framework} {world : W} {live : List Nat} {host : Host W}
    (h : backend.openAs id options framework world live = .opened host) : host.Unharmed := by
  obtain ⟨input, output, after, -, rfl⟩ := opened_cases h
  exact ⟨reliable, rfl⟩

namespace Backend.Calm

variable {backend : Backend W}

theorem agreeInput_fits (calm : backend.Calm) {requested : Option Descriptor} {world after : W}
    {input output : Descriptor}
    (h : backend.agreeInput requested world = (.done (input, output), after)) : output.Fits := by
  obtain ⟨-, rfl, -⟩ | ⟨-, -, adopted⟩ := agreeInput_cases h
  · exact calm.room world
  · exact calm.adopted input world output (congrArg Prod.fst adopted)

theorem agreeOutput_fits {produced output : Descriptor} {expected : Option Descriptor}
    (fits : produced.Fits) (h : agreeOutput produced expected = .ok output) : output.Fits := by
  obtain ⟨-, rfl⟩ | ⟨-, agrees⟩ := agreeOutput_cases h
  · exact fits
  · exact Descriptor.fits_of_agrees agrees fits

/-- A newly opened engine with a calm backend is healthy. -/
theorem opened (calm : backend.Calm) {id : Nat} {options : Options} {framework : Framework}
    {world : W} {live : List Nat} {host : Host W}
    (h : backend.openAs id options framework world live = .opened host) : host.Healthy := by
  obtain ⟨input, output, after, agreed, rfl⟩ := opened_cases h
  obtain ⟨produced, asked, stated, -⟩ := agreeShapes_done agreed
  have room : output.Fits := agreeOutput_fits (calm.agreeInput_fits asked) stated
  exact ⟨calm, rfl, nofun, room, nofun, nofun⟩

end Backend.Calm

/-! ### Custom models -/

namespace CustomModel

/-- Custom models are calm, since they have nothing but passes. -/
theorem backend_calm {model : CustomModel W} (fits : model.output.Fits) : model.backend.Calm where
  adopts := nofun
  reads := nofun
  writes := nofun
  releases _ _ := rfl
  room _ := fits
  adopted := nofun

/-- A model that answers with the byte it is given. -/
def echoByte : CustomModel Unit where
  input := { tensors := [{ type := .uint8, shape := Shape.ofList [1] }] }
  output := { tensors := [{ type := .uint8, shape := Shape.ofList [1] }] }
  run inputs _ world := ({ ending := .done, outputs := inputs }, world)

/-- An engine on that model. -/
def echoEngine : Host Unit where
  engine := {
    id := 0, framework := .custom, accelerator := .any, backend := echoByte.backend
    desk := { input := echoByte.input, output := echoByte.output, timeout := 0 } }
  world := ()
  live := [0]

/-- A pass on one byte. -/
def byteTask (byte : UInt8) : Task where
  input := { info := echoByte.input, regions := [some [byte]] }

theorem echoByte_opened : echoByte.backend.openAs 0 {} .custom () [] = .opened echoEngine := rfl

theorem echoByte_fits : echoByte.output.Fits := by
  intro tensor member
  rw [List.mem_singleton.1 member]
  unfold Tensor.Fits
  decide +kernel

end CustomModel

end Inference
