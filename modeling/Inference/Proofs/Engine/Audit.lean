/-
Keeping a record of what a backend is given back.

A record is a list of the regions that a backend was asked to take back, in the order in
which it was asked.  `Backend.Logs` says that the worlds of a backend carry such a record.
Every backend can be made to: `Backend.audited` puts the record beside its world, and lets
the backend see nothing of it.

What the steps of an engine do to the record is listed here once, by `Tuned.logged`,
`Touched.logged` and `Drops.logged`.  Only frames that are dropped and failed passes add to it.
-/
import Inference.Proofs.Engine.Flow

namespace Inference

variable {W : Type}

/-- The regions that were given back, the last ones last. -/
abbrev Returns := List (List Bytes)

/-- Nothing but taking regions back adds to the record, and that adds just those. -/
structure Backend.Logs (backend : Backend W) (log : W → Returns) : Prop where
  release : ∀ regions world, log (backend.release regions world).2 = log world ++ [regions]
  adopt : ∀ info world, log (backend.adopt info world).2 = log world
  enter : ∀ inputs outputs lending world,
    log (backend.enter inputs outputs lending world) = log world
  finish : ∀ inputs outputs lending world pass after,
    backend.finish inputs outputs lending world = some (pass, after) → log after = log world
  read : ∀ key world, log (backend.readProperty key world).2 = log world
  write : ∀ key value world, log (backend.writeProperty key value world).2 = log world
  dropped : ∀ world, log (backend.dropped world) = log world

namespace Backend

/-- The same backend with a record of the regions it is given back. -/
def audited (backend : Backend W) : Backend (W × Returns) where
  input world := backend.input world.1
  output world := backend.output world.1
  allocates world := backend.allocates world.1
  adopt info world :=
    let (answer, after) := backend.adopt info world.1
    (answer, after, world.2)
  enter inputs outputs lending world := (backend.enter inputs outputs lending world.1, world.2)
  finish inputs outputs lending world :=
    (backend.finish inputs outputs lending world.1).map fun (pass, after) => (pass, after, world.2)
  release regions world :=
    let (crash, after) := backend.release regions world.1
    (crash, after, world.2 ++ [regions])
  readProperty key world :=
    let (answer, after) := backend.readProperty key world.1
    (answer, after, world.2)
  writeProperty key value world :=
    let (answer, after) := backend.writeProperty key value world.1
    (answer, after, world.2)
  dropped world := (backend.dropped world.1, world.2)

theorem audited_logs (backend : Backend W) : backend.audited.Logs Prod.snd where
  release _ _ := rfl
  adopt _ _ := rfl
  enter _ _ _ _ := rfl
  finish := by
    intro inputs outputs lending world pass after finish
    obtain ⟨⟨pass', world'⟩, -, same⟩ := Option.map_eq_some_iff.1 finish
    cases same
    rfl
  read _ _ := rfl
  write _ _ _ := rfl
  dropped _ := rfl

namespace Logs

variable {backend : Backend W} {log : W → Returns}

theorem asked (logs : backend.Logs log) {world after : W} (asked : backend.Asked world after) :
    log after = log world := by
  cases asked with
  | adopt info => exact logs.adopt info world
  | read key => exact logs.read key world
  | write key value => exact logs.write key value world

theorem askCrashes (logs : backend.Logs log) {world after : W} {message : String}
    (crash : backend.AskCrashes world message after) : log after = log world := by
  cases crash with
  | @adopt info _ _ crash =>
      have same := logs.adopt info world
      rwa [crash] at same
  | @read key _ _ crash =>
      have same := logs.read key world
      rwa [crash] at same
  | @write key value _ _ crash =>
      have same := logs.write key value world
      rwa [crash] at same

/-- Opening an engine gives nothing back. -/
theorem opened (logs : backend.Logs log) {id : Nat} {options : Options} {framework : Framework}
    {world : W} {live : List Nat} {host : Host W}
    (h : backend.openAs id options framework world live = .opened host) :
    log host.world = log world := by
  obtain ⟨input, output, after, agreed, rfl⟩ := opened_cases h
  obtain ⟨produced, asked, -⟩ := agreeShapes_done agreed
  obtain ⟨-, -, rfl⟩ | ⟨-, -, adopted⟩ := agreeInput_cases asked
  · rfl
  · have same := logs.adopt input world
    rwa [adopted] at same

end Logs

end Backend

/-! ### What the steps of an engine add to the record -/

namespace Host

variable {log : W → Returns} {host middle after : Host W}

/-- What is on the record of a host. -/
def logged (host : Host W) (log : W → Returns) : Returns := log host.world

theorem release_logged (logs : host.engine.backend.Logs log) (regions : List Bytes) :
    (host.release regions).2.logged log = host.logged log ++ [regions] := by
  have added := logs.release regions host.world
  unfold release logged
  simp only
  split <;> exact added

theorem logged_of_release (logs : host.engine.backend.Logs log) {regions : List Bytes}
    {crash : Option String} (back : host.release regions = (crash, after)) :
    after.logged log = host.logged log ++ [regions] := by
  have added := release_logged logs regions
  rwa [back] at added

theorem settle_logged (logs : host.engine.backend.Logs log) :
    host.settle.logged log = host.logged log := by
  unfold settle
  split
  · exact logs.dropped host.world
  · rfl

theorem logged_of_takeBack (logs : host.engine.backend.Logs log) {frame : Frame}
    {crash : Option String} (back : host.takeBack frame = (crash, after)) :
    after.logged log = host.logged log ++ [frame.present] := by
  have beside := release_beside host frame.present
  rw [← release_logged logs]
  cases back
  refine settle_logged ?_
  show (host.release frame.present).2.engine.backend.Logs log
  rw [beside.backend]
  exact logs

theorem detach_logged (logs : host.engine.backend.Logs log) :
    host.detach.logged log = host.logged log := by
  unfold detach
  split
  · exact settle_logged logs
  · rfl

theorem leftBy_logged (logs : host.engine.backend.Logs log) (last : Bool) (crash : Option String) :
    (host.leftBy last crash).logged log = host.logged log := by
  unfold leftBy
  split
  · exact detach_logged logs
  · rfl

theorem Tuned.logged (logs : host.engine.backend.Logs log) (tuned : host.Tuned after) :
    after.logged log = host.logged log := by
  cases tuned with
  | asked _ _ asked => exact logs.asked asked
  | @reshaped info _ _ _ _ adopted =>
      have same := logs.adopt info host.world
      rw [adopted] at same
      exact same
  | _ => rfl

theorem Touched.logged (logs : host.engine.backend.Logs log) (touched : host.Touched after) :
    after.logged log = host.logged log := by
  cases touched with
  | tuned tuned => exact tuned.logged logs
  | wrecked wrecked =>
      cases wrecked with
      | intro _ crash => exact logs.askCrashes crash

/-- A single frame that is dropped is put on the record if it is on lease, crash or not. -/
theorem Drops.logged (logs : host.engine.backend.Logs log) {frames : List Frame}
    {crash : Option String} (drops : host.Drops frames crash after) (few : frames.length ≤ 1) :
    after.logged log = host.logged log ++ (frames.flatMap Frame.onLease).map Frame.present := by
  have alone {frame : Frame} {rest : List Frame} (few : (frame :: rest).length ≤ 1) :
      rest = [] := by
    rw [List.length_cons] at few
    exact List.eq_nil_of_length_eq_zero (by omega)
  cases drops with
  | nil => simp
  | plain plain others =>
      cases alone few
      cases others
      simp [Frame.onLease_of_none plain]
  | returned leased _ back others =>
      cases alone few
      cases others
      simp [Frame.onLease_of_ne_none leased, logged_of_takeBack logs back]
  | crashed leased _ back =>
      cases alone few
      simp [Frame.onLease_of_ne_none leased, logged_of_takeBack logs back]

end Host

end Inference
