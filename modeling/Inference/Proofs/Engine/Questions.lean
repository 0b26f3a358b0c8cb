/-
What a backend is asked.

Apart from passes a backend is asked to take up an input, for a property, or to change one.
`Backend.Notes` says that the worlds of a backend keep notes of these questions, in the order
in which they were asked, and of what it answered to an input.  Every backend can be made to
take notes: `Backend.noting` puts them beside its world, where the backend sees nothing of
them.

Only work under the lock adds to the notes.  Passes do not (`WorkerStep.noted`), nor does memory
that goes back (`Host.Drops.noted`).
-/
import Inference.Proofs.Engine.Flow

namespace Inference

variable {W : Type}

/-- Something that a backend is asked outside of passes. -/
inductive Question where
  /-- To take up an input. -/
  | adopt (info : Descriptor) (answer : Outcome Fault Descriptor)
  | read (key : String)
  | write (key value : String)
  deriving DecidableEq

/-- Questions are added to the notes, and nothing else is. -/
structure Backend.Notes (backend : Backend W) (notes : W → List Question) : Prop where
  adopt : ∀ info world, notes (backend.adopt info world).2
    = notes world ++ [.adopt info (backend.adopt info world).1]
  read : ∀ key world, notes (backend.readProperty key world).2 = notes world ++ [.read key]
  write : ∀ key value world, notes (backend.writeProperty key value world).2
    = notes world ++ [.write key value]
  enter : ∀ inputs outputs lending world,
    notes (backend.enter inputs outputs lending world) = notes world
  finish : ∀ inputs outputs lending world pass after,
    backend.finish inputs outputs lending world = some (pass, after) → notes after = notes world
  release : ∀ regions world, notes (backend.release regions world).2 = notes world
  dropped : ∀ world, notes (backend.dropped world) = notes world

namespace Backend

/-- The same backend with notes of what it is asked. -/
def noting (backend : Backend W) : Backend (W × List Question) where
  input world := backend.input world.1
  output world := backend.output world.1
  allocates world := backend.allocates world.1
  adopt info world :=
    let (answer, after) := backend.adopt info world.1
    (answer, after, world.2 ++ [.adopt info answer])
  enter inputs outputs lending world := (backend.enter inputs outputs lending world.1, world.2)
  finish inputs outputs lending world :=
    (backend.finish inputs outputs lending world.1).map fun (pass, after) => (pass, after, world.2)
  release regions world :=
    let (crash, after) := backend.release regions world.1
    (crash, after, world.2)
  readProperty key world :=
    let (answer, after) := backend.readProperty key world.1
    (answer, after, world.2 ++ [.read key])
  writeProperty key value world :=
    let (answer, after) := backend.writeProperty key value world.1
    (answer, after, world.2 ++ [.write key value])
  dropped world := (backend.dropped world.1, world.2)

theorem noting_notes (backend : Backend W) : backend.noting.Notes Prod.snd where
  adopt _ _ := rfl
  read _ _ := rfl
  write _ _ _ := rfl
  enter _ _ _ _ := rfl
  finish := by
    intro inputs outputs lending world pass after finish
    obtain ⟨⟨pass', world'⟩, -, same⟩ := Option.map_eq_some_iff.1 finish
    cases same
    rfl
  release _ _ := rfl
  dropped _ := rfl

end Backend

/-! ### What adds nothing to the notes -/

namespace Host

variable {notes : W → List Question} {host after : Host W}

theorem release_notes (kept : host.engine.backend.Notes notes) (regions : List Bytes) :
    notes (host.release regions).2.world = notes host.world := by
  have same := kept.release regions host.world
  unfold release
  simp only
  split <;> exact same

theorem notes_of_release (kept : host.engine.backend.Notes notes) {regions : List Bytes}
    {crash : Option String} (back : host.release regions = (crash, after)) :
    notes after.world = notes host.world := by
  have same := release_notes kept regions
  rwa [back] at same

theorem settle_notes (kept : host.engine.backend.Notes notes) :
    notes host.settle.world = notes host.world := by
  unfold settle
  split
  · exact kept.dropped host.world
  · rfl

theorem notes_of_takeBack (kept : host.engine.backend.Notes notes) {frame : Frame}
    {crash : Option String} (back : host.takeBack frame = (crash, after)) :
    notes after.world = notes host.world := by
  have beside := release_beside host frame.present
  rw [← release_notes kept frame.present]
  cases back
  refine settle_notes ?_
  show (host.release frame.present).2.engine.backend.Notes notes
  rw [beside.backend]
  exact kept

theorem Drops.noted {frames : List Frame} {crash : Option String}
    (drops : host.Drops frames crash after) (kept : host.engine.backend.Notes notes) :
    notes after.world = notes host.world := by
  induction drops with
  | nil => rfl
  | plain _ _ ih => exact ih kept
  | returned _ _ back _ ih =>
      refine (ih ?_).trans (notes_of_takeBack kept back)
      rw [(beside_of_takeBack back).backend]
      exact kept
  | crashed _ _ back => exact notes_of_takeBack kept back

end Host

/-- The worker asks the backend nothing. -/
theorem WorkerStep.noted {notes : W → List Question} {host after : Host W}
    (step : WorkerStep host after) (kept : host.engine.backend.Notes notes) :
    notes after.world = notes host.world := by
  cases step with
  | entered => exact kept.enter _ _ _ host.world
  | @finished _ _ _ _ _ world _ _ _ finish ended =>
      have same := kept.finish _ _ _ _ _ _ finish
      have released {regions : List Bytes} {crash : Option String} {after : Host W}
          (back : ({ host with world } : Host W).release regions = (crash, after)) :
          notes after.world = notes host.world := by
        have moved : ({ host with world } : Host W).engine.backend.Notes notes := kept
        exact (Host.notes_of_release moved back).trans same
      cases ended with
      | returned _ back =>
          have same := released back
          exact same
      | broke _ back =>
          have same := released back
          exact same
      | _ => exact same
  | @recorded request produced _ _ recorded =>
      have returned {frame : Frame} {crash : Option String} {after : Host W}
          (back : host.unmarked.takeBack frame = (crash, after)) :
          notes after.world = notes host.world :=
        @Host.notes_of_takeBack W notes host.unmarked after kept frame crash back
      cases recorded with
      | delivered =>
          show notes (host.deliver request.ticket produced).world = _
          rw [Host.deliver_eq]
          rfl
      | returned _ _ back =>
          have same := returned back
          exact same
      | broke _ _ back =>
          have same := returned back
          exact same
      | _ => rfl
  | _ => rfl

end Inference
