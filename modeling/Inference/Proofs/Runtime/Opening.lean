/-
An attempt that nobody disturbs.

Opening an engine is a chain of steps, and between them others may move.  If nobody does then the
steps add up to what opening an engine does in one go, so the chain is the same opening, only seen
closer (`Runtime.wraps_alone`, `Runtime.opens_alone`).
-/
import Inference.Engine.Runtime

namespace Inference

variable {W : Type}

/-- Where an attempt stands that has ended like this, and what it leaves to the others. -/
def Opening.ending (opening : Opening W) (commons : Commons W) : Attempt W × Commons W :=
  match opening with
  | .opened host => (.opened { engine := host.engine },
      { commons with world := host.world, live := host.live, nextId := commons.nextId + 1 })
  | .refused fault world => (.refused fault, { commons with world })
  | .crashed message world => (.crashed message, { commons with world })

theorem Opening.ending_world (opening : Opening W) (commons : Commons W) (world : W) :
    opening.ending { commons with world } = opening.ending commons := by
  cases opening <;> rfl

namespace Runtime

/-- The process after the attempt has ended that came last. -/
def concluded (old : List (Attempt W)) (ending : Attempt W × Commons W) : Runtime W :=
  { commons := ending.2, attempts := old ++ [ending.1] }

theorem proceed_last {old : List (Attempt W)} {attempt : Attempt W} {commons : Commons W}
    (go : Attempt W → Commons W → Option (Attempt W × Commons W)) :
    (concluded old (attempt, commons)).proceed old.length go
      = (go attempt commons).map (concluded old) := by
  unfold proceed concluded
  simp only [List.getElem?_concat_length]
  show (go attempt commons).bind _ = _
  cases go attempt commons with
  | none => rfl
  | some ending =>
      simp

/-- The attempt that came last takes steps one after another. -/
theorem afterAll?_advances {old : List (Attempt W)} {attempt next : Attempt W}
    {commons after : Commons W} {last : Runtime W} {steps : Nat}
    (step : attempt.step commons = some (next, after))
    (rest : (concluded old (next, after)).afterAll?
      (List.replicate steps (.advances old.length)) = some last) :
    (concluded old (attempt, commons)).afterAll?
      (List.replicate (steps + 1) (.advances old.length)) = some last := by
  rw [List.replicate_succ]
  show ((concluded old (attempt, commons)).proceed old.length Attempt.step).bind _ = _
  rw [proceed_last, step]
  exact rest

theorem afterAll?_advance {old : List (Attempt W)} {attempt next : Attempt W}
    {commons after : Commons W} (step : attempt.step commons = some (next, after)) :
    (concluded old (attempt, commons)).afterAll? (List.replicate 1 (.advances old.length))
      = some (concluded old (next, after)) :=
  afterAll?_advances step rfl

/-- An attempt that has a backend and is left alone ends as opening an engine around it does. -/
theorem loaded_alone (old : List (Attempt W)) (options : Options) (framework : Framework)
    (backend : Backend W) (commons : Commons W) :
    ∃ steps, (concluded old (.loaded options framework backend, commons)).afterAll?
        (List.replicate steps (.advances old.length))
      = some (concluded old ((backend.openAs commons.nextId options framework commons.world
          commons.live).ending commons)) := by
  unfold Backend.openAs
  cases agreed : backend.agreeShapes options commons.world with
  | mk answer world =>
      cases answer with
      | done shapes =>
          obtain ⟨input, output⟩ := shapes
          have agrees : (Attempt.loaded options framework backend).step commons
              = some (.agreed options framework backend input output, { commons with world }) := by
            simp only [Attempt.step, agreed]
          -- From here on nothing can fail: the identifier, the worker, the table, the handle.
          refine ⟨5, afterAll?_advances agrees ?_⟩
          refine afterAll?_advances rfl ?_
          refine afterAll?_advances rfl ?_
          refine afterAll?_advances rfl ?_
          exact afterAll?_advance rfl
      | failed fault =>
          refine ⟨1, afterAll?_advance ?_⟩
          simp only [Attempt.step, agreed]
      | crashed message =>
          refine ⟨1, afterAll?_advance ?_⟩
          simp only [Attempt.step, agreed]

/-- An attempt around a backend that is loaded already, left alone, opens the engine that is opened
in one go, or fails as that does. -/
theorem wraps_alone (runtime : Runtime W) (backend : Backend W) (options : Options) :
    ∃ steps, runtime.afterAll? (.wraps backend options
        :: List.replicate steps (.advances runtime.attempts.length))
      = some (concluded runtime.attempts ((backend.openLoaded runtime.commons.nextId options
          runtime.commons.world runtime.commons.live).ending runtime.commons)) :=
  loaded_alone runtime.attempts options options.framework backend runtime.commons

/-- An attempt on a model, left alone, opens the engine that is opened in one go, or fails as that
does. -/
theorem opens_alone (runtime : Runtime W) (options : Options) :
    ∃ steps, runtime.afterAll? (.opens options
        :: List.replicate steps (.advances runtime.attempts.length))
      = some (concluded runtime.attempts ((runtime.commons.catalog.openModel runtime.commons.nextId
          options runtime.commons.world runtime.commons.live).ending runtime.commons)) := by
  obtain ⟨commons, old⟩ := runtime
  show ∃ steps, (concluded old (.asked options, commons)).afterAll? _ = _
  unfold Catalog.openModel
  cases resolved : commons.catalog.resolve options with
  | error fault =>
      refine ⟨1, afterAll?_advance ?_⟩
      simp only [Attempt.step, resolved]
  | ok found =>
      obtain ⟨framework, provider⟩ := found
      have asked : (Attempt.asked options).step commons
          = some (.found options framework provider, commons) := by
        simp only [Attempt.step, resolved]
      cases read : commons.catalog.load options commons.world provider with
      | mk result world =>
          cases result with
          | error causes =>
              refine ⟨2, afterAll?_advances asked (afterAll?_advance ?_)⟩
              simp only [Attempt.step, read]
              rfl
          | ok backend =>
              have loads : (Attempt.found options framework provider).step commons
                  = some (.loaded options framework backend, { commons with world }) := by
                simp only [Attempt.step, read]
              obtain ⟨steps, alone⟩ :=
                loaded_alone old options framework backend { commons with world }
              refine ⟨steps + 2, afterAll?_advances asked (afterAll?_advances loads ?_)⟩
              simp only [read]
              rw [Opening.ending_world] at alone
              exact alone

end Runtime

end Inference
