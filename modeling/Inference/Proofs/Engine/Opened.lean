/-
What an engine is opened with.

The descriptors of an engine that was opened were agreed on with its backend.
`Backend.agreeInput_cases` says where they come from, `agreeOutput_cases` what an expected output
changes about them, and `Backend.agreeShapes_done` that both can be used.  All else about such an
engine is settled by its options (`Backend.opened_cases`).
-/
import Inference.Engine.Open

namespace Inference

variable {W : Type}

theorem ok_of_mapError {α ε ε' : Type} {result : Except ε α} {f : ε → ε'} {value : α}
    (h : result.mapError f = .ok value) : result = .ok value := by
  cases result with
  | ok => exact congrArg Except.ok (Except.ok.inj h)
  | error fault => cases h

/-- An output that is expected may stand in for the one that is produced. -/
theorem agreeOutput_cases {produced output : Descriptor} {expected : Option Descriptor}
    (h : agreeOutput produced expected = .ok output) :
    expected = none ∧ output = produced
      ∨ expected = some output ∧ output.agrees produced = true := by
  cases expected with
  | none =>
      cases h
      exact .inl ⟨rfl, rfl⟩
  | some expected =>
      simp only [agreeOutput] at h
      cases valid : expected.validate with
      | error fault =>
          rw [valid] at h
          cases h
      | ok =>
          rw [valid] at h
          change (if expected.agrees produced then _ else _) = _ at h
          split at h
          · rename_i agrees
            cases h
            exact .inr ⟨rfl, agrees⟩
          · cases h

namespace Backend

variable {backend : Backend W} {options : Options} {world after : W}
  {input output produced : Descriptor}

/-- The engine as it is opened with an input and an output. -/
def started (backend : Backend W) (id : Nat) (options : Options) (framework : Framework)
    (live : List Nat) (input output : Descriptor) (world : W) : Host W where
  engine := {
    id, framework, accelerator := options.accelerator, backend
    desk := { input, output, timeout := options.timeout } }
  world
  live := live ++ [id]

/-- The backend is asked for an input only if it does not expect that shape anyway. -/
theorem agreeInput_cases {requested : Option Descriptor}
    (h : backend.agreeInput requested world = (.done (input, produced), after)) :
    (requested = none ∧ input = backend.input world
        ∨ requested = some input ∧ input.agrees (backend.input world) = true)
      ∧ produced = backend.output world ∧ after = world
    ∨ requested = some input ∧ input.agrees (backend.input world) = false
      ∧ backend.adopt input world = (.done produced, after) := by
  cases requested with
  | none =>
      cases h
      exact .inl ⟨.inl ⟨rfl, rfl⟩, rfl, rfl⟩
  | some request =>
      simp only [agreeInput] at h
      split at h
      · cases h
      split at h
      · rename_i agrees
        cases h
        exact .inl ⟨.inr ⟨rfl, agrees⟩, rfl, rfl⟩
      rename_i differs
      change (Outcome.mapFault _ (Outcome.map _ (backend.adopt request world).1),
        (backend.adopt request world).2) = _ at h
      cases adopted : backend.adopt request world with
      | mk answer left =>
          rw [adopted] at h
          cases answer with
          | done output =>
              cases h
              exact .inr ⟨rfl, by simpa using differs, adopted⟩
          | failed fault => cases h
          | crashed message => cases h

theorem agreeShapes_done
    (h : backend.agreeShapes options world = (.done (input, output), after)) :
    ∃ produced, backend.agreeInput options.input world = (.done (input, produced), after)
      ∧ agreeOutput produced options.output = .ok output ∧ input.validate = .ok ()
      ∧ output.validate = .ok () := by
  unfold agreeShapes at h
  cases asked : backend.agreeInput options.input world with
  | mk answer world' =>
      rw [asked] at h
      cases answer with
      | failed fault => cases h
      | crashed message => cases h
      | done pair =>
          obtain ⟨input', produced⟩ := pair
          cases stated : agreeOutput produced options.output with
          | error fault =>
              simp only [Outcome.bind, stated] at h
              cases h
          | ok output' =>
              simp only [Outcome.bind, stated, bind, Except.bind] at h
              cases first : input'.validateAs "input" with
              | error fault =>
                  simp only [first] at h
                  cases h
              | ok =>
                  cases second : output'.validateAs "output" with
                  | error fault =>
                      simp only [first, second] at h
                      cases h
                  | ok =>
                      simp only [first, second] at h
                      cases h
                      exact ⟨produced, rfl, stated, ok_of_mapError first,
                        ok_of_mapError second⟩

theorem opened_cases {id : Nat} {framework : Framework} {live : List Nat} {host : Host W}
    (h : backend.openAs id options framework world live = .opened host) :
    ∃ input output after, backend.agreeShapes options world = (.done (input, output), after)
      ∧ host = backend.started id options framework live input output after := by
  unfold openAs at h
  split at h
  · rename_i agreed
    cases h
    exact ⟨_, _, _, agreed, rfl⟩
  · cases h
  · cases h

end Backend

end Inference
