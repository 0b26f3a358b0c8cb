/-
Opening the custom models that are registered.

A custom model stays registered until its name is taken off the list, whatever else happens to the
list and to the loaders (`Registers.afterAll`).  It is registered under its name as it is, but a
name that a model is opened with is read as a list of files.  So a model is found under its name if
the name stands for itself in a list (`openModel_listed`); otherwise its name leads to another
model, or to none (`openModel_unlisted`, `openModel_nameless`).
-/
import Inference.Catalog
import Inference.Engine.Alone
import Inference.Proofs.Catalog.Listing
import Inference.Proofs.Engine.Calm
import Inference.Proofs.Engine.Rejection
import Inference.Proofs.Keyed

namespace Inference

variable {W : Type}

namespace Catalog

/-! ### What happens to a catalog -/

/-- A change to what is registered. -/
inductive Change (W : Type) where
  | addsModel (name : String) (model : CustomModel W)
  | removesModel (name : String)
  | addsLoader (framework : Framework) (loader : Loader W)
  | removesProvider (framework : Framework)

/-- The catalog after a change; one that is refused leaves it as it is. -/
def after (catalog : Catalog W) : Change W → Catalog W
  | .addsModel name model => (catalog.addModel name model).toOption.getD catalog
  | .removesModel name => (catalog.removeModel name).toOption.getD catalog
  | .addsLoader framework loader => (catalog.addLoader framework loader).toOption.getD catalog
  | .removesProvider framework => (catalog.removeProvider framework).2

/-- The catalog after changes one after another. -/
def afterAll (catalog : Catalog W) (changes : List (Change W)) : Catalog W :=
  changes.foldl after catalog

variable {catalog next : Catalog W} {name other : String} {model : CustomModel W}

/-- What is registered for a model, and under which name. -/
structure Registers (catalog : Catalog W) (name : String) (model : CustomModel W) : Prop where
  found : catalog.model? name = some model
  input : model.input.validate = .ok ()
  output : model.output.validate = .ok ()

/-- A model that is added has a name, can be used, and goes by no name that is taken. -/
theorem addModel_eq_ok (h : catalog.addModel name model = .ok next) :
    name ≠ "" ∧ catalog.model? name = none ∧ model.input.validate = .ok ()
      ∧ model.output.validate = .ok ()
      ∧ next = { catalog with models := catalog.models ++ [(name, model)] } := by
  unfold addModel at h
  by_cases nameless : name.isEmpty = true
  · rw [if_pos nameless] at h
    cases h
  rw [if_neg nameless] at h
  cases input : model.input.validate with
  | error fault =>
      rw [input] at h
      cases h
  | ok =>
      cases output : model.output.validate with
      | error fault =>
          rw [input, output] at h
          cases h
      | ok =>
          rw [input, output] at h
          by_cases taken : (catalog.model? name).isSome = true
          · simp only [taken] at h
            cases h
          · simp only [taken] at h
            cases h
            exact ⟨by simpa using nameless, by simpa using taken, rfl, rfl, rfl⟩

theorem model?_append (catalog : Catalog W) (name other : String) (model : CustomModel W) :
    model? { catalog with models := catalog.models ++ [(other, model)] } name
      = (catalog.model? name).or (if other = name then some model else none) := by
  unfold model?
  rw [List.find?_append, Option.map_or, List.find?_singleton]
  by_cases same : other = name
  · simp [same]
  · simp [same]

theorem model?_filter (catalog : Catalog W) (differ : other ≠ name) :
    model? { catalog with models := catalog.models.filter fun entry => entry.1 != other } name
      = catalog.model? name := by
  unfold model?
  rw [Keyed.find?_filter_ne, if_neg differ]

theorem registers_of_addModel (h : catalog.addModel name model = .ok next) :
    next.Registers name model := by
  obtain ⟨-, free, input, output, rfl⟩ := addModel_eq_ok h
  refine ⟨?_, input, output⟩
  rw [model?_append, free, if_pos rfl]
  rfl

/-- A model stays registered until its name is taken off the list. -/
theorem Registers.after (h : catalog.Registers name model) {change : Change W}
    (kept : change ≠ .removesModel name) : (catalog.after change).Registers name model := by
  refine ⟨?_, h.input, h.output⟩
  cases change with
  | addsModel other model' =>
      show ((catalog.addModel other model').toOption.getD catalog).model? name = _
      cases added : catalog.addModel other model' with
      | error fault => exact h.found
      | ok next =>
          obtain ⟨-, -, -, -, rfl⟩ := addModel_eq_ok added
          show model? { catalog with models := catalog.models ++ [(other, model')] } name = _
          rw [model?_append, h.found]
          rfl
  | removesModel other =>
      show ((catalog.removeModel other).toOption.getD catalog).model? name = _
      have differ : other ≠ name := fun same => kept (same ▸ rfl)
      unfold removeModel
      split
      · exact (catalog.model?_filter differ).trans h.found
      · exact h.found
  | addsLoader framework loader =>
      show ((catalog.addLoader framework loader).toOption.getD catalog).model? name = _
      unfold addLoader
      split <;> exact h.found
  | removesProvider framework => exact h.found

theorem Registers.afterAll (h : catalog.Registers name model) {changes : List (Change W)}
    (kept : .removesModel name ∉ changes) : (catalog.afterAll changes).Registers name model := by
  induction changes generalizing catalog with
  | nil => exact h
  | cons change rest ih =>
      rw [List.mem_cons, not_or] at kept
      exact ih (h.after (Ne.symm kept.1)) kept.2

/-- Every model on the list can be used, if the models that were there can. -/
theorem usable_of_mem {changes : List (Change W)}
    (h : ∀ entry ∈ catalog.models,
      entry.2.input.validate = .ok () ∧ entry.2.output.validate = .ok ())
    {entry : String × CustomModel W} (listed : entry ∈ (catalog.afterAll changes).models) :
    entry.2.input.validate = .ok () ∧ entry.2.output.validate = .ok () := by
  induction changes generalizing catalog with
  | nil => exact h entry listed
  | cons change rest ih =>
      refine ih ?_ listed
      intro entry listed
      cases change with
      | addsModel other model' =>
          change entry ∈ ((catalog.addModel other model').toOption.getD catalog).models at listed
          cases added : catalog.addModel other model' with
          | error fault =>
              rw [added] at listed
              exact h entry listed
          | ok next =>
              obtain ⟨-, -, input, output, rfl⟩ := addModel_eq_ok added
              rw [added] at listed
              rcases List.mem_append.1 listed with old | new
              · exact h entry old
              · cases List.mem_singleton.1 new
                exact ⟨input, output⟩
      | removesModel other =>
          change entry ∈ ((catalog.removeModel other).toOption.getD catalog).models at listed
          unfold removeModel at listed
          split at listed
          · exact h entry (List.mem_of_mem_filter listed)
          · exact h entry listed
      | addsLoader framework loader =>
          change entry
            ∈ ((catalog.addLoader framework loader).toOption.getD catalog).models at listed
          unfold addLoader at listed
          split at listed <;> exact h entry listed
      | removesProvider framework => exact h entry listed

end Catalog

/-! ### Engines on custom models -/

/-- The engine is one on a custom model: it tells the shapes of the model, and whatever its callers
do, every pass that its worker ends is a run of the model's function on the regions of that pass. -/
structure Host.Runs (host : Host W) (model : CustomModel W) : Prop where
  input : (host.perform .input).1 = .done (.descriptor model.input)
  output : (host.perform .output).1 = .done (.descriptor model.output)
  passes : ∀ crowd, Crowd.Reachable { host } crowd → ∀ request outputs lending inputs,
    crowd.host.engine.worker = .inPass request outputs lending →
      request.input.allBytes = .ok inputs →
        crowd.host.stepWorker = some
          (Host.endPass { crowd.host with world := (model.run inputs outputs crowd.host.world).2 }
            request lending (model.run inputs outputs crowd.host.world).1)

namespace CustomModel

/-- The engine that is opened on the model. -/
def host (model : CustomModel W) (id : Nat) (world : W) (live : List Nat) : Host W where
  engine := {
    id, framework := .custom, accelerator := .any, backend := model.backend
    desk := { input := model.input, output := model.output, timeout := 0 } }
  world
  live := live ++ [id]

variable {model : CustomModel W}

theorem openAs_eq (input : model.input.validate = .ok ()) (output : model.output.validate = .ok ())
    (id : Nat) (world : W) (live : List Nat) :
    model.backend.openAs id {} .custom world live = .opened (model.host id world live) := by
  have shapes : model.backend.agreeShapes {} world
    = (.done (model.input, model.output), world) := by
    have usable : model.input.validateAs "input" = .ok () := by
      rw [Descriptor.validateAs, input]
      rfl
    have producible : model.output.validateAs "output" = .ok () := by
      rw [Descriptor.validateAs, output]
      rfl
    unfold Backend.agreeShapes
    simp only [Backend.agreeInput, backend, Outcome.bind, agreeOutput, bind, Except.bind, usable,
      producible]
    rfl
  unfold Backend.openAs
  rw [shapes]
  rfl

theorem runs_host {id : Nat} {world : W} {live : List Nat}
    (opened : model.backend.openAs id {} .custom world live = .opened (model.host id world live)) :
    (model.host id world live).Runs model where
  input := rfl
  output := rfl
  passes crowd reach request outputs lending inputs inside bytes := by
    have fresh := Backend.fresh_of_opened opened
    have kept : crowd.host.engine.backend = model.backend := reach.backend fresh
    unfold Host.stepWorker
    rw [inside]
    simp only [bytes, kept]
    rfl

/-- A model that answers with the two bytes it is given. -/
def echoPair : CustomModel Unit where
  input := { tensors := [{ type := .uint8, shape := Shape.ofList [2] }] }
  output := { tensors := [{ type := .uint8, shape := Shape.ofList [2] }] }
  run inputs _ world := ({ ending := .done, outputs := inputs }, world)

end CustomModel

/-- The options to open the custom model of a name. -/
def Options.ofCustomModel (name : String) : Options :=
  { Options.ofModel name with framework := .custom }

namespace Catalog

/-! ### Opening by a name -/

variable {catalog registered : Catalog W} {name first : String} {model : CustomModel W}
variable {id : Nat} {world : W} {live : List Nat}

theorem resolve_ofCustomModel (custom : catalog.provider? .custom = some .customModels)
    (listed : (Options.modelsOf name).head? = some first) :
    catalog.resolve (.ofCustomModel name) = .ok (.custom, .customModels) := by
  obtain ⟨rest, models⟩ := List.head?_eq_some_iff.1 listed
  have framework : (Options.ofCustomModel name).chosenFramework = .ok .custom := by
    unfold Options.chosenFramework Options.ofCustomModel Options.ofModel
    rw [models]
  unfold resolve
  rw [framework]
  simp only [bind, Except.bind, custom]
  rfl

theorem load_listed (listed : (Options.modelsOf name).head? = some first)
    (found : catalog.model? first = some model) :
    catalog.load (.ofCustomModel name) world .customModels = (.ok model.backend, world) := by
  obtain ⟨rest, models⟩ := List.head?_eq_some_iff.1 listed
  simp only [load, Options.ofCustomModel, Options.ofModel, models, found]

theorem load_unlisted (listed : (Options.modelsOf name).head? = some first)
    (missing : catalog.model? first = none) :
    catalog.load (.ofCustomModel name) world .customModels
      = (.error ["no custom model named '" ++ first ++ "'"], world) := by
  obtain ⟨rest, models⟩ := List.head?_eq_some_iff.1 listed
  simp only [load, Options.ofCustomModel, Options.ofModel, models, missing]

theorem openModel_nameless (listed : (Options.modelsOf name).head? = none) :
    catalog.openModel id (.ofCustomModel name) world live
      = .refused (.invalidParameter "no model was given") world := by
  have framework : (Options.ofCustomModel name).chosenFramework
      = .error (.invalidParameter "no model was given") := by
    unfold Options.chosenFramework Options.ofCustomModel Options.ofModel
    rw [List.head?_eq_none_iff.1 listed]
  unfold openModel resolve
  rw [framework]
  rfl

/-- A name whose first entry is the name of no model opens nothing. -/
theorem openModel_unlisted (custom : catalog.provider? .custom = some .customModels)
    (listed : (Options.modelsOf name).head? = some first) (missing : catalog.model? first = none) :
    catalog.openModel id (.ofCustomModel name) world live
      = .refused (.invalidParameter ("failed to open '"
          ++ ",".intercalate (Options.modelsOf name) ++ "' with " ++ Framework.custom.name ++ ": "
          ++ ": ".intercalate ["no custom model named '" ++ first ++ "'"])) world := by
  unfold openModel
  rw [resolve_ofCustomModel custom listed]
  simp only [load_unlisted listed missing]
  rfl

/-- A name whose first entry is the name of a model opens that model. -/
theorem openModel_listed (custom : catalog.provider? .custom = some .customModels)
    (listed : (Options.modelsOf name).head? = some first) (found : catalog.Registers first model) :
    catalog.openModel id (.ofCustomModel name) world live
      = .opened (model.host id world live) := by
  unfold openModel
  rw [resolve_ofCustomModel custom listed]
  simp only [load_listed listed found.found]
  exact model.openAs_eq found.input found.output id world live

theorem registers_of_found {changes : List (Change W)}
    (found : (({} : Catalog W).afterAll changes).model? name = some model) :
    (({} : Catalog W).afterAll changes).Registers name model := by
  obtain ⟨entry, first, rfl⟩ := Option.map_eq_some_iff.1 found
  have none : ∀ entry ∈ ({} : Catalog W).models,
      entry.2.input.validate = .ok () ∧ entry.2.output.validate = .ok () :=
    fun _ absent => absurd absent List.not_mem_nil
  obtain ⟨input, output⟩ := usable_of_mem none (List.mem_of_find?_eq_some first)
  exact ⟨found, input, output⟩

/-- After anything that was added and taken away, a custom model whose name is on the list opens by
that name if the name stands for itself in a list: the engine has the shapes of the model, and runs
its function.  If the name does not stand for itself then the model does not open by it: either
nothing does, or the engine is one on another model, which is registered under another name. -/
theorem custom_model_opens_by_plain_name {before later : List (Change W)}
    (added : (({} : Catalog W).afterAll before).addModel name model = .ok registered)
    (kept : .removesModel name ∉ later)
    (custom : (registered.afterAll later).provider? .custom = some .customModels)
    (id : Nat) (world : W) (live : List Nat) :
    (Options.Plain name → ∃ host,
      (registered.afterAll later).openModel id (.ofCustomModel name) world live = .opened host
        ∧ host.Runs model)
    ∧ (¬ Options.Plain name →
      (∃ fault, (registered.afterAll later).openModel id (.ofCustomModel name) world live
        = .refused fault world)
      ∨ ∃ other model' host, other ≠ name
        ∧ (registered.afterAll later).Registers other model'
        ∧ (registered.afterAll later).openModel id (.ofCustomModel name) world live = .opened host
        ∧ host.Runs model') := by
  have own := (registers_of_addModel added).afterAll kept
  constructor
  · intro plain
    exact ⟨_, openModel_listed custom (Options.head?_modelsOf_iff.2 plain) own,
      CustomModel.runs_host (model.openAs_eq own.input own.output id world live)⟩
  · intro notPlain
    cases listed : (Options.modelsOf name).head? with
    | none => exact .inl ⟨_, openModel_nameless listed⟩
    | some other =>
        cases found : (registered.afterAll later).model? other with
        | none => exact .inl ⟨_, openModel_unlisted custom listed found⟩
        | some model' =>
            have differ : other ≠ name :=
              fun same => notPlain (Options.head?_modelsOf_iff.1 (same ▸ listed))
            have whole : registered.afterAll later
                = ({} : Catalog W).afterAll (before ++ .addsModel name model :: later) := by
              unfold afterAll
              rw [List.foldl_append, List.foldl_cons]
              congr 1
              show registered
                = ((({} : Catalog W).afterAll before).addModel name model).toOption.getD _
              rw [added]
              rfl
            have others := registers_of_found (whole ▸ found)
            rw [← whole] at others
            exact .inr ⟨other, model', _, differ, others, openModel_listed custom listed others,
              CustomModel.runs_host
                (model'.openAs_eq others.input others.output id world live)⟩

open CustomModel in
/-- A name is given to another model after it was taken off the list; what is registered under other
names then makes no difference. -/
theorem echoPair_opens_by_name : ∃ registered host,
    (({} : Catalog Unit).afterAll [.addsModel "a" echoByte, .addsModel "a" echoPair,
      .addsModel "b" echoByte, .removesModel "b"]).addModel "b" echoPair = .ok registered
    ∧ (registered.afterAll [.addsModel "a,b" echoByte, .removesModel "a"]).openModel 7
        (.ofCustomModel "b") () [3] = .opened host
    ∧ host.Runs echoPair := by
  have added : (({} : Catalog Unit).afterAll [.addsModel "a" echoByte, .addsModel "a" echoPair,
      .addsModel "b" echoByte, .removesModel "b"]).addModel "b" echoPair
      = .ok { models := [("a", echoByte), ("b", echoPair)] } := by rfl
  have kept : Change.removesModel "b" ∉ [.addsModel "a,b" echoByte, .removesModel "a"] := by
    simp
  obtain ⟨found, -⟩ := custom_model_opens_by_plain_name added kept (by rfl) 7 () [3]
  obtain ⟨host, opened, runs⟩ := found ⟨by decide, by decide, by decide⟩
  exact ⟨_, host, added, opened, runs⟩

open CustomModel in
/-- A model whose name has a comma in it is never found: its name opens the model that is called
like the part before the comma, and nothing when there is no such model. -/
theorem echoPair_hidden_behind_comma : ∃ registered,
    (({} : Catalog Unit).afterAll [.addsModel "a" echoByte]).addModel "a,b" echoPair
        = .ok registered
      ∧ registered.provider? .custom = some .customModels
      ∧ (∃ host, registered.openModel 1 (.ofCustomModel "a,b") () [] = .opened host
        ∧ (host.perform .input).1 = .done (.descriptor echoByte.input) ∧ ¬ host.Runs echoPair)
      ∧ ∃ fault, (registered.after (.removesModel "a")).openModel 1 (.ofCustomModel "a,b") () []
        = .refused fault () := by
  refine ⟨{ models := [("a", echoByte), ("a,b", echoPair)] }, by rfl, by rfl,
    ⟨echoByte.host 1 () [], by rfl, by rfl, ?_⟩, _, by rfl⟩
  intro runs
  have same : (Outcome.done (.descriptor echoByte.input) : Outcome Fault Reply)
      = .done (.descriptor echoPair.input) := runs.input
  injection same with same
  injection same with same
  exact absurd same (by decide)

end Catalog

end Inference
