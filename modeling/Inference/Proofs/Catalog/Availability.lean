/-
What availability says of opening.

What is registered for a framework is told by the last change that concerns it, which is
`provider?_eq_some_iff`.  Opening looks it up as the question for availability does, and asks it
the same; so an engine is refused as not supported exactly if its framework is not available on the
accelerator asked for, before anything is loaded (`openModel_of_unavailable`).  Everything that
goes wrong later, while a model is loaded or shapes are agreed on, is put down to what the caller
brought (`invalid_of_openModel`).
-/
import Inference.Proofs.Catalog.Registration
import Inference.Proofs.Tensor.Refusal

namespace Inference

variable {W : Type}

/-! ### Refusals while an engine is opened -/

theorem Descriptor.invalid_of_validateAs {d : Descriptor} {role : String} {fault : Fault}
    (h : d.validateAs role = .error fault) : fault.Invalid := by
  unfold validateAs at h
  cases valid : d.validate with
  | ok =>
      rw [valid] at h
      cases h
  | error cause =>
      rw [valid] at h
      cases h
      exact .intro _

theorem invalid_of_agreeOutput {produced : Descriptor} {expected : Option Descriptor}
    {fault : Fault} (h : agreeOutput produced expected = .error fault) : fault.Invalid := by
  cases expected with
  | none => cases h
  | some expected =>
      simp only [agreeOutput] at h
      cases valid : expected.validate with
      | error cause =>
          rw [valid] at h
          cases h
          exact Descriptor.invalid_of_validate valid
      | ok =>
          rw [valid] at h
          by_cases agree : expected.agrees produced = true
          · simp only [bind, Except.bind, agree] at h
            cases h
          · simp only [bind, Except.bind, agree] at h
            cases h
            exact .intro _

namespace Backend

variable {backend : Backend W} {options : Options} {fault : Fault} {world after : W}

/-- Whatever a backend says to another input, the input is what is told to be wrong. -/
theorem invalid_of_agreeInput {requested : Option Descriptor}
    (h : (backend.agreeInput requested world).1 = .failed fault) : fault.Invalid := by
  cases requested with
  | none => cases h
  | some request =>
      unfold agreeInput at h
      cases valid : request.validate with
      | error cause =>
          simp only [valid] at h
          cases h
          exact Descriptor.invalid_of_validate valid
      | ok =>
          simp only [valid] at h
          by_cases agree : request.agrees (backend.input world) = true
          · rw [if_pos agree] at h
            cases h
          · rw [if_neg agree] at h
            cases answer : (backend.adopt request world).1 with
            | done output =>
                simp only [answer, Outcome.map, Outcome.mapFault] at h
                cases h
            | failed cause =>
                simp only [answer, Outcome.map, Outcome.mapFault] at h
                cases h
                exact .intro _
            | crashed message =>
                simp only [answer, Outcome.map, Outcome.mapFault] at h
                cases h

theorem invalid_of_agreeShapes (h : (backend.agreeShapes options world).1 = .failed fault) :
    fault.Invalid := by
  unfold agreeShapes at h
  cases agreed : (backend.agreeInput options.input world).1 with
  | failed cause =>
      simp only [agreed, Outcome.bind] at h
      cases h
      exact invalid_of_agreeInput agreed
  | crashed message =>
      simp only [agreed, Outcome.bind] at h
      cases h
  | done shapes =>
      simp only [agreed, Outcome.bind] at h
      cases output : agreeOutput shapes.2 options.output with
      | error cause =>
          simp only [output, bind, Except.bind] at h
          cases h
          exact invalid_of_agreeOutput output
      | ok info =>
          cases usable : shapes.1.validateAs "input" with
          | error cause =>
              simp only [output, usable, bind, Except.bind] at h
              cases h
              exact Descriptor.invalid_of_validateAs usable
          | ok =>
              cases producible : info.validateAs "output" with
              | error cause =>
                  simp only [output, usable, producible, bind, Except.bind] at h
                  cases h
                  exact Descriptor.invalid_of_validateAs producible
              | ok =>
                  simp only [output, usable, producible, bind, Except.bind] at h
                  cases h

/-- A backend that was loaded is refused for the shapes only. -/
theorem invalid_of_openAs {id : Nat} {framework : Framework} {live : List Nat}
    (h : backend.openAs id options framework world live = .refused fault after) :
    fault.Invalid := by
  unfold openAs at h
  cases agreed : backend.agreeShapes options world with
  | mk answer next =>
      rw [agreed] at h
      cases answer with
      | done shapes => cases h
      | crashed message => cases h
      | failed cause =>
          cases h
          exact invalid_of_agreeShapes (congrArg Prod.fst agreed)

end Backend

namespace Catalog

/-! ### What is registered -/

variable {catalog next : Catalog W} {change : Change W} {changes before later : List (Change W)}
variable {framework other : Framework} {provider : Provider W} {loader : Loader W}

/-- The change is one of what is registered for the framework. -/
def Change.Concerns : Change W → Framework → Prop
  | .addsLoader other _, framework => other = framework
  | .removesProvider other, framework => other = framework
  | .addsModel _ _, _ => False
  | .removesModel _, _ => False

/-- What the changes leave registered for a framework: the loader that was added last, if nothing
concerned the framework afterwards, and what was there at first if nothing concerned it at all. -/
inductive Provided : List (Change W) → Framework → Provider W → Prop where
  | initially {changes : List (Change W)}
      (untouched : ∀ change ∈ changes, ¬ change.Concerns .custom) :
      Provided changes .custom .customModels
  | added {before later : List (Change W)} {framework : Framework} {loader : Loader W}
      {next : Catalog W}
      (registered : (({} : Catalog W).afterAll before).addLoader framework loader = .ok next)
      (untouched : ∀ change ∈ later, ¬ change.Concerns framework) :
      Provided (before ++ .addsLoader framework loader :: later) framework (.loader loader)

theorem addLoader_eq_ok_iff : catalog.addLoader framework loader = .ok next ↔ framework ≠ .any
    ∧ next = { catalog with
        providers := (catalog.providers.filter fun entry => entry.1 != framework)
          ++ [(framework, .loader loader)] } := by
  unfold addLoader
  by_cases any : framework = .any
  · simp [any]
  · simp [any, eq_comm]

theorem provider?_addLoader (h : catalog.addLoader other loader = .ok next)
    (framework : Framework) :
    next.provider? framework
      = if other = framework then some (.loader loader) else catalog.provider? framework := by
  obtain ⟨-, rfl⟩ := addLoader_eq_ok_iff.1 h
  unfold provider?
  rw [List.find?_append, Keyed.find?_filter_ne, List.find?_singleton]
  by_cases same : other = framework
  · simp [same]
  · simp [same]

theorem provider?_removeProvider (catalog : Catalog W) (framework other : Framework) :
    (catalog.removeProvider other).2.provider? framework
      = if other = framework then none else catalog.provider? framework := by
  show Option.map _ ((catalog.providers.filter fun entry => entry.1 != other).find? _) = _
  rw [Keyed.find?_filter_ne]
  by_cases same : other = framework
  · simp [same]
  · simp [same, provider?]

/-- What is registered for a framework stays as long as no change concerns it. -/
theorem provider?_after (untouched : ¬ change.Concerns framework) :
    (catalog.after change).provider? framework = catalog.provider? framework := by
  cases change with
  | addsModel name model =>
      show ((catalog.addModel name model).toOption.getD catalog).provider? framework = _
      cases added : catalog.addModel name model with
      | error fault => rfl
      | ok next =>
          obtain ⟨-, -, -, -, rfl⟩ := addModel_eq_ok added
          rfl
  | removesModel name =>
      show ((catalog.removeModel name).toOption.getD catalog).provider? framework = _
      unfold removeModel
      split <;> rfl
  | addsLoader other loader =>
      show ((catalog.addLoader other loader).toOption.getD catalog).provider? framework = _
      cases added : catalog.addLoader other loader with
      | error fault => rfl
      | ok next => exact (provider?_addLoader added framework).trans (if_neg untouched)
  | removesProvider other =>
      exact (provider?_removeProvider catalog framework other).trans (if_neg untouched)

theorem provider?_afterAll (untouched : ∀ change ∈ changes, ¬ change.Concerns framework) :
    (catalog.afterAll changes).provider? framework = catalog.provider? framework := by
  induction changes generalizing catalog with
  | nil => rfl
  | cons change rest ih =>
      have later : ((catalog.after change).afterAll rest).provider? framework
          = (catalog.after change).provider? framework :=
        ih fun change member => untouched change (List.mem_cons_of_mem _ member)
      exact later.trans (provider?_after (untouched change List.mem_cons_self))

theorem afterAll_append (catalog : Catalog W) (before later : List (Change W)) :
    catalog.afterAll (before ++ later) = (catalog.afterAll before).afterAll later :=
  List.foldl_append

theorem after_addsLoader (h : catalog.addLoader framework loader = .ok next) :
    catalog.after (.addsLoader framework loader) = next := by
  show (catalog.addLoader framework loader).toOption.getD catalog = next
  rw [h]
  rfl

theorem Provided.ne_any (h : Provided changes framework provider) : framework ≠ .any := by
  cases h with
  | initially => nofun
  | added registered => exact (addLoader_eq_ok_iff.1 registered).1

theorem Provided.extend (h : Provided changes framework provider)
    (untouched : ¬ change.Concerns framework) :
    Provided (changes ++ [change]) framework provider := by
  have onward {earlier : List (Change W)}
    (others : ∀ change ∈ earlier, ¬ change.Concerns framework) :
      ∀ change' ∈ earlier ++ [change], ¬ change'.Concerns framework := by
    intro change' member
    rcases List.mem_append.1 member with old | new
    · exact others change' old
    · rwa [List.mem_singleton.1 new]
  cases h with
  | initially others => exact .initially (onward others)
  | added registered others =>
      rw [List.append_assoc, List.cons_append]
      exact .added registered (onward others)

theorem Provided.provider?_eq (h : Provided changes framework provider) :
    (({} : Catalog W).afterAll changes).provider? framework = some provider := by
  cases h with
  | initially untouched => exact provider?_afterAll untouched
  | @added before later _ loader next registered untouched =>
      rw [afterAll_append]
      show (((({} : Catalog W).afterAll before).after (.addsLoader framework loader)).afterAll
        later).provider? framework = _
      rw [provider?_afterAll untouched, after_addsLoader registered, provider?_addLoader registered,
        if_pos rfl]

/-- What is found for a framework is what the changes left registered. -/
theorem provider?_eq_some_iff :
    (({} : Catalog W).afterAll changes).provider? framework = some provider
    ↔ Provided changes framework provider := by
  refine ⟨fun found => ?_, Provided.provider?_eq⟩
  -- The last change decides, or else it does not concern the framework.
  induction changes using List.reverseRecOn with
  | nil =>
      obtain ⟨entry, first, rfl⟩ := Option.map_eq_some_iff.1 found
      obtain rfl := List.mem_singleton.1 (List.mem_of_find?_eq_some first)
      have same := List.find?_some first
      obtain rfl : Framework.custom = framework := eq_of_beq same
      exact .initially fun change none => absurd none List.not_mem_nil
  | append_singleton earlier change ih =>
      rw [afterAll_append] at found
      change ((({} : Catalog W).afterAll earlier).after change).provider? framework = some provider
        at found
      by_cases untouched : ¬ change.Concerns framework
      · rw [provider?_after untouched] at found
        exact (ih found).extend untouched
      · rw [not_not] at untouched
        cases change with
        | addsModel name model => exact untouched.elim
        | removesModel name => exact untouched.elim
        | addsLoader other loader =>
            obtain rfl : other = framework := untouched
            cases added : (({} : Catalog W).afterAll earlier).addLoader other loader with
            | ok next =>
                rw [after_addsLoader added, provider?_addLoader added, if_pos rfl] at found
                cases found
                exact .added added fun change none => absurd none List.not_mem_nil
            | error fault =>
                -- It is refused for `any` only, for which nothing was registered before.
                have kept : (({} : Catalog W).afterAll earlier).after (.addsLoader other loader)
                    = ({} : Catalog W).afterAll earlier := by
                  show ((({} : Catalog W).afterAll earlier).addLoader other loader).toOption.getD _
                    = _
                  rw [added]
                  rfl
                rw [kept] at found
                cases added.symm.trans (addLoader_eq_ok_iff.2 ⟨(ih found).ne_any, rfl⟩)
        | removesProvider other =>
            obtain rfl : other = framework := untouched
            rw [show Catalog.after _ (.removesProvider other) = (removeProvider _ other).2 from rfl,
              provider?_removeProvider, if_pos rfl] at found
            cases found

/-! ### Opening -/

variable {options : Options} {id : Nat} {world : W} {live : List Nat} {accelerator : Accelerator}

theorem isAvailable_eq_true_iff : catalog.isAvailable framework accelerator = true
    ↔ ∃ provider, catalog.provider? framework = some provider
      ∧ Provider.supports accelerator provider = true := by
  unfold isAvailable
  cases catalog.provider? framework with
  | none => simp
  | some provider => simp

theorem resolve_of_available (chosen : options.chosenFramework = .ok framework)
    (available : catalog.isAvailable framework options.accelerator = true) :
    ∃ provider, catalog.resolve options = .ok (framework, provider) := by
  obtain ⟨provider, found, supported⟩ := isAvailable_eq_true_iff.1 available
  refine ⟨provider, ?_⟩
  unfold resolve
  rw [chosen]
  simp only [bind, Except.bind, found, supported, if_true]
  rfl

/-- What is said of a framework that is not available. -/
def shortage (catalog : Catalog W) (framework : Framework) (accelerator : Accelerator) : String :=
  if (catalog.provider? framework).isSome then
    "the " ++ framework.name ++ " backend cannot run on " ++ accelerator.name
  else "no backend is registered for '" ++ framework.name ++ "'"

theorem resolve_of_unavailable (chosen : options.chosenFramework = .ok framework)
    (unavailable : catalog.isAvailable framework options.accelerator = false) :
    catalog.resolve options
      = .error (.notSupported (catalog.shortage framework options.accelerator)) := by
  unfold resolve shortage
  rw [chosen]
  cases found : catalog.provider? framework with
  | none =>
      simp only [bind, Except.bind, found]
      rfl
  | some provider =>
      have unsupported : Provider.supports options.accelerator provider = false := by
        unfold isAvailable at unavailable
        rwa [found] at unavailable
      simp only [bind, Except.bind, found, unsupported]
      rfl

/-- A model of a framework that is available is not refused for that. -/
theorem invalid_of_openModel {fault : Fault} {after : W}
    (chosen : options.chosenFramework = .ok framework)
    (available : catalog.isAvailable framework options.accelerator = true)
    (h : catalog.openModel id options world live = .refused fault after) : fault.Invalid := by
  obtain ⟨provider, resolved⟩ := resolve_of_available chosen available
  unfold openModel at h
  rw [resolved] at h
  cases loaded : catalog.load options world provider with
  | mk result next =>
      simp only [loaded] at h
      cases result with
      | error causes =>
          cases h
          exact .intro _
      | ok backend => exact Backend.invalid_of_openAs h

theorem openModel_of_unavailable (chosen : options.chosenFramework = .ok framework)
    (unavailable : catalog.isAvailable framework options.accelerator = false) :
    catalog.openModel id options world live
      = .refused (.notSupported (catalog.shortage framework options.accelerator)) world := by
  unfold openModel
  rw [resolve_of_unavailable chosen unavailable]

/-! ### Loading something else -/

/-- What loads the models of a framework. -/
abbrev Load (W : Type) := Options → W → Except (List String) (Backend W) × W

/-- The same provider as far as accelerators go, with other models behind it. -/
def Provider.restocked (load : Load W) : Provider W → Provider W
  | .customModels => .customModels
  | .loader loader => .loader { loader with load }

@[simp] theorem Provider.supports_restocked (load : Load W) :
    Provider.supports accelerator (Provider.restocked load provider)
      = Provider.supports accelerator provider := by
  cases provider <;> rfl

/-- The same registrations, with other models behind them. -/
def restocked (catalog : Catalog W) (models : List (String × CustomModel W))
    (load : Framework → Load W) : Catalog W where
  models
  providers := catalog.providers.map fun entry =>
    (entry.1, Provider.restocked (load entry.1) entry.2)

theorem provider?_restocked (catalog : Catalog W) (models : List (String × CustomModel W))
    (load : Framework → Load W) (framework : Framework) :
    (catalog.restocked models load).provider? framework
      = (catalog.provider? framework).map (Provider.restocked (load framework)) := by
  show Option.map _ ((catalog.providers.map _).find? _) = _
  rw [List.find?_map]
  show Option.map _ (Option.map _ (catalog.providers.find? fun entry => entry.1 == framework)) = _
  unfold provider?
  cases found : catalog.providers.find? fun entry => entry.1 == framework with
  | none => rfl
  | some entry =>
      have listed := List.find?_some found
      obtain rfl : entry.1 = framework := eq_of_beq listed
      rfl

theorem isAvailable_restocked (models : List (String × CustomModel W)) (load : Framework → Load W) :
    (catalog.restocked models load).isAvailable framework accelerator
      = catalog.isAvailable framework accelerator := by
  unfold isAvailable
  rw [provider?_restocked]
  cases catalog.provider? framework with
  | none => rfl
  | some provider => exact Provider.supports_restocked _

theorem shortage_restocked (models : List (String × CustomModel W)) (load : Framework → Load W) :
    (catalog.restocked models load).shortage framework accelerator
      = catalog.shortage framework accelerator := by
  unfold shortage
  rw [provider?_restocked, Option.isSome_map]

/-- Whatever was added and taken away, nothing is registered for `any`, and for every other
framework just what the last change left, which is there to be taken away.  A model whose framework
is known is refused as not supported exactly if the framework is not available on the accelerator
asked for; then no loader is asked and no custom model looked up, since with any others in their
place the outcome is the same. -/
theorem availability_foretells_opening {changes : List (Change W)} {catalog : Catalog W}
    (past : ({} : Catalog W).afterAll changes = catalog) :
    catalog.provider? .any = none
      ∧ (∀ framework provider,
        catalog.provider? framework = some provider ↔ Provided changes framework provider)
      ∧ (∀ framework, (catalog.removeProvider framework).1 = true
        ↔ ∃ provider, Provided changes framework provider)
      ∧ ∀ options framework, options.chosenFramework = .ok framework →
        ∀ id world live,
          ((∃ detail after,
              catalog.openModel id options world live = .refused (.notSupported detail) after)
            ↔ catalog.isAvailable framework options.accelerator = false)
          ∧ (catalog.isAvailable framework options.accelerator = false → ∃ detail,
            catalog.openModel id options world live = .refused (.notSupported detail) world
            ∧ ∀ models load, (catalog.restocked models load).openModel id options world live
              = .refused (.notSupported detail) world) := by
  subst past
  refine ⟨?_, fun _ _ => provider?_eq_some_iff, ?_, ?_⟩
  · refine Option.eq_none_iff_forall_ne_some.2 fun provider found => ?_
    exact (provider?_eq_some_iff.1 found).ne_any rfl
  · intro framework
    simp only [← provider?_eq_some_iff]
    exact Option.isSome_iff_exists
  intro options framework chosen id world live
  constructor
  · constructor
    · rintro ⟨detail, after, refused⟩
      refine Bool.eq_false_iff.2 fun available => ?_
      cases invalid_of_openModel chosen available refused
    · intro unavailable
      exact ⟨_, world, openModel_of_unavailable chosen unavailable⟩
  · intro unavailable
    refine ⟨_, openModel_of_unavailable chosen unavailable, fun models load => ?_⟩
    rw [openModel_of_unavailable chosen ((isAvailable_restocked models load).trans unavailable),
      shortage_restocked]

/-- A loader that only tells what it runs on. -/
def gpuOnly : Loader Unit where
  supports accelerator := accelerator == .gpu
  load _ world := (.error ["nothing can be loaded"], world)

/-- The options to open a model file, whose framework is told by its name. -/
def graphOn (accelerator : Accelerator) : Options :=
  { Options.ofModel "net.graph" with accelerator }

/-- A loader is added for `any`, in vain, then for two frameworks, and taken away from one of them,
as are the custom models. -/
def gpuChanges : List (Change Unit) :=
  [.addsLoader .any gpuOnly, .addsLoader .mvnc gpuOnly, .removesProvider .custom,
    .addsLoader .tvm gpuOnly, .removesProvider .tvm]

/-- The loader that is left can be taken away, and is asked to load models on its own accelerator
only. -/
theorem gpuOnly_foretells_opening : ∃ catalog, ({} : Catalog Unit).afterAll gpuChanges = catalog
    ∧ catalog.provider? .mvnc = some (.loader gpuOnly)
    ∧ (catalog.removeProvider .mvnc).1 = true ∧ (catalog.removeProvider .custom).1 = false
    ∧ (∃ detail, catalog.openModel 0 (graphOn .cpu) () [] = .refused (.notSupported detail) ()
      ∧ ∀ models load, (catalog.restocked models load).openModel 0 (graphOn .cpu) () []
        = .refused (.notSupported detail) ())
    ∧ ∀ detail after,
      catalog.openModel 0 (graphOn .gpu) () [] ≠ .refused (.notSupported detail) after := by
  have past : ({} : Catalog Unit).afterAll gpuChanges = _ := rfl
  obtain ⟨-, found, removed, opens⟩ := availability_foretells_opening past
  have registered : (({} : Catalog Unit).afterAll
    [.addsLoader .any gpuOnly]).addLoader .mvnc gpuOnly
      = .ok _ := rfl
  have left : Provided gpuChanges .mvnc (.loader gpuOnly) :=
    .added registered (by simp [Change.Concerns])
  refine ⟨_, past, (found _ _).2 left, (removed .mvnc).2 ⟨_, left⟩, rfl,
    (opens (graphOn .cpu) .mvnc rfl 0 () []).2 rfl, ?_⟩
  intro detail after refused
  have unavailable := (opens (graphOn .gpu) .mvnc rfl 0 () []).1.1 ⟨detail, after, refused⟩
  cases unavailable

end Catalog

end Inference
