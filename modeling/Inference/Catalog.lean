/-
Where backends come from.

For each framework at most one loader is registered.  At first there is one, for the
framework `custom`: it opens custom models, which are plain functions registered under a
name.  No loader is ever registered for `any`.
-/
import Inference.Engine.Open

namespace Inference

/-- A model that is a function on regions, of fixed shape. -/
structure CustomModel (W : Type) where
  input : Descriptor
  output : Descriptor
  run : List Bytes → List Bytes → W → Pass × W

/-- Loads models of one framework. -/
structure Loader (W : Type) where
  supports : Accelerator → Bool
  /-- A backend, or the causes of the failure, the outermost first. -/
  load : Options → W → Except (List String) (Backend W) × W

/-- What is registered for a framework. -/
inductive Provider (W : Type) where
  /-- The registered custom models. -/
  | customModels
  | loader (loader : Loader W)

/-- All that is registered. -/
structure Catalog (W : Type) where
  models : List (String × CustomModel W) := []
  providers : List (Framework × Provider W) := [(.custom, .customModels)]

/-- A custom model as a backend. -/
def CustomModel.backend {W : Type} (model : CustomModel W) : Backend W where
  input _ := model.input
  output _ := model.output
  allocates _ := false
  adopt _ world := (.failed Backend.fixedShape, world)
  enter _ _ _ world := world
  finish inputs outputs _ world := some (model.run inputs outputs world)
  release _ world := (none, world)
  readProperty key world := (.failed (Backend.unknownProperty key), world)
  writeProperty key _ world := (.failed (Backend.unknownProperty key), world)
  dropped world := world

namespace Catalog

variable {W : Type}

/-! ### Custom models -/

/-- The custom model of a name. -/
def model? (catalog : Catalog W) (name : String) : Option (CustomModel W) :=
  (catalog.models.find? fun entry => entry.1 == name).map (·.2)

/-- Registers a custom model under a name that is free. -/
def addModel (catalog : Catalog W) (name : String) (model : CustomModel W) :
    Except Fault (Catalog W) := do
  if name.isEmpty then throw (.invalidParameter "a custom model needs a name")
  model.input.validate
  model.output.validate
  if (catalog.model? name).isSome then
    throw (.invalidParameter ("a custom model named '" ++ name ++ "' is already registered"))
  return { catalog with models := catalog.models ++ [(name, model)] }

/-- Takes a custom model off the list.  Engines that were opened on it keep working. -/
def removeModel (catalog : Catalog W) (name : String) : Except Fault (Catalog W) :=
  if (catalog.model? name).isSome then
    .ok { catalog with models := catalog.models.filter fun entry => entry.1 != name }
  else .error (.invalidParameter ("no custom model named '" ++ name ++ "'"))

/-! ### Providers -/

/-- What is registered for a framework. -/
def provider? (catalog : Catalog W) (framework : Framework) : Option (Provider W) :=
  (catalog.providers.find? fun entry => entry.1 == framework).map (·.2)

/-- Registers a loader, in place of an earlier one. -/
def addLoader (catalog : Catalog W) (framework : Framework) (loader : Loader W) :
    Except Fault (Catalog W) :=
  if framework = .any then .error (.invalidParameter "cannot register a backend for 'any'")
  else .ok { catalog with
    providers := (catalog.providers.filter fun entry => entry.1 != framework)
      ++ [(framework, .loader loader)] }

/-- Takes away what is registered for a framework, and tells whether there was anything. -/
def removeProvider (catalog : Catalog W) (framework : Framework) : Bool × Catalog W :=
  ((catalog.provider? framework).isSome,
    { catalog with providers := catalog.providers.filter fun entry => entry.1 != framework })

/-- Whether a provider runs on an accelerator. -/
def Provider.supports (accelerator : Accelerator) : Provider W → Bool
  | .customModels => accelerator.isOrdinary
  | .loader loader => loader.supports accelerator

/-- Whether models of a framework can be run on an accelerator. -/
def isAvailable (catalog : Catalog W) (framework : Framework) (accelerator : Accelerator) : Bool :=
  match catalog.provider? framework with
  | some provider => Provider.supports accelerator provider
  | none => false

/-- Loads the model that the options name. -/
def load (catalog : Catalog W) (options : Options) (world : W) :
    Provider W → Except (List String) (Backend W) × W
  | .customModels =>
    (match options.models with
      | [] => .error ["no custom model name given"]
      | name :: _ => match catalog.model? name with
        | some model => .ok model.backend
        | none => .error ["no custom model named '" ++ name ++ "'"], world)
  | .loader loader => loader.load options world

/-! ### Opening -/

/-- The framework of the options and what is registered for it, which must run on the accelerator
asked for. -/
def resolve (catalog : Catalog W) (options : Options) : Except Fault (Framework × Provider W) := do
  let framework ← options.chosenFramework
  match catalog.provider? framework with
  | none => throw (.notSupported ("no backend is registered for '" ++ framework.name ++ "'"))
  | some provider =>
    if Provider.supports options.accelerator provider then return (framework, provider)
    else throw (.notSupported ("the " ++ framework.name ++ " backend cannot run on "
      ++ options.accelerator.name))

/-- Opens an engine on the model that the options name. -/
def openModel (catalog : Catalog W) (id : Nat) (options : Options) (world : W) (live : List Nat) :
    Opening W :=
  match catalog.resolve options with
  | .error fault => .refused fault world
  | .ok (framework, provider) =>
    match catalog.load options world provider with
    | (.error causes, world) =>
      .refused (.invalidParameter ("failed to open '" ++ ",".intercalate options.models ++ "' with "
        ++ framework.name ++ ": " ++ ": ".intercalate causes)) world
    | (.ok backend, world) => backend.openAs id options framework world live

end Catalog

end Inference
