/-
Opening an engine.

Shapes are negotiated before anything else exists.  If that fails the backend is let go
and no trace of the attempt remains; if it succeeds the engine starts with a parked
worker, and its handle goes on the table of live handles.
-/
import Inference.Engine.Negotiation

namespace Inference

/-- How an attempt to open an engine ends, with the world it leaves. -/
inductive Opening (W : Type) where
  | opened (host : Host W)
  | refused (fault : Fault) (world : W)
  | crashed (message : String) (world : W)

namespace Backend

variable {W : Type}

/-- Opens an engine around a backend, under an identifier no other engine has. -/
def openAs (backend : Backend W) (id : Nat) (options : Options) (framework : Framework) (world : W)
    (live : List Nat) : Opening W :=
  match backend.agreeShapes options world with
  | (.done (input, output), world) =>
    .opened {
      engine := {
        id, framework, accelerator := options.accelerator, backend,
        desk := { input, output, timeout := options.timeout } }
      world
      live := live ++ [id] }
  | (.failed fault, world) => .refused fault (backend.dropped world)
  | (.crashed message, world) => .crashed message (backend.dropped world)

/-- Opens an engine around a backend that was loaded already; the framework is taken on trust. -/
def openLoaded (backend : Backend W) (id : Nat) (options : Options) (world : W) (live : List Nat) :
    Opening W :=
  backend.openAs id options options.framework world live

end Backend

end Inference
