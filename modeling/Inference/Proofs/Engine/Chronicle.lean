/-
What has happened to a crowd.

A chronicle is kept beside a crowd and is never looked at by it.  It lists the operations that were
begun, one for each call; the requests that were submitted, with the input the caller brought and
the output that was agreed at that moment; and the passes that the worker ran, with the regions the
backend was given and what it made of them.  `Crowd.Lived` says how the two grow together, and
`Crowd.Lived.keeps` is the induction over that.
-/
import Inference.Proofs.Engine.Flow

namespace Inference

variable {W : Type}

/-- A request that was submitted. -/
structure Submitted where
  caller : Nat
  ticket : Nat
  /-- The input that the caller brought. -/
  input : Frame
  /-- The output that was agreed when the request was submitted. -/
  output : Descriptor

/-- A pass that the worker ran. -/
structure Ran where
  /-- The ticket of the request it was for. -/
  ticket : Nat
  /-- The regions that the backend was given. -/
  inputs : List Bytes
  lending : Bool
  pass : Pass

/-- The history of a crowd. -/
structure Chronicle where
  /-- The operation of every call, in the order in which they began. -/
  begun : List Operation := []
  submitted : List Submitted := []
  ran : List Ran := []

/-- The request that a caller has submitted between two moments. -/
def Crowd.submission? (crowd next : Crowd W) (caller : Nat) : Option Submitted :=
  match crowd.calls[caller]?, next.calls[caller]? with
  | some (.entering (.submit task _)), some (.awaiting _ _ ticket) =>
    some { caller, ticket, input := task.input, output := next.host.desk.output }
  | _, _ => none

/-- The pass that ends with the worker's next step. -/
def Host.pass? (host : Host W) : Option Ran :=
  match host.engine.worker with
  | .inPass request outputs lending =>
    match request.input.allBytes with
    | .ok inputs => (host.engine.backend.finish inputs outputs lending host.world).map
        fun (pass, _) => { ticket := request.ticket, inputs, lending, pass }
    | .error _ => none
  | _ => none

/-- The chronicle after a move. -/
def Chronicle.after (chronicle : Chronicle) (crowd next : Crowd W) : Move → Chronicle
  | .begins operation => { chronicle with begun := chronicle.begun ++ [operation] }
  | .steps caller | .expires caller =>
    { chronicle with submitted := chronicle.submitted ++ (crowd.submission? next caller).toList }
  | .works => { chronicle with ran := chronicle.ran ++ crowd.host.pass?.toList }
  | _ => chronicle

/-- The crowds that can be reached from another one, with what happened on the way. -/
inductive Crowd.Lived (first : Crowd W) : Crowd W → Chronicle → Prop where
  | start : Lived first first {}
  | move {crowd next : Crowd W} {chronicle : Chronicle} (before : Lived first crowd chronicle)
      (move : Move) (made : crowd.after? move = some next) :
      Lived first next (chronicle.after crowd next move)

namespace Crowd

theorem Lived.reachable {first crowd : Crowd W} {chronicle : Chronicle}
    (h : Lived first crowd chronicle) : Reachable first crowd := by
  induction h with
  | start => exact .refl
  | move _ move made ih => exact .step ih move made

theorem Reachable.lived {first crowd : Crowd W} (h : Reachable first crowd) :
    ∃ chronicle, Lived first crowd chronicle := by
  induction h with
  | refl => exact ⟨_, .start⟩
  | step _ move made ih =>
      obtain ⟨chronicle, lived⟩ := ih
      exact ⟨_, .move lived move made⟩

/-- What holds at first and is kept by every move holds of every crowd and its history. -/
theorem Lived.keeps {first crowd : Crowd W} {chronicle : Chronicle} {P : Crowd W → Chronicle → Prop}
    (lived : Lived first crowd chronicle) (start : P first {})
    (keep : ∀ {crowd next : Crowd W} {chronicle : Chronicle} {move : Move}, P crowd chronicle →
      crowd.Moved move next → P next (chronicle.after crowd next move)) : P crowd chronicle := by
  induction lived with
  | start => exact start
  | move _ move made ih => exact keep ih (moved_of_after? made)

end Crowd

/-- What a step of a call adds to the chronicle. -/
theorem Chronicle.after_called {chronicle : Chronicle} {crowd next : Crowd W} {move : Move}
    {caller : Nat} (mover : move.caller? = some caller) :
    chronicle.after crowd next move = { chronicle with
      submitted := chronicle.submitted ++ (crowd.submission? next caller).toList } := by
  cases move <;> cases mover <;> rfl

namespace Crowd

variable {crowd : Crowd W} {caller : Nat} {call after : Call} {host : Host W}

/-- A call that comes to wait has submitted its task. -/
theorem submission?_of_awaiting {task : Task} {timeout timeout' ticket : Nat}
    (found : crowd.calls[caller]? = some (.entering (.submit task timeout))) :
    crowd.submission? (crowd.update caller (.awaiting task timeout' ticket, host)) caller
      = some { caller, ticket, input := task.input, output := host.desk.output } := by
  have mine := getElem?_update found (Call.awaiting task timeout' ticket, host) caller
  rw [if_pos rfl] at mine
  unfold submission?
  rw [found, mine]
  rfl

theorem submission?_of_none (found : crowd.calls[caller]? = some call)
    (idle : after.ticket? = none) :
    crowd.submission? (crowd.update caller (after, host)) caller = none := by
  have mine := getElem?_update found (after, host) caller
  rw [if_pos rfl] at mine
  unfold submission?
  rw [found, mine]
  cases after with
  | awaiting => cases idle
  | _ => split <;> simp_all

theorem pass?_of_free {host : Host W} (free : host.engine.worker.busy = false) :
    host.pass? = none := by
  unfold Host.pass?
  split
  · rename_i inside
    rw [inside] at free
    cases free
  · rfl

/-- The pass that ends is the one the worker is in. -/
theorem pass?_of_inPass {host : Host W} {request : Request} {inputs outputs : List Bytes}
    {lending : Bool} {pass : Pass} {world : W}
    (inside : host.engine.worker = .inPass request outputs lending)
    (bytes : request.input.allBytes = .ok inputs)
    (finish : host.engine.backend.finish inputs outputs lending host.world = some (pass, world)) :
    host.pass? = some { ticket := request.ticket, inputs, lending, pass } := by
  unfold Host.pass?
  rw [inside]
  simp only [bytes, finish]
  rfl

theorem inPass_of_pass? {host : Host W} {ran : Ran} (ends : host.pass? = some ran) :
    ∃ request outputs, host.engine.worker = .inPass request outputs ran.lending
      ∧ ran.ticket = request.ticket := by
  unfold Host.pass? at ends
  split at ends
  · split at ends
    · obtain ⟨_, -, rfl⟩ := Option.map_eq_some_iff.1 ends
      exact ⟨_, _, ‹_›, rfl⟩
    · cases ends
  · cases ends

/-- With the end of its pass the worker leaves the backend. -/
theorem stepWorker_of_pass {host : Host W} {request : Request} {outputs : List Bytes}
    {lending : Bool} {ran : Ran} (inside : host.engine.worker = .inPass request outputs lending)
    (ends : host.pass? = some ran) : ran.ticket = request.ticket ∧ ran.lending = lending
      ∧ ∃ world,
        host.stepWorker = some (Host.endPass { host with world } request lending ran.pass) := by
  unfold Host.pass? at ends
  rw [inside] at ends
  cases bytes : request.input.allBytes with
  | error fault =>
      simp only [bytes, reduceCtorEq] at ends
  | ok inputs =>
      simp only [bytes] at ends
      obtain ⟨⟨pass, world⟩, finish, rfl⟩ := Option.map_eq_some_iff.1 ends
      refine ⟨rfl, rfl, world, ?_⟩
      unfold Host.stepWorker
      rw [inside]
      simp only [bytes, finish, Option.map_some]

end Crowd

end Inference
