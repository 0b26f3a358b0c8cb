/-
An engine without a worker.

`Direct` is what an engine would be if it had one client only.  It has no desk, no tickets and
nothing on its way: an operation checks what it is given, runs the pass on the backend at once,
checks what the pass produced, and answers.  The output of a failed pass on lease goes back right
away, that of a good one when its frame is dropped.  `Client` is the client of such an engine, with
the answers it has been given so far.

A pass may never end.  What would wait for it has no answer then, only the world in which the
backend was left: an `Except.error`.
-/
import Inference.Engine.Crowd

namespace Inference

variable {W α : Type}

/-- An engine that runs its passes by itself. -/
structure Direct (W : Type) where
  id : Nat
  framework : Framework
  accelerator : Accelerator
  backend : Backend W
  isOpen : Bool := true
  input : Descriptor
  output : Descriptor
  /-- A property like any other: nobody ever waits. -/
  timeout : Nat
  /-- Number of passes that were asked for. -/
  passes : Nat := 0
  /-- Number of frames on lease from the backend. -/
  lent : Nat := 0
  world : W

namespace Direct

/-! ### Shapes and properties -/

/-- Asks the backend. -/
def ask (direct : Direct W) (use : Backend W → W → Outcome Fault α × W) :
    Outcome Fault α × Direct W :=
  ((use direct.backend direct.world).1,
    { direct with world := (use direct.backend direct.world).2 })

/-- Takes up another input.  The backend is asked only if the shape changes. -/
def reshape (direct : Direct W) (info : Descriptor) : Outcome Fault Unit × Direct W :=
  if info.agrees direct.input then (.done (), { direct with input := info })
  else match direct.ask fun backend => backend.adopt info with
    | (.done output, direct) =>
      match output.validate with
      | .ok () => (.done (), { direct with input := info, output })
      | .error fault =>
        (.failed (.passFailed ("the backend negotiated an unusable output: " ++ fault.message)),
          direct)
    | (.failed fault, direct) => (.failed fault, direct)
    | (.crashed message, direct) => (.crashed message, direct)

/-- Takes up the input that an edit of the present one leaves. -/
def edit (direct : Direct W) (edited : Descriptor.Edited Unit) : Outcome Fault Unit × Direct W :=
  match edited.1, edited.2.validate with
  | .error fault, _ => (.failed fault, direct)
  | .ok (), .error fault => (.failed fault, direct)
  | .ok (), .ok () => direct.reshape edited.2

/-- The value of a property that is not the backend's. -/
def ownProperty? (direct : Direct W) (key : String) : Option String :=
  if key = "input" then some direct.input.dimensionsText
  else if key = "inputtype" then some direct.input.typesText
  else if key = "inputname" then some direct.input.namesText
  else if key = "output" then some direct.output.dimensionsText
  else if key = "outputtype" then some direct.output.typesText
  else if key = "outputname" then some direct.output.namesText
  else if key = "timeout" then some (Text.showNat direct.timeout)
  else if key = "framework" then some direct.framework.name
  else if key = "accelerator" then some direct.accelerator.name
  else none

def read (direct : Direct W) (key : String) : Outcome Fault String × Direct W :=
  match direct.ownProperty? key with
  | some value => (.done value, direct)
  | none => direct.ask fun backend => backend.readProperty key

def write (direct : Direct W) (key value : String) : Outcome Fault Unit × Direct W :=
  if key = "input" then direct.edit (direct.input.setDimensionsText value)
  else if key = "inputtype" then direct.edit (direct.input.setTypesText value)
  else if key = "inputname" then
    (.ofExcept (direct.input.setNamesText value).1,
      { direct with input := (direct.input.setNamesText value).2 })
  else if key = "outputname" then
    (.ofExcept (direct.output.setNamesText value).1,
      { direct with output := (direct.output.setNamesText value).2 })
  else if key = "timeout" then
    match readTimeout value with
    | .ok timeout => (.done (), { direct with timeout })
    | .error fault => (.failed fault, direct)
  else if key = "output" ∨ key = "outputtype" then
    (.failed (.notSupported "the output shape follows the input shape and cannot be set"), direct)
  else if key = "framework" ∨ key = "accelerator" then
    (.failed (.notSupported ("'" ++ key ++ "' is fixed when the model is opened")), direct)
  else direct.ask fun backend => backend.writeProperty key value

/-! ### Frames that come back -/

/-- Lets go of the backend once the engine is closed and no frame is on lease. -/
def settle (direct : Direct W) : Direct W :=
  if !direct.isOpen && direct.lent == 0 then
    { direct with world := direct.backend.dropped direct.world }
  else direct

/-- Gives regions back to the backend. -/
def release (direct : Direct W) (regions : List Bytes) : Direct W :=
  { direct with world := (direct.backend.release regions direct.world).2 }

/-- A frame is dropped.  Memory on lease goes back to the backend. -/
def drop (direct : Direct W) (frame : Frame) : Direct W :=
  if frame.lease.isNone then direct
  else { direct.release frame.present with lent := direct.lent - 1 }.settle

/-! ### Passes -/

/-- The output regions of a pass, which are empty if the backend is to allocate them. -/
def regions (direct : Direct W) (lending : Bool) : List Bytes :=
  if lending then List.replicate direct.output.count []
  else direct.output.sizes.map fun size => List.replicate size 0

/-- Looks at what a pass left behind. -/
def conclude (direct : Direct W) (lending : Bool) (pass : Pass) :
    Except Fault Frame × Direct W :=
  match pass.failure? direct.output with
  | some fault => (.error fault, if lending then direct.release pass.outputs else direct)
  | none =>
    if lending then
      (.ok (Frame.lent direct.output pass.outputs ⟨direct.id, direct.passes⟩),
        { direct with lent := direct.lent + 1 })
    else (Frame.ofRegions direct.output pass.outputs, direct)

/-- Runs a pass on the backend. -/
def run (direct : Direct W) (inputs : List Bytes) : Except W (Except Fault Frame × Direct W) :=
  let lending := direct.backend.allocates direct.world
  let outputs := direct.regions lending
  let world := direct.backend.enter inputs outputs lending direct.world
  match direct.backend.finish inputs outputs lending world with
  | none => .error world
  | some (pass, world) =>
    .ok ({ direct with world, passes := direct.passes + 1 }.conclude lending pass)

/-- A pass on an input that has to fit. -/
def infer (direct : Direct W) (input : Frame) : Except W (Except Fault Frame × Direct W) :=
  if input.sizes ≠ direct.input.sizes then
    .ok (.error (Part.sizeMismatch "input" "expects" input.sizes direct.input.sizes), direct)
  else match input.allBytes with
    | .error fault => .ok (.error fault, direct)
    | .ok inputs => direct.run inputs

/-- A pass whose output is copied into a frame that has to fit, and then dropped. -/
def inferInto (direct : Direct W) (input target : Frame) :
    Except W (Outcome Fault Reply × Frame × Direct W) :=
  if target.sizes ≠ direct.output.sizes then
    .ok (.failed (Part.sizeMismatch "output" "produces" target.sizes direct.output.sizes),
      target, direct)
  else (direct.infer input).map fun (result, direct) =>
    match result with
    | .error fault => (.failed fault, target, direct)
    | .ok output =>
      let (answer, target) := Call.copyFrom output 0 target output.count
      (answer, target, direct.drop output)

/-- A pass on an input of another shape, which is taken up first. -/
def inferShaped (direct : Direct W) (input : Frame) (info : Descriptor) :
    Except W (Outcome Fault Frame × Direct W) :=
  if direct.input.agrees info then (direct.infer input).map fun (result, direct) =>
    (.ofExcept result, direct)
  else match direct.reshape info with
    | (.done (), direct) => (direct.infer input).map fun (result, direct) =>
        (.ofExcept result, direct)
    | (.failed fault, direct) => .ok (.failed fault, direct)
    | (.crashed message, direct) => .ok (.crashed message, direct)

end Direct

/-! ### Operations -/

namespace Operation

/-- Why an operation is refused whatever it is asked of. -/
def unusable? : Operation → Option Fault
  | reshape info | inferShaped _ info =>
    match info.validate with
    | .error fault => some fault
    | .ok () => none
  | _ => none

/-- The frame that is given back in any case. -/
def target? : Operation → Option Frame
  | inferInto _ target => some target
  | _ => none

end Operation

/-- What an operation answers, with the frame it was to copy into. -/
abbrev Answer := Outcome Fault Reply × Option Frame

namespace Direct

/-- Carries out an operation on an open engine. -/
def carryOut (direct : Direct W) : Operation → Except W (Answer × Direct W)
  | .input => .ok ((.done (.descriptor direct.input), none), direct)
  | .output => .ok ((.done (.descriptor direct.output), none), direct)
  | .timeout => .ok ((.done (.number direct.timeout), none), direct)
  | .setTimeout milliseconds => .ok ((.done .none, none), { direct with timeout := milliseconds })
  | .read key => .ok (((direct.read key).1.map .text, none), (direct.read key).2)
  | .write key value =>
    .ok (((direct.write key value).1.map fun () => .none, none), (direct.write key value).2)
  | .reshape info =>
    .ok (((direct.reshape info).1.map fun () => .none, none), (direct.reshape info).2)
  | .infer input _ => (direct.infer input).map fun (result, direct) =>
    (((Outcome.ofExcept result).map .frame, none), direct)
  | .inferInto input target => (direct.inferInto input target).map fun (answer, target, direct) =>
    ((answer, some target), direct)
  | .inferShaped input info => (direct.inferShaped input info).map fun (result, direct) =>
    ((result.map fun output => .shaped output output.info, none), direct)
  | .close => .ok ((.done .none, none), { direct with isOpen := false }.settle)

/-- Performs an operation. -/
def perform (direct : Direct W) (operation : Operation) : Except W (Answer × Direct W) :=
  match operation.unusable? with
  | some fault => .ok ((.failed fault, none), direct)
  | none =>
    if direct.isOpen then direct.carryOut operation
    else .ok ((.failed .closedHandle, operation.target?), direct)

/-- The engine that was opened. -/
def ofHost (host : Host W) : Direct W where
  id := host.engine.id
  framework := host.engine.framework
  accelerator := host.engine.accelerator
  backend := host.engine.backend
  input := host.desk.input
  output := host.desk.output
  timeout := host.desk.timeout
  world := host.world

end Direct

/-! ### Its client -/

/-- One thing that a client does. -/
inductive Errand where
  | performs (operation : Operation)
  /-- Drops the output of an operation, the operations being counted from zero. -/
  | drops (index : Nat)

/-- The only client of an engine, with the answers to its operations. -/
structure Client (W : Type) where
  engine : Direct W
  answers : List Answer := []
  /-- The operations whose output has been dropped. -/
  dropped : List Nat := []

namespace Client

/-- The calls that have come to these answers. -/
def calls (client : Client W) : List Call :=
  client.answers.map fun answer => .ended answer.1 answer.2

/-- The output of an operation that was not dropped. -/
def held? (client : Client W) (index : Nat) : Option Frame :=
  if client.dropped.contains index then none else client.calls[index]?.bind Call.output?

/-- The client after one errand.  There is nothing to drop where no output is held. -/
def after (client : Client W) : Errand → Except W (Client W)
  | .performs operation => (client.engine.perform operation).map fun (answer, engine) =>
    { client with engine, answers := client.answers ++ [answer] }
  | .drops index => .ok (match client.held? index with
    | some output =>
      { client with engine := client.engine.drop output, dropped := index :: client.dropped }
    | none => client)

/-- The client after all its errands. -/
def afterAll (client : Client W) : List Errand → Except W (Client W)
  | [] => .ok client
  | errand :: rest => (client.after errand).bind fun client => client.afterAll rest

end Client

/-! ### What operations leave alone -/

namespace Direct

variable {direct middle after : Direct W}

theorem exists_of_map_eq_ok {β : Type} {given : Except W α} {f : α → β} {value : β}
    (h : given.map f = .ok value) : ∃ before, given = .ok before ∧ f before = value := by
  cases given with
  | error => cases h
  | ok before => exact ⟨before, rfl, Except.ok.inj h⟩

/-- What no operation changes but one that closes the engine or sets the timeout. -/
structure Kin (direct after : Direct W) : Prop where
  backend : after.backend = direct.backend
  isOpen : after.isOpen = direct.isOpen
  timeout : after.timeout = direct.timeout

namespace Kin

theorem refl (direct : Direct W) : Kin direct direct := ⟨rfl, rfl, rfl⟩

theorem trans (h : Kin direct middle) (h' : Kin middle after) : Kin direct after where
  backend := h'.backend.trans h.backend
  isOpen := h'.isOpen.trans h.isOpen
  timeout := h'.timeout.trans h.timeout

theorem ask (direct : Direct W) (use : Backend W → W → Outcome Fault α × W) :
    Kin direct (direct.ask use).2 :=
  ⟨rfl, rfl, rfl⟩

theorem reshape (direct : Direct W) (info : Descriptor) :
    Kin direct (direct.reshape info).2 := by
  have asks := ask direct fun backend => backend.adopt info
  unfold Direct.reshape
  split
  · exact ⟨rfl, rfl, rfl⟩
  split
  · rename_i asked
    rw [asked] at asks
    split
    · exact ⟨asks.backend, asks.isOpen, asks.timeout⟩
    · exact asks
  · rename_i asked
    rw [asked] at asks
    exact asks
  · rename_i asked
    rw [asked] at asks
    exact asks

theorem edit (direct : Direct W) (edited : Descriptor.Edited Unit) :
    Kin direct (direct.edit edited).2 := by
  unfold Direct.edit
  split
  · exact refl direct
  · exact refl direct
  · exact reshape direct edited.2

theorem read (direct : Direct W) (key : String) : Kin direct (direct.read key).2 := by
  unfold Direct.read
  split
  · exact refl direct
  · exact ask direct _

/-- Writing changes the timeout only if it is the timeout that is written. -/
theorem write (direct : Direct W) (key value : String) : Kin direct (direct.write key value).2
    ∨ ∃ timeout, key = "timeout" ∧ readTimeout value = .ok timeout
      ∧ (direct.write key value).2 = { direct with timeout } := by
  unfold Direct.write
  split
  · exact .inl (edit direct _)
  split
  · exact .inl (edit direct _)
  split
  · exact .inl ⟨rfl, rfl, rfl⟩
  split
  · exact .inl ⟨rfl, rfl, rfl⟩
  split
  · rename_i own
    cases given : readTimeout value with
    | ok timeout => exact .inr ⟨timeout, own, rfl, rfl⟩
    | error => exact .inl (refl direct)
  split
  · exact .inl (refl direct)
  split
  · exact .inl (refl direct)
  · exact .inl (ask direct _)

theorem settle (direct : Direct W) : Kin direct direct.settle := by
  unfold Direct.settle
  split <;> exact ⟨rfl, rfl, rfl⟩

theorem drop (frame : Frame) : Kin direct (direct.drop frame) := by
  unfold Direct.drop
  split
  · exact refl direct
  · have released : Kin direct { direct.release frame.present with lent := direct.lent - 1 } :=
      ⟨rfl, rfl, rfl⟩
    exact released.trans (settle _)

theorem conclude (lending : Bool) (pass : Pass) :
    Kin direct (direct.conclude lending pass).2 := by
  unfold Direct.conclude
  split
  · split <;> exact ⟨rfl, rfl, rfl⟩
  · split <;> exact ⟨rfl, rfl, rfl⟩

theorem infer {input : Frame} {produced : Except Fault Frame}
    (made : direct.infer input = .ok (produced, after)) : Kin direct after := by
  unfold Direct.infer at made
  split at made
  · cases made
    exact refl direct
  split at made
  · cases made
    exact refl direct
  · unfold Direct.run at made
    simp only at made
    split at made
    · cases made
    · rename_i pass world _
      have counted : Kin direct { direct with world, passes := direct.passes + 1 } :=
        ⟨rfl, rfl, rfl⟩
      have ended : after = _ := (congrArg Prod.snd (Except.ok.inj made)).symm
      rw [ended]
      exact counted.trans (conclude _ pass)

theorem inferInto {input target copied : Frame} {answer : Outcome Fault Reply}
    (made : direct.inferInto input target = .ok (answer, copied, after)) : Kin direct after := by
  unfold Direct.inferInto at made
  split at made
  · cases made
    exact refl direct
  obtain ⟨⟨produced, between⟩, made, same⟩ := exists_of_map_eq_ok made
  have infers := infer made
  cases produced with
  | error fault =>
      cases same
      exact infers
  | ok output =>
      cases same
      exact infers.trans (drop output)

end Kin

end Direct

end Inference
