/-
Performing the steps of a session.

A step looks up what it names, in a fixed order, and the first thing that is missing or
meaningless is its answer.  What a step has done before it is refused stays done.
-/
import Inference.Session.State
import Inference.Tensor.Record

namespace Inference.Session

/-- The work of a step: it changes the state and may be cut short by an answer. -/
abbrev Work (α : Type) := ExceptT Answer (StateM State) α

namespace Work

/-- Answers with a fault of the library. -/
def ofExcept {α : Type} : Except Fault α → Work α
  | .ok value => pure value
  | .error fault => throw (.fault fault)

/-- Answers with a fault or with a crash. -/
def ofOutcome {α : Type} : Outcome Fault α → Work α
  | .done value => pure value
  | .failed fault => throw (.fault fault)
  | .crashed message => throw (.crashed message)

/-- A value that a name must have. -/
def named {α : Type} : Option α → Work α
  | some value => pure value
  | none => throw .unknownName

/-- A value that a register must hold. -/
def held {α : Type} (name : String) : Option α → Work α
  | some value => pure value
  | none => throw (.noSuch name)

end Work

open Work

/-! ### Finding things -/

/-- An element type by name. -/
def elementType (name : String) : Work ElementType := named (ElementType.ofName? name.toList)

/-- A framework by name. -/
def framework (name : String) : Work Framework := named (Framework.ofName? name.toList)

/-- An accelerator by name. -/
def accelerator (name : String) : Work Accelerator := named (Accelerator.ofName? name.toList)

/-- The descriptor of a register. -/
def descriptorOf (name : String) : Work Descriptor := do held name ((← get).descriptors.get? name)

/-- The frame of a register. -/
def frameOf (name : String) : Work Frame := do held name ((← get).frames.get? name)

/-- The engine of a register, by its identifier. -/
def engineOf (name : String) : Work Nat := do held name ((← get).handles.get? name)

/-- The descriptor an edit leaves, unless it was refused. -/
def edited {α : Type} (edit : Descriptor.Edited α) : Work Descriptor := do
  let _ ← ofExcept edit.1
  return edit.2

/-- Pushes the tensors of a recipe. -/
def pushAll (d : Descriptor) : List (String × List UInt32) → Work Descriptor
  | [] => pure d
  | (name, extents) :: rest => do
    let type ← elementType name
    pushAll (← edited (d.push type extents)) rest

/-- Sets a text of a descriptor if there is one to set. -/
def setText (set : Descriptor → String → Descriptor.Edited Unit) (d : Descriptor) :
    Option String → Work Descriptor
  | none => pure d
  | some text => edited (set d text)

/-- Follows a recipe. -/
def cook (recipe : Recipe) : Work Descriptor := do
  let d ← pushAll { rank := if recipe.extended then .extended else .standard } recipe.tensors
  let d ← setText Descriptor.setDimensionsText d recipe.dims
  let d ← setText Descriptor.setTypesText d recipe.types
  setText Descriptor.setNamesText d recipe.names

/-- The descriptor a source stands for. -/
def resolve : Source → Work Descriptor
  | .register name => descriptorOf name
  | .json value => match Descriptor.ofJson? value with
    | some info => pure info
    | none => throw .undecodable
  | .recipe recipe => cook recipe

/-- The descriptor a source stands for, if there is a source. -/
def resolveOption : Option Source → Work (Option Descriptor)
  | none => pure none
  | some source => some <$> resolve source

/-- The options a source stands for. -/
def resolveOptions (source : OptionsSource) : Work Options := do
  let options := match source.model with
    | some model => Options.ofModel model
    | none => {}
  let framework ← match source.framework with
    | some name => framework name
    | none => pure options.framework
  let accelerator ← match source.accelerator with
    | some name => accelerator name
    | none => pure options.accelerator
  let options := source.custom.foldl (fun options (key, value) => options.setCustom key value)
    { options with framework, accelerator, timeout := source.timeout.getD options.timeout }
  let input ← resolveOption source.input
  let output ← resolveOption source.output
  return { options with input, output }

/-- The script a source stands for. -/
def resolveScript (source : ScriptSource) : Work Script := do
  let input ← resolve source.input
  let output ← resolve source.output
  return { source.rest with input, output }

/-! ### Doing things that may have to wait -/

/-- Does something as the step at hand; a crash ends the step. -/
def doing (activity : Activity) : Work Unit := do
  let ((answer, _), s) := (← get).carryOut { activity }
  set s
  if let .crashed message := answer then throw (.crashed message)

/-- Drops a frame that a crash has left without a register; another crash makes no difference. -/
def dropQuietly (frame : Frame) : Work Unit := do
  modify fun s => (s.carryOut { activity := .releasing frame (.ok .none) }).2

/-- Puts a frame into a register; the old one there is dropped. -/
def storeFrame (name : String) (frame : Frame) : Work Unit := do
  let s ← get
  let old := s.frames.get? name
  set { s with frames := s.frames.put name frame }
  if let some old := old then doing (.releasing old (.ok .none))

/-- Stores the output of a chore that keeps it. -/
def storeOutput (keep : Option String) (output : Option Frame) : Work Unit := do
  if let (some name, some frame) := (keep, output) then storeFrame name frame

/-- Gives up an engine that has lost its register, as soon as no thread uses it any more. -/
def giveUp (id : Nat) : Work Unit := do
  if (← get).inUse id then modify fun s => { s with deserted := s.deserted ++ [id] }
  else doing (.calling id .giveUp none)

/-- Puts a newly opened engine into a register; the old one there is given up. -/
def storeEngine (name : String) (host : Host Stage) : Work Unit := do
  let s ← get
  let id := host.engine.id
  let old := s.handles.get? name
  set { s with
    engines := s.engines ++ [(id, host.engine)]
    handles := s.handles.put name id
    lastIds := s.lastIds.put name id
    stage := host.world
    live := host.live
    nextId := id + 1 }
  if let some old := old then giveUp old

/-- Answers with the end of an opening. -/
def finishOpening (name : String) (opening : Opening Stage) : Work Value := do
  match opening with
  | .opened host =>
    storeEngine name host
    let engine := host.engine
    return .opened engine.framework engine.accelerator engine.desk.input engine.desk.output
  | .refused fault stage =>
    modify fun s => { s with stage }
    throw (.fault fault)
  | .crashed message stage =>
    modify fun s => { s with stage }
    throw (.crashed message)

/-! ### Descriptors -/

/-- Puts back the descriptor an edit left, and answers with the result of the edit. -/
def keepEdit {α : Type} (register : String) (edit : Descriptor.Edited α) (value : α → Value) :
    Work Value := do
  modify fun s => { s with descriptors := s.descriptors.put register edit.2 }
  return value (← ofExcept edit.1)

/-- Performs an edit. -/
def runEdit (register : String) (edit : Edit) : Work Value := do
  let d ← descriptorOf register
  let done : Unit → Value := fun () => .none
  match edit with
  | .setCount count => keepEdit register (d.setCount count) done
  | .push type extents => do keepEdit register (d.push (← elementType type) extents) .number
  | .setName index name => keepEdit register (d.setName index name) done
  | .setType index type => do keepEdit register (d.setType index (← elementType type)) done
  | .setExtents index extents => keepEdit register (d.setExtents index extents) done
  | .setDimensionsText text => keepEdit register (d.setDimensionsText text) done
  | .setTypesText text => keepEdit register (d.setTypesText text) done
  | .setNamesText text => keepEdit register (d.setNamesText text) done

/-- Answers a question. -/
def runQuestion (d : Descriptor) : Question → Except Fault Value
  | .count => .ok (.number d.count)
  | .name index => (d.nameAt index).map .optionalText
  | .type index => (d.typeAt index).map fun type => .text type.name
  | .extents index => (d.extentsAt index).map fun axes => .numbers (axes.map UInt32.toNat)
  | .size (some index) => (d.sizeAt index).map .number
  | .size none => d.sizeOfAll.map .number
  | .sizes => .ok (.numbers d.sizes)
  | .validate => d.validate.map fun () => .none
  | .isValid => .ok (.bool d.isValid)
  | .rank => .ok (.rank (d.rank == .extended) d.rank.limit)
  | .texts => .ok (.texts [d.dimensionsText, d.typesText, d.namesText])
  | .json => .ok (.record d)

/-! ### Frames -/

/-- Makes a frame. -/
def make (info : Descriptor) (regions : List Bytes) : Making → Work Frame
  | .zeroed => ofOutcome (Frame.zeroed info)
  | .unallocated => ofExcept (Frame.unallocated info)
  | .regions => ofExcept (Frame.ofRegions info regions)

/-- A frame as it is shown in diagnostics. -/
def debugFrame (frame : Frame) : String :=
  "TensorsData \x7b count: " ++ Text.showNat frame.count ++ ", sizes: " ++ showSizes frame.sizes
    ++ ", ownership: " ++ (match frame.owner with
      | .caller => "Caller"
      | .engine => "Engine"
      | .backend => "Backend")
    ++ ", release: " ++ (if frame.lease.isSome then "true" else "false") ++ " \x7d"

/-! ### Engines -/

/-- A framework as it is shown in diagnostics. -/
def debugFramework : Framework → String
  | .any => "Any"
  | .custom => "CustomFilter"
  | .tensorflowLite => "TensorflowLite"
  | .tensorflow => "Tensorflow"
  | .nnfw => "Nnfw"
  | .mvnc => "Mvnc"
  | .openvino => "OpenVino"
  | .vivante => "Vivante"
  | .edgetpu => "EdgeTpu"
  | .armnn => "ArmNn"
  | .snpe => "Snpe"
  | .pytorch => "Pytorch"
  | .nntrainer => "NntrInf"
  | .vdAifw => "VdAifw"
  | .trixEngine => "TrixEngine"
  | .mxnet => "Mxnet"
  | .tvm => "Tvm"
  | .snap => "Snap"

/-- An engine as it is shown in diagnostics, without its number. -/
def debugEngine (engine : Engine Stage) : String :=
  "SingleShot \x7b id: HandleId(<id>), framework: " ++ debugFramework engine.framework
    ++ ", valid: "
    ++ (if engine.isOpen then "true" else "false") ++ " \x7d"

/-- Performs an operation as the step at hand. -/
def operate (id : Nat) (operation : Operation) : Work (Answer × Option Frame) := do
  let s ← get
  let (result, s) := s.carryOut { activity := inCall false id operation.call s.clock }
  set s
  return result

/-- The value of a good answer; any other answer ends the step. -/
def valueOrEnd : Answer → Work Value
  | .ok value => pure value
  | answer => throw answer

/-- Performs an operation that needs no frame. -/
def valueFrom (id : Nat) (operation : Operation) : Work Value := do
  valueOrEnd (← operate id operation).1

/-- The properties of an engine that are listed together. -/
def ownKeys : List String :=
  ["input", "inputtype", "inputname", "output", "outputtype", "outputname", "timeout", "framework",
   "accelerator"]

/-- Reads properties one after another. -/
def readAll (id : Nat) : List String → Work (List String)
  | [] => pure []
  | key :: rest => do
    match ← valueFrom id (.read key) with
    | .text value => return value :: (← readAll id rest)
    | _ => readAll id rest

/-! ### Errands -/

/-- Looks up what an errand needs, and answers with what there is to do. -/
def prepare : Errand → Work Chore
  | .infer engine frame timeout keep => do
    let id ← engineOf engine
    let input ← frameOf frame
    return { activity := inCall keep.isSome id (Operation.infer input.clone timeout).call 0, keep }
  | .inferShaped engine frame info keep => do
    let info ← resolve info
    let id ← engineOf engine
    let input ← frameOf frame
    return { activity := inCall keep.isSome id (Operation.inferShaped input.clone info).call 0
             keep }
  | .close engine => do
    let id ← engineOf engine
    return { activity := .calling id Operation.close.call none }
  | .dropFrame frame => do
    let old ← frameOf frame
    modify fun s => { s with frames := s.frames.clear frame }
    return { activity := .releasing old (.ok .none) }

/-- Runs an errand as the step at hand. -/
def runErrand (errand : Errand) : Work Value := do
  let chore ← prepare errand
  let ((answer, output), s) := (← get).carryOut chore
  set s
  let value ← valueOrEnd answer
  storeOutput chore.keep output
  return value

/-- A thread answers with the output alone, also if the call had more to say. -/
def threadAnswer : Answer → Answer
  | .ok (.shaped output _) => .ok (.frame output)
  | answer => answer

/-- Waits for a thread. -/
def joinThread (thread : String) : Work Answer := do
  let s ← get
  let chore ← held thread (s.chore? (.thread thread))
  let ((answer, output), s) := State.await (.thread thread) (2 * s.patience) s
  set s
  storeOutput chore.keep output
  return .joined (threadAnswer answer)

/-! ### Steps -/

/-- Performs a step that answers with a value. -/
def perform : Step → Work Value
  | .describe register source => do
    let info ← resolve source
    modify fun s => { s with descriptors := s.descriptors.put register info }
    return .none
  | .edit register edit => runEdit register edit
  | .ask register question => do ofExcept (runQuestion (← descriptorOf register) question)
  | .compare a b => do
    let a ← resolve a
    let b ← resolve b
    return .bools [a.agrees b, b.agrees a]
  | .makeFrame name source making regions => do
    let info ← resolve source
    let frame ← make info regions making
    storeFrame name frame
    return .frame frame
  | .cloneFrame name into => do
    let copy := (← frameOf name).clone
    storeFrame into copy
    return .frame copy
  | .showFrame name => do return .frame (← frameOf name)
  | .frameSizes name => do
    let frame ← frameOf name
    return .counted frame.count frame.sizes
  | .debugFrame name => do return .text (debugFrame (← frameOf name))
  | .readTensor name index => do return .bytes (← ofExcept ((← frameOf name).tensor index))
  | .hasMemory name index => do return .bool ((← frameOf name).hasMemory index)
  | .writeTensor name index bytes => do
    let frame ← ofOutcome ((← frameOf name).write index bytes)
    modify fun s => { s with frames := s.frames.put name frame }
    return .frame frame
  | .pokeTensor name index position byte => do
    let frame ← ofOutcome ((← frameOf name).setByte index position byte)
    modify fun s => { s with frames := s.frames.put name frame }
    return .frame frame
  | .registerModel name input output play probe => do
    let input ← resolve input
    let output ← resolve output
    let model : CustomModel Stage := {
      input, output
      run := fun inputs outputs stage =>
        (play.perform inputs outputs (outputs.map List.length),
          stage.note probe ("custom in=" ++ showLengths inputs ++ " out=" ++ showLengths outputs)) }
    let catalog ← ofExcept ((← get).catalog.addModel name model)
    modify fun s => { s with catalog }
    return .none
  | .unregisterModel name => do
    let catalog ← ofExcept ((← get).catalog.removeModel name)
    modify fun s => { s with catalog }
    return .none
  | .available framework accelerator => do
    let framework ← Session.framework framework
    let accelerator ← Session.accelerator accelerator
    return .bool ((← get).catalog.isAvailable framework accelerator)
  | .registerLoader framework script fails accelerator => do
    let framework ← Session.framework framework
    let supported ← match accelerator with
      | some names => some <$> names.mapM Session.accelerator
      | none => pure none
    let script ← resolveScript script
    let loader : Loader Stage := {
      supports := fun accelerator => match supported with
        | some list => list.contains accelerator
        | none => accelerator.isOrdinary
      load := fun options stage =>
        let stage := stage.note script.probe (loadEvent options)
        if fails then (.error ["cannot load", "model file is corrupt"], stage)
        else
          let (backend, stage) := script.cast stage
          (.ok backend, stage) }
    let catalog ← ofExcept ((← get).catalog.addLoader framework loader)
    modify fun s => { s with catalog }
    return .none
  | .unregisterLoader framework => do
    let framework ← Session.framework framework
    let (found, catalog) := (← get).catalog.removeProvider framework
    modify fun s => { s with catalog }
    return .bool found
  | .openLoaded engine script options => do
    let script ← resolveScript script
    let options ← resolveOptions options
    let s ← get
    let (backend, stage) := script.cast s.stage
    finishOpening engine (backend.openLoaded s.nextId options stage s.live)
  | .openModel engine options => do
    let options ← resolveOptions options
    let s ← get
    finishOpening engine (s.catalog.openModel s.nextId options s.stage s.live)
  | .dropEngine engine => do
    let s ← get
    match s.handles.get? engine with
    | none => return .bool false
    | some id =>
      set { s with handles := s.handles.clear engine }
      giveUp id
      return .bool true
  | .status engine => do
    let s ← get
    let valid := (s.handles.get? engine).bind fun id =>
      (s.host? id).map fun host => host.engine.isOpen
    let id ← held engine (s.lastIds.get? engine)
    return .status valid (s.live.contains id)
  | .compareIds a b => do
    let ids := (← get).lastIds
    let a ← held "id" (ids.get? a)
    let b ← held "id" (ids.get? b)
    return .bools [a == b, a < b, a < b]
  | .debugEngine engine => do
    let id ← engineOf engine
    let host ← held engine ((← get).host? id)
    return .text (debugEngine host.engine)
  | .operate engine operation => do valueFrom (← engineOf engine) operation
  | .reshape engine info => do
    let info ← resolve info
    valueFrom (← engineOf engine) (.reshape info)
  | .properties engine => do return .texts (← readAll (← engineOf engine) ownKeys)
  | .inferInto engine frame target => do
    let id ← engineOf engine
    let into ← frameOf target
    modify fun s => { s with frames := s.frames.clear target }
    let put (frame : Frame) : Work Unit :=
      modify fun s => { s with frames := s.frames.put target frame }
    let input ← match (← get).frames.get? frame with
      | some input => pure input
      | none => do
        put into
        throw (.noSuch frame)
    let (answer, output) ← operate id (.inferInto input into)
    let into := output.getD into
    if let .crashed _ := answer then dropQuietly into else put into
    valueOrEnd answer
  | .errand errand => runErrand errand
  | .spawn thread errand => do
    let chore ← prepare errand
    modify fun s => (s.loseThread thread).addChore (.thread thread) chore
    return .text "spawned"
  | .join thread => do valueOrEnd (← joinThread thread)
  | .permit probe count => do
    modify fun s =>
      let old := s.stage.probe probe
      { s with stage := s.stage.setProbe probe { old with permits := old.permits + count } }
    return .none
  | .awaitPass probe _ => do return .number ((← get).stage.probe probe).passes
  | .settle engine => do
    let _ ← engineOf engine
    return .none
  | .events probe => do
    let s ← get
    let old := s.stage.probe probe
    set { s with stage := s.stage.setProbe probe { old with events := [] } }
    return .texts old.events

/-- The register whose descriptor is shown after a step. -/
def shownAfter : Step → Option String
  | .describe register _ => some register
  | .edit register _ => some register
  | _ => none

/-- Performs one step, and lets everything else come to rest. -/
def runStep (step : Step) (s : State) : Result × State :=
  let (result, s) := (perform step).run.run s
  let answer := match result with
    | .ok value => .ok value
    | .error answer => answer
  let s := State.quiesce s.patience s
  ({ answer, record := (shownAfter step).bind s.descriptors.get? }, s)

/-- Performs steps one after another. -/
def runSteps : List Step → State → List Result
  | [], _ => []
  | step :: rest, s =>
    let (result, s) := runStep step s
    result :: runSteps rest s

/-- The answers of a session. -/
def run (steps : List Step) : List Result := runSteps steps {}

end Inference.Session
