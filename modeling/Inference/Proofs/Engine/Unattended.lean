/-
One operation at a time.

When an engine has one client that never loses patience there is nothing to choose: at any time
either the call in progress can make a step, or the worker can, or neither.  `Brings` says where
that leads, and here it is shown to lead where the engine without a worker goes at once:
`Brings.passes` for a request on the desk, `Brings.fitting` and `Brings.submits_shaped` for one
that is still to be submitted.
-/
import Inference.Proofs.Engine.Calm
import Inference.Proofs.Engine.Direct
import Inference.Proofs.Tensor.Regular

namespace Inference

variable {W α β : Type}

namespace Direct

/-! ### The engine in the state of one without a worker -/

/-- An open engine, with what its desk and its worker have in hand. -/
def engaged (direct : Direct W) (last : Nat) (live : List Nat) (mode : Mode)
    (request : Option Request) (worker : Worker) (response : Option Response := none)
    (entries : List (Nat × Frame) := []) : Host W where
  engine := {
    id := direct.id
    framework := direct.framework
    accelerator := direct.accelerator
    backend := direct.backend
    desk := {
      mode, request, response
      ticket := direct.passes
      outstanding := { entries, last }
      input := direct.input
      output := direct.output
      timeout := direct.timeout }
    worker
    lent := direct.lent }
  world := direct.world
  live

/-- An open engine with nothing to do. -/
def idle (direct : Direct W) (last : Nat) (live : List Nat) : Host W :=
  direct.engaged last live .idle none .parked

/-- An engine that was closed. -/
def retired (direct : Direct W) (last : Nat) (live : List Nat) : Host W where
  engine := {
    id := direct.id
    framework := direct.framework
    accelerator := direct.accelerator
    backend := direct.backend
    isOpen := false
    desk := {
      mode := .leaving
      ticket := direct.passes
      outstanding := { last }
      input := direct.input
      output := direct.output
      timeout := direct.timeout
      attached := false }
    worker := .exited
    lent := direct.lent }
  world := direct.world
  live

/-- The engine between two operations. -/
def host (direct : Direct W) (last : Nat) (live : List Nat) : Host W :=
  if direct.isOpen then direct.idle last live else direct.retired last live

end Direct

/-! ### Work under the lock -/

/-- What work does to an idle engine, if it does to it what was done to the engine without a worker
and does not crash. -/
structure Act.Does (last : Nat) (live : List Nat) (act : Act W α) (direct : Direct W)
    (result : Outcome Fault α × Direct W) : Prop where
  same : act (direct.idle last live) = some (result.1, result.2.idle last live)
  calm : ∀ message, result.1 ≠ .crashed message

variable {last : Nat} {live : List Nat} {direct after : Direct W}

namespace Act.Does

variable {act : Act W α} {next : α → Act W β} {value : α} {result : Outcome Fault β × Direct W}

theorem pure (value : α) : Does last live (pure value : Act W α) direct (.done value, direct) :=
  ⟨rfl, nofun⟩

theorem fail (fault : Fault) :
    Does last live (fail fault : Act W α) direct (.failed fault, direct) :=
  ⟨rfl, nofun⟩

theorem ofExcept (given : Except Fault α) :
    Does last live (Act.ofExcept given) direct (.ofExcept given, direct) := by
  cases given <;> exact ⟨rfl, nofun⟩

theorem desk_bind {next : Desk → Act W β} (rest : Does last live (next (direct.idle last live).desk)
    direct result) : Does last live (Act.desk >>= next) direct result :=
  ⟨rest.same, rest.calm⟩

theorem setDesk {desk : Desk}
    (same : (direct.idle last live).withDesk desk = after.idle last live) :
    Does last live (setDesk desk) direct (.done (), after) where
  same := by
    rw [← same]
    rfl
  calm := nofun

theorem bind (first : Does last live act direct (.done value, after))
    (rest : Does last live (next value) after result) :
    Does last live (act >>= next) direct result where
  same := by
    show Act.bind act next _ = _
    rw [Act.bind, first.same]
    exact rest.same
  calm := rest.calm

theorem bind_failed {fault : Fault} (first : Does last live act direct (.failed fault, after)) :
    Does last live (act >>= next) direct (.failed fault, after) where
  same := by
    show Act.bind act next _ = _
    rw [Act.bind, first.same]
  calm := nofun

theorem map {answer : Outcome Fault α × Direct W} (first : Does last live act direct answer)
    (f : α → β) : Does last live (do return f (← act)) direct (answer.1.map f, answer.2) := by
  obtain ⟨outcome, after⟩ := answer
  cases outcome with
  | done value => exact first.bind (.pure (f value))
  | failed fault => exact first.bind_failed
  | crashed message => exact absurd rfl (first.calm message)

end Act.Does

open Act

theorem does_useBackend {use : Backend W → W → Outcome Fault α × W}
    (calm : ∀ message, (use direct.backend direct.world).1 ≠ .crashed message) :
    Does last live (useBackend use) direct (direct.ask use) where
  same := by
    have backend : (direct.idle last live).engine.backend = direct.backend := rfl
    have world : (direct.idle last live).world = direct.world := rfl
    unfold useBackend Direct.ask
    rw [backend, world]
    cases asked : use direct.backend direct.world with
    | mk outcome after =>
        rw [asked] at calm
        cases outcome with
        | crashed message => exact absurd rfl (calm message)
        | _ => rfl
  calm := calm

theorem does_renegotiate (calm : direct.backend.Calm) (info : Descriptor) :
    Does last live (renegotiate info) direct (direct.reshape info) := by
  have asks : Does last live (useBackend fun backend => backend.adopt info) direct
      (direct.ask fun backend => backend.adopt info) :=
    does_useBackend (calm.adopts info direct.world)
  have quiet := asks.calm
  unfold renegotiate Direct.reshape
  refine .desk_bind ?_
  have current : (direct.idle last live).desk.input = direct.input := rfl
  rw [if_neg (by nofun), current]
  by_cases agrees : info.agrees direct.input = true
  · rw [if_pos agrees, if_pos agrees]
    exact .setDesk rfl
  rw [if_neg agrees, if_neg agrees]
  unfold Direct.ask at asks quiet ⊢
  cases answer : (direct.backend.adopt info direct.world).1 with
  | done output =>
      rw [answer] at asks
      refine asks.bind ?_
      dsimp only
      cases output.validate with
      | ok => exact .bind (.ofExcept (.ok ())) (.setDesk rfl)
      | error fault =>
          exact .bind_failed (.ofExcept (.error (.passFailed
            ("the backend negotiated an unusable output: " ++ fault.message))))
  | failed fault =>
      rw [answer] at asks
      exact asks.bind_failed
  | crashed message => exact absurd answer (quiet message)

theorem does_editInput (calm : direct.backend.Calm) (edited : Descriptor.Edited Unit) :
    Does last live (editInput edited) direct (direct.edit edited) := by
  obtain ⟨result, info⟩ := edited
  unfold editInput Direct.edit
  cases result with
  | error fault => exact .bind_failed (.ofExcept (.error fault))
  | ok =>
      refine .bind (.ofExcept (.ok ())) ?_
      cases info.validate with
      | error fault => exact .bind_failed (.ofExcept (.error fault))
      | ok => exact .bind (.ofExcept (.ok ())) (does_renegotiate calm info)

theorem does_readProperty (calm : direct.backend.Calm) (key : String) :
    Does last live (Act.readProperty key) direct (direct.read key) := by
  have same : (direct.idle last live).engine.ownProperty? key = direct.ownProperty? key := rfl
  unfold Direct.read
  cases own : direct.ownProperty? key with
  | some value =>
      have reads : Act.readProperty key (direct.idle last live)
          = (pure value : Act W String) (direct.idle last live) := by
        simp only [Act.readProperty, engine_bind, same, own]
      have does : Does last live (pure value : Act W String) direct (.done value, direct) :=
        .pure value
      exact ⟨reads.trans does.same, does.calm⟩
  | none =>
      have asks : Act.readProperty key (direct.idle last live)
          = useBackend (fun backend => backend.readProperty key) (direct.idle last live) := by
        simp only [Act.readProperty, engine_bind, same, own]
        rfl
      have does : Does last live (useBackend fun backend => backend.readProperty key) direct
          (direct.ask fun backend => backend.readProperty key) :=
        does_useBackend (calm.reads key direct.world)
      exact ⟨asks.trans does.same, does.calm⟩

theorem does_writeProperty (calm : direct.backend.Calm) (key value : String) :
    Does last live (Act.writeProperty key value) direct (direct.write key value) := by
  unfold Act.writeProperty Direct.write
  refine .desk_bind ?_
  rw [if_neg (by rintro ⟨⟨⟩, -⟩)]
  have input : (direct.idle last live).desk.input = direct.input := rfl
  have output : (direct.idle last live).desk.output = direct.output := rfl
  rw [input, output]
  split
  · exact does_editInput calm _
  split
  · exact does_editInput calm _
  split
  · exact .bind (.setDesk rfl) (.ofExcept _)
  split
  · exact .bind (.setDesk rfl) (.ofExcept _)
  split
  · cases readTimeout value with
    | error fault => exact .bind_failed (.ofExcept (.error fault))
    | ok timeout => exact .bind (.ofExcept (.ok timeout)) (.setDesk rfl)
  split
  · exact .fail _
  split
  · exact .fail _
  exact does_useBackend (calm.writes key value direct.world)

/-! ### Frames that come back -/

namespace Direct

theorem host_of_open (isOpen : direct.isOpen = true) :
    direct.host last live = direct.idle last live := if_pos isOpen

theorem host_of_closed (isClosed : direct.isOpen = false) :
    direct.host last live = direct.retired last live :=
  if_neg fun isOpen => by cases isClosed.symm.trans isOpen

theorem backend_host : (direct.host last live).engine.backend = direct.backend := by
  unfold host
  split <;> rfl

theorem output_host : (direct.host last live).desk.output = direct.output := by
  unfold host
  split <;> rfl

theorem world_host : (direct.host last live).world = direct.world := by
  unfold host
  split <;> rfl

theorem stepWorker_host : (direct.host last live).stepWorker = none := by
  unfold host
  split <;> rfl

theorem settle_host : (direct.host last live).settle = direct.settle.host last live := by
  unfold settle
  cases isOpen : direct.isOpen with
  | true =>
      rw [if_neg (by simp), host_of_open isOpen]
      rfl
  | false =>
      rw [host_of_closed isOpen]
      by_cases free : direct.lent = 0
      · rw [if_pos (by simp [free]), host_of_closed rfl]
        exact if_pos (by simp [retired, Host.desk, free])
      · rw [if_neg (by simp [free]), host_of_closed isOpen]
        exact if_neg (by simp [retired, Host.desk, free])

theorem release_of_calm (host : Host W) (calm : host.engine.backend.Calm) (regions : List Bytes) :
    host.release regions
      = (none, { host with world := (host.engine.backend.release regions host.world).2 }) := by
  unfold Host.release
  simp [calm.releases regions host.world]

theorem release_host (calm : direct.backend.Calm) (regions : List Bytes) :
    (direct.host last live).release regions = (none, (direct.release regions).host last live) := by
  cases isOpen : direct.isOpen with
  | true =>
      rw [host_of_open isOpen, release_of_calm (direct.idle last live) calm]
      have isOpen : (direct.release regions).isOpen = true := isOpen
      exact congrArg (Prod.mk none) (host_of_open isOpen).symm
  | false =>
      rw [host_of_closed isOpen, release_of_calm (direct.retired last live) calm]
      have isOpen : (direct.release regions).isOpen = false := isOpen
      exact congrArg (Prod.mk none) (host_of_closed isOpen).symm

/-- An output goes back to the backend, whatever has become of the engine. -/
theorem drop_host (calm : direct.backend.Calm) (frame : Frame) :
    Act.drop frame (direct.host last live)
      = some (.done (), (direct.drop frame).host last live) := by
  have free : (direct.host last live).engine.worker.busy = false := by
    unfold host
    split <;> rfl
  have fewer (direct : Direct W) :
      ({ direct.host last live with engine :=
          { (direct.host last live).engine with lent := (direct.host last live).engine.lent - 1 } }
        : Host W) = Direct.host { direct with lent := direct.lent - 1 } last live := by
    unfold host
    split <;> rfl
  unfold Act.drop drop
  by_cases plain : frame.lease.isNone = true
  · rw [if_pos plain, if_pos plain]
  · rw [if_neg plain, if_neg plain, free, if_neg nofun]
    unfold Host.takeBack
    rw [release_host calm, ← settle_host]
    simp only [fewer]
    rfl

end Direct

/-! ### The worker -/

namespace Direct

/-- The engine with one more pass that was asked for. -/
def counted (direct : Direct W) : Direct W := { direct with passes := direct.passes + 1 }

/-- The engine with its backend in a pass. -/
def entered (direct : Direct W) (inputs : List Bytes) (lending : Bool) : Direct W :=
  { direct with world := direct.backend.enter inputs (direct.regions lending) lending direct.world }

variable {request : Request} {inputs : List Bytes}

theorem stepWorker_parked (direct : Direct W) (request : Request) :
    (direct.engaged last live .running (some request) .parked).stepWorker
      = some (direct.engaged last live .running none (.holding request)) := rfl

theorem stepWorker_holding (direct : Direct W) (fits : direct.output.Fits)
    (bytes : request.input.allBytes = .ok inputs) (output : request.output = direct.output)
    {lending : Bool} (allocates : direct.backend.allocates direct.world = lending) :
    (direct.engaged last live .running none (.holding request)).stepWorker
      = some ((direct.entered inputs lending).engaged last live .running none
        (.inPass request (direct.regions lending) lending)) := by
  have room : (if lending then Outcome.done (List.replicate request.output.count [])
      else Frame.allocate request.output.sizes) = .done (direct.regions lending) := by
    rw [output, Frame.allocate, Descriptor.checkRoom_of_fits fits, Direct.regions]
    cases lending <;> rfl
  have lends : (direct.engaged last live .running none (.holding request)).engine.backend.allocates
      (direct.engaged last live .running none (.holding request)).world = lending := allocates
  show some (Host.beginPass _ request) = _
  unfold Host.beginPass
  rw [if_neg (by rintro ⟨⟩), bytes]
  simp only [lends, room]
  rfl

theorem stepWorker_inPass (direct : Direct W) (outputs : List Bytes) (lending : Bool)
    (bytes : request.input.allBytes = .ok inputs) :
    (direct.engaged last live .running none (.inPass request outputs lending)).stepWorker
      = (direct.backend.finish inputs outputs lending direct.world).map fun (pass, world) =>
        (Direct.engaged { direct with world } last live .running none
          (.inPass request outputs lending)).endPass request lending pass := by
  simp only [Host.stepWorker, Direct.engaged, bytes]

end Direct

/-! ### Where an operation leads -/

/-- What becomes of a call once its pass has come to an outcome. -/
def Call.answered (task : Task) : Outcome Fault Frame → Call
  | .done output => hand task output
  | .failed fault => ended (.failed fault) task.target
  | .crashed message => ended (.crashed message) task.target

theorem Call.receive_eq_answered (task : Task) (produced : Except Fault Frame) :
    receive task produced = answered task (.ofExcept produced) := by
  cases produced <;> rfl

/-- Where a call leads if at any time either it or the worker can make a step, or neither can. -/
inductive Brings : Except W (Answer × Direct W) → Call → Host W → Prop where
  /-- The call is over. -/
  | ended (answer : Answer) {after : Direct W} {last : Nat} {live : List Nat} :
      Brings (.ok (answer, after)) (.ended answer.1 answer.2) (after.host last live)
  /-- The call waits without end. -/
  | hangs {world : W} {call : Call} {host : Host W} (active : call.isOver = false)
      (waits : call.step host = none) (patient : call.expire host = none)
      (rests : host.stepWorker = none) (left : host.world = world) :
      Brings (.error world) call host
  | steps {result : Except W (Answer × Direct W)} {call next : Call} {host after : Host W}
      (stepped : call.step host = some (next, after)) (patient : call.expire host = none)
      (rests : host.stepWorker = none) (onward : Brings result next after) :
      Brings result call host
  | works {result : Except W (Answer × Direct W)} {call : Call} {host after : Host W}
      (active : call.isOver = false) (waits : call.step host = none)
      (patient : call.expire host = none) (worked : host.stepWorker = some after)
      (onward : Brings result call after) : Brings result call host

namespace Brings

variable {result : Except W (Answer × Direct W)}

theorem settled (isOpen : direct.isOpen = true) (answer : Outcome Fault Reply)
    (target : Option Frame) :
    Brings (.ok ((answer, target), direct)) (.ended answer target) (direct.idle last live) := by
  have same : direct.host last live = direct.idle last live := if_pos isOpen
  rw [← same]
  exact ended (answer, target)

/-- A call that finds the handle open holds the desk. -/
theorem holds {part : Part} {outcome : Outcome Fault Call} {host : Host W}
    (ran : part.run (direct.idle last live) = some (outcome, host))
    (calm : ∀ message, outcome ≠ .crashed message)
    (onward : Brings result (Call.settle part.target? outcome) host) :
    Brings result (.checking part) (direct.idle last live) := by
  have step : (Call.entering part).step (direct.idle last live)
      = some (Call.settle part.target? outcome, host) := Call.step_of_run rfl ran calm
  exact .steps rfl rfl rfl (.steps step rfl rfl onward)

/-- The worker records an outcome, and the caller picks it up. -/
theorem returns (direct : Direct W) {task : Task} {request : Request}
    {produced : Except Fault Frame} (own : request.ticket = direct.passes)
    (onward : ∀ last, Brings result (Call.receive task produced) (direct.idle last live)) :
    Brings result (.awaiting task 0 direct.passes)
      (direct.engaged last live .running none (.returning request produced)) := by
  -- Whatever is recorded under the ticket, the caller finds it.
  have picks (last' : Nat) (response : Response) (entries : List (Nat × Frame))
      (ticket : response.ticket = direct.passes)
      (collects : (direct.engaged last' live .idle none .parked
        (some response) entries).desk.collect
        = (some produced, (direct.idle last' live).desk)) :
      Brings result (.awaiting task 0 direct.passes)
        (direct.engaged last' live .idle none .parked (some response) entries) := by
    refine .steps ?_ rfl rfl (onward last')
    have present : (direct.engaged last' live .idle none .parked (some response)
        entries).desk.hasResponse direct.passes = true := by
      simp [Direct.engaged, Host.desk, Desk.hasResponse, ticket]
    show Call.tryReceive task direct.passes _ = _
    unfold Call.tryReceive
    rw [if_neg (by rintro ⟨⟩), if_pos present, collects]
    rfl
  have records : (direct.engaged last live .running none (.returning request produced)).stepWorker
      = some ((direct.engaged last live .running none (.returning request produced)).deliver
          request.ticket produced).complete := by
    show some (Host.record _ request produced) = _
    unfold Host.record
    rw [if_neg (by rintro ⟨⟩)]
  refine .works rfl rfl rfl records ?_
  cases produced with
  | error fault => exact picks last ⟨request.ticket, .error fault⟩ [] own rfl
  | ok frame =>
      unfold Host.deliver
      by_cases lent : frame.owner = .backend
      · simp only [if_pos lent]
        refine picks (last + 1) ⟨request.ticket, .ok (.tracked (last + 1))⟩ [(last + 1, frame)]
          own ?_
        simp [Desk.collect, Direct.engaged, Direct.idle, Host.desk, Outstanding.take,
          Outstanding.find?, Outstanding.erase]
      · simp only [if_neg lent]
        exact picks last ⟨request.ticket, .ok (.owned frame)⟩ [] own rfl

theorem receive_produced (task : Task) (info : Descriptor) (regions : List Bytes) :
    Call.receive task (Frame.produced info regions)
      = Call.receive task (Frame.ofRegions info regions) := by
  unfold Frame.produced Frame.ofRegions
  cases info.validate with
  | error fault => rfl
  | ok => cases Frame.checkRegions info regions <;> rfl

/-- The worker looks at what a pass left behind, and its caller is told. -/
theorem concludes (direct : Direct W) (calm : direct.backend.Calm) {task : Task}
    {request : Request} {worker : Worker} {lending : Bool} {pass : Pass}
    (own : request.ticket = direct.passes) (output : request.output = direct.output)
    (onward : ∀ last, Brings result
      (Call.answered task (.ofExcept (direct.conclude lending pass).1))
      ((direct.conclude lending pass).2.idle last live)) :
    Brings result (.awaiting task 0 direct.passes)
      ((direct.engaged last live .running none worker).endPass request lending pass) := by
  unfold Host.endPass
  unfold Direct.conclude at onward
  rw [output]
  cases failure : pass.failure? direct.output with
  | some fault =>
      rw [failure] at onward
      cases lending with
      | false => exact returns direct own onward
      | true =>
          simp only [if_true]
          rw [Direct.release_of_calm (direct.engaged last live .running none worker) calm]
          exact returns (direct.release pass.outputs) own onward
  | none =>
      rw [failure] at onward
      cases lending with
      | true =>
          rw [own]
          exact returns { direct with lent := direct.lent + 1 } own onward
      | false =>
          refine returns direct own fun last => ?_
          have received := receive_produced task direct.output pass.outputs
          unfold Frame.produced at received
          rw [received, Call.receive_eq_answered]
          exact onward last

/-- A request that is on the desk is run, and its caller is told of the outcome. -/
theorem passes (calm : direct.backend.Calm) (fits : direct.output.Fits) {task : Task}
    {inputs : List Bytes} (bytes : task.input.allBytes = .ok inputs)
    (never : ∀ world, direct.run inputs = .error world → result = .error world)
    (onward : ∀ produced after, direct.run inputs = .ok (produced, after) →
      ∀ last, Brings result (Call.answered task (.ofExcept produced)) (after.idle last live)) :
    Brings result (.awaiting task 0 (direct.passes + 1))
      (direct.counted.engaged last live .running
        (some ((direct.idle last live).requestFor task)) .parked) := by
  have own : ((direct.idle last live).requestFor task).ticket = direct.passes + 1 := rfl
  have output : ((direct.idle last live).requestFor task).output = direct.output := rfl
  have whole : ((direct.idle last live).requestFor task).input.allBytes = .ok inputs := bytes
  generalize (direct.idle last live).requestFor task = request at own output whole
  unfold Direct.run at never onward
  simp only at never onward
  generalize allocates : direct.backend.allocates direct.world = lending at never onward
  -- The worker takes the request and enters the backend with it.
  refine .works rfl rfl rfl (direct.counted.stepWorker_parked request) ?_
  refine .works rfl rfl rfl
    (direct.counted.stepWorker_holding fits whole output allocates) ?_
  have leaves := @Direct.stepWorker_inPass W last live request inputs
    (direct.counted.entered inputs lending) (direct.regions lending) lending whole
  cases finish : direct.backend.finish inputs (direct.regions lending) lending
    (direct.backend.enter inputs (direct.regions lending) lending direct.world) with
  | none =>
      cases never _ (by rw [finish])
      exact .hangs rfl rfl rfl (leaves.trans (congrArg (Option.map _) finish)) rfl
  | some ended =>
      obtain ⟨pass, world⟩ := ended
      refine .works rfl rfl rfl (leaves.trans (congrArg (Option.map _) finish)) ?_
      refine concludes { direct.counted with world } calm own output fun last => ?_
      exact onward _ _ (by rw [finish]; rfl) last

end Brings

/-! ### Operations -/

namespace Direct

theorem owner_of_ofRegions {info : Descriptor} {regions : List Bytes} {frame : Frame}
    (formed : Frame.ofRegions info regions = .ok frame) : frame.owner = .caller := by
  obtain ⟨-, -, rfl⟩ := Frame.eq_of_ofRegions formed
  rfl

theorem owner_of_conclude {lending : Bool} {pass : Pass} {output : Frame}
    (made : (direct.conclude lending pass).1 = .ok output) : output.owner ≠ .engine := by
  unfold conclude at made
  split at made
  · cases made
  split at made
  · cases made
    nofun
  · rw [owner_of_ofRegions made]
    nofun

theorem owner_of_infer {input output : Frame}
    (made : direct.infer input = .ok (.ok output, after)) : output.owner ≠ .engine := by
  unfold infer at made
  split at made
  · cases made
  split at made
  · cases made
  · unfold run at made
    simp only at made
    split at made
    · cases made
    · exact owner_of_conclude (congrArg Prod.fst (Except.ok.inj made))

/-- The output that a calm backend answers with can be allocated. -/
theorem fits_reshape (calm : direct.backend.Calm) (fits : direct.output.Fits) (info : Descriptor) :
    (direct.reshape info).2.output.Fits := by
  have adopted := calm.adopted info direct.world
  unfold reshape ask
  split
  · exact fits
  dsimp only
  split
  · rename_i asked
    obtain ⟨answer, rfl⟩ := Prod.mk.injEq .. ▸ asked
    split
    · exact adopted _ answer
    · exact fits
  · rename_i asked
    obtain ⟨-, rfl⟩ := Prod.mk.injEq .. ▸ asked
    exact fits
  · rename_i asked
    obtain ⟨-, rfl⟩ := Prod.mk.injEq .. ▸ asked
    exact fits

theorem submitFitting_idle (task : Task) (timeout : Nat) :
    Part.submitFitting task timeout (direct.idle last live)
      = if task.input.sizes ≠ direct.input.sizes then
          some (.failed (Part.sizeMismatch "input" "expects" task.input.sizes direct.input.sizes),
            direct.idle last live)
        else match task.input.allBytes with
          | .error fault => some (.failed fault, direct.idle last live)
          | .ok _ => some (.done (.awaiting task timeout (direct.passes + 1)),
              direct.counted.engaged last live .running
                (some ((direct.idle last live).requestFor task)) .parked) := by
  have input : (direct.idle last live).desk.input = direct.input := rfl
  unfold Part.submitFitting
  rw [Act.desk_bind, input]
  by_cases differs : task.input.sizes ≠ direct.input.sizes
  · rw [if_pos differs, if_pos differs]
    rfl
  · rw [if_neg differs, if_neg differs]
    cases task.input.allBytes <;> rfl

end Direct

namespace Brings

variable {result : Except W (Answer × Direct W)}

/-- A task that needs no other input than that of the engine is submitted to an idle engine. -/
theorem fitting (last : Nat) (live : List Nat) (calm : direct.backend.Calm)
    (fits : direct.output.Fits) {task : Task}
    (never : ∀ world, direct.infer task.input = .error world → result = .error world)
    (onward : ∀ produced after, direct.infer task.input = .ok (produced, after) →
      ∀ last, Brings result (Call.answered task (.ofExcept produced)) (after.idle last live)) :
    ∃ outcome host, Part.submitFitting task 0 (direct.idle last live) = some (outcome, host)
      ∧ (∀ message, outcome ≠ .crashed message)
      ∧ Brings result (Call.settle task.target outcome) host := by
  rw [Direct.submitFitting_idle]
  unfold Direct.infer at never onward
  by_cases differs : task.input.sizes ≠ direct.input.sizes
  · rw [if_pos differs]
    rw [if_pos differs] at onward
    exact ⟨_, _, rfl, nofun, onward _ _ rfl last⟩
  · rw [if_neg differs]
    rw [if_neg differs] at never onward
    cases bytes : task.input.allBytes with
    | error fault =>
        rw [bytes] at onward
        exact ⟨_, _, rfl, nofun, onward _ _ rfl last⟩
    | ok inputs =>
        rw [bytes] at never onward
        exact ⟨_, _, rfl, nofun, passes calm fits bytes never onward⟩

theorem submits (calm : direct.backend.Calm) (fits : direct.output.Fits) {task : Task}
    (plain : task.reshape = none)
    (never : ∀ world, direct.infer task.input = .error world → result = .error world)
    (onward : ∀ produced after, direct.infer task.input = .ok (produced, after) →
      ∀ last, Brings result (Call.answered task (.ofExcept produced)) (after.idle last live)) :
    Brings result (.checking (.submit task 0)) (direct.idle last live) := by
  obtain ⟨outcome, host, ran, quiet, onward⟩ := fitting last live calm fits never onward
  refine holds ?_ quiet onward
  show Part.submitTask task 0 _ = _
  rw [Part.submitTask_of_none plain]
  exact ran

theorem learns {task : Task} (patient : direct.timeout = 0)
    (onward : Brings result (.checking (.submit task 0)) (direct.idle last live)) :
    Brings result (.checking (.learnTimeout task)) (direct.idle last live) := by
  have ran : Part.run (.learnTimeout task) (direct.idle last live)
      = some (.done (.checking (.submit task direct.timeout)), direct.idle last live) := rfl
  refine holds ran nofun ?_
  rw [patient]
  exact onward

/-- A task that brings an input shape along, which is taken up first if it is another one. -/
theorem submits_shaped (calm : direct.backend.Calm) (fits : direct.output.Fits) {task : Task}
    {info : Descriptor} (shape : task.reshape = some info)
    (never : ∀ world, direct.inferShaped task.input info = .error world → result = .error world)
    (onward : ∀ outcome after, direct.inferShaped task.input info = .ok (outcome, after) →
      ∀ last, Brings result (Call.answered task outcome) (after.idle last live)) :
    Brings result (.checking (.submit task 0)) (direct.idle last live) := by
  have submitting (host : Host W) : Part.run (.submit task 0) host
      = if host.desk.input.agrees info then Part.submitFitting task 0 host
        else Act.bind (renegotiate info) (fun _ => Part.submitFitting task 0) host :=
    Part.submitTask_of_some shape 0 host
  have current : (direct.idle last live).desk.input = direct.input := rfl
  unfold Direct.inferShaped at never onward
  by_cases agrees : direct.input.agrees info = true
  · rw [if_pos agrees] at never onward
    obtain ⟨outcome, host, ran, quiet, goes⟩ := fitting last live calm fits
      (fun world stuck => never world (by rw [stuck]; rfl))
      (fun produced after made => onward _ _ (by rw [made]; rfl))
    refine holds ?_ quiet goes
    rw [submitting, current, if_pos agrees]
    exact ran
  · rw [if_neg agrees] at never onward
    have does : Does last live (renegotiate info) direct (direct.reshape info) :=
      does_renegotiate calm info
    have reshapes : Part.run (.submit task 0) (direct.idle last live)
        = Act.bind (renegotiate info) (fun _ => Part.submitFitting task 0)
          (direct.idle last live) := by
      rw [submitting, current, if_neg agrees]
    have kin := Direct.Kin.reshape direct info
    have room := Direct.fits_reshape calm fits info
    cases shaped : direct.reshape info with
    | mk outcome middle =>
        rw [shaped] at does kin room never onward
        cases outcome with
        | crashed message => exact absurd rfl (does.calm message)
        | failed fault =>
            have ran : Part.run (.submit task 0) (direct.idle last live)
                = some (.failed fault, middle.idle last live) := by
              rw [reshapes, Act.bind, does.same]
            exact holds ran (by simp) (onward _ _ rfl last)
        | done value =>
            cases value
            dsimp only at kin room never onward
            obtain ⟨outcome, host, ran, quiet, goes⟩ := fitting last live (kin.backend ▸ calm)
              room (fun world stuck => never world (by rw [stuck]; rfl))
              (fun produced after made => onward _ _ (by rw [made]; rfl))
            refine holds ?_ quiet goes
            rw [reshapes, Act.bind, does.same]
            exact ran

end Brings

end Inference
