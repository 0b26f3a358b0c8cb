/-
Counting from further on.

An engine that has been used gives out later tickets and numbers than a new one.  `ahead` moves a
state on in the counting, and `Trails` says that a host that is ahead of another one did the same.
Nothing is said of the number of frames on lease: as long as an engine holds its backend it never
looks at that number.  There is one lemma for each way in which work under the lock is put
together, and from them one for each part of a call, up to `Part.steady_run`.
-/
import Inference.Proofs.Engine.Due

namespace Inference

variable {W α β γ : Type}

/-- How far ahead an engine is. -/
structure Offset where
  /-- In giving out tickets. -/
  tickets : Nat
  /-- In giving out numbers for outputs on lease. -/
  numbers : Nat

/-! ### States further on -/

/-- A frame on lease from a later pass. -/
def Frame.ahead (frame : Frame) (o : Offset) : Frame :=
  { frame with lease := frame.lease.map fun lease => { lease with pass := lease.pass + o.tickets } }

def Request.ahead (request : Request) (o : Offset) : Request :=
  { request with ticket := request.ticket + o.tickets }

def Parcel.ahead (o : Offset) : Parcel → Parcel
  | tracked number => tracked (number + o.numbers)
  | owned frame => owned (frame.ahead o)

def Response.ahead (response : Response) (o : Offset) : Response where
  ticket := response.ticket + o.tickets
  result := response.result.map (Parcel.ahead o)

def Outstanding.ahead (outstanding : Outstanding) (o : Offset) : Outstanding where
  entries := outstanding.entries.map fun entry => (entry.1 + o.numbers, entry.2.ahead o)
  last := outstanding.last + o.numbers

def Desk.ahead (desk : Desk) (o : Offset) : Desk :=
  { desk with
    request := desk.request.map fun request => request.ahead o
    ticket := desk.ticket + o.tickets
    deserted := desk.deserted.map fun ticket => ticket + o.tickets
    response := desk.response.map fun response => response.ahead o
    outstanding := desk.outstanding.ahead o }

def Worker.ahead (o : Offset) : Worker → Worker
  | holding request => holding (request.ahead o)
  | inPass request outputs lending => inPass (request.ahead o) outputs lending
  | returning request produced =>
      returning (request.ahead o) (produced.map fun frame => frame.ahead o)
  | worker => worker

/-- The host further on in the counting, with so many frames on lease. -/
def Host.ahead (host : Host W) (o : Offset) (lent : Nat) : Host W :=
  { host with engine := { host.engine with
      desk := host.desk.ahead o, worker := host.engine.worker.ahead o, lent } }

def Reply.ahead (o : Offset) : Reply → Reply
  | frame output => frame (output.ahead o)
  | shaped output info => shaped (output.ahead o) info
  | reply => reply

def Call.ahead (o : Offset) : Call → Call
  | awaiting task timeout ticket => awaiting task timeout (ticket + o.tickets)
  | dropping output answer target => dropping (output.ahead o) (answer.map (Reply.ahead o)) target
  | ended answer target => ended (answer.map (Reply.ahead o)) target
  | call => call

section Ahead

variable (o : Offset)

@[simp] theorem Frame.isNone_lease_ahead (frame : Frame) :
    (frame.ahead o).lease.isNone = frame.lease.isNone := by
  simp [Frame.ahead]

@[simp] theorem Frame.present_ahead (frame : Frame) : (frame.ahead o).present = frame.present := rfl

@[simp] theorem Worker.busy_ahead (worker : Worker) : (worker.ahead o).busy = worker.busy := by
  cases worker <;> rfl

@[simp] theorem Worker.gone_ahead (worker : Worker) : (worker.ahead o).gone = worker.gone := by
  cases worker <;> rfl

theorem Call.output?_ahead (call : Call) :
    (call.ahead o).output? = call.output?.map fun output => output.ahead o := by
  cases call with
  | ended answer target =>
      cases answer with
      | done reply => cases reply <;> rfl
      | _ => rfl
  | _ => rfl

theorem Outstanding.find?_ahead (outstanding : Outstanding) (number : Nat) :
    (outstanding.ahead o).find? (number + o.numbers)
      = (outstanding.find? number).map fun frame => frame.ahead o := by
  have same (entry : Nat × Frame) :
      (entry.1 + o.numbers == number + o.numbers) = (entry.1 == number) := by
    rw [Bool.eq_iff_iff]
    simp
  simp [Outstanding.find?, Outstanding.ahead, List.find?_map, Function.comp_def, same]

theorem Outstanding.erase_ahead (outstanding : Outstanding) (number : Nat) :
    (outstanding.ahead o).erase (number + o.numbers) = (outstanding.erase number).ahead o := by
  have same (entry : Nat × Frame) :
      (entry.1 + o.numbers != number + o.numbers) = (entry.1 != number) := by
    rw [Bool.eq_iff_iff]
    simp
  simp [Outstanding.erase, Outstanding.ahead, List.filter_map, Function.comp_def, same]

namespace Desk

theorem hasResponse_ahead (desk : Desk) (ticket : Nat) :
    (desk.ahead o).hasResponse (ticket + o.tickets) = desk.hasResponse ticket := by
  cases response : desk.response with
  | none => simp [hasResponse, ahead, response]
  | some recorded =>
      rw [Bool.eq_iff_iff]
      simp [hasResponse, ahead, response, Response.ahead]

theorem awaited?_ahead (desk : Desk) :
    (desk.ahead o).awaited? = desk.awaited?.map fun number => number + o.numbers := by
  cases response : desk.response with
  | none => simp [awaited?, ahead, response]
  | some recorded =>
      obtain ⟨ticket, result⟩ := recorded
      rcases result with fault | parcel
      · simp [awaited?, ahead, response, Response.ahead, Response.awaited?, Except.map]
      · cases parcel <;>
          simp [awaited?, ahead, response, Response.ahead, Response.awaited?, Except.map,
            Parcel.ahead]

theorem forget_ahead (desk : Desk) : (desk.ahead o).forget
    = (desk.forget.1.map fun frame => frame.ahead o, desk.forget.2.ahead o) := by
  unfold forget
  rw [awaited?_ahead]
  cases desk.awaited? with
  | none => rfl
  | some number =>
      have removed := Outstanding.find?_ahead o desk.outstanding number
      have erased := Outstanding.erase_ahead o desk.outstanding number
      change (desk.ahead o).outstanding.find? _ = _ at removed
      change (desk.ahead o).outstanding.erase _ = _ at erased
      simp only [Option.map_some, Outstanding.remove, removed, erased]
      rfl

theorem attached_forget (desk : Desk) : desk.forget.2.attached = desk.attached := by
  unfold forget
  split <;> rfl

/-- An output that is outstanding is handed over under its own number. -/
theorem collect_ahead {desk : Desk} (tidy : desk.Tidy) : (desk.ahead o).collect
    = (desk.collect.1.map fun result => result.map fun frame => frame.ahead o,
        desk.collect.2.ahead o) := by
  obtain ⟨mode, request, ticket, deserted, response, ⟨entries, last⟩⟩ := desk
  cases tidy with
  | tracked =>
      simp [collect, ahead, Response.ahead, Outstanding.ahead, Parcel.ahead, Except.map,
        Outstanding.take, Outstanding.find?, Outstanding.erase]
  | _ => rfl

theorem attached_collect (desk : Desk) : desk.collect.2.attached = desk.attached := by
  unfold collect
  split
  · rfl
  · dsimp only
    split <;> rfl

end Desk

end Ahead

/-! ### Frames that come back -/

namespace Host

variable (host : Host W) (o : Offset) (lent : Nat)

theorem settle_of_attached {host : Host W} (attached : host.desk.attached = true) :
    host.settle = host := by
  simp [settle, attached]

theorem release_ahead (regions : List Bytes) : (host.ahead o lent).release regions
    = ((host.release regions).1, (host.release regions).2.ahead o lent) := by
  have released : (host.ahead o lent).engine.backend.release regions (host.ahead o lent).world
      = host.engine.backend.release regions host.world := rfl
  unfold release
  rw [released]
  obtain ⟨crash, world⟩ := host.engine.backend.release regions host.world
  cases crash <;> rfl

theorem takeBack_ahead (attached : host.desk.attached = true) (frame : Frame) :
    ∃ lent', (host.ahead o lent).takeBack (frame.ahead o)
      = ((host.takeBack frame).1, (host.takeBack frame).2.ahead o lent') := by
  unfold takeBack
  rw [Frame.present_ahead, release_ahead]
  cases back : host.release frame.present with
  | mk crash after =>
      have kept : after.desk.attached = true := by
        rw [(beside_of_release back).desk]
        exact attached
      refine ⟨lent - 1, ?_⟩
      simp only
      rw [settle_of_attached, settle_of_attached]
      · rfl
      · exact kept
      · exact kept

theorem attached_takeBack (frame : Frame) :
    (host.takeBack frame).2.desk.attached = host.desk.attached :=
  congrArg Desk.attached (takeBack_beside host frame).desk

end Host

/-! ### Work under the lock -/

/-- A host that is ahead did the same, and the engine still holds its backend. -/
structure Trails (o : Offset) (f : α → β) (plain : Option (α × Host W))
    (later : Option (β × Host W)) : Prop where
  same : ∃ lent, later = plain.map fun result => (f result.1, result.2.ahead o lent)
  attached : ∀ result, plain = some result → result.2.desk.attached = true

namespace Trails

variable {o : Offset} {f : α → β} {plain : Option (α × Host W)} {later : Option (β × Host W)}

theorem never : Trails o f (none : Option (α × Host W)) none where
  same := ⟨0, rfl⟩
  attached := by
    intro result same
    cases same

theorem done {value : α} {after : Host W} {lent : Nat} (attached : after.desk.attached = true) :
    Trails o f (some (value, after)) (some (f value, after.ahead o lent)) where
  same := ⟨lent, rfl⟩
  attached := by
    rintro result ⟨⟩
    exact attached

theorem ite {c : Prop} [Decidable c] {yes no : Option (α × Host W)}
    {laterYes laterNo : Option (β × Host W)} (hyes : Trails o f yes laterYes)
    (hno : Trails o f no laterNo) :
    Trails o f (if c then yes else no) (if c then laterYes else laterNo) := by
  by_cases h : c
  · rw [if_pos h, if_pos h]
    exact hyes
  · rw [if_neg h, if_neg h]
    exact hno

/-- Two hosts that did the same go on with what they have. -/
theorem map {α' β' : Type} {g : α' → β'} (trails : Trails o f plain later)
    {next : α × Host W → α' × Host W} {laterNext : β × Host W → β' × Host W}
    (same : ∀ value (after : Host W) lent, after.desk.attached = true →
      laterNext (f value, after.ahead o lent)
        = (g (next (value, after)).1, (next (value, after)).2.ahead o lent)
      ∧ (next (value, after)).2.desk.attached = true) :
    Trails o g (plain.map next) (later.map laterNext) := by
  obtain ⟨⟨lent, rfl⟩, attached⟩ := trails
  cases plain with
  | none => exact .never
  | some result =>
      obtain ⟨shown, kept⟩ := same result.1 result.2 lent (attached result rfl)
      refine ⟨⟨lent, congrArg some shown⟩, ?_⟩
      rintro _ ⟨⟩
      exact kept

end Trails

/-- Work that does not notice how far on the counting is, as long as the engine holds its
backend. -/
def Act.Steady (o : Offset) (f : α → β) (act : Act W α) (later : Act W β) : Prop :=
  ∀ host lent, host.desk.attached = true →
    Trails o (Outcome.map f) (act host) (later (host.ahead o lent))

namespace Act

variable {o : Offset} {f : α → β}

theorem steady_pure (value : α) : Steady o f (pure value : Act W α) (pure (f value)) :=
  fun _ _ attached => .done attached

theorem steady_fail (fault : Fault) : Steady o f (fail fault : Act W α) (fail fault) :=
  fun _ _ attached => .done attached

theorem steady_ofExcept (result : Except Fault α) :
    Steady o id (ofExcept result : Act W α) (ofExcept result) := by
  intro host lent attached
  cases result <;> exact .done attached

theorem steady_setDesk {desk : Desk} (attached : desk.attached = true) :
    Steady o id (setDesk desk : Act W Unit) (setDesk (desk.ahead o)) :=
  fun _ _ _ => .done attached

theorem steady_bind {act : Act W α} {later : Act W β} {α' β' : Type} {g : α' → β'}
    {next : α → Act W α'} {laterNext : β → Act W β'} (first : Steady o f act later)
    (rest : ∀ value, Steady o g (next value) (laterNext (f value))) :
    Steady o g (act >>= next) (later >>= laterNext) := by
  intro host lent attached
  obtain ⟨⟨lent', same⟩, kept⟩ := first host lent attached
  show Trails o _ (Act.bind act next host) (Act.bind later laterNext (host.ahead o lent))
  unfold Act.bind
  rw [same]
  cases ran : act host with
  | none => exact .never
  | some result =>
      obtain ⟨outcome, after⟩ := result
      have kept : after.desk.attached = true := kept _ ran
      cases outcome with
      | done value => exact rest value after lent' kept
      | failed fault => exact .done kept
      | crashed message => exact .done kept

theorem steady_desk_bind {next : Desk → Act W α} {laterNext : Desk → Act W β}
    (rest : ∀ desk : Desk, desk.attached = true →
      Steady o f (next desk) (laterNext (desk.ahead o))) :
    Steady o f (Act.desk >>= next) (Act.desk >>= laterNext) :=
  fun host lent attached => rest host.desk attached host lent attached

theorem steady_ite {c : Prop} [Decidable c] {yes no : Act W α} {laterYes laterNo : Act W β}
    (hyes : Steady o f yes laterYes) (hno : Steady o f no laterNo) :
    Steady o f (if c then yes else no) (if c then laterYes else laterNo) := by
  by_cases h : c
  · rw [if_pos h, if_pos h]
    exact hyes
  · rw [if_neg h, if_neg h]
    exact hno

theorem steady_useBackend (use : Backend W → W → Outcome Fault α × W) :
    Steady o id (useBackend use) (useBackend use) := by
  intro host lent attached
  have busy : (host.ahead o lent).engine.worker.busy = host.engine.worker.busy :=
    Worker.busy_ahead o host.engine.worker
  unfold useBackend
  rw [busy]
  refine .ite (.done attached) (.ite .never (.ite (.done attached) ?_))
  unfold Host.ahead
  simp only
  obtain ⟨outcome, world⟩ := use host.engine.backend host.world
  cases outcome <;> exact .done attached

theorem steady_drop (frame : Frame) :
    Steady o id (drop frame : Act W Unit) (drop (frame.ahead o)) := by
  intro host lent attached
  have busy : (host.ahead o lent).engine.worker.busy = host.engine.worker.busy :=
    Worker.busy_ahead o host.engine.worker
  unfold drop
  rw [busy, Frame.isNone_lease_ahead]
  refine .ite (.done attached) (.ite .never ?_)
  obtain ⟨lent', same⟩ := host.takeBack_ahead o lent attached frame
  have kept := (host.attached_takeBack frame).trans attached
  rw [same]
  cases back : host.takeBack frame with
  | mk crash after =>
      rw [back] at kept
      cases crash <;> exact .done kept

theorem steady_dropAll (frames : List Frame) :
    Steady o id (dropAll frames : Act W Unit)
      (dropAll (frames.map fun frame => frame.ahead o)) := by
  induction frames with
  | nil => exact steady_pure ()
  | cons frame rest ih => exact steady_bind (steady_drop frame) fun _ => ih

theorem steady_locked {act : Act W α} {later : Act W β} (steady : Steady o f act later) :
    Steady o f (locked act) (locked later) := by
  intro host lent attached
  unfold locked
  refine .ite (.done attached) ?_
  obtain ⟨⟨lent', same⟩, kept⟩ := steady host lent attached
  rw [same]
  cases ran : act host with
  | none => exact .never
  | some result =>
      obtain ⟨outcome, after⟩ := result
      have kept : after.desk.attached = true := kept _ ran
      cases outcome <;> exact .done kept

end Act

variable {o : Offset}

theorem steady_renegotiate (info : Descriptor) :
    Act.Steady o id (renegotiate info : Act W Unit) (renegotiate info) := by
  refine Act.steady_desk_bind fun desk attached => ?_
  refine Act.steady_ite (Act.steady_fail _) (Act.steady_ite (Act.steady_setDesk attached) ?_)
  refine Act.steady_bind (Act.steady_useBackend _) fun output => ?_
  exact Act.steady_bind (Act.steady_ofExcept _) fun _ => Act.steady_setDesk attached

theorem steady_editInput (edited : Descriptor.Edited Unit) :
    Act.Steady o id (editInput edited : Act W Unit) (editInput edited) := by
  refine Act.steady_bind (Act.steady_ofExcept _) fun _ => ?_
  exact Act.steady_bind (Act.steady_ofExcept _) fun _ => steady_renegotiate _

theorem steady_readProperty (key : String) :
    Act.Steady o id (Act.readProperty key : Act W String) (Act.readProperty key) := by
  intro host lent attached
  simp only [Act.readProperty, Act.engine_bind]
  have own : (host.ahead o lent).engine.ownProperty? key = host.engine.ownProperty? key := rfl
  rw [own]
  cases host.engine.ownProperty? key with
  | some value => exact .done attached
  | none =>
      refine Act.steady_ite (Act.steady_fail _) ?_ host lent attached
      exact Act.steady_useBackend _

theorem steady_writeProperty (key value : String) :
    Act.Steady o id (Act.writeProperty key value : Act W Unit) (Act.writeProperty key value) := by
  refine Act.steady_desk_bind fun desk attached => ?_
  refine Act.steady_ite (Act.steady_fail _) ?_
  refine Act.steady_ite (steady_editInput _) (Act.steady_ite (steady_editInput _) ?_)
  refine Act.steady_ite ?_ (Act.steady_ite ?_ (Act.steady_ite ?_ ?_))
  · exact Act.steady_bind (Act.steady_setDesk attached) fun _ => Act.steady_ofExcept _
  · exact Act.steady_bind (Act.steady_setDesk attached) fun _ => Act.steady_ofExcept _
  · exact Act.steady_bind (Act.steady_ofExcept _) fun _ => Act.steady_setDesk attached
  · refine Act.steady_ite (Act.steady_fail _) (Act.steady_ite (Act.steady_fail _) ?_)
    exact Act.steady_useBackend _

namespace Part

theorem steady_submitFitting (task : Task) (timeout : Nat) :
    Act.Steady o (Call.ahead o) (submitFitting task timeout : Act W Call)
      (submitFitting task timeout) := by
  refine Act.steady_desk_bind fun desk attached => ?_
  refine Act.steady_ite (Act.steady_fail _) ?_
  refine Act.steady_bind (Act.steady_ofExcept _) fun _ => ?_
  refine Act.steady_bind (Act.steady_ofExcept _) fun mode => ?_
  have kept := (Desk.attached_forget { desk with mode }).trans attached
  have forgets := Desk.forget_ahead o { desk with mode }
  change Desk.forget { desk.ahead o with mode } = _ at forgets
  simp only [id, forgets]
  generalize Desk.forget { desk with mode } = forgotten at kept
  have drops : (forgotten.1.map fun frame => frame.ahead o).toList
      = forgotten.1.toList.map fun frame => frame.ahead o := by
    cases forgotten.1 <;> rfl
  simp only [drops]
  refine Act.steady_bind (Act.steady_setDesk kept) fun _ => ?_
  refine Act.steady_bind (Act.steady_dropAll _) fun _ => ?_
  refine Act.steady_desk_bind fun desk attached => ?_
  have next : (desk.ahead o).ticket + 1 = desk.ticket + 1 + o.tickets := Nat.add_right_comm ..
  rw [next]
  exact Act.steady_bind (f := id) (Act.steady_setDesk attached) fun _ =>
    Act.steady_pure (f := Call.ahead o) _

theorem steady_submitTask (task : Task) (timeout : Nat) :
    Act.Steady o (Call.ahead o) (submitTask task timeout : Act W Call)
      (submitTask task timeout) := by
  have fitting := @steady_submitFitting W o task timeout
  cases reshape : task.reshape with
  | none =>
      rw [submitTask_of_none reshape]
      exact fitting
  | some info =>
      intro host lent attached
      rw [submitTask_of_some reshape, submitTask_of_some reshape]
      refine .ite (fitting host lent attached) ?_
      exact Act.steady_bind (steady_renegotiate info) (fun _ => fitting) host lent attached

theorem steady_run (part : Part) :
    Act.Steady o (Call.ahead o) (part.run : Act W Call) part.run := by
  cases part with
  | readInput | readOutput | readTimeout | learnTimeout =>
      exact Act.steady_desk_bind fun _ _ => Act.steady_pure (f := Call.ahead o) _
  | writeTimeout milliseconds =>
      refine Act.steady_desk_bind fun _ attached => ?_
      exact Act.steady_bind (Act.steady_setDesk attached) fun _ =>
        Act.steady_pure (f := Call.ahead o) _
  | readProperty key =>
      exact Act.steady_bind (steady_readProperty key) fun _ => Act.steady_pure (f := Call.ahead o) _
  | writeProperty key value =>
      exact Act.steady_bind (steady_writeProperty key value) fun _ =>
        Act.steady_pure (f := Call.ahead o) _
  | reshape info =>
      exact Act.steady_bind (steady_renegotiate info) fun _ => Act.steady_pure (f := Call.ahead o) _
  | fit task target =>
      refine Act.steady_desk_bind fun _ _ => ?_
      exact Act.steady_ite (Act.steady_fail _) (Act.steady_pure (f := Call.ahead o) _)
  | submit task timeout => exact steady_submitTask task timeout

end Part

end Inference
