/-
A record changes nothing.

`Backend.audited` puts a record beside the world of a backend.  An engine on the audited backend
does move for move what the same engine does without it: `Host.withRecord` puts a record beside a
host, and `Mirrors` says that something was done to both alike, whatever it has left on the record.
There is one lemma for each way in which work under the lock is put together, and from them one for
each piece of such work, up to `Part.blind_run`.
-/
import Inference.Proofs.Engine.Audit

namespace Inference

variable {W α β : Type}

/-- The engine on the audited backend. -/
def Engine.audited (engine : Engine W) : Engine (W × Returns) where
  id := engine.id
  framework := engine.framework
  accelerator := engine.accelerator
  backend := engine.backend.audited
  isOpen := engine.isOpen
  desk := engine.desk
  deskPoisoned := engine.deskPoisoned
  backendPoisoned := engine.backendPoisoned
  worker := engine.worker
  lent := engine.lent

/-- The host on the audited backend, with a record beside its world. -/
def Host.withRecord (host : Host W) (record : Returns) : Host (W × Returns) where
  engine := host.engine.audited
  world := (host.world, record)
  live := host.live

/-- The same thing was done to a host and to one with a record. -/
def Mirrors (plain : Option (α × Host W)) (audited : Option (α × Host (W × Returns))) : Prop :=
  ∃ record, audited = plain.map fun (value, after) => (value, after.withRecord record)

/-- Work that does not notice a record. -/
def Act.Blind (act : Act W α) (audited : Act (W × Returns) α) : Prop :=
  ∀ host record, Mirrors (act host) (audited (host.withRecord record))

/-! ### Frames that come back -/

namespace Host

variable (host : Host W) (record : Returns)

theorem withRecord_release (regions : List Bytes) :
    (host.withRecord record).release regions
      = ((host.release regions).1, (host.release regions).2.withRecord (record ++ [regions])) := by
  have released : host.engine.audited.backend.release regions (host.world, record)
      = ((host.engine.backend.release regions host.world).1,
          (host.engine.backend.release regions host.world).2, record ++ [regions]) := rfl
  unfold release withRecord
  rw [released]
  obtain ⟨crash, world⟩ := host.engine.backend.release regions host.world
  cases crash <;> rfl

theorem withRecord_settle : (host.withRecord record).settle = host.settle.withRecord record := by
  by_cases last : (!host.desk.attached && host.engine.lent == 0) = true
  · unfold settle
    rw [if_pos last]
    exact if_pos last
  · unfold settle
    rw [if_neg last]
    exact if_neg last

theorem withRecord_detach : (host.withRecord record).detach = host.detach.withRecord record := by
  by_cases attached : host.desk.attached = true
  · unfold detach
    rw [if_pos attached]
    refine (if_pos attached).trans ?_
    exact withRecord_settle (host.withDesk { host.desk with attached := false }) record
  · unfold detach
    rw [if_neg attached]
    exact if_neg attached

theorem withRecord_takeBack (frame : Frame) :
    (host.withRecord record).takeBack frame
      = ((host.takeBack frame).1, (host.takeBack frame).2.withRecord
        (record ++ [frame.present])) := by
  unfold takeBack
  rw [withRecord_release]
  obtain ⟨crash, after⟩ := host.release frame.present
  have settled := withRecord_settle
    { after with engine := { after.engine with lent := after.engine.lent - 1 } }
    (record ++ [frame.present])
  exact congrArg (Prod.mk crash) settled

theorem withRecord_retire :
    (host.withRecord record).retire = host.retire.map fun after => after.withRecord record := by
  by_cases isOpen : host.engine.isOpen = true
  · unfold retire
    rw [if_pos isOpen]
    exact if_pos isOpen
  · unfold retire
    rw [if_neg isOpen]
    exact if_neg isOpen

end Host

/-! ### Work under the lock -/

namespace Mirrors

theorem same {value : α} {after : Host W} {record : Returns} :
    Mirrors (some (value, after)) (some (value, after.withRecord record)) := ⟨record, rfl⟩

theorem none : Mirrors (none : Option (α × Host W)) none := ⟨[], rfl⟩

theorem map {plain : Option (α × Host W)} {audited : Option (α × Host (W × Returns))}
    (mirrors : Mirrors plain audited) {next : α × Host W → β × Host W}
    {auditedNext : α × Host (W × Returns) → β × Host (W × Returns)}
    (same : ∀ value after record, auditedNext (value, after.withRecord record)
      = ((next (value, after)).1, (next (value, after)).2.withRecord record)) :
    Mirrors (plain.map next) (audited.map auditedNext) := by
  obtain ⟨record, rfl⟩ := mirrors
  refine ⟨record, ?_⟩
  cases plain with
  | none => rfl
  | some result => exact congrArg some (same result.1 result.2 record)

theorem ite {c : Prop} [Decidable c] {yes no : Option (α × Host W)}
    {auditedYes auditedNo : Option (α × Host (W × Returns))} (hyes : Mirrors yes auditedYes)
    (hno : Mirrors no auditedNo) :
    Mirrors (if c then yes else no) (if c then auditedYes else auditedNo) := by
  by_cases h : c
  · rw [if_pos h, if_pos h]
    exact hyes
  · rw [if_neg h, if_neg h]
    exact hno

end Mirrors

namespace Act

theorem blind_pure (value : α) : Blind (pure value : Act W α) (pure value) :=
  fun _ _ => .same

theorem blind_fail (fault : Fault) : Blind (fail fault : Act W α) (fail fault) :=
  fun _ _ => .same

theorem blind_ofExcept (result : Except Fault α) :
    Blind (ofExcept result : Act W α) (ofExcept result) :=
  fun _ _ => .same

theorem blind_desk : Blind (desk : Act W Desk) desk := fun _ _ => .same

theorem blind_setDesk (desk : Desk) : Blind (setDesk desk : Act W Unit) (setDesk desk) :=
  fun _ _ => .same

theorem blind_bind {act : Act W α} {audited : Act (W × Returns) α} {next : α → Act W β}
    {auditedNext : α → Act (W × Returns) β} (first : Blind act audited)
    (rest : ∀ value, Blind (next value) (auditedNext value)) :
    Blind (act >>= next) (audited >>= auditedNext) := by
  intro host record
  obtain ⟨middle, mirrors⟩ := first host record
  show Mirrors (Act.bind act next host) (Act.bind audited auditedNext (host.withRecord record))
  unfold Act.bind
  rw [mirrors]
  cases act host with
  | none => exact .none
  | some result =>
      obtain ⟨outcome, after⟩ := result
      cases outcome with
      | done value => exact rest value after middle
      | failed fault => exact .same
      | crashed message => exact .same

theorem blind_ite {c : Prop} [Decidable c] {yes no : Act W α}
    {auditedYes auditedNo : Act (W × Returns) α} (hyes : Blind yes auditedYes)
    (hno : Blind no auditedNo) :
    Blind (if c then yes else no) (if c then auditedYes else auditedNo) := by
  by_cases h : c
  · rw [if_pos h, if_pos h]
    exact hyes
  · rw [if_neg h, if_neg h]
    exact hno

/-- The backend answers the same, and its world changes the same. -/
theorem blind_useBackend {use : Backend W → W → Outcome Fault α × W}
    {audited : Backend (W × Returns) → W × Returns → Outcome Fault α × (W × Returns)}
    (same : ∀ backend world record, audited (Backend.audited backend) (world, record)
      = ((use backend world).1, (use backend world).2, record)) :
    Blind (useBackend use) (useBackend audited) := by
  intro host record
  have used : audited host.engine.audited.backend (host.world, record)
      = ((use host.engine.backend host.world).1, (use host.engine.backend host.world).2, record) :=
    same host.engine.backend host.world record
  refine .ite .same (.ite .none (.ite .same ?_))
  unfold Host.withRecord
  simp only [used]
  obtain ⟨outcome, world⟩ := use host.engine.backend host.world
  cases outcome <;> exact .same

theorem blind_drop (frame : Frame) : Blind (drop frame : Act W Unit) (drop frame) := by
  intro host record
  refine .ite .same (.ite .none ?_)
  rw [Host.withRecord_takeBack]
  obtain ⟨crash, after⟩ := host.takeBack frame
  cases crash <;> exact .same

theorem blind_dropAll (frames : List Frame) :
    Blind (dropAll frames : Act W Unit) (dropAll frames) := by
  induction frames with
  | nil => exact blind_pure ()
  | cons frame rest ih => exact blind_bind (blind_drop frame) fun _ => ih

theorem blind_locked {act : Act W α} {audited : Act (W × Returns) α} (blind : Blind act audited) :
    Blind (locked act) (locked audited) := by
  intro host record
  refine .ite .same ?_
  obtain ⟨middle, mirrors⟩ := blind host record
  rw [mirrors]
  cases act host with
  | none => exact .none
  | some result =>
      obtain ⟨outcome, after⟩ := result
      cases outcome <;> exact .same

end Act

theorem blind_renegotiate (info : Descriptor) :
    Act.Blind (renegotiate info : Act W Unit) (renegotiate info) := by
  refine Act.blind_bind Act.blind_desk fun desk => ?_
  refine Act.blind_ite (Act.blind_fail _) (Act.blind_ite (Act.blind_setDesk _) ?_)
  refine Act.blind_bind (Act.blind_useBackend fun _ _ _ => rfl) fun output => ?_
  exact Act.blind_bind (Act.blind_ofExcept _) fun _ => Act.blind_setDesk _

theorem blind_editInput (edited : Descriptor.Edited Unit) :
    Act.Blind (editInput edited : Act W Unit) (editInput edited) := by
  refine Act.blind_bind (Act.blind_ofExcept _) fun _ => ?_
  exact Act.blind_bind (Act.blind_ofExcept _) fun _ => blind_renegotiate _

theorem blind_readProperty (key : String) :
    Act.Blind (Act.readProperty key : Act W String) (Act.readProperty key) := by
  intro host record
  simp only [Act.readProperty, Act.engine_bind]
  have own : (host.withRecord record).engine.ownProperty? key = host.engine.ownProperty? key := rfl
  rw [own]
  cases host.engine.ownProperty? key with
  | some value => exact .same
  | none =>
      refine Act.blind_ite (Act.blind_fail _) ?_ host record
      exact Act.blind_useBackend fun _ _ _ => rfl

theorem blind_writeProperty (key value : String) :
    Act.Blind (Act.writeProperty key value : Act W Unit) (Act.writeProperty key value) := by
  refine Act.blind_bind Act.blind_desk fun desk => ?_
  refine Act.blind_ite (Act.blind_fail _) ?_
  refine Act.blind_ite (blind_editInput _) (Act.blind_ite (blind_editInput _) ?_)
  refine Act.blind_ite ?_ (Act.blind_ite ?_ (Act.blind_ite ?_ ?_))
  · exact Act.blind_bind (Act.blind_setDesk _) fun _ => Act.blind_ofExcept _
  · exact Act.blind_bind (Act.blind_setDesk _) fun _ => Act.blind_ofExcept _
  · exact Act.blind_bind (Act.blind_ofExcept _) fun _ => Act.blind_setDesk _
  · refine Act.blind_ite (Act.blind_fail _) (Act.blind_ite (Act.blind_fail _) ?_)
    exact Act.blind_useBackend fun _ _ _ => rfl

namespace Part

theorem blind_submitFitting (task : Task) (timeout : Nat) :
    Act.Blind (submitFitting task timeout : Act W Call) (submitFitting task timeout) := by
  refine Act.blind_bind Act.blind_desk fun desk => ?_
  refine Act.blind_ite (Act.blind_fail _) ?_
  refine Act.blind_bind (Act.blind_ofExcept _) fun _ => ?_
  refine Act.blind_bind (Act.blind_ofExcept _) fun mode => ?_
  refine Act.blind_bind (Act.blind_setDesk _) fun _ => ?_
  refine Act.blind_bind (Act.blind_dropAll _) fun _ => ?_
  refine Act.blind_bind Act.blind_desk fun desk => ?_
  exact Act.blind_bind (Act.blind_setDesk _) fun _ => Act.blind_pure _

theorem blind_submitTask (task : Task) (timeout : Nat) :
    Act.Blind (submitTask task timeout : Act W Call) (submitTask task timeout) := by
  have fitting := @blind_submitFitting W task timeout
  cases reshape : task.reshape with
  | none =>
      rw [submitTask_of_none reshape, submitTask_of_none reshape]
      exact fitting
  | some info =>
      intro host record
      rw [submitTask_of_some reshape, submitTask_of_some reshape]
      refine .ite (fitting host record) ?_
      exact Act.blind_bind (blind_renegotiate info) (fun _ => fitting) host record

theorem blind_run (part : Part) : Act.Blind (part.run : Act W Call) part.run := by
  cases part with
  | readInput | readOutput | readTimeout | learnTimeout =>
      exact Act.blind_bind Act.blind_desk fun _ => Act.blind_pure _
  | writeTimeout milliseconds =>
      refine Act.blind_bind Act.blind_desk fun _ => ?_
      exact Act.blind_bind (Act.blind_setDesk _) fun _ => Act.blind_pure _
  | readProperty key => exact Act.blind_bind (blind_readProperty key) fun _ => Act.blind_pure _
  | writeProperty key value =>
      exact Act.blind_bind (blind_writeProperty key value) fun _ => Act.blind_pure _
  | reshape info => exact Act.blind_bind (blind_renegotiate info) fun _ => Act.blind_pure _
  | fit task target =>
      refine Act.blind_bind Act.blind_desk fun _ => ?_
      exact Act.blind_ite (Act.blind_fail _) (Act.blind_pure _)
  | submit task timeout => exact blind_submitTask task timeout

end Part

end Inference
