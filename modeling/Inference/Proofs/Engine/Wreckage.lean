/-
A crash under the lock.

The backend is asked for a shape and about properties while a caller holds the lock, so that a
crash over such a question poisons both locks at once.  `Part.Wrecks` says which question a part
puts and that the backend crashes over it, and `Host.struck` is what is left then: the backend has
gone on to another world, both locks are poisoned, and nothing else has happened
(`Call.step_wrecked`).

There is one other way to crash under the lock.  Whoever submits a request gives back the memory of
the last outcome, and the backend may crash over that (`Call.wrecks_of_step`).
-/
import Inference.Proofs.Engine.Rejection

namespace Inference

variable {W : Type}

/-! ### Questions that are put under the lock -/

/-- The part puts a question to the backend, and the backend crashes over it. -/
inductive Part.Wrecks (host : Host W) (message : String) (world : W) : Part → Prop where
  | reshape {info : Descriptor} (differs : info.agrees host.desk.input = false)
      (crash : host.engine.backend.adopt info host.world = (.crashed message, world)) :
      Wrecks host message world (.reshape info)
  | submit {task : Task} {timeout : Nat} {info : Descriptor} (shaped : task.reshape = some info)
      (differs : info.agrees host.desk.input = false)
      (crash : host.engine.backend.adopt info host.world = (.crashed message, world)) :
      Wrecks host message world (.submit task timeout)
  /-- Writing the dimensions or the types of the input asks for a shape as well. -/
  | edit {key value : String} {info : Descriptor}
      (edited : host.desk.input.edited? key value = some (.ok (), info))
      (valid : info.validate = .ok ()) (differs : info.agrees host.desk.input = false)
      (crash : host.engine.backend.adopt info host.world = (.crashed message, world)) :
      Wrecks host message world (.writeProperty key value)
  | read {key : String} (foreign : host.engine.ownProperty? key = none)
      (crash : host.engine.backend.readProperty key host.world = (.crashed message, world)) :
      Wrecks host message world (.readProperty key)
  | write {key value : String} (foreign : host.engine.ownProperty? key = none)
      (crash : host.engine.backend.writeProperty key value host.world = (.crashed message, world)) :
      Wrecks host message world (.writeProperty key value)

/-- A caller that is let in can ask the backend. -/
structure Host.Receptive (host : Host W) : Prop where
  quiet : host.desk.mode ≠ .running
  attached : host.desk.attached = true
  free : host.engine.worker.busy = false
  sound : host.engine.backendPoisoned = false

/-- What a crash under the lock leaves behind. -/
def Host.struck (host : Host W) (world : W) : Host W :=
  { host with world, engine := { host.engine with deskPoisoned := true, backendPoisoned := true } }

/-! ### Properties -/

section properties

variable {host : Host W} {key value : String}

theorem readProperty_of_foreign (quiet : host.desk.mode ≠ .running)
    (foreign : host.engine.ownProperty? key = none) :
    Act.readProperty key host = Act.useBackend (fun backend => backend.readProperty key) host := by
  simp only [Act.readProperty, Act.engine_bind, foreign]
  exact congrFun (if_neg quiet) host

/-- The properties that make up the shape of the input are written by asking for that shape. -/
theorem writeProperty_of_edited {edited : Descriptor.Edited Unit}
    (quiet : host.desk.mode ≠ .running) (edits : host.desk.input.edited? key value = some edited) :
    Act.writeProperty key value host = editInput edited host := by
  have guard : ¬ (host.desk.mode = .running ∧ key ≠ "timeout") := fun busy => quiet busy.1
  simp only [Act.writeProperty, Act.desk_bind, if_neg guard]
  unfold Descriptor.edited? at edits
  by_cases dimensions : key = "input"
  · rw [if_pos dimensions] at edits ⊢
    cases edits
    rfl
  · rw [if_neg dimensions] at edits ⊢
    by_cases types : key = "inputtype"
    · rw [if_pos types] at edits ⊢
      cases edits
      rfl
    · rw [if_neg types] at edits
      cases edits

theorem writeProperty_of_foreign (quiet : host.desk.mode ≠ .running)
    (foreign : host.engine.ownProperty? key = none) : Act.writeProperty key value host
      = Act.useBackend (fun backend => backend.writeProperty key value) host := by
  have guard : ¬ (host.desk.mode = .running ∧ key ≠ "timeout") := fun busy => quiet busy.1
  have other := Engine.foreign_iff.1 foreign
  simp only [List.mem_cons, List.not_mem_nil, or_false, not_or] at other
  simp only [Act.writeProperty, Act.desk_bind, if_neg guard, other, if_false, or_self]

end properties

/-! ### The crash -/

section crashes

variable {host after : Host W} {message : String} {world : W}

theorem Host.Receptive.useBackend_crashed {α : Type}
    {use : Backend W → W → Outcome Fault α × W} (h : host.Receptive)
    (crash : use host.engine.backend host.world = (.crashed message, world)) :
    Act.useBackend use host = some (.crashed message, { host with world }.poisonBackend) := by
  simp [Act.useBackend, h.attached, h.free, h.sound, crash]

theorem Act.crash_of_useBackend {α : Type} {use : Backend W → W → Outcome Fault α × W}
    (h : Act.useBackend use host = some (.crashed message, after)) :
    ∃ world, use host.engine.backend host.world = (.crashed message, world)
      ∧ after = { host with world }.poisonBackend := by
  obtain ⟨fault, ⟨⟩, -⟩ | ⟨-, world, used, ⟨calm, -⟩ | ⟨_, ⟨⟩, rfl⟩⟩ := Act.useBackend_cases h
  · exact absurd rfl (calm message)
  · exact ⟨world, used, rfl⟩

theorem Act.bind_crashed {α β : Type} {act : Act W α} {next : α → Act W β}
    (crashed : act host = some (.crashed message, after)) :
    (act >>= next) host = some (.crashed message, after) := by
  show Act.bind act next host = _
  rw [Act.bind, crashed]

theorem Act.crash_of_map {α β : Type} {act : Act W α} {f : α → β}
    (h : (do return f (← act) : Act W β) host = some (.crashed message, after)) :
    act host = some (.crashed message, after) := by
  obtain ⟨value, middle, -, ⟨⟩⟩ | ⟨fault, -, ⟨⟩⟩ | ⟨_, crashed, ⟨⟩⟩ := Act.bind_cases h
  exact crashed

theorem renegotiate_crashed (h : host.Receptive) {info : Descriptor}
    (differs : info.agrees host.desk.input = false)
    (crash : host.engine.backend.adopt info host.world = (.crashed message, world)) :
    renegotiate info host = some (.crashed message, { host with world }.poisonBackend) := by
  simp only [renegotiate, Act.desk_bind, if_neg h.quiet, differs, Bool.false_eq_true, if_false]
  exact Act.bind_crashed (h.useBackend_crashed crash)

theorem crash_of_renegotiate {info : Descriptor}
    (h : renegotiate info host = some (.crashed message, after)) :
    info.agrees host.desk.input = false
      ∧ ∃ world, host.engine.backend.adopt info host.world = (.crashed message, world)
        ∧ after = { host with world }.poisonBackend := by
  cases renegotiate_cases h with
  | crashed _ differs adopted => exact ⟨differs, _, adopted, rfl⟩

namespace Part

variable {part : Part}

/-- A part that is let in and puts such a question crashes. -/
theorem Wrecks.run (h : part.Wrecks host message world) (receptive : host.Receptive) :
    part.run host = some (.crashed message, { host with world }.poisonBackend) := by
  cases h with
  | reshape differs crash => exact Act.bind_crashed (renegotiate_crashed receptive differs crash)
  | @submit task timeout info shaped differs crash =>
      have asks : host.desk.input.agrees info = false := by
        rw [Descriptor.agrees_comm]
        exact differs
      show submitTask task timeout host = _
      rw [submitTask_of_some shaped, asks]
      exact Act.bind_crashed (renegotiate_crashed receptive differs crash)
  | edit edited valid differs crash =>
      refine Act.bind_crashed ?_
      rw [writeProperty_of_edited receptive.quiet edited, editInput, Act.ok_bind, valid,
        Act.ok_bind]
      exact renegotiate_crashed receptive differs crash
  | read foreign crash =>
      refine Act.bind_crashed ?_
      rw [readProperty_of_foreign receptive.quiet foreign]
      exact receptive.useBackend_crashed crash
  | write foreign crash =>
      refine Act.bind_crashed ?_
      rw [writeProperty_of_foreign receptive.quiet foreign]
      exact receptive.useBackend_crashed crash

theorem wrecks_of_readProperty {key : String}
    (h : Act.readProperty key host = some (.crashed message, after)) :
    ∃ world, (readProperty key).Wrecks host message world
      ∧ after = { host with world }.poisonBackend := by
  obtain ⟨calm, -⟩ | ⟨-, foreign, h⟩ := readProperty_cases h
  · exact absurd rfl (calm message)
  · obtain ⟨world, crash, same⟩ := Act.crash_of_useBackend h
    exact ⟨world, .read foreign crash, same⟩

theorem wrecks_of_writeProperty {key value : String}
    (h : Act.writeProperty key value host = some (.crashed message, after)) :
    ∃ world, (writeProperty key value).Wrecks host message world
      ∧ after = { host with world }.poisonBackend := by
  have plain {result : Except Fault Unit} : Outcome.ofExcept result ≠ .crashed message := by
    cases result <;> nofun
  cases writeProperty_cases h with
  | @edited edited _ _ edits ran =>
      obtain ⟨result, info⟩ := edited
      obtain ⟨_, ⟨⟩, -⟩ | ⟨⟨⟩, valid, crashed⟩ := editInput_cases ran
      obtain ⟨differs, world, crash, same⟩ := crash_of_renegotiate crashed
      exact ⟨world, .edit edits valid differs crash, same⟩
  | inputNames _ _ ended => exact absurd ended plain
  | outputNames _ _ ended => exact absurd ended plain
  | foreign _ foreign asked =>
      obtain ⟨world, crash, same⟩ := Act.crash_of_useBackend asked
      exact ⟨world, .write foreign crash, same⟩

/-- There is one other way in which a part can crash: the backend crashes over the output that is
forgotten before a request is submitted. -/
theorem wrecks_of_run (h : part.run host = some (.crashed message, after)) :
    (∃ world, part.Wrecks host message world ∧ after = { host with world }.poisonBackend)
      ∨ ∃ task timeout middle, part = .submit task timeout ∧ host.Tuned middle
        ∧ middle.cleared.Drops middle.stale (some message) after := by
  cases part with
  | readProperty key => exact .inl (wrecks_of_readProperty (Act.crash_of_map h))
  | writeProperty key value => exact .inl (wrecks_of_writeProperty (Act.crash_of_map h))
  | reshape info =>
      obtain ⟨differs, world, crash, same⟩ := crash_of_renegotiate (Act.crash_of_map h)
      exact .inl ⟨world, .reshape differs crash, same⟩
  | fit task target =>
      simp only [run, Act.desk_bind] at h
      split at h <;> cases h
  | submit task timeout =>
      have overOutput {middle : Host W} (tuned : host.Tuned middle)
          (crashed : submitFitting task timeout middle = some (.crashed message, after)) :
          ∃ task' timeout' middle, submit task timeout = .submit task' timeout'
            ∧ host.Tuned middle ∧ middle.cleared.Drops middle.stale (some message) after := by
        obtain ⟨_, ⟨⟩, -⟩ | ⟨-, -, ⟨_, -, ⟨⟩, -⟩ | ⟨_, drops, ⟨⟩⟩⟩ := submitFitting_cases crashed
        exact ⟨task, timeout, middle, rfl, tuned, drops⟩
      obtain ⟨-, h⟩ | ⟨info, shaped, -, ⟨middle, took, h⟩ | ⟨_, ⟨⟩, -⟩ | ⟨_, ⟨⟩, crashed⟩⟩ :=
        submitTask_cases h
      · exact .inr (overOutput .same h)
      · exact .inr (overOutput (renegotiate_tunes info host _ _ took) h)
      · obtain ⟨differs, world, crash, same⟩ := crash_of_renegotiate crashed
        exact .inl ⟨world, .submit shaped differs crash, same⟩
  | _ => cases h

theorem crashed_of_settle {outcome : Outcome Fault Call} {target : Option Frame}
    (ran : part.run host = some (outcome, after))
    (settled : Call.settle part.target? outcome = .ended (.crashed message) target) :
    outcome = .crashed message := by
  cases outcome with
  | crashed text =>
      cases settled
      rfl
  | failed fault => cases settled
  | done next =>
      change next = _ at settled
      subst settled
      cases part with
      | readProperty key =>
          obtain ⟨value, ⟨⟩⟩ := done_of_map ran
      | writeProperty key value =>
          obtain ⟨value, ⟨⟩⟩ := done_of_map ran
      | reshape info =>
          obtain ⟨value, ⟨⟩⟩ := done_of_map ran
      | fit task target =>
          simp only [run, Act.desk_bind] at ran
          split at ran <;> cases ran
      | submit task timeout => cases submitTask_submission ran
      | _ => cases ran

end Part

namespace Call

variable {part : Part}

/-- The call ends with the crash, both locks are poisoned, and nothing else has happened. -/
theorem step_wrecked (wrecks : part.Wrecks host message world) (receptive : host.Receptive)
    (unpoisoned : host.engine.deskPoisoned = false) :
    (entering part).step host
      = some (ended (.crashed message) part.target?, host.struck world) := by
  rw [step, Act.locked, if_neg (by simp [unpoisoned]), wrecks.run receptive]
  rfl

/-- That is all there is to a crash under the lock, unless the backend crashes over the output that
is forgotten before a request is submitted. -/
theorem wrecks_of_step {target : Option Frame}
    (crashed : (entering part).step host = some (ended (.crashed message) target, after)) :
    (∃ world, part.Wrecks host message world ∧ after = host.struck world)
      ∨ ∃ task timeout middle dropped, part = .submit task timeout ∧ host.Tuned middle
        ∧ middle.cleared.Drops middle.stale (some message) dropped
          ∧ after = dropped.poisonDesk := by
  obtain ⟨-, ⟨⟩, -⟩ | ⟨-, outcome, middle, ran, settled, ending⟩ := entering_cases crashed
  obtain rfl := Part.crashed_of_settle ran settled.symm
  obtain ⟨calm, -⟩ | ⟨_, -, rfl⟩ := ending
  · exact absurd rfl (calm message)
  obtain ⟨world, wrecks, rfl⟩ | ⟨task, timeout, before, submits, tuned, drops⟩ :=
    Part.wrecks_of_run ran
  · exact .inl ⟨world, wrecks, rfl⟩
  · exact .inr ⟨task, timeout, before, middle, submits, tuned, drops, rfl⟩

end Call

end crashes

end Inference
