/-
What can happen under the lock.

Everything a caller does to an engine happens while it holds the lock on the desk.  Apart from
submitting a request this is harmless for the pass in flight: the timeout, the names and, unless a
pass is running, the shapes may change, and the backend may be asked about them
(`renegotiate_tunes`, `readProperty_tunes`, `writeProperty_tunes`).  `Host.Tuned` says so once and
for all, and `Host.Wrecked` is what a backend leaves behind that crashes when it is asked.  The ways
in which such work can go are listed one by one in `Host.Renegotiated` and `Host.Wrote`; whatever
is said of it elsewhere goes through `renegotiate_cases` and `writeProperty_cases`.

Submitting is the one thing that touches requests, responses and tickets.  It may tune the
engine first, then forgets the outcome that is still on the desk, and only then puts the
new request there; `Submission` has these three stages as its hypotheses.
-/
import Inference.Engine.Call

namespace Inference

variable {W α β : Type}

/-! ### One piece of work after another -/

namespace Act

@[simp] theorem desk_bind (next : Desk → Act W β) (host : Host W) :
    (Act.desk >>= next) host = next host.desk host := rfl

@[simp] theorem engine_bind (next : Engine W → Act W β) (host : Host W) :
    (Act.engine >>= next) host = next host.engine host := rfl

@[simp] theorem setDesk_bind (desk : Desk) (next : Unit → Act W β) (host : Host W) :
    (Act.setDesk desk >>= next) host = next () (host.withDesk desk) := rfl

@[simp] theorem pure_bind (value : α) (next : α → Act W β) (host : Host W) :
    ((pure value : Act W α) >>= next) host = next value host := rfl

@[simp] theorem fail_bind (fault : Fault) (next : α → Act W β) (host : Host W) :
    ((Act.fail fault : Act W α) >>= next) host = some (.failed fault, host) := rfl

@[simp] theorem ok_bind (value : α) (next : α → Act W β) (host : Host W) :
    (Act.ofExcept (.ok value) >>= next) host = next value host := rfl

@[simp] theorem error_bind (fault : Fault) (next : α → Act W β) (host : Host W) :
    ((Act.ofExcept (.error fault) : Act W α) >>= next) host = some (.failed fault, host) := rfl

@[simp] theorem setDesk_run (desk : Desk) (host : Host W) :
    Act.setDesk desk host = some (.done (), host.withDesk desk) := rfl

@[simp] theorem pure_run (value : α) (host : Host W) :
    (pure value : Act W α) host = some (.done value, host) := rfl

@[simp] theorem fail_run (fault : Fault) (host : Host W) :
    (Act.fail fault : Act W α) host = some (.failed fault, host) := rfl

theorem bind_cases {act : Act W α} {next : α → Act W β} {host after : Host W}
    {outcome : Outcome Fault β} (h : (act >>= next) host = some (outcome, after)) :
    (∃ value middle, act host = some (.done value, middle)
        ∧ next value middle = some (outcome, after))
      ∨ (∃ fault, act host = some (.failed fault, after) ∧ outcome = .failed fault)
      ∨ ∃ message, act host = some (.crashed message, after) ∧ outcome = .crashed message := by
  change Act.bind act next host = _ at h
  unfold Act.bind at h
  split at h
  · cases h
  · exact .inl ⟨_, _, ‹_›, h⟩
  · cases h
    exact .inr (.inl ⟨_, ‹_›, rfl⟩)
  · cases h
    exact .inr (.inr ⟨_, ‹_›, rfl⟩)

end Act

/-! ### Asking the backend -/

namespace Backend

/-- The backend is asked about something other than a pass. -/
inductive Asked (backend : Backend W) (world : W) : W → Prop where
  | adopt (info : Descriptor) : Asked backend world (backend.adopt info world).2
  | read (key : String) : Asked backend world (backend.readProperty key world).2
  | write (key value : String) : Asked backend world (backend.writeProperty key value world).2

theorem asked_of_adopt {backend : Backend W} {info : Descriptor} {world after : W}
    {answer : Outcome Fault Descriptor} (adopted : backend.adopt info world = (answer, after)) :
    backend.Asked world after := by
  have asked : backend.Asked world (backend.adopt info world).2 := .adopt info
  rwa [adopted] at asked

/-- The backend crashes when it is asked. -/
inductive AskCrashes (backend : Backend W) (world : W) : String → W → Prop where
  | adopt {info : Descriptor} {message : String} {after : W}
      (crash : backend.adopt info world = (.crashed message, after)) :
      AskCrashes backend world message after
  | read {key message : String} {after : W}
      (crash : backend.readProperty key world = (.crashed message, after)) :
      AskCrashes backend world message after
  | write {key value message : String} {after : W}
      (crash : backend.writeProperty key value world = (.crashed message, after)) :
      AskCrashes backend world message after

end Backend

/-- What work under the lock that submits nothing can do to an engine. -/
inductive Host.Tuned (host : Host W) : Host W → Prop where
  | same : Tuned host host
  | timeout (milliseconds : Nat) :
      Tuned host (host.withDesk { host.desk with timeout := milliseconds })
  /-- Another input of the same shape. -/
  | renamed {info : Descriptor} (quiet : host.desk.mode ≠ .running)
      (agrees : info.agrees host.desk.input = true) :
      Tuned host (host.withDesk { host.desk with input := info })
  | inputNames (text : String) (quiet : host.desk.mode ≠ .running) :
      Tuned host (host.withDesk { host.desk with input := (host.desk.input.setNamesText text).2 })
  | outputNames (text : String) (quiet : host.desk.mode ≠ .running) :
      Tuned host (host.withDesk { host.desk with output := (host.desk.output.setNamesText text).2 })
  | asked {world : W} (quiet : host.desk.mode ≠ .running) (attached : host.desk.attached = true)
      (asked : host.engine.backend.Asked host.world world) : Tuned host { host with world }
  /-- Another input, with the output the backend answered. -/
  | reshaped {info output : Descriptor} {world : W} (quiet : host.desk.mode ≠ .running)
      (attached : host.desk.attached = true)
      (adopted : host.engine.backend.adopt info host.world = (.done output, world))
      (valid : output.validate = .ok ()) :
      Tuned host ({ host with world }.withDesk { host.desk with input := info, output })

/-- What a backend that crashes when it is asked leaves behind. -/
inductive Host.Wrecked (host : Host W) (message : String) : Host W → Prop where
  | intro {world : W} (quiet : host.desk.mode ≠ .running)
      (crash : host.engine.backend.AskCrashes host.world message world) :
      Wrecked host message { host with world }.poisonBackend

/-- The backend can be asked. -/
structure Host.AtHand (host : Host W) : Prop where
  attached : host.desk.attached = true
  free : host.engine.worker.busy = false
  sound : host.engine.backendPoisoned = false

/-- How work that only tunes the engine ends. -/
def Host.Settles (host : Host W) (outcome : Outcome Fault α) (after : Host W) : Prop :=
  match outcome with
  | .crashed message => host.Wrecked message after
  | _ => host.Tuned after

namespace Act

/-- Work that does no more than tune the engine. -/
def Tunes (act : Act W α) (host : Host W) : Prop :=
  ∀ outcome after, act host = some (outcome, after) → host.Settles outcome after

/-- The use of a backend ends in an answer, without which nothing has happened. -/
theorem useBackend_cases {use : Backend W → W → Outcome Fault α × W} {host after : Host W}
    {outcome : Outcome Fault α} (h : useBackend use host = some (outcome, after)) :
    (∃ fault, outcome = .failed fault ∧ after = host)
      ∨ (host.AtHand ∧ ∃ world, use host.engine.backend host.world = (outcome, world)
          ∧ ((∀ message, outcome ≠ .crashed message) ∧ after = { host with world }
            ∨ ∃ message, outcome = .crashed message
              ∧ after = { host with world }.poisonBackend)) := by
  unfold useBackend at h
  split at h
  · cases h
    exact .inl ⟨_, rfl, rfl⟩
  rename_i attached
  split at h
  · cases h
  rename_i free
  split at h
  · cases h
    exact .inl ⟨_, rfl, rfl⟩
  rename_i sound
  refine .inr ⟨⟨by simpa using attached, by simpa using free, by simpa using sound⟩, ?_⟩
  cases used : use host.engine.backend host.world with
  | mk answer world =>
      rw [used] at h
      cases answer with
      | done value =>
          cases h
          exact ⟨world, rfl, .inl ⟨by simp, rfl⟩⟩
      | failed fault =>
          cases h
          exact ⟨world, rfl, .inl ⟨by simp, rfl⟩⟩
      | crashed message =>
          cases h
          exact ⟨world, rfl, .inr ⟨message, rfl, rfl⟩⟩

theorem tunes_map {act : Act W α} {host : Host W} (tunes : Tunes act host) (f : α → β) :
    Tunes (do return f (← act)) host := by
  intro outcome after h
  obtain ⟨value, middle, hact, hrest⟩ | ⟨fault, hact, rfl⟩ | ⟨message, hact, rfl⟩ := bind_cases h
  · cases hrest
    exact tunes (.done value) _ hact
  · exact tunes (.failed fault) _ hact
  · exact tunes (.crashed message) _ hact

/-- Asking the backend tunes the engine, whatever the question. -/
theorem useBackend_tunes {use : Backend W → W → Outcome Fault α × W} {host : Host W}
    (quiet : host.desk.mode ≠ .running)
    (asked : ∀ world, host.engine.backend.Asked world (use host.engine.backend world).2)
    (crash : ∀ world message after, use host.engine.backend world = (.crashed message, after) →
      host.engine.backend.AskCrashes world message after) :
    Tunes (useBackend use) host := by
  intro outcome after h
  obtain ⟨fault, rfl, rfl⟩ | ⟨atHand, world, used, ⟨calm, rfl⟩ | ⟨message, rfl, rfl⟩⟩ :=
    useBackend_cases h
  · exact .same
  · have hasked := asked host.world
    rw [used] at hasked
    cases outcome with
    | crashed message => exact absurd rfl (calm message)
    | done value => exact .asked quiet atHand.attached hasked
    | failed fault => exact .asked quiet atHand.attached hasked
  · exact .intro quiet (crash _ _ _ used)

end Act

/-! ### Shapes -/

/-- What comes of giving an engine another input. -/
inductive Host.Renegotiated (host : Host W) (info : Descriptor) :
    Outcome Fault Unit → Host W → Prop where
  | busy (running : host.desk.mode = .running) : Renegotiated host info (.failed .busy) host
  /-- The shape is the one there was. -/
  | renamed (quiet : host.desk.mode ≠ .running) (agrees : info.agrees host.desk.input = true) :
      Renegotiated host info (.done ()) (host.withDesk { host.desk with input := info })
  /-- The backend could not be asked. -/
  | unasked {fault : Fault} (quiet : host.desk.mode ≠ .running)
      (differs : info.agrees host.desk.input = false) :
      Renegotiated host info (.failed fault) host
  | refused {fault : Fault} {world : W} (quiet : host.desk.mode ≠ .running)
      (differs : info.agrees host.desk.input = false) (atHand : host.AtHand)
      (adopted : host.engine.backend.adopt info host.world = (.failed fault, world)) :
      Renegotiated host info (.failed fault) { host with world }
  /-- The backend took the input up, but with an output that cannot be used. -/
  | useless {output : Descriptor} {fault : Fault} {world : W} (quiet : host.desk.mode ≠ .running)
      (differs : info.agrees host.desk.input = false) (atHand : host.AtHand)
      (adopted : host.engine.backend.adopt info host.world = (.done output, world))
      (invalid : output.validate = .error fault) :
      Renegotiated host info
        (.failed (.passFailed ("the backend negotiated an unusable output: " ++ fault.message)))
        { host with world }
  | reshaped {output : Descriptor} {world : W} (quiet : host.desk.mode ≠ .running)
      (differs : info.agrees host.desk.input = false) (atHand : host.AtHand)
      (adopted : host.engine.backend.adopt info host.world = (.done output, world))
      (valid : output.validate = .ok ()) :
      Renegotiated host info (.done ())
        ({ host with world }.withDesk { host.desk with input := info, output })
  | crashed {message : String} {world : W} (quiet : host.desk.mode ≠ .running)
      (differs : info.agrees host.desk.input = false)
      (adopted : host.engine.backend.adopt info host.world = (.crashed message, world)) :
      Renegotiated host info (.crashed message) { host with world }.poisonBackend

section

variable {host after : Host W} {info : Descriptor} {outcome : Outcome Fault Unit}

theorem renegotiate_cases (h : renegotiate info host = some (outcome, after)) :
    host.Renegotiated info outcome after := by
  simp only [renegotiate, Act.desk_bind] at h
  by_cases running : host.desk.mode = .running
  · rw [if_pos running] at h
    cases h
    exact .busy running
  rw [if_neg running] at h
  by_cases agrees : info.agrees host.desk.input = true
  · rw [if_pos agrees] at h
    cases h
    exact .renamed running agrees
  rw [if_neg agrees] at h
  have differs : info.agrees host.desk.input = false := by simpa using agrees
  obtain ⟨output, middle, hask, h⟩ | ⟨fault, hask, rfl⟩ | ⟨message, hask, rfl⟩ := Act.bind_cases h
  · obtain ⟨fault, ⟨⟩, -⟩ | ⟨atHand, world, adopted, ⟨-, rfl⟩ | ⟨message, ⟨⟩, -⟩⟩ :=
      Act.useBackend_cases hask
    -- The backend has taken the input up; what it answered is checked only now.
    cases valid : output.validate with
    | error fault =>
        rw [valid] at h
        cases h
        exact .useless running differs atHand adopted valid
    | ok =>
        rw [valid] at h
        cases h
        exact .reshaped running differs atHand adopted valid
  · obtain ⟨_, -, rfl⟩ | ⟨atHand, world, adopted, ⟨-, rfl⟩ | ⟨message, ⟨⟩, -⟩⟩ :=
      Act.useBackend_cases hask
    · exact .unasked running differs
    · exact .refused running differs atHand adopted
  · obtain ⟨fault, ⟨⟩, -⟩ | ⟨-, world, adopted, ⟨calm, -⟩ | ⟨_, ⟨⟩, rfl⟩⟩ :=
      Act.useBackend_cases hask
    · exact absurd rfl (calm message)
    · exact .crashed running differs adopted

theorem renegotiate_tunes (info : Descriptor) (host : Host W) :
    Act.Tunes (renegotiate info) host := by
  intro outcome after h
  cases renegotiate_cases h with
  | busy | unasked => exact .same
  | renamed quiet agrees => exact .renamed quiet agrees
  | refused quiet _ atHand adopted =>
      exact .asked quiet atHand.attached (Backend.asked_of_adopt adopted)
  | useless quiet _ atHand adopted =>
      exact .asked quiet atHand.attached (Backend.asked_of_adopt adopted)
  | reshaped quiet _ atHand adopted valid => exact .reshaped quiet atHand.attached adopted valid
  | crashed quiet _ adopted => exact .intro quiet (.adopt adopted)

theorem renegotiate_input (h : renegotiate info host = some (.done (), after)) :
    after.desk.input = info := by
  cases renegotiate_cases h <;> rfl

theorem editInput_cases {edited : Descriptor.Edited Unit}
    (h : editInput edited host = some (outcome, after)) :
    (∃ fault, outcome = .failed fault ∧ after = host)
      ∨ edited.1 = .ok () ∧ edited.2.validate = .ok ()
        ∧ renegotiate edited.2 host = some (outcome, after) := by
  obtain ⟨result, info⟩ := edited
  simp only [editInput] at h
  cases result with
  | error fault =>
      cases h
      exact .inl ⟨fault, rfl, rfl⟩
  | ok =>
      rw [Act.ok_bind] at h
      cases valid : info.validate with
      | error fault =>
          rw [valid] at h
          cases h
          exact .inl ⟨fault, rfl, rfl⟩
      | ok =>
          rw [valid, Act.ok_bind] at h
          exact .inr ⟨rfl, rfl, h⟩

theorem editInput_tunes (edited : Descriptor.Edited Unit) (host : Host W) :
    Act.Tunes (editInput edited) host := by
  intro outcome after h
  obtain ⟨fault, rfl, rfl⟩ | ⟨-, -, h⟩ := editInput_cases h
  · exact .same
  · exact renegotiate_tunes _ _ _ _ h

end

/-! ### Properties -/

theorem Engine.foreign_iff {engine : Engine W} {key : String} : engine.ownProperty? key = none
    ↔ key ∉ ["input", "inputtype", "inputname", "output", "outputtype", "outputname", "timeout",
      "framework", "accelerator"] := by
  simp only [ownProperty?, List.mem_cons, List.not_mem_nil, or_false]
  repeat' split
  all_goals simp_all

/-- What becomes of a descriptor if a property is written that makes up its shape. -/
def Descriptor.edited? (d : Descriptor) (key value : String) : Option (Descriptor.Edited Unit) :=
  if key = "input" then some (d.setDimensionsText value)
  else if key = "inputtype" then some (d.setTypesText value)
  else none

/-- What comes of writing a property. -/
inductive Host.Wrote (host : Host W) (key value : String) :
    Outcome Fault Unit → Host W → Prop where
  /-- A pass is running, the text is no timeout, or the property cannot be written. -/
  | refused {fault : Fault} : Wrote host key value (.failed fault) host
  | edited {edited : Descriptor.Edited Unit} {outcome : Outcome Fault Unit} {after : Host W}
      (edits : host.desk.input.edited? key value = some edited)
      (ran : editInput edited host = some (outcome, after)) : Wrote host key value outcome after
  | inputNames {outcome : Outcome Fault Unit} (quiet : host.desk.mode ≠ .running)
      (name : key = "inputname")
      (ended : .ofExcept (host.desk.input.setNamesText value).1 = outcome) :
      Wrote host key value outcome
        (host.withDesk { host.desk with input := (host.desk.input.setNamesText value).2 })
  | outputNames {outcome : Outcome Fault Unit} (quiet : host.desk.mode ≠ .running)
      (name : key = "outputname")
      (ended : .ofExcept (host.desk.output.setNamesText value).1 = outcome) :
      Wrote host key value outcome
        (host.withDesk { host.desk with output := (host.desk.output.setNamesText value).2 })
  | timeout (milliseconds : Nat) :
      Wrote host key value (.done ())
        (host.withDesk { host.desk with timeout := milliseconds })
  | foreign {outcome : Outcome Fault Unit} {after : Host W} (quiet : host.desk.mode ≠ .running)
      (foreign : host.engine.ownProperty? key = none)
      (asked : Act.useBackend (fun backend => backend.writeProperty key value) host
        = some (outcome, after)) : Wrote host key value outcome after

section

variable {host after : Host W} {key value : String}

theorem readProperty_cases {outcome : Outcome Fault String}
    (h : Act.readProperty key host = some (outcome, after)) :
    (∀ message, outcome ≠ .crashed message) ∧ after = host
      ∨ host.desk.mode ≠ .running ∧ host.engine.ownProperty? key = none
        ∧ Act.useBackend (fun backend => backend.readProperty key) host
          = some (outcome, after) := by
  simp only [Act.readProperty, Act.engine_bind] at h
  cases own : host.engine.ownProperty? key with
  | some text =>
      rw [own] at h
      cases h
      exact .inl ⟨by simp, rfl⟩
  | none =>
      rw [own] at h
      change (if host.desk.mode = .running then Act.fail .busy
        else Act.useBackend fun backend => backend.readProperty key) host = _ at h
      split at h
      · cases h
        exact .inl ⟨by simp, rfl⟩
      · rename_i quiet
        exact .inr ⟨quiet, rfl, h⟩

theorem writeProperty_cases {outcome : Outcome Fault Unit}
    (h : Act.writeProperty key value host = some (outcome, after)) :
    host.Wrote key value outcome after := by
  simp only [Act.writeProperty, Act.desk_bind] at h
  split at h
  · cases h
    exact .refused
  rename_i guard
  -- All keys but the timeout are out of bounds during a pass.
  have quiet (other : key ≠ "timeout") : host.desk.mode ≠ .running := fun running =>
    guard ⟨running, other⟩
  split at h
  · rename_i dimensions
    exact .edited (if_pos dimensions) h
  rename_i dimensions
  split at h
  · rename_i types
    exact .edited ((if_neg dimensions).trans (if_pos types)) h
  split at h
  · rename_i name
    cases h
    exact .inputNames (quiet (by rw [name]; decide)) name rfl
  split at h
  · rename_i name
    cases h
    exact .outputNames (quiet (by rw [name]; decide)) name rfl
  split at h
  · cases read : readTimeout value with
    | error fault =>
        rw [read] at h
        cases h
        exact .refused
    | ok milliseconds =>
        rw [read] at h
        cases h
        exact .timeout milliseconds
  rename_i other
  split at h
  · cases h
    exact .refused
  split at h
  · cases h
    exact .refused
  · exact .foreign (quiet other) (Engine.foreign_iff.2 (by simp_all)) h

theorem readProperty_tunes (key : String) (host : Host W) :
    Act.Tunes (Act.readProperty key) host := by
  intro outcome after h
  obtain ⟨calm, rfl⟩ | ⟨quiet, -, h⟩ := readProperty_cases h
  · cases outcome with
    | crashed message => exact absurd rfl (calm message)
    | done value => exact .same
    | failed fault => exact .same
  · exact Act.useBackend_tunes quiet (fun _ => .read key) (fun _ _ _ crash => .read crash) _ _ h

theorem writeProperty_tunes (key value : String) (host : Host W) :
    Act.Tunes (Act.writeProperty key value) host := by
  intro outcome after h
  have settles {result : Except Fault Unit} {outcome : Outcome Fault Unit} {after : Host W}
      (ended : .ofExcept result = outcome) (tuned : host.Tuned after) :
      host.Settles outcome after := by
    subst ended
    cases result <;> exact tuned
  cases writeProperty_cases h with
  | refused => exact .same
  | edited _ ran => exact editInput_tunes _ _ _ _ ran
  | inputNames quiet _ ended => exact settles ended (.inputNames value quiet)
  | outputNames quiet _ ended => exact settles ended (.outputNames value quiet)
  | timeout milliseconds => exact .timeout milliseconds
  | foreign quiet _ asked =>
      exact Act.useBackend_tunes quiet (fun _ => .write key value)
        (fun _ _ _ crash => .write crash) _ _ asked

end

/-! ### Dropping frames -/

namespace Host

/-- Two hosts that differ at most in the world, in what is on lease, and in the backend's lock. -/
structure Beside (host after : Host W) : Prop where
  engine : after.engine = { host.engine with
    lent := after.engine.lent, backendPoisoned := after.engine.backendPoisoned }
  live : after.live = host.live

namespace Beside

variable {host middle after : Host W}

theorem refl (host : Host W) : Beside host host := ⟨rfl, rfl⟩

theorem desk (h : Beside host after) : after.desk = host.desk := by
  unfold Host.desk
  rw [h.engine]

theorem worker (h : Beside host after) : after.engine.worker = host.engine.worker := by
  rw [h.engine]

theorem isOpen (h : Beside host after) : after.engine.isOpen = host.engine.isOpen := by
  rw [h.engine]

theorem id (h : Beside host after) : after.engine.id = host.engine.id := by
  rw [h.engine]

theorem backend (h : Beside host after) : after.engine.backend = host.engine.backend := by
  rw [h.engine]

theorem deskPoisoned (h : Beside host after) :
    after.engine.deskPoisoned = host.engine.deskPoisoned := by
  rw [h.engine]

theorem trans (h : Beside host middle) (h' : Beside middle after) : Beside host after where
  engine := by
    rw [h'.engine, h.engine]
  live := h'.live.trans h.live

end Beside

theorem release_beside (host : Host W) (regions : List Bytes) :
    host.Beside (host.release regions).2 := by
  unfold release
  obtain ⟨crash, world⟩ := host.engine.backend.release regions host.world
  cases crash <;> exact ⟨rfl, rfl⟩

theorem beside_of_release {host after : Host W} {regions : List Bytes} {crash : Option String}
    (back : host.release regions = (crash, after)) : host.Beside after := by
  have beside := release_beside host regions
  rwa [back] at beside

theorem settle_beside (host : Host W) : host.Beside host.settle := by
  unfold settle
  split <;> exact ⟨rfl, rfl⟩

theorem takeBack_beside (host : Host W) (frame : Frame) : host.Beside (host.takeBack frame).2 := by
  refine (release_beside host frame.present).trans (Beside.trans ?_ (settle_beside _))
  exact ⟨rfl, rfl⟩

theorem beside_of_takeBack {host after : Host W} {frame : Frame} {crash : Option String}
    (back : host.takeBack frame = (crash, after)) : host.Beside after := by
  have beside := takeBack_beside host frame
  rwa [back] at beside

/-- Frames are dropped one after another, until the backend crashes over one of them. -/
inductive Drops : Host W → List Frame → Option String → Host W → Prop where
  | nil (host : Host W) : Drops host [] none host
  | plain {host after : Host W} {frame : Frame} {rest : List Frame} {crash : Option String}
      (plain : frame.lease = none) (others : Drops host rest crash after) :
      Drops host (frame :: rest) crash after
  | returned {host middle after : Host W} {frame : Frame} {rest : List Frame}
      {crash : Option String} (leased : frame.lease ≠ none)
      (free : host.engine.worker.busy = false) (back : host.takeBack frame = (none, middle))
      (others : Drops middle rest crash after) : Drops host (frame :: rest) crash after
  | crashed {host after : Host W} {frame : Frame} {rest : List Frame} {message : String}
      (leased : frame.lease ≠ none) (free : host.engine.worker.busy = false)
      (back : host.takeBack frame = (some message, after)) :
      Drops host (frame :: rest) (some message) after

theorem Drops.beside {host after : Host W} {frames : List Frame} {crash : Option String}
    (h : Drops host frames crash after) : host.Beside after := by
  induction h with
  | nil host => exact .refl host
  | plain _ _ ih => exact ih
  | returned _ _ back _ ih => exact (beside_of_takeBack back).trans ih
  | crashed _ _ back => exact beside_of_takeBack back

end Host

/-- How work ends that does nothing but drop frames. -/
def dropEnding : Option String → Outcome Fault Unit
  | none => .done ()
  | some message => .crashed message

theorem drop_drops {frame : Frame} {host after : Host W} {outcome : Outcome Fault Unit}
    (h : Act.drop frame host = some (outcome, after)) :
    ∃ crash, host.Drops [frame] crash after ∧ outcome = dropEnding crash := by
  unfold Act.drop at h
  split at h
  · rename_i plain
    cases h
    exact ⟨none, .plain (by simpa using plain) (.nil _), rfl⟩
  rename_i leased
  split at h
  · cases h
  rename_i free
  split at h
  · rename_i back
    cases h
    exact ⟨_, .crashed (by simpa using leased) (by simpa using free) back, rfl⟩
  · rename_i back
    cases h
    exact ⟨none, .returned (by simpa using leased) (by simpa using free) back (.nil _), rfl⟩

theorem dropAll_drops {frames : List Frame} {host after : Host W} {outcome : Outcome Fault Unit}
    (h : Act.dropAll frames host = some (outcome, after)) :
    ∃ crash, host.Drops frames crash after ∧ outcome = dropEnding crash := by
  induction frames generalizing host with
  | nil =>
      cases h
      exact ⟨none, .nil _, rfl⟩
  | cons frame rest ih =>
      obtain ⟨⟨⟩, middle, hdrop, hrest⟩ | ⟨fault, hdrop, rfl⟩ | ⟨message, hdrop, rfl⟩ :=
        Act.bind_cases h
      · obtain ⟨crash, others, rfl⟩ := ih hrest
        obtain ⟨crash', hframe, ending⟩ := drop_drops hdrop
        cases crash' with
        | some message => cases ending
        | none =>
            cases hframe with
            | plain hplain first =>
                cases first
                exact ⟨crash, .plain hplain others, rfl⟩
            | returned leased free back first =>
                cases first
                exact ⟨crash, .returned leased free back others, rfl⟩
      · obtain ⟨crash, -, ending⟩ := drop_drops hdrop
        cases crash <;> cases ending
      · obtain ⟨crash, hframe, ending⟩ := drop_drops hdrop
        cases crash with
        | none => cases ending
        | some text =>
            cases ending
            cases hframe with
            | plain _ others => cases others
            | returned _ _ _ others => cases others
            | crashed leased free back => exact ⟨_, .crashed leased free back, rfl⟩

theorem dropAll_of_drops {frames : List Frame} {host after : Host W} {crash : Option String}
    (drops : host.Drops frames crash after) :
    Act.dropAll frames host = some (dropEnding crash, after) := by
  induction drops with
  | nil host => rfl
  | @plain host after frame rest crash plain _ ih =>
      have dropped : Act.drop frame host = some (.done (), host) := by
        simp [Act.drop, plain]
      show Act.bind _ _ host = _
      simp only [Act.bind, dropped, ih]
  | @returned host middle after frame rest crash leased free back _ ih =>
      have dropped : Act.drop frame host = some (.done (), middle) := by
        simp [Act.drop, leased, free, back]
      show Act.bind _ _ host = _
      simp only [Act.bind, dropped, ih]
  | @crashed host after frame rest message leased free back =>
      have dropped : Act.drop frame host = some (.crashed message, after) := by
        simp [Act.drop, leased, free, back]
      show Act.bind _ _ host = _
      simp only [Act.bind, dropped]
      rfl

end Inference
