/-
Asking for a shape, at the opening or afterwards.

An input can be asked for when the engine is opened, or the engine is opened as its model comes and
given the input then.  Both look at the descriptor first, both ask the backend only if it expects
another shape, and both want an output that can be used; but they are negotiated in different places
and in a different order, and they tell their failures in different words.

`Opening.Agrees` is what they have in common: both lead to the very same engine, or neither of them
does, and then they leave the same world behind.  `asking_agrees` shows it of every input and
backend.
-/
import Inference.Proofs.Engine.Prompt
import Inference.Proofs.Engine.Usability

namespace Inference

variable {W : Type}

/-- The engine that is opened is the one that is left by what was done to another one.  If there is
none, the world is the one left there once the backend is let go. -/
inductive Opening.Agrees (backend : Backend W) :
    Opening W → Outcome Fault Reply × Host W → Prop where
  | opened (host : Host W) : Agrees backend (.opened host) (.done .none, host)
  | refused (fault fault' : Fault) (after : Host W) :
      Agrees backend (.refused fault (backend.dropped after.world)) (.failed fault', after)
  | crashed (message : String) (after : Host W) :
      Agrees backend (.crashed message (backend.dropped after.world)) (.crashed message, after)

theorem Opening.Agrees.opened_iff {backend : Backend W} {opening : Opening W}
    {ending : Outcome Fault Reply × Host W} (h : opening.Agrees backend ending) :
    (∃ host, opening = .opened host) ↔ ∃ after, ending = (.done .none, after) := by
  cases h with
  | opened host => exact ⟨fun _ => ⟨host, rfl⟩, fun _ => ⟨host, rfl⟩⟩
  | refused => constructor <;> rintro ⟨_, ⟨⟩⟩
  | crashed => constructor <;> rintro ⟨_, ⟨⟩⟩

theorem Opening.Agrees.same {backend : Backend W} {host after : Host W}
    (h : (Opening.opened host).Agrees backend (.done .none, after)) : after = host := by
  cases h
  rfl

/-! ### Opening an engine -/

namespace Backend

variable {backend : Backend W} {id : Nat} {options : Options} {framework : Framework} {world : W}
  {live : List Nat}

section

variable {info : Descriptor}

theorem openAs_of_invalid {fault : Fault} (invalid : info.validate = .error fault) :
    backend.openAs id { options with input := some info, output := none } framework world live
      = .refused fault (backend.dropped world) := by
  have agreed : backend.agreeShapes { options with input := some info, output := none } world
      = (.failed fault, world) := by
    simp [agreeShapes, agreeInput, invalid, Outcome.bind]
  rw [openAs, agreed]

variable (valid : info.validate = .ok ())

include valid

/-- The output that goes with an input is looked at last. -/
theorem agreed_of_input {output : Descriptor} {after : W}
    (asked : backend.agreeInput (some info) world = (.done (info, output), after)) :
    backend.agreeShapes { options with input := some info, output := none } world
      = ((Outcome.ofExcept (output.validateAs "output")).map fun () => (info, output), after) := by
  have first : info.validateAs "input" = .ok () := by
    rw [Descriptor.validateAs, valid]
    rfl
  simp only [agreeShapes, asked, Outcome.bind, agreeOutput, bind, Except.bind, first]
  cases output.validateAs "output" <;> rfl

/-- An input the backend expects anyway is taken over without asking. -/
theorem openAs_of_agrees (agrees : info.agrees (backend.input world) = true)
    (usable : (backend.output world).validate = .ok ()) :
    backend.openAs id { options with input := some info, output := none } framework world live
      = .opened (backend.started id options framework live info (backend.output world) world) := by
  have asked : backend.agreeInput (some info) world
    = (.done (info, backend.output world), world) := by
    simp only [agreeInput, valid, agrees, if_true]
  have second : (backend.output world).validateAs "output" = .ok () := by
    rw [Descriptor.validateAs, usable]
    rfl
  rw [openAs, agreed_of_input valid asked, second]
  rfl

variable (differs : info.agrees (backend.input world) = false)

include differs

theorem agreed_of_adopted {output : Descriptor} {after : W}
    (adopted : backend.adopt info world = (.done output, after)) :
    backend.agreeShapes { options with input := some info, output := none } world
      = ((Outcome.ofExcept (output.validateAs "output")).map fun () => (info, output), after) := by
  refine agreed_of_input valid ?_
  simp [agreeInput, valid, differs, adopted, Outcome.map, Outcome.mapFault]

theorem openAs_of_adopted {output : Descriptor} {after : W}
    (adopted : backend.adopt info world = (.done output, after))
    (usable : output.validate = .ok ()) :
    backend.openAs id { options with input := some info, output := none } framework world live
      = .opened (backend.started id options framework live info output after) := by
  rw [openAs, agreed_of_adopted valid differs adopted, Descriptor.validateAs, usable]
  rfl

/-- A backend is let go if its output cannot be used. -/
theorem openAs_of_useless {output : Descriptor} {after : W} {fault : Fault}
    (adopted : backend.adopt info world = (.done output, after))
    (useless : output.validate = .error fault) :
    backend.openAs id { options with input := some info, output := none } framework world live
      = .refused (.invalidParameter ("the output descriptor is not usable: " ++ fault.message))
        (backend.dropped after) := by
  rw [openAs, agreed_of_adopted valid differs adopted, Descriptor.validateAs, useless]
  rfl

/-- So is one that refuses. -/
theorem openAs_of_refused {fault : Fault} {after : W}
    (adopted : backend.adopt info world = (.failed fault, after)) :
    backend.openAs id { options with input := some info, output := none } framework world live
      = .refused (.invalidParameter ("the model does not accept input " ++ info.dimensionsText
        ++ ": "
        ++ fault.message)) (backend.dropped after) := by
  simp [openAs, agreeShapes, agreeInput, valid, differs, adopted, Outcome.map, Outcome.mapFault,
    Outcome.bind]

theorem openAs_of_crashed {message : String} {after : W}
    (adopted : backend.adopt info world = (.crashed message, after)) :
    backend.openAs id { options with input := some info, output := none } framework world live
      = .crashed message (backend.dropped after) := by
  simp [openAs, agreeShapes, agreeInput, valid, differs, adopted, Outcome.map, Outcome.mapFault,
    Outcome.bind]

end

/-! ### Asking afterwards -/

theorem started_of_opened {host : Host W}
    (opened : backend.openAs id { options with input := none, output := none } framework world live
      = .opened host) :
    host = backend.started id options framework live (backend.input world)
      (backend.output world) world
      ∧ (backend.output world).validate = .ok () := by
  obtain ⟨input, output, after, agreed, rfl⟩ := opened_cases opened
  obtain ⟨produced, asked, stated, -, usable⟩ := agreeShapes_done agreed
  cases asked
  cases stated
  exact ⟨rfl, usable⟩

section

variable {input output info : Descriptor}

/-- The worker of an engine that was just opened rests, also if a question to the backend has
crashed since. -/
theorem started_still (backend : Backend W) (input output : Descriptor) (world : W) :
    (backend.started id options framework live input output world).stepWorker = none
      ∧ (backend.started id options framework live input output
          world).poisonBackend.poisonDesk.stepWorker = none :=
  ⟨Host.stepWorker_of_idle rfl rfl, Host.stepWorker_of_idle rfl rfl⟩

theorem reshape_begins (valid : info.validate = .ok ()) :
    (Operation.reshape info).call = .checking (.reshape info) := by
  show Operation.guarded info (.reshape info) = _
  rw [Operation.guarded, valid]

/-- The answer to whoever brings a usable input is what became of it. -/
theorem perform_reshape (valid : info.validate = .ok ()) {ending : Outcome Fault Unit}
    {input' output' : Descriptor} {after : W}
    (asked : renegotiate info (backend.started id options framework live input output world)
      = some (ending, backend.started id options framework live input' output' after))
    (calm : ∀ message, ending ≠ .crashed message) :
    (backend.started id options framework live input output world).perform (.reshape info)
      = (ending.map fun _ => .none,
        backend.started id options framework live input' output' after) :=
  Host.perform_of_setting (reshape_begins valid) rfl rfl rfl rfl asked calm
    (started_still backend input' output' after).1

/-- What the engine is told when its backend is asked for another shape. -/
theorem renegotiate_started (differs : info.agrees input = false) :
    renegotiate info (backend.started id options framework live input output world)
      = match backend.adopt info world with
        | (.done answer, after) => match answer.validate with
          | .ok () => some (.done (), backend.started id options framework live info answer after)
          | .error fault => some (.failed (.passFailed
              ("the backend negotiated an unusable output: " ++ fault.message)),
              backend.started id options framework live input output after)
        | (.failed fault, after) =>
          some (.failed fault, backend.started id options framework live input output after)
        | (.crashed message, after) => some (.crashed message,
          (backend.started id options framework live input output after).poisonBackend) := by
  have quiet : (backend.started id options framework live input output world).desk.mode
      ≠ .running := by simp [started, Host.desk]
  have asks : info.agrees
      (backend.started id options framework live input output world).desk.input = false := differs
  simp only [renegotiate, Act.desk_bind, if_neg quiet, asks, Bool.false_eq_true, if_false]
  show Act.bind _ _ _ = _
  cases adopted : backend.adopt info world with
  | mk answer after =>
      cases answer with
      | done answer =>
          have used : Act.useBackend (fun backend => backend.adopt info)
              (backend.started id options framework live input output world)
              = some (.done answer,
                backend.started id options framework live input output after) := by
            simp [Act.useBackend, started, Host.desk, Worker.busy, adopted]
          simp only [Act.bind, used]
          cases answer.validate <;> rfl
      | failed fault =>
          simp [Act.bind, Act.useBackend, started, Host.desk, Worker.busy, adopted]
      | crashed message =>
          simp [Act.bind, Act.useBackend, started, Host.desk, Worker.busy, adopted]

/-- Asking for a shape at the opening comes to the same as asking for it afterwards. -/
theorem asking_agrees {host : Host W}
    (opened : backend.openAs id { options with input := none, output := none } framework world live
      = .opened host) (info : Descriptor) :
    (backend.openAs id { options with input := some info, output := none } framework world
      live).Agrees backend (host.perform (.reshape info)) := by
  obtain ⟨rfl, usable⟩ := started_of_opened opened
  cases valid : info.validate with
  | error fault =>
      have begins : (Operation.reshape info).call = .ended (.failed fault) none := by
        show Operation.guarded info (.reshape info) = _
        rw [Operation.guarded, valid]
      have fails : (Operation.reshape info).call.Fails
          (backend.started id options framework live (backend.input world)
            (backend.output world) world) fault 0 := by
        rw [begins]
        exact .now none
      rw [openAs_of_invalid valid,
        Host.perform_of_fails fails (started_still backend _ _ world).1 (by decide)]
      exact .refused fault fault
        (backend.started id options framework live (backend.input world)
          (backend.output world) world)
  | ok =>
      by_cases agrees : info.agrees (backend.input world) = true
      · have asked : renegotiate info (backend.started id options framework live
            (backend.input world) (backend.output world) world)
            = some (.done (), backend.started id options framework live
              info (backend.output world) world) := by
          simp [renegotiate, started, Host.desk, agrees, Host.withDesk]
        rw [openAs_of_agrees valid agrees usable,
          perform_reshape valid asked (Outcome.done_ne_crashed _)]
        exact .opened _
      have differs : info.agrees (backend.input world) = false := by simpa using agrees
      have asked : renegotiate info (backend.started id options framework live (backend.input world)
          (backend.output world) world) = _ := renegotiate_started differs
      cases adopted : backend.adopt info world with
      | mk answer after =>
          rw [adopted] at asked
          cases answer with
          | failed fault =>
              rw [openAs_of_refused valid differs adopted,
                perform_reshape valid asked (Outcome.failed_ne_crashed _)]
              exact .refused _ fault (backend.started id options framework live _ _ after)
          | crashed message =>
              rw [openAs_of_crashed valid differs adopted,
                Host.perform_of_setting_crash (reshape_begins valid) rfl rfl rfl asked
                  (started_still backend _ _ _).2]
              exact .crashed message
                (backend.started id options framework live _ _ after).poisonBackend.poisonDesk
          | done output =>
              cases checked : output.validate with
              | ok =>
                  simp only [checked] at asked
                  rw [openAs_of_adopted valid differs adopted checked,
                    perform_reshape valid asked (Outcome.done_ne_crashed _)]
                  exact .opened _
              | error fault =>
                  simp only [checked] at asked
                  rw [openAs_of_useless valid differs adopted checked,
                    perform_reshape valid asked (Outcome.failed_ne_crashed _)]
                  exact .refused _ _ (backend.started id options framework live _ _ after)

end

/-! ### What is asked for is what there is -/

theorem asked_of_opened {host : Host W}
    (opened : backend.openAs id options framework world live = .opened host) :
    (∀ input, options.input = some input → host.desk.input = input)
      ∧ ∀ output, options.output = some output → host.desk.output = output := by
  obtain ⟨input, output, after, agreed, rfl⟩ := opened_cases opened
  obtain ⟨produced, asked, stated, -⟩ := agreeShapes_done agreed
  constructor
  · intro wanted wants
    rw [wants] at asked
    obtain ⟨⟨⟨⟩, -⟩ | ⟨⟨⟩, -⟩, -⟩ | ⟨⟨⟩, -⟩ := agreeInput_cases asked <;> rfl
  · intro wanted wants
    rw [wants] at stated
    obtain ⟨⟨⟩, -⟩ | ⟨⟨⟩, -⟩ := agreeOutput_cases stated
    rfl

/-- The backend of an engine that was asked for an input was asked for it as well, or for nothing
if it expected that shape anyway. -/
theorem noted_of_opened {info : Descriptor} {host : Host W} {notes : W → List Question}
    (opened : backend.openAs id { options with input := some info, output := none } framework world
      live = .opened host) (kept : backend.Notes notes) : notes host.world
      = notes world ++ if info.agrees (backend.input world) then []
        else [.adopt info (.done host.desk.output)] := by
  obtain ⟨input, output, after, agreed, rfl⟩ := opened_cases opened
  obtain ⟨produced, asked, stated, -⟩ := agreeShapes_done agreed
  cases stated
  obtain ⟨⟨⟨⟩, -⟩ | ⟨⟨⟩, agrees⟩, -, rfl⟩ | ⟨⟨⟩, differs, adopted⟩ := agreeInput_cases asked
  · rw [if_pos agrees, List.append_nil]
    rfl
  · have noted := kept.adopt info world
    rw [adopted] at noted
    rw [if_neg (by simp [differs])]
    exact noted

/-- Asking for an input at the opening is asking for it afterwards.  If the engine opens at all as
its model comes, then it opens with the input exactly if it takes up the input later, and both ways
lead to the very same engine: it has the input that was asked for, and the backend was asked for it
once, or not at all if it expected that shape anyway.  If there is no engine then the world is left
the same.  Whatever descriptors an engine was asked for at its opening, it has them, and can use
both. -/
theorem asking_at_open_is_asking_later {plain : Host W}
    (opened : backend.openAs id { options with input := none, output := none } framework world live
      = .opened plain) (info : Descriptor) :
    ((∃ host, backend.openAs id { options with input := some info, output := none } framework
          world live = .opened host)
        ↔ ∃ after, plain.perform (.reshape info) = (.done .none, after))
      ∧ (backend.openAs id { options with input := some info, output := none } framework world
          live).Agrees backend (plain.perform (.reshape info))
      ∧ (∀ host, backend.openAs id { options with input := some info, output := none } framework
            world live = .opened host →
          plain.perform (.reshape info) = (.done .none, host) ∧ host.desk.input = info
            ∧ ∀ notes, backend.Notes notes → notes host.world = notes world
              ++ if info.agrees (backend.input world) then []
                else [.adopt info (.done host.desk.output)])
      ∧ ∀ wanted host, backend.openAs id wanted framework world live = .opened host →
        (∀ input, wanted.input = some input → host.desk.input = input)
          ∧ (∀ output, wanted.output = some output → host.desk.output = output)
            ∧ host.desk.Usable := by
  have agrees := asking_agrees opened info
  refine ⟨agrees.opened_iff, agrees, ?_, ?_⟩
  · intro host shaped
    rw [shaped] at agrees
    obtain ⟨after, told⟩ := agrees.opened_iff.1 ⟨host, rfl⟩
    rw [told] at agrees ⊢
    cases agrees.same
    exact ⟨rfl, (asked_of_opened shaped).1 info rfl, fun notes kept => noted_of_opened shaped kept⟩
  · intro wanted host shaped
    obtain ⟨inputs, outputs⟩ := asked_of_opened shaped
    exact ⟨inputs, outputs, usable_of_opened shaped⟩

open CustomModel in
/-- A model that takes any input is opened with two bytes, or given two bytes later, and is asked
once either way.  A model of one byte refuses them both times. -/
theorem two_bytes_at_open_or_later :
    (∃ host, pliable.openAs 0 { input := some twoBytes } .custom ((), []) [] = .opened host
        ∧ pliableEngine.perform (.reshape twoBytes) = (.done .none, host)
        ∧ host.desk.input = twoBytes ∧ host.world.2.length = 1 ∧ host.desk.Usable)
      ∧ (¬ ∃ host, echoByte.backend.openAs 0 { input := some twoBytes } .custom () []
        = .opened host)
      ∧ ¬ ∃ after, echoEngine.perform (.reshape twoBytes) = (.done .none, after) := by
  have opened : pliable.openAs 0 { ({} : Options) with input := none, output := none } .custom
      ((), []) [] = .opened pliableEngine := pliable_opened
  have fixed : echoByte.backend.openAs 0
    { ({} : Options) with input := none, output := none } .custom
      () [] = .opened echoEngine := echoByte_opened
  obtain ⟨iff, -, same, usable⟩ := asking_at_open_is_asking_later opened twoBytes
  obtain ⟨iff', -⟩ := asking_at_open_is_asking_later fixed twoBytes
  have refused : ¬ ∃ host, echoByte.backend.openAs 0 { input := some twoBytes } .custom () []
      = .opened host := by
    rintro ⟨host, shaped⟩
    have told : ∃ fault, echoByte.backend.openAs 0 { input := some twoBytes } .custom () []
        = .refused fault () := ⟨_, rfl⟩
    obtain ⟨fault, told⟩ := told
    cases shaped.symm.trans told
  obtain ⟨host, shaped⟩ : ∃ host, pliable.openAs 0 { input := some twoBytes } .custom ((), []) []
      = .opened host := ⟨_, rfl⟩
  obtain ⟨told, input, noted⟩ := same host shaped
  refine ⟨⟨host, shaped, told, input, ?_, (usable _ host shaped).2.2⟩, refused,
    fun later => refused (iff'.2 later)⟩
  rw [noted Prod.snd (noting_notes _), if_neg (by decide +kernel)]
  rfl

end Backend

end Inference
