/-
The properties that make up the shape of the input.

The dimensions and the types of the input can be read, and writing one of them gives the engine
another input.  On an engine that has nothing to do, what was read can be written back, and that
changes nothing, since the shape is the one there is (`Host.AtEase.write_unchanged`).  What was
written is read back in normal form.  The text never adds tensors; those that stay keep what it
does not speak of, and the output is the one there was, or what the backend answered if it had to
be asked (`Host.AtEase.tookOver_of_write`).
-/
import Inference.Proofs.Engine.Prompt
import Inference.Proofs.Engine.Setting
import Inference.Proofs.Engine.Wreckage
import Inference.Proofs.Tensor.NormalText

namespace Inference

variable {W : Type}

namespace Host

/-- An engine that lets callers in and has nothing to do. -/
structure AtEase (host : Host W) : Prop where
  isOpen : host.engine.isOpen = true
  unpoisoned : host.engine.deskPoisoned = false
  idle : host.desk.mode = .idle
  parked : host.engine.worker = .parked

/-- A property reads like this, and reading it changes nothing. -/
def Shows (host : Host W) (key text : String) : Prop :=
  host.perform (.read key) = (.done (.text text), host)

variable {host after : Host W} {key value text : String} {info : Descriptor}

theorem AtEase.still (h : host.AtEase) : host.stepWorker = none :=
  stepWorker_of_idle h.parked h.idle

theorem AtEase.shows (h : host.AtEase) (own : host.engine.ownProperty? key = some text) :
    host.Shows key text := by
  have reads : Act.readProperty key host = some (.done text, host) := by
    simp only [Act.readProperty, Act.engine_bind, own]
    rfl
  have ran : Part.run (.readProperty key) host
    = some (.done (.ended (.done (.text text)) none), host) :=
    Act.map_of reads fun text => Call.ended (.done (.text text)) none
  exact perform_of_run rfl h.isOpen h.unpoisoned ran rfl (Outcome.done_ne_crashed _) h.still

/-! ### Another input -/

/-- The engine has been given another input.  It keeps its output if the shape is the same, and
otherwise has the one that the backend answered. -/
structure TookOver (host : Host W) (info : Descriptor) (after : Host W) : Prop where
  engine : after = { host with world := after.world }.withDesk
    { host.desk with input := info, output := after.desk.output }
  same : info.agrees host.desk.input = true →
    after.world = host.world ∧ after.desk.output = host.desk.output
  other : info.agrees host.desk.input = false →
    host.engine.backend.adopt info host.world = (.done after.desk.output, after.world)

theorem TookOver.input (h : host.TookOver info after) : after.desk.input = info := by
  rw [h.engine]
  rfl

theorem TookOver.atEase (h : host.TookOver info after) (ease : host.AtEase) : after.AtEase := by
  rw [h.engine]
  exact ⟨ease.isOpen, ease.unpoisoned, ease.idle, ease.parked⟩

theorem tookOver_of_renegotiate (h : renegotiate info host = some (.done (), after)) :
    host.TookOver info after := by
  cases renegotiate_cases h with
  | renamed _ agrees =>
      refine ⟨rfl, fun _ => ⟨rfl, rfl⟩, fun differs => ?_⟩
      rw [agrees] at differs
      cases differs
  | reshaped _ differs _ adopted =>
      refine ⟨rfl, fun agrees => ?_, fun _ => adopted⟩
      rw [agrees] at differs
      cases differs

theorem tookOver_of_editInput {edited : Descriptor.Edited Unit}
    (h : editInput edited host = some (.done (), after)) :
    edited.1 = .ok () ∧ edited.2.validate = .ok () ∧ host.TookOver edited.2 after := by
  obtain ⟨fault, ⟨⟩, -⟩ | ⟨taken, valid, h⟩ := editInput_cases h
  exact ⟨taken, valid, tookOver_of_renegotiate h⟩

/-! ### Writing a property -/

theorem AtEase.stays (h : host.AtEase) {ending : Outcome Fault Unit}
    (ran : Act.writeProperty key value host = some (ending, after)) :
    after.stepWorker = none ∧ after.poisonDesk.stepWorker = none := by
  have rests : after.engine.worker = .parked ∧ after.desk.mode = .idle := by
    have settles := writeProperty_tunes key value host ending after ran
    have tuned (tuned : host.Tuned after) :
      after.engine.worker = .parked ∧ after.desk.mode = .idle := by
      obtain ⟨_, _, _, _, desk⟩ := tuned.alike.desk
      exact ⟨tuned.alike.worker.trans h.parked, by rw [desk]; exact h.idle⟩
    cases ending with
    | done value => exact tuned settles
    | failed fault => exact tuned settles
    | crashed message =>
        cases settles with
        | intro => exact ⟨h.parked, h.idle⟩
  exact ⟨stepWorker_of_idle rests.1 rests.2, stepWorker_of_idle rests.1 rests.2⟩

/-- A text that was written has been taken, and what it leaves is the new input. -/
theorem AtEase.tookOver_of_write (h : host.AtEase) {edited : Descriptor.Edited Unit}
    (edits : host.desk.input.edited? key value = some edited)
    (done : host.perform (.write key value) = (.done .none, after)) :
    edited = (.ok (), after.desk.input) ∧ after.desk.input.validate = .ok ()
      ∧ host.TookOver after.desk.input after := by
  have quiet : host.desk.mode ≠ .running := by
    simp [h.idle]
  have ran := ran_of_setting rfl h.isOpen h.unpoisoned rfl rfl (fun _ _ => h.stays) h.still done
  rw [writeProperty_of_edited quiet edits] at ran
  obtain ⟨taken, valid, took⟩ := tookOver_of_editInput ran
  obtain ⟨result, info⟩ := edited
  cases took.input
  cases taken
  exact ⟨rfl, valid, took⟩

/-- A text that leaves the input as it is can be written, and nothing happens. -/
theorem AtEase.write_unchanged (h : host.AtEase) (valid : host.desk.input.validate = .ok ())
    (edits : host.desk.input.edited? key value = some (.ok (), host.desk.input)) :
    host.perform (.write key value) = (.done .none, host) := by
  have quiet : host.desk.mode ≠ .running := by
    simp [h.idle]
  have ran : Act.writeProperty key value host = some (.done (), host) := by
    rw [writeProperty_of_edited quiet edits, editInput, Act.ok_bind, valid, Act.ok_bind]
    simp only [renegotiate, Act.desk_bind, if_neg quiet, Descriptor.agrees_refl, if_true]
    rfl
  exact perform_of_setting rfl h.isOpen h.unpoisoned rfl rfl ran
    (Outcome.done_ne_crashed _) h.still

end Host

/-! ### Reading what was written -/

namespace Host

variable {host after : Host W} {value : String}

/-- What is read of the output after the input was written. -/
structure OutputFollows (host after : Host W) : Prop where
  /-- The shape is the one there was, and the backend was not asked. -/
  same : after.desk.input.agrees host.desk.input = true → after.world = host.world
    ∧ after.Shows "output" host.desk.output.dimensionsText
    ∧ after.Shows "outputtype" host.desk.output.typesText
  /-- The backend was asked, and has answered with this output. -/
  other : after.desk.input.agrees host.desk.input = false → ∃ answer,
    host.engine.backend.adopt after.desk.input host.world = (.done answer, after.world)
      ∧ after.Shows "output" answer.dimensionsText ∧ after.Shows "outputtype" answer.typesText

/-- The dimensions were written: they are read in normal form, and the types and names as before, as
far as there are tensors left. -/
structure WroteDimensions (host after : Host W) (value : String) : Prop where
  count : after.desk.input.count ≤ host.desk.input.count
  written : ∃ shapes, Descriptor.SpellsDimensions host.desk.input.rank value.toList shapes
    ∧ after.desk.input.count = shapes.length
    ∧ after.Shows "input" (Descriptor.normalDimensions shapes)
  types : after.Shows "inputtype" (host.desk.input.resize after.desk.input.count).typesText
  names : after.Shows "inputname" (host.desk.input.resize after.desk.input.count).namesText
  output : host.OutputFollows after

/-- The types were written: they are read in lower case, and the dimensions and names as before, as
far as there are tensors left. -/
structure WroteTypes (host after : Host W) (value : String) : Prop where
  count : after.desk.input.count ≤ host.desk.input.count
  written : after.Shows "inputtype" (String.ofList (Text.join [',']
    ((Text.split ',' value.toList).map fun part => Text.lower (Text.trim part))))
  dimensions : after.Shows "input" (host.desk.input.resize after.desk.input.count).dimensionsText
  names : after.Shows "inputname" (host.desk.input.resize after.desk.input.count).namesText
  output : host.OutputFollows after

theorem TookOver.outputFollows {info : Descriptor} (h : host.TookOver info after)
    (ease : host.AtEase) : host.OutputFollows after := by
  have atEase := h.atEase ease
  rw [← h.input] at h
  constructor
  · intro agrees
    obtain ⟨world, output⟩ := h.same agrees
    rw [← output]
    exact ⟨world, atEase.shows rfl, atEase.shows rfl⟩
  · intro differs
    exact ⟨after.desk.output, h.other differs, atEase.shows rfl, atEase.shows rfl⟩

theorem AtEase.wroteDimensions (h : host.AtEase)
    (done : host.perform (.write "input" value) = (.done .none, after)) :
    host.WroteDimensions after value := by
  obtain ⟨taken, valid, took⟩ := h.tookOver_of_write rfl done
  have atEase := took.atEase h
  obtain ⟨shapes, spelled, count, printed⟩ := Descriptor.dimensionsText_of_taken taken
  obtain ⟨fewer, types, names⟩ := Descriptor.kept_by_dimensions taken valid
  exact {
    count := fewer
    written := ⟨shapes, spelled, count, atEase.shows (congrArg some printed)⟩
    types := atEase.shows (congrArg some types)
    names := atEase.shows (congrArg some names)
    output := took.outputFollows h }

theorem AtEase.wroteTypes (h : host.AtEase)
    (done : host.perform (.write "inputtype" value) = (.done .none, after)) :
    host.WroteTypes after value := by
  obtain ⟨taken, valid, took⟩ := h.tookOver_of_write rfl done
  have atEase := took.atEase h
  have printed := Descriptor.typesText_of_taken taken
  rw [Descriptor.entries, List.map_map] at printed
  obtain ⟨fewer, dimensions, names⟩ := Descriptor.kept_by_types taken valid
  exact {
    count := fewer
    written := atEase.shows (congrArg some printed)
    dimensions := atEase.shows (congrArg some dimensions)
    names := atEase.shows (congrArg some names)
    output := took.outputFollows h }

end Host

namespace Crowd

variable {crowd : Crowd W}

/-- The dimensions and the types of a usable input can be written back as they are read, whenever
the engine is idle: nothing happens then, and the backend is not asked.  Any other text for them
that is taken is read in normal form from then on.  There are no more tensors than before, and
those that stay keep their names and what else was not written; the output is the one there was, or
what the backend has answered if the shape is another one.  The backend must not crash outside of
passes. -/
theorem shape_reads_as_written {backend : Backend W} {id : Nat} {options : Options}
    {framework : Framework} {world : W} {live : List Nat} {host : Host W}
    (opened : backend.openAs id options framework world live = .opened host)
    (reliable : backend.Reliable) (reach : Reachable { host } crowd)
    (isOpen : crowd.host.engine.isOpen = true) (idle : crowd.host.desk.mode = .idle)
    (valid : crowd.host.desk.input.validate = .ok ()) :
    (∀ key, key = "input" ∨ key = "inputtype" → ∃ text, crowd.host.Shows key text
        ∧ crowd.host.perform (.write key text) = (.done .none, crowd.host))
      ∧ (∀ value after, crowd.host.perform (.write "input" value) = (.done .none, after) →
        crowd.host.WroteDimensions after value)
      ∧ ∀ value after, crowd.host.perform (.write "inputtype" value) = (.done .none, after) →
        crowd.host.WroteTypes after value := by
  have orderly := Orderly.of_reachable (Backend.fresh_of_opened opened) reach
  have ease : crowd.host.AtEase := {
    isOpen
    unpoisoned := (unharmed_of_reachable (reliable.opened opened) reach).unpoisoned
    idle
    parked := (orderly.ordered.idle idle).1 }
  refine ⟨?_, fun value after => ease.wroteDimensions, fun value after => ease.wroteTypes⟩
  rintro key (rfl | rfl)
  · refine ⟨crowd.host.desk.input.dimensionsText, ease.shows rfl, ease.write_unchanged valid ?_⟩
    exact congrArg some (Descriptor.shaped_of_valid valid).unchanged_by_dimensionsText
  · refine ⟨crowd.host.desk.input.typesText, ease.shows rfl, ease.write_unchanged valid ?_⟩
    exact congrArg some (Descriptor.unchanged_by_typesText valid)

open CustomModel in
/-- Two bytes instead of one, spelled in an unusual way, and their type in capital letters. -/
theorem two_bytes_written : (∃ text, pliableEngine.Shows "input" text
        ∧ pliableEngine.perform (.write "input" text) = (.done .none, pliableEngine))
      ∧ (∃ after, pliableEngine.perform (.write "input" " +2 ") = (.done .none, after)
        ∧ pliableEngine.WroteDimensions after " +2 " ∧ after.desk.input = twoBytes)
      ∧ ∃ after, pliableEngine.perform (.write "inputtype" " UInt8") = (.done .none, after)
        ∧ pliableEngine.WroteTypes after " UInt8" ∧ after.world.2 = [] := by
  obtain ⟨back, dimensions, types⟩ := shape_reads_as_written pliable_opened pliable_reliable .refl
    rfl rfl (by decide +kernel)
  have shaped : ∃ after, pliableEngine.perform (.write "input" " +2 ") = (.done .none, after)
      ∧ after.desk.input = twoBytes := ⟨_, rfl, by decide +kernel⟩
  have typed : ∃ after, pliableEngine.perform (.write "inputtype" " UInt8") = (.done .none, after)
      ∧ after.world.2 = [] := ⟨_, rfl, rfl⟩
  obtain ⟨after, written, taken⟩ := shaped
  obtain ⟨after', written', unasked⟩ := typed
  exact ⟨back "input" (.inl rfl), ⟨after, written, dimensions _ _ written, taken⟩,
    ⟨after', written', types _ _ written', unasked⟩⟩

end Crowd

end Inference
