/-
What naming tensors does to an engine.

Names are written into the input or the output of an engine without asking the backend, and nothing
is checked afterwards.  If there are as many names as tensors nothing but the names has changed,
and the engine takes the same inputs as before and gives outputs of the same shape
(`Host.renamed_sameShapes_iff`, `Host.accepts_renamed_iff`).  If there are not, the naming goes
through all the same, unless there are too many names for any descriptor; and the engine is left
with a descriptor that its backend knows nothing of.
-/
import Inference.Proofs.Engine.Rejection
import Inference.Proofs.Engine.Usability

namespace Inference

variable {W : Type}

/-! ### Engines with other descriptors -/

namespace Host

/-- The engine with other descriptors. -/
def describe (host : Host W) (input output : Descriptor) : Host W :=
  host.withDesk { host.desk with input, output }

variable (host : Host W) (input output : Descriptor)

theorem release_describe (regions : List Bytes) : (host.describe input output).release regions
    = ((host.release regions).1, (host.release regions).2.describe input output) := by
  have released : (host.describe input output).engine.backend.release regions
      (host.describe input output).world = host.engine.backend.release regions host.world := rfl
  unfold release
  rw [released]
  obtain ⟨crash, world⟩ := host.engine.backend.release regions host.world
  cases crash <;> rfl

theorem settle_describe :
    (host.describe input output).settle = host.settle.describe input output := by
  unfold settle
  by_cases last : (!host.desk.attached && host.engine.lent == 0) = true
  · rw [if_pos last]
    exact if_pos last
  · rw [if_neg last]
    exact if_neg last

theorem takeBack_describe (frame : Frame) : (host.describe input output).takeBack frame
    = ((host.takeBack frame).1, (host.takeBack frame).2.describe input output) := by
  unfold takeBack
  rw [release_describe]
  obtain ⟨crash, after⟩ := host.release frame.present
  have settled := settle_describe
    { after with engine := { after.engine with lent := after.engine.lent - 1 } } input output
  exact congrArg (Prod.mk crash) settled

theorem forget_describe (desk : Desk) : { desk with input, output }.forget
    = (desk.forget.1, { desk.forget.2 with input, output }) := by
  have awaited : { desk with input, output }.awaited? = desk.awaited? := rfl
  unfold Desk.forget
  rw [awaited]
  cases desk.awaited? with
  | some number => rfl
  | none => rfl

theorem stale_describe : (host.describe input output).stale = host.stale := by
  have same := forget_describe input output { host.desk with mode := .running }
  have frames := congrArg (fun forgotten : Option Frame × Desk => forgotten.1.toList) same
  exact frames

theorem cleared_describe :
    (host.describe input output).cleared = host.cleared.describe input output := by
  have same := forget_describe input output { host.desk with mode := .running }
  have hosts := congrArg (fun forgotten : Option Frame × Desk => host.withDesk forgotten.2) same
  exact hosts

theorem Drops.describe {host after : Host W} {frames : List Frame} {crash : Option String}
    (drops : host.Drops frames crash after) (input output : Descriptor) :
    (host.describe input output).Drops frames crash (after.describe input output) := by
  have taken {host after : Host W} {frame : Frame} {crash : Option String}
      (back : host.takeBack frame = (crash, after)) :
      (host.describe input output).takeBack frame = (crash, after.describe input output) := by
    rw [takeBack_describe, back]
  induction drops with
  | nil host => exact .nil _
  | plain plain _ ih => exact .plain plain ih
  | returned leased free back _ ih => exact .returned leased free (taken back) ih
  | crashed leased free back => exact .crashed leased free (taken back)

end Host

/-! ### Inputs that are accepted -/

/-- A pass on the frame is accepted, and the output is agreed for it. -/
def Host.Accepts (host : Host W) (frame : Frame) (timeout : Nat) (output : Descriptor) : Prop :=
  ∃ ticket after, (Call.entering (.submit { input := frame } timeout)).step host
      = some (.awaiting { input := frame } timeout ticket, after)
    ∧ after.desk.request = some { ticket, input := frame.copyFor .engine, output }

theorem Host.accepts_iff {host : Host W} {frame : Frame} {timeout : Nat} {output : Descriptor} :
    host.Accepts frame timeout output ↔ host.engine.deskPoisoned = false
      ∧ host.desk.mode = .idle ∧ ¬ frame.Misfits host.desk.input ∧ output = host.desk.output
      ∧ ∃ dropped, host.cleared.Drops host.stale none dropped := by
  have plain : (Part.submitTask { input := frame } timeout : Act W Call)
      = Part.submitFitting { input := frame } timeout := Part.submitTask_of_none rfl timeout
  have agreed {dropped : Host W} (drops : host.cleared.Drops host.stale none dropped) :
      dropped.desk.output = host.desk.output :=
    (host.cleared_sameTerms.trans drops.sameTerms).output
  constructor
  · rintro ⟨ticket, after, step, request⟩
    obtain ⟨-, ended, -⟩ | ⟨unpoisoned, outcome, middle, ran, settled, ending⟩ :=
      Call.entering_cases step
    · cases ended
    refine ⟨unpoisoned, ?_⟩
    rw [Part.run, plain] at ran
    obtain ⟨fault, rfl, -⟩ | ⟨fits, idle, ⟨dropped, drops, rfl, rfl⟩ | ⟨message, -, rfl⟩⟩ :=
      Part.submitFitting_cases ran
    · cases settled
    · refine ⟨idle, fits, ?_, dropped, drops⟩
      obtain ⟨-, rfl⟩ | ⟨message, crash, -⟩ := ending
      · cases request
        exact agreed drops
      · cases crash
    · cases settled
  · rintro ⟨unpoisoned, idle, fits, rfl, dropped, drops⟩
    have ran : Part.run (.submit { input := frame } timeout) host
        = some (.done (.awaiting { input := frame } timeout (dropped.desk.ticket + 1)),
          dropped.enqueue { input := frame }) := by
      rw [Part.run, plain, Part.submitFitting_of_fit fits idle]
      show Act.bind _ _ _ = _
      simp only [Act.bind, dropAll_of_drops drops, dropEnding]
    refine ⟨dropped.desk.ticket + 1, dropped.enqueue { input := frame }, ?_, ?_⟩
    · exact Call.step_of_run unpoisoned ran (by simp)
    · show some (dropped.requestFor _) = _
      rw [Host.requestFor, agreed drops]

theorem Host.accepts_describe {host : Host W} {frame : Frame} {timeout : Nat}
    {output : Descriptor} (accepts : host.Accepts frame timeout output)
    (input' output' agreed : Descriptor) :
    (host.describe input' output').Accepts frame timeout agreed
      ↔ input'.sizes = host.desk.input.sizes ∧ agreed = output' := by
  obtain ⟨unpoisoned, idle, fits, -, dropped, drops⟩ := accepts_iff.1 accepts
  obtain ⟨sizes, inputs, bytes⟩ := Frame.not_misfits.1 fits
  rw [accepts_iff, Frame.not_misfits, stale_describe, cleared_describe]
  constructor
  · rintro ⟨-, -, ⟨sizes', -⟩, same, -⟩
    exact ⟨sizes'.symm.trans sizes, same⟩
  · rintro ⟨sizes', same⟩
    exact ⟨unpoisoned, idle, ⟨sizes.trans sizes'.symm, inputs, bytes⟩, same, _,
      drops.describe input' output'⟩

/-! ### Naming -/

/-- The descriptor whose tensors a key names. -/
def Desk.named (desk : Desk) (key : String) : Descriptor :=
  if key = "inputname" then desk.input else desk.output

/-- The same tensors, up to their names. -/
structure Desk.SameShapes (desk after : Desk) : Prop where
  input : after.input.unnamed = desk.input.unnamed
  output : after.output.unnamed = desk.output.unnamed

namespace Host

/-- The engine once a caller has named tensors.  That cannot be done if the lock is poisoned. -/
def renamed (host : Host W) (key text : String) : Host W :=
  if host.engine.deskPoisoned then host
  else if key = "inputname" then
    host.describe (host.desk.input.setNamesText text).2 host.desk.output
  else host.describe host.desk.input (host.desk.output.setNamesText text).2

/-- No name can be written, or there is one for each tensor. -/
def Counted (host : Host W) (key text : String) : Prop :=
  host.engine.deskPoisoned = true ∨ tensorLimit < Descriptor.nameCount text
    ∨ Descriptor.nameCount text = (host.desk.named key).count

variable {host : Host W} {key text : String}

theorem renamed_of_poisoned (poisoned : host.engine.deskPoisoned = true) :
    host.renamed key text = host := if_pos poisoned

theorem renamed_input (unpoisoned : host.engine.deskPoisoned = false) :
    host.renamed "inputname" text
      = host.describe (host.desk.input.setNamesText text).2 host.desk.output := by
  unfold renamed
  rw [if_neg (by simp [unpoisoned]), if_pos rfl]

theorem renamed_output (unpoisoned : host.engine.deskPoisoned = false) (other : key ≠ "inputname") :
    host.renamed key text
      = host.describe host.desk.input (host.desk.output.setNamesText text).2 := by
  unfold renamed
  rw [if_neg (by simp [unpoisoned]), if_neg other]

theorem counted_iff (unpoisoned : host.engine.deskPoisoned = false) : host.Counted key text
    ↔ tensorLimit < Descriptor.nameCount text
      ∨ Descriptor.nameCount text = (host.desk.named key).count := by
  unfold Counted
  rw [unpoisoned]
  simp

theorem renamed_of_many (many : tensorLimit < Descriptor.nameCount text) :
    host.renamed key text = host := by
  have kept (d : Descriptor) : (d.setNamesText text).2 = d := by
    obtain ⟨fault, same⟩ := Descriptor.setNamesText_of_lt (d := d) many
    rw [same]
  unfold renamed
  rw [kept, kept]
  split
  · rfl
  · split <;> rfl

/-- The shapes are kept if the names are counted, and only then. -/
theorem renamed_sameShapes_iff :
    host.desk.SameShapes (host.renamed key text).desk ↔ host.Counted key text := by
  by_cases poisoned : host.engine.deskPoisoned = true
  · rw [renamed_of_poisoned poisoned]
    exact ⟨fun _ => .inl poisoned, fun _ => ⟨rfl, rfl⟩⟩
  have unpoisoned : host.engine.deskPoisoned = false := by simpa using poisoned
  rw [counted_iff unpoisoned]
  by_cases input : key = "inputname"
  · subst input
    rw [renamed_input unpoisoned]
    refine Iff.trans ?_ (Descriptor.unnamed_setNamesText_iff (d := host.desk.input))
    exact ⟨fun same => same.input, fun same => ⟨same, rfl⟩⟩
  · rw [renamed_output unpoisoned input, Desk.named, if_neg input]
    refine Iff.trans ?_ (Descriptor.unnamed_setNamesText_iff (d := host.desk.output))
    exact ⟨fun same => same.output, fun same => ⟨rfl, same⟩⟩

/-- The descriptors can still be used unless a tensor was added to one of them. -/
theorem renamed_usable_iff (usable : host.desk.Usable) : (host.renamed key text).desk.Usable
    ↔ host.Counted key text ∨ Descriptor.nameCount text < (host.desk.named key).count := by
  by_cases poisoned : host.engine.deskPoisoned = true
  · rw [renamed_of_poisoned poisoned]
    exact ⟨fun _ => .inl (.inl poisoned), fun _ => usable⟩
  have unpoisoned : host.engine.deskPoisoned = false := by simpa using poisoned
  have few (count : Nat) : (tensorLimit < Descriptor.nameCount text
        ∨ Descriptor.nameCount text = count) ∨ Descriptor.nameCount text < count
      ↔ tensorLimit < Descriptor.nameCount text ∨ Descriptor.nameCount text ≤ count := by
    omega
  rw [counted_iff unpoisoned, few]
  by_cases input : key = "inputname"
  · subst input
    rw [renamed_input unpoisoned]
    refine Iff.trans ?_ (Descriptor.validate_setNamesText_iff usable.input)
    exact ⟨fun after => after.input, fun valid => ⟨valid, usable.output⟩⟩
  · rw [renamed_output unpoisoned input, Desk.named, if_neg input]
    refine Iff.trans ?_ (Descriptor.validate_setNamesText_iff usable.output)
    exact ⟨fun after => after.output, fun valid => ⟨usable.input, valid⟩⟩

/-- An input that was accepted is still accepted, for an output of the same shape, if the names are
counted, and only then. -/
theorem accepts_renamed_iff {frame : Frame} {timeout : Nat} {output : Descriptor}
    (accepts : host.Accepts frame timeout output) :
    (∃ agreed, (host.renamed key text).Accepts frame timeout agreed
      ∧ agreed.unnamed = output.unnamed) ↔ host.Counted key text := by
  obtain ⟨unpoisoned, -, -, rfl, -⟩ := accepts_iff.1 accepts
  rw [counted_iff unpoisoned]
  by_cases input : key = "inputname"
  · subst input
    rw [renamed_input unpoisoned]
    refine Iff.trans ?_ (Descriptor.sizes_setNamesText_iff (d := host.desk.input))
    simp only [accepts_describe accepts]
    exact ⟨fun ⟨_, ⟨sizes, _⟩, _⟩ => sizes, fun sizes => ⟨_, ⟨sizes, rfl⟩, rfl⟩⟩
  · rw [renamed_output unpoisoned input, Desk.named, if_neg input]
    refine Iff.trans ?_ (Descriptor.unnamed_setNamesText_iff (d := host.desk.output))
    simp only [accepts_describe accepts]
    exact ⟨fun ⟨_, ⟨_, same⟩, shape⟩ => same ▸ shape, fun shape => ⟨_, ⟨trivial, rfl⟩, shape⟩⟩

theorem writeProperty_naming (text : String) (naming : isNameKey key = true)
    (quiet : host.desk.mode ≠ .running) (unpoisoned : host.engine.deskPoisoned = false) :
    Act.writeProperty key text host
      = some (.ofExcept ((host.desk.named key).setNamesText text).1, host.renamed key text) := by
  have keys : key = "inputname" ∨ key = "outputname" := by
    simpa [isNameKey] using naming
  unfold Act.writeProperty
  rw [Act.desk_bind, if_neg fun busy => quiet busy.1]
  rcases keys with rfl | rfl
  · rw [if_neg (by simp), if_neg (by simp), if_pos rfl, renamed_input unpoisoned]
    rfl
  · rw [if_neg (by simp), if_neg (by simp), if_neg (by simp), if_pos rfl,
      renamed_output unpoisoned (by simp)]
    rfl

/-- What the attempt to name tensors ends in.  If it fails nothing has been written. -/
theorem step_naming (text : String) (naming : isNameKey key = true)
    (quiet : host.desk.mode ≠ .running) :
    ∃ answer, (Call.entering (.writeProperty key text)).step host
        = some (.ended answer none, host.renamed key text)
      ∧ (answer = .done .none
        ∨ (∃ fault, answer = .failed fault) ∧ host.renamed key text = host) := by
  by_cases poisoned : host.engine.deskPoisoned = true
  · rw [renamed_of_poisoned poisoned]
    refine ⟨.failed .poisonedLock, ?_, .inr ⟨⟨_, rfl⟩, rfl⟩⟩
    simp only [Call.step, Act.locked, poisoned, if_true]
    rfl
  have unpoisoned : host.engine.deskPoisoned = false := by simpa using poisoned
  have written := writeProperty_naming text naming quiet unpoisoned
  by_cases many : tensorLimit < Descriptor.nameCount text
  · obtain ⟨fault, refused⟩ := Descriptor.setNamesText_of_lt (d := host.desk.named key) many
    have ran : Part.run (.writeProperty key text) host
        = some (.failed fault, host.renamed key text) := by
      show Act.bind _ _ host = _
      simp only [Act.bind, written, refused]
      rfl
    exact ⟨.failed fault, Call.step_of_run unpoisoned ran (by simp),
      .inr ⟨⟨fault, rfl⟩, renamed_of_many many⟩⟩
  · have named := Descriptor.setNamesText_of_le (d := host.desk.named key) (Nat.not_lt.1 many)
    have ran : Part.run (.writeProperty key text) host
        = some (.done (.ended (.done .none) none), host.renamed key text) := by
      show Act.bind _ _ host = _
      simp only [Act.bind, written, named]
      rfl
    exact ⟨.done .none, Call.step_of_run unpoisoned ran (by simp), .inl rfl⟩

end Host

namespace Crowd

/-- A caller that names tensors changes nothing but names if there is one for each tensor of the
descriptor, or if the attempt fails, and only then.  Only then does the engine still accept the
inputs that it accepted before, for an output of the same shape, which is the shape of what is given
for them.  Too few names leave descriptors that can be used all the same, too many do not. -/
theorem naming_keeps_shapes_iff_counted {backend : Backend W} {id : Nat} {options : Options}
    {framework : Framework} {world : W} {live : List Nat} {host : Host W}
    (opened : backend.openAs id options framework world live = .opened host) {crowd : Crowd W}
    {chronicle : Chronicle} (lived : Lived { host } crowd chronicle) {caller : Nat}
    {key text : String} (naming : isNameKey key = true)
    (enters : crowd.calls[caller]? = some (.entering (.writeProperty key text)))
    (idle : crowd.host.desk.mode = .idle) :
    ∃ next answer, crowd.after? (.steps caller) = some next
      ∧ next.calls[caller]? = some (.ended answer none)
      ∧ next.host = crowd.host.renamed key text
      ∧ (answer = .done .none ∨ (∃ fault, answer = .failed fault) ∧ next.host = crowd.host)
      ∧ (crowd.host.desk.SameShapes next.host.desk ↔ crowd.host.Counted key text)
      ∧ (crowd.host.desk.Usable → (next.host.desk.Usable ↔ crowd.host.Counted key text
        ∨ Descriptor.nameCount text < (crowd.host.desk.named key).count))
      ∧ (∀ frame timeout output, crowd.host.Accepts frame timeout output →
        ((∃ agreed, next.host.Accepts frame timeout agreed ∧ agreed.unnamed = output.unnamed)
          ↔ crowd.host.Counted key text))
      ∧ ∀ submitted task timeout s, next.Occasion submitted task timeout s →
        task.reshape = none → ∀ later since, Lived submitted later since →
          ∀ output, later.given? s.caller = some output →
            output.info = next.host.desk.output := by
  have fresh := Backend.fresh_of_opened opened
  have quiet : crowd.host.desk.mode ≠ .running := by
    rw [idle]
    simp
  obtain ⟨answer, step, ends⟩ := Host.step_naming text naming quiet
  have made := after?_steps enters step
  refine ⟨_, answer, made, ?_, rfl, ends, Host.renamed_sameShapes_iff, Host.renamed_usable_iff,
    fun frame timeout output => Host.accepts_renamed_iff, ?_⟩
  · rw [getElem?_update enters, if_pos rfl]
  · intro submitted task timeout s occasion plain later since onward output given
    rw [occasion.given_info fresh (.move lived _ made) onward given]
    exact occasion.output_of_plain plain

end Crowd

namespace CustomModel

/-- A caller finds the handle open and is about to name tensors. -/
def aboutToName (key text : String) : List Move := [.begins (.write key text), .steps 0]

/-- A pass on two bytes, then two names for one of the descriptors, and then the two bytes are
brought again. -/
def miscounted (key : String) : List Move :=
  .begins (.infer (twoByteFrame [5, 6]) none) :: List.replicate 4 (.steps 0)
    ++ List.replicate 4 .works ++ .steps 0
    :: .begins (.write key "a,b") :: List.replicate 2 (.steps 1)
    ++ .begins (.infer (twoByteFrame [5, 6]) none) :: List.replicate 4 (.steps 2)

end CustomModel

namespace Crowd

open CustomModel in
/-- There is one tensor, and one name for it. -/
theorem counted_name_keeps_shapes : ∃ crowd next : Crowd Unit,
    Crowd.afterAll? { host := elasticEngine } (aboutToName "inputname" "a") = some crowd
      ∧ crowd.after? (.steps 0) = some next ∧ next.host.desk.input.namesText = "a"
      ∧ crowd.host.desk.SameShapes next.host.desk ∧ next.host.desk.Usable
      ∧ ∃ agreed, next.host.Accepts (twoByteFrame [5, 6]) 0 agreed
        ∧ agreed.unnamed = twoBytes.unnamed := by
  have run : (Crowd.afterAll? { host := elasticEngine } (aboutToName "inputname" "a"))
      = some { host := elasticEngine, calls := [.entering (.writeProperty "inputname" "a")] } := rfl
  obtain ⟨chronicle, lived, -⟩ := Lived.run .start run
  have counted : elasticEngine.Counted "inputname" "a" := by
    refine .inr (.inr ?_)
    decide +kernel
  have usable : elasticEngine.desk.Usable := Backend.usable_of_opened elastic_opened
  have accepts : elasticEngine.Accepts (twoByteFrame [5, 6]) 0 twoBytes := by
    refine Host.accepts_iff.2 ⟨rfl, rfl, ?_, rfl, _, .nil _⟩
    exact Frame.not_misfits.2 ⟨rfl, _, rfl⟩
  have enters : [Call.entering (.writeProperty "inputname" "a")][0]?
      = some (.entering (.writeProperty "inputname" "a")) := rfl
  obtain ⟨next, answer, made, -, host, -, shapes, valid, accepted, -⟩ :=
    naming_keeps_shapes_iff_counted elastic_opened lived rfl enters rfl
  refine ⟨_, next, run, made, ?_, shapes.2 counted, (valid usable).2 (.inl counted),
    (accepted _ _ _ accepts).2 counted⟩
  rw [host]
  decide +kernel

open CustomModel in
/-- Two names for a single input tensor.  The naming goes through, the input can no longer be used,
and the bytes that were accepted before it are refused.  With two names for the output the second
answer is of another shape than the first. -/
theorem miscounted_names_change_shape :
    elastic.openAs 0 {} .custom () [] = .opened elasticEngine
      ∧ (∃ crowd : Crowd Unit,
        Crowd.afterAll? { host := elasticEngine } (miscounted "inputname") = some crowd
          ∧ (crowd.given? 0).map (·.info.sizes) = some [2]
          ∧ (crowd.calls[1]?.map Call.isOver, crowd.calls[1]?.bind Call.fault?) = (some true, none)
          ∧ crowd.host.desk.input.sizes = [2, 0] ∧ crowd.host.desk.input.isValid = false
          ∧ (crowd.calls[2]?.bind Call.fault?)
            = some (Part.sizeMismatch "input" "expects" [2] [2, 0]))
      ∧ ∃ crowd : Crowd Unit, Crowd.afterAll? { host := elasticEngine }
          (miscounted "outputname" ++ List.replicate 4 .works ++ [.steps 2]) = some crowd
        ∧ (crowd.given? 0).map (·.info.sizes) = some [2]
        ∧ (crowd.calls[1]?.map Call.isOver, crowd.calls[1]?.bind Call.fault?) = (some true, none)
        ∧ crowd.host.desk.output.isValid = false
        ∧ (crowd.given? 2).map (·.info.sizes) = some [2, 0] := by
  refine ⟨elastic_opened, exists_of_any ?_, exists_of_any ?_⟩
  · decide +kernel
  · decide +kernel

end Crowd

end Inference
