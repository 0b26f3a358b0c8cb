/-
Setting something in vain.

A property is written, or an engine given another input, under the lock.  That can come to nothing
at many points: the text cannot be read, the descriptor it leaves cannot be used, a pass is
running, the backend refuses, or its answer is of no use.  At none of them has anything been
written yet, so that a failure leaves the engine as it was, and at most the backend has been asked
(`Part.unaltered_of_failed`).

With a request in flight the backend is not even asked, as long as the handle is not being closed
(`Part.run_busy`).  What can be set all the same is the timeout.
-/
import Inference.Proofs.Engine.Course
import Inference.Proofs.Engine.Failing
import Inference.Proofs.Engine.Terms
import Inference.Proofs.Tensor.RefusedText
import Inference.Proofs.Text.Spelling

namespace Inference

variable {W : Type}

/-- Nothing about the engine has changed.  At most its backend was asked something, and that only
without a pass. -/
structure Host.Unaltered (host after : Host W) : Prop where
  same : after = { host with world := after.world }
  unasked : after.world = host.world
    ∨ host.desk.mode ≠ .running ∧ host.engine.backend.Asked host.world after.world

theorem Host.Unaltered.refl (host : Host W) : host.Unaltered host := ⟨rfl, .inl rfl⟩

/-! ### Where it can fail -/

section failures

variable {host after : Host W} {fault : Fault}

/-- Asking the backend changes nothing else, unless the backend crashes. -/
theorem Act.unaltered_of_useBackend {α : Type} {use : Backend W → W → Outcome Fault α × W}
    {outcome : Outcome Fault α} (quiet : host.desk.mode ≠ .running)
    (asked : host.engine.backend.Asked host.world (use host.engine.backend host.world).2)
    (h : useBackend use host = some (outcome, after))
    (calm : ∀ message, outcome ≠ .crashed message) : host.Unaltered after := by
  obtain ⟨_, -, rfl⟩ | ⟨-, world, used, ⟨-, rfl⟩ | ⟨message, crashed, -⟩⟩ := useBackend_cases h
  · exact .refl after
  · rw [used] at asked
    exact ⟨rfl, .inr ⟨quiet, asked⟩⟩
  · exact absurd crashed (calm message)

theorem renegotiate_failed {info : Descriptor}
    (h : renegotiate info host = some (.failed fault, after)) : host.Unaltered after := by
  cases renegotiate_cases h with
  | busy | unasked => exact .refl host
  | refused quiet _ _ adopted => exact ⟨rfl, .inr ⟨quiet, Backend.asked_of_adopt adopted⟩⟩
  | useless quiet _ _ adopted => exact ⟨rfl, .inr ⟨quiet, Backend.asked_of_adopt adopted⟩⟩

theorem editInput_failed {edited : Descriptor.Edited Unit}
    (h : editInput edited host = some (.failed fault, after)) : host.Unaltered after := by
  obtain ⟨_, -, rfl⟩ | ⟨-, -, h⟩ := editInput_cases h
  · exact .refl after
  · exact renegotiate_failed h

/-- Names that are refused leave the descriptor as it was. -/
theorem unaltered_of_setNamesText {d : Descriptor} {text : String} (write : Descriptor → Desk)
    (whole : host.withDesk (write d) = host)
    (refused : Outcome.ofExcept (d.setNamesText text).1 = .failed fault) :
    host.Unaltered (host.withDesk (write (d.setNamesText text).2)) := by
  cases named : d.setNamesText text with
  | mk result left =>
      rw [named] at refused
      cases result with
      | ok => cases refused
      | error defect =>
          rw [Descriptor.unchanged_of_setNamesText named, whole]
          exact .refl host

theorem writeProperty_failed {key value : String}
    (h : Act.writeProperty key value host = some (.failed fault, after)) :
    host.Unaltered after := by
  cases writeProperty_cases h with
  | refused => exact .refl host
  | edited _ ran => exact editInput_failed ran
  | inputNames _ _ ended =>
      exact unaltered_of_setNamesText (fun input => { host.desk with input }) rfl ended
  | outputNames _ _ ended =>
      exact unaltered_of_setNamesText (fun output => { host.desk with output }) rfl ended
  | foreign quiet _ asked =>
      exact Act.unaltered_of_useBackend quiet (.write key value) asked
        (Outcome.failed_ne_crashed _)

end failures

/-! ### Calls that set something -/

/-- What an operation does under the lock that writes a property or brings another input. -/
def Operation.setting? : Operation → Option Part
  | write key value => some (.writeProperty key value)
  | reshape info => some (.reshape info)
  | _ => none

theorem Operation.setting_cases {operation : Operation} {part : Part}
    (sets : operation.setting? = some part) :
    (∃ key value, operation = .write key value ∧ part = .writeProperty key value)
      ∨ ∃ info, operation = .reshape info ∧ part = .reshape info := by
  cases operation with
  | write key value =>
      cases sets
      exact .inl ⟨key, value, rfl, rfl⟩
  | reshape info =>
      cases sets
      exact .inr ⟨info, rfl, rfl⟩
  | _ => cases sets

/-- What failed before there was something to return failed in its first part. -/
theorem Act.failed_of_first {act : Act W Unit} {host after : Host W} {call : Call} {fault : Fault}
    (h : (do act; return call : Act W Call) host = some (.failed fault, after)) :
    act host = some (.failed fault, after) := by
  obtain ⟨_, _, -, ⟨⟩⟩ | ⟨_, failed, ⟨⟩⟩ | ⟨_, -, ⟨⟩⟩ := Act.bind_cases h
  exact failed

namespace Part

variable {operation : Operation} {part : Part} {host after : Host W}

theorem target_of_setting (sets : operation.setting? = some part) : part.target? = none := by
  obtain ⟨key, value, -, rfl⟩ | ⟨info, -, rfl⟩ := operation.setting_cases sets <;> rfl

theorem unaltered_of_failed (sets : operation.setting? = some part) {fault : Fault}
    (ran : part.run host = some (.failed fault, after)) : host.Unaltered after := by
  obtain ⟨key, value, -, rfl⟩ | ⟨info, -, rfl⟩ := operation.setting_cases sets
  · exact writeProperty_failed (Act.failed_of_first ran)
  · exact renegotiate_failed (Act.failed_of_first ran)

theorem ended_of_setting (sets : operation.setting? = some part) {last : Call}
    (ran : part.run host = some (.done last, after)) : last = .ended (.done .none) none := by
  obtain ⟨key, value, -, rfl⟩ | ⟨info, -, rfl⟩ := operation.setting_cases sets
  · obtain ⟨⟨⟩, same⟩ := Part.done_of_map ran
    exact same
  · obtain ⟨⟨⟩, same⟩ := Part.done_of_map ran
    exact same

/-- During a pass nothing but the timeout can be set, and the backend is not asked. -/
theorem run_busy (sets : operation.setting? = some part)
    (other : ∀ value, operation ≠ .write "timeout" value) (running : host.desk.mode = .running) :
    part.run host = some (.failed .busy, host) := by
  obtain ⟨key, value, rfl, rfl⟩ | ⟨info, -, rfl⟩ := operation.setting_cases sets
  · have guard : host.desk.mode = .running ∧ key ≠ "timeout" :=
      ⟨running, fun timeout => other value (by rw [timeout])⟩
    simp only [run, Act.writeProperty]
    show Act.bind _ _ host = _
    simp only [Act.bind, Act.desk_bind, if_pos guard, Act.fail_run]
  · simp only [run, renegotiate]
    show Act.bind _ _ host = _
    simp only [Act.bind, Act.desk_bind, if_pos running, Act.fail_run]

theorem run_timeout (value : String) (host : Host W) :
    run (.writeProperty "timeout" value) host = match Inference.readTimeout value with
      | .ok milliseconds => some (.done (.ended (.done .none) none),
          host.withDesk { host.desk with timeout := milliseconds })
      | .error fault => some (.failed fault, host) := by
  have guard : ¬ (host.desk.mode = .running ∧ "timeout" ≠ "timeout") := fun busy => busy.2 rfl
  simp only [run, Act.writeProperty]
  show Act.bind _ _ host = _
  simp only [Act.bind, Act.desk_bind, if_neg guard]
  cases Inference.readTimeout value <;> simp

end Part

theorem readTimeout_eq_ok {value : String} {milliseconds : Nat}
    (numeral : Text.Numeral (Text.trim value.toList) milliseconds)
    (below : milliseconds < wordLimit) :
    readTimeout value = .ok milliseconds := by
  rw [readTimeout, Text.readBelow?_eq_some_iff.2 ⟨numeral, below⟩]

theorem readTimeout_eq_error {value : String} (none : ∀ milliseconds,
    Text.Numeral (Text.trim value.toList) milliseconds → wordLimit ≤ milliseconds) :
    ∃ detail, readTimeout value = .error (.invalidParameter detail) := by
  unfold readTimeout
  cases read : Text.readBelow? wordLimit (Text.trim value.toList) with
  | none => exact ⟨_, rfl⟩
  | some milliseconds =>
      obtain ⟨numeral, below⟩ := Text.readBelow?_eq_some_iff.1 read
      exact absurd below (Nat.not_lt.2 (none milliseconds numeral))

/-- Where a call stands that is to set something. -/
inductive Call.Sets (part : Part) : Call → Prop where
  | coming : Sets part (.checking part)
  | inside : Sets part (.entering part)
  | through (answer : Outcome Fault Reply) (target : Option Frame) :
      Sets part (.ended answer target)

namespace Call.Sets

variable {operation : Operation} {part : Part} {call next : Call} {host after : Host W}

theorem begins (sets : operation.setting? = some part) : operation.call.Sets part := by
  obtain ⟨key, value, rfl, rfl⟩ | ⟨info, rfl, rfl⟩ := operation.setting_cases sets
  · exact .coming
  · show (Operation.guarded info (.reshape info)).Sets _
    unfold Operation.guarded
    cases info.validate with
    | error fault => exact .through _ _
    | ok => exact .coming

theorem goes_of_ended (answer : Outcome Fault Reply) (target : Option Frame)
    (failed : ∀ fault, answer = .failed fault → host.Unaltered after) :
    (Call.ended answer target).Sets part
      ∧ ((Call.ended answer target).isOver = false → after = host)
      ∧ ∀ fault target', Call.ended answer target = .ended (.failed fault) target' →
        host.Unaltered after := by
  refine ⟨.through answer target, fun waits => Bool.noConfusion waits, fun fault _ told => ?_⟩
  cases told
  exact failed fault rfl

/-- A call that sets something changes nothing before it is over, and nothing at all if it
fails. -/
theorem goes (h : call.Sets part) (sets : operation.setting? = some part)
    (goes : call.Goes host next after) : next.Sets part ∧ (next.isOver = false → after = host)
      ∧ ∀ fault target, next = .ended (.failed fault) target → host.Unaltered after := by
  cases h with
  | coming =>
      have step := goes.step rfl
      simp only [Call.step] at step
      split at step <;> cases step
      · exact ⟨.inside, fun _ => rfl, by simp⟩
      · exact goes_of_ended _ _ fun _ _ => .refl host
  | inside =>
      rcases entering_cases (goes.step rfl) with
        ⟨-, rfl, rfl⟩ | ⟨-, outcome, middle, ran, rfl, ending⟩
      · exact goes_of_ended _ _ fun _ _ => .refl _
      cases outcome with
      | failed fault =>
          obtain ⟨-, rfl⟩ | ⟨message, ⟨⟩, -⟩ := ending
          exact goes_of_ended _ _ fun _ _ => Part.unaltered_of_failed sets ran
      | crashed message => exact goes_of_ended _ _ fun _ told => by cases told
      | done last =>
          cases Part.ended_of_setting sets ran
          exact goes_of_ended _ _ fun _ told => by cases told
  | through => cases goes.callStep

end Call.Sets

/-- The model that takes any input has nothing but passes in which it could crash. -/
theorem CustomModel.pliable_reliable : pliable.Reliable where
  adopts := nofun
  reads := nofun
  writes := nofun
  releases _ _ := rfl

/-! ### Setting something among others -/

namespace Crowd

variable {crowd next : Crowd W} {caller : Nat} {operation : Operation} {part : Part}

theorem afterAll?_uninterrupted {after : Host W} {outcome : Outcome Fault Call}
    (begins : operation.call = .checking part) (kept : crowd.givenUp = false)
    (isOpen : crowd.host.engine.isOpen = true) (unpoisoned : crowd.host.engine.deskPoisoned = false)
    (ran : part.run crowd.host = some (outcome, after))
    (calm : ∀ message, outcome ≠ .crashed message) :
    crowd.afterAll? [.begins operation, .steps crowd.calls.length, .steps crowd.calls.length]
      = some { crowd with
          host := after, calls := crowd.calls ++ [Call.settle part.target? outcome] } := by
  have begun : crowd.after? (.begins operation)
      = some { crowd with calls := crowd.calls ++ [.checking part] } := by
    simp only [after?, kept, Bool.false_eq_true, if_false, begins]
  have set (call other : Call) : (crowd.calls ++ [call]).set crowd.calls.length other
      = crowd.calls ++ [other] := by
    rw [List.set_append_right _ _ (Nat.le_refl _), Nat.sub_self, List.set_cons_zero]
  have checked : after? { crowd with calls := crowd.calls ++ [.checking part] }
      (.steps crowd.calls.length) = some _ :=
    after?_steps List.getElem?_concat_length (Call.step_checking isOpen)
  have entered : after? { crowd with calls := crowd.calls ++ [.entering part] }
      (.steps crowd.calls.length) = some _ :=
    after?_steps List.getElem?_concat_length (Call.step_of_run unpoisoned ran calm)
  simp only [update, set] at checked entered
  simp only [afterAll?, begun, Option.bind_some, checked, entered]

/-- What the steps of a caller that sets something do. -/
structure SetsQuietly (crowd : Crowd W) (caller : Nat) : Prop where
  /-- Nothing happens before the call is over. -/
  before : ∀ move next call, move.caller? = some caller → crowd.after? move = some next →
    next.calls[caller]? = some call → call.isOver = false → next.host = crowd.host
  /-- Nor does it if the call fails. -/
  failed : ∀ move next fault target, move.caller? = some caller → crowd.after? move = some next →
    next.calls[caller]? = some (.ended (.failed fault) target) → crowd.host.Unaltered next.host

theorem setsQuietly_of_sets (sets : operation.setting? = some part) {call : Call}
    (found : crowd.calls[caller]? = some call) (stands : call.Sets part) :
    crowd.SetsQuietly caller := by
  have goes {move : Move} {next : Crowd W} (mover : move.caller? = some caller)
      (made : crowd.after? move = some next) : ∃ after : Call, call.Goes crowd.host after next.host
        ∧ next.calls[caller]? = some after := by
    obtain ⟨_, after, host, found', goes, rfl⟩ := goes_of_after? made mover
    cases found.symm.trans found'
    refine ⟨after, goes, ?_⟩
    rw [getElem?_update found, if_pos rfl]
  constructor
  · intro move next call mover made here waits
    obtain ⟨after, goes, here'⟩ := goes mover made
    cases here.symm.trans here'
    exact (stands.goes sets goes).2.1 waits
  · intro move next fault target mover made here
    obtain ⟨after, goes, here'⟩ := goes mover made
    cases here.symm.trans here'
    exact (stands.goes sets goes).2.2 fault target rfl

/-- A caller that tries to set something in vain. -/
structure TurnsDown (crowd : Crowd W) (operation : Operation) (part : Part) : Prop where
  /-- From beginning to end, if it brings nothing that cannot be used and nobody interrupts it. -/
  whole : (∀ info, operation = .reshape info → info.validate = .ok ()) → crowd.givenUp = false →
    crowd.afterAll? [.begins operation, .steps crowd.calls.length, .steps crowd.calls.length]
      = some { crowd with calls := crowd.calls ++ [.ended (.failed .busy) none] }
  /-- When it takes the lock, if it began before. -/
  lock : ∀ caller : Nat, crowd.calls[caller]? = some (.entering part) →
    crowd.after? (.steps caller)
      = some (crowd.update caller (.ended (.failed .busy) none, crowd.host))

theorem turnsDown_of_running (sets : operation.setting? = some part)
    (other : ∀ value, operation ≠ .write "timeout" value)
    (running : crowd.host.desk.mode = .running) (isOpen : crowd.host.engine.isOpen = true)
    (unpoisoned : crowd.host.engine.deskPoisoned = false) : crowd.TurnsDown operation part := by
  have ran := Part.run_busy sets other running
  have nobody := Part.target_of_setting sets
  constructor
  · intro usable kept
    have begins : operation.call = .checking part := by
      obtain ⟨key, value, rfl, rfl⟩ | ⟨info, rfl, rfl⟩ := operation.setting_cases sets
      · rfl
      · show Operation.guarded info (.reshape info) = _
        rw [Operation.guarded, usable info rfl]
    rw [afterAll?_uninterrupted begins kept isOpen unpoisoned ran
      (Outcome.failed_ne_crashed _), nobody]
    rfl
  · intro caller found
    rw [after?_steps found (Call.step_of_run unpoisoned ran
      (Outcome.failed_ne_crashed _)), nobody]
    rfl

theorem sets_of_lived {backend : Backend W} {host : Host W} {chronicle : Chronicle}
    (fresh : host.Fresh backend) (lived : Lived { host } crowd chronicle)
    (begun : chronicle.begun[caller]? = some operation) (sets : operation.setting? = some part) :
    ∃ call : Call, crowd.calls[caller]? = some call ∧ call.Sets part := by
  obtain ⟨call, found, stands⟩ := lived.course fresh
    (Q := fun _ _ operation call => ∀ part, operation.setting? = some part → call.Sets part)
    (fun _ _ _ _ sets => .begins sets) (fun _ stands => stands)
    (fun _ _ stands goes part sets => ((stands part sets).goes sets goes).1) begun
  exact ⟨call, found, stands part sets⟩

/-- A caller that writes a timeout has its way, whatever the engine is at. -/
structure TakesTimeout (crowd : Crowd W) (value : String) (milliseconds : Nat) : Prop where
  whole : crowd.givenUp = false → crowd.host.engine.isOpen = true →
    crowd.afterAll? [.begins (.write "timeout" value), .steps crowd.calls.length,
        .steps crowd.calls.length]
      = some { crowd with
          host := crowd.host.withDesk { crowd.host.desk with timeout := milliseconds }
          calls := crowd.calls ++ [.ended (.done .none) none] }
  lock : ∀ caller : Nat, crowd.calls[caller]? = some (.entering (.writeProperty "timeout" value)) →
    crowd.after? (.steps caller) = some (crowd.update caller (.ended (.done .none) none,
      crowd.host.withDesk { crowd.host.desk with timeout := milliseconds }))

theorem takesTimeout {value : String} {milliseconds : Nat}
    (unpoisoned : crowd.host.engine.deskPoisoned = false)
    (read : readTimeout value = .ok milliseconds) : crowd.TakesTimeout value milliseconds := by
  have ran := Part.run_timeout value crowd.host
  rw [read] at ran
  exact {
    whole := fun kept isOpen => afterAll?_uninterrupted rfl kept isOpen unpoisoned ran
      (Outcome.done_ne_crashed _)
    lock := fun caller found => after?_steps found (Call.step_of_run unpoisoned ran
      (Outcome.done_ne_crashed _)) }

/-- Under every schedule: a caller that writes a property, or brings another input, changes nothing
before it is done, and if it fails the engine is as it was; at most the backend was asked.  With a
request in flight on a handle that is not being closed, and a backend that crashes in passes only,
it is told that the engine is busy and the backend is not asked, unless what it writes is the
timeout.  A timeout is taken at any time, if what is left of its text without white space around it
is a numeral below `2 ^ 64`, and refused otherwise. -/
theorem failed_setting_changes_nothing {backend : Backend W} {id : Nat} {options : Options}
    {framework : Framework} {world : W} {live : List Nat} {host : Host W}
    (opened : backend.openAs id options framework world live = .opened host)
    {chronicle : Chronicle} (lived : Lived { host } crowd chronicle) :
    (∀ caller operation part, chronicle.begun[caller]? = some operation →
        operation.setting? = some part → crowd.SetsQuietly caller
          ∧ ∃ call : Call, crowd.calls[caller]? = some call ∧ call.Sets part)
      ∧ (backend.Reliable → crowd.host.InFlight → crowd.host.engine.isOpen = true →
        ∀ operation part, operation.setting? = some part →
          (∀ value, operation ≠ .write "timeout" value) → crowd.TurnsDown operation part)
      ∧ (backend.Reliable → ∀ value milliseconds,
        Text.Numeral (Text.trim value.toList) milliseconds → milliseconds < wordLimit →
          crowd.TakesTimeout value milliseconds)
      ∧ ∀ value, (∀ milliseconds, Text.Numeral (Text.trim value.toList) milliseconds →
          wordLimit ≤ milliseconds) → ∃ detail,
            Part.run (.writeProperty "timeout" value) crowd.host
              = some (.failed (.invalidParameter detail), crowd.host) := by
  have fresh := Backend.fresh_of_opened opened
  have orderly := Orderly.of_reachable fresh lived.reachable
  have unpoisoned (reliable : backend.Reliable) : crowd.host.engine.deskPoisoned = false :=
    (unharmed_of_reachable (reliable.opened opened) lived.reachable).unpoisoned
  refine ⟨?_, ?_, ?_, ?_⟩
  · intro caller operation part begun sets
    obtain ⟨call, found, stands⟩ := sets_of_lived fresh lived begun sets
    exact ⟨setsQuietly_of_sets sets found stands, call, found, stands⟩
  · intro reliable flies isOpen operation part sets other
    have running : crowd.host.desk.mode = .running := by
      cases mode : crowd.host.desk.mode with
      | idle => exact absurd mode (orderly.awake flies)
      | running => rfl
      | leaving =>
          -- The worker is asked to leave only once the handle is closed.
          have closed := (Retiring.of_reachable fresh lived.reachable).leaving mode
          cases isOpen.symm.trans closed
    exact turnsDown_of_running sets other running isOpen (unpoisoned reliable)
  · intro reliable value milliseconds numeral below
    exact takesTimeout (unpoisoned reliable) (readTimeout_eq_ok numeral below)
  · intro value none
    obtain ⟨detail, refused⟩ := readTimeout_eq_error none
    refine ⟨detail, ?_⟩
    rw [Part.run_timeout, refused]

open CustomModel in
/-- While a byte is under way, neither the dimensions nor the whole input can be set.  A timeout of
`+5` can be, and one of `-5` cannot. -/
theorem settings_beside_a_byte : ∃ (crowd : Crowd (Unit × List Question)) (chronicle : Chronicle),
    Lived { host := pliableEngine } crowd chronicle ∧ crowd.host.InFlight
      ∧ chronicle.begun[1]? = some (.write "input" "2") ∧ crowd.SetsQuietly 1
      ∧ crowd.TurnsDown (.write "input" "2") (.writeProperty "input" "2")
      ∧ crowd.TurnsDown (.reshape twoBytes) (.reshape twoBytes)
      ∧ crowd.TakesTimeout " +5 " 5
      ∧ ∃ detail, Part.run (.writeProperty "timeout" " -5 ") crowd.host
        = some (.failed (.invalidParameter detail), crowd.host) := by
  let moves : List Move := submitByte ++ [.begins (.write "input" "2"), .steps 1]
  have run : (Crowd.afterAll? { host := pliableEngine } moves).any (fun crowd =>
      crowd.host.desk.request.isSome && crowd.host.engine.isOpen) = true := by
    decide +kernel
  obtain ⟨crowd, reached, seen⟩ := (Option.any_eq_true _ _).1 run
  obtain ⟨queued, isOpen⟩ := (Bool.and_eq_true _ _).mp seen
  obtain ⟨chronicle, lived, begun⟩ := Lived.run .start reached
  have flies : crowd.host.InFlight := .inl (Option.isSome_iff_ne_none.1 queued)
  have second : chronicle.begun[1]? = some (.write "input" "2") := by
    rw [begun]
    rfl
  obtain ⟨quiet, busy, timed, untimed⟩ := failed_setting_changes_nothing pliable_opened lived
  have five : Text.Numeral (Text.trim " +5 ".toList) 5 ∧ 5 < wordLimit :=
    Text.readBelow?_eq_some_iff.1 (by decide +kernel)
  refine ⟨crowd, chronicle, lived, flies, second, (quiet 1 _ _ second rfl).1,
    busy pliable_reliable flies isOpen _ _ rfl (by simp), busy pliable_reliable flies isOpen _ _ rfl
      (by simp), timed pliable_reliable _ _ five.1 five.2, untimed _ fun milliseconds numeral => ?_⟩
  refine Nat.not_lt.1 fun below => ?_
  have read := Text.readBelow?_eq_some_iff.2 ⟨numeral, below⟩
  have unread : Text.readBelow? wordLimit (Text.trim " -5 ".toList) = none := by decide +kernel
  cases read.symm.trans unread

end Crowd

end Inference
