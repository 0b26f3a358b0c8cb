/-
What the callers are given.

Every output that a caller is given comes from the one pass that was run for it, on its own input
(`Chronicle.Tells.gave`), and no pass has two callers (`Chronicle.Tells.gave_once`).
-/
import Inference.Proofs.Engine.Account

namespace Inference

variable {W : Type}

/-! ### Every output has its pass -/

/-- The output that a call has returned. -/
def Crowd.given? (crowd : Crowd W) (caller : Nat) : Option Frame :=
  crowd.calls[caller]?.bind Call.output?

/-- Whether a call was told that its time is up. -/
def Call.isTimedOut : Call → Bool
  | ended (.failed .timedOut) _ => true
  | _ => false

/-- Whether a caller was told that its time is up. -/
def Crowd.timedOut (crowd : Crowd W) (caller : Nat) : Bool :=
  crowd.calls[caller]?.any Call.isTimedOut

/-- The output is what the pass made of the input that the caller's own operation brought. -/
structure Chronicle.Gave (chronicle : Chronicle) (ran : Ran) (caller : Nat) (output : Frame) :
    Prop where
  made : ∃ submitted, chronicle.Made ran.ticket output submitted ran ∧ submitted.caller = caller
    ∧ ∃ operation : Operation, chronicle.begun[caller]? = some operation
      ∧ operation.input? = some submitted.input

theorem Call.output?_of_timedOut {call : Call} (h : call.isTimedOut = true) :
    call.output? = none := by
  unfold isTimedOut at h
  split at h
  · rfl
  · cases h

theorem Crowd.given?_of_timedOut {crowd : Crowd W} {caller : Nat}
    (h : crowd.timedOut caller = true) :
    crowd.given? caller = none := by
  obtain ⟨call, found, late⟩ := (Option.any_eq_true _ _).1 h
  unfold given?
  rw [found]
  exact Call.output?_of_timedOut late

namespace Chronicle.Tells

variable {chronicle : Chronicle} {crowd : Crowd W}

/-- Every output has exactly one pass. -/
theorem gave (h : chronicle.Tells crowd) {caller : Nat} {output : Frame}
    (given : crowd.given? caller = some output) : ∃! ran, chronicle.Gave ran caller output := by
  obtain ⟨call, found, given⟩ := Option.bind_eq_some_iff.1 given
  obtain ⟨ticket, s, ran, made, own⟩ := h.outputs caller call output found given
  obtain ⟨operation, began, input⟩ := h.brought s made.wasSubmitted
  have served := made.served
  subst served
  refine ⟨ran, ⟨⟨s, made, own, operation, own ▸ began, input⟩⟩, ?_⟩
  -- A caller submits only once, and for each ticket only one pass is run.
  rintro other ⟨⟨s', made', own', -⟩⟩
  have same : s' = s :=
    List.inj_on_of_nodup_map h.once made'.wasSubmitted made.wasSubmitted (own'.trans own.symm)
  subst same
  exact h.ran_unique made'.wasRan made.wasRan (made'.requested.symm.trans made.requested)

/-- No pass gives two callers an output. -/
theorem gave_once (h : chronicle.Tells crowd) {ran : Ran} {caller other : Nat}
    {output output' : Frame} (gave : chronicle.Gave ran caller output)
    (gave' : chronicle.Gave ran other output') : caller = other := by
  obtain ⟨s, made, own, -⟩ := gave.made
  obtain ⟨s', made', own', -⟩ := gave'.made
  have same := h.submitted_unique made.wasSubmitted made'.wasSubmitted
    (made.requested.trans made'.requested.symm)
  rw [← own, ← own', same]

end Chronicle.Tells

/-! ### Results are neither crossed nor stale -/

namespace Crowd

/-- Every output that a call returns is what exactly one pass made of the call's own input, under
the descriptor that was agreed when the call submitted it.  No pass gives an output to two calls,
and none whose caller was told that its time is up gives one to anybody. -/
theorem output_from_own_pass {backend : Backend W} {id : Nat} {options : Options}
    {framework : Framework} {world : W} {live : List Nat} {host : Host W}
    (opened : backend.openAs id options framework world live = .opened host) {crowd : Crowd W}
    {chronicle : Chronicle} (lived : Lived { host } crowd chronicle) :
    (∀ caller output, crowd.given? caller = some output →
        ∃! ran, chronicle.Gave ran caller output)
      ∧ (∀ ran caller other output output', chronicle.Gave ran caller output →
        chronicle.Gave ran other output' → caller = other)
      ∧ (∀ submitted ∈ chronicle.submitted, crowd.timedOut submitted.caller = true →
        ∀ ran ∈ chronicle.ran, ran.ticket = submitted.ticket → ∀ caller output,
          crowd.given? caller = some output → ¬ chronicle.Gave ran caller output)
      ∧ (chronicle.submitted.map (·.caller)).Nodup ∧ (chronicle.submitted.map (·.ticket)).Nodup
      ∧ (chronicle.ran.map (·.ticket)).Nodup := by
  have told := Chronicle.Tells.of_lived (Backend.fresh_of_opened opened) lived
  refine ⟨fun _ _ => told.gave, fun _ _ _ _ _ => told.gave_once, ?_, told.once,
    told.follows.tickets, told.follows.passes⟩
  intro submitted member late ran _ served caller output given gave
  obtain ⟨s, made, own, -⟩ := gave.made
  have same : s = submitted :=
    told.submitted_unique made.wasSubmitted member (made.requested.trans served)
  rw [← same, own] at late
  cases (given?_of_timedOut late).symm.trans given

end Crowd

namespace CustomModel

/-- A caller loses patience while its pass is running, and another one submits the next request. -/
def impatience : List Move :=
  [.begins (.infer (byteTask 7).input (some 5)), .steps 0, .steps 0, .works, .works, .expires 0,
    .works, .works, .begins (.infer (byteTask 9).input (some 0)), .steps 1, .steps 1,
    .works, .works, .works, .works, .steps 1]

theorem impatience_reached : ∃ crowd, Crowd.Reachable { host := echoEngine } crowd
    ∧ crowd.timedOut 0 = true
    ∧ ∃ output, crowd.given? 1 = some output ∧ output.regions = [some [9]] := by
  have run : (Crowd.afterAll? { host := echoEngine } impatience).map
      (fun crowd => (crowd.timedOut 0, (crowd.given? 1).map (·.regions)))
      = some (true, some [some [9]]) := by
    decide +kernel
  obtain ⟨crowd, reached, seen⟩ := Option.map_eq_some_iff.1 run
  obtain ⟨late, regions⟩ := Prod.mk.inj seen
  obtain ⟨output, given, regions⟩ := Option.map_eq_some_iff.1 regions
  exact ⟨crowd, Crowd.reachable_of_afterAll? reached, late, output, given, regions⟩

/-- The caller that comes after an impatient one is given its own byte, by a pass of its own. -/
theorem next_caller_has_own_pass : ∃ (crowd : Crowd Unit) (chronicle : Chronicle) (output : Frame),
    Crowd.Lived { host := echoEngine } crowd chronicle ∧ crowd.timedOut 0 = true
      ∧ crowd.given? 1 = some output ∧ output.regions = [some [9]]
      ∧ (∃! ran, chronicle.Gave ran 1 output)
      ∧ ∀ submitted ∈ chronicle.submitted, submitted.caller = 0 → ∀ ran ∈ chronicle.ran,
        ran.ticket = submitted.ticket → ¬ chronicle.Gave ran 1 output := by
  obtain ⟨crowd, reach, late, output, given, regions⟩ := impatience_reached
  obtain ⟨chronicle, lived⟩ := reach.lived
  obtain ⟨own, -, stale, -⟩ := Crowd.output_from_own_pass echoByte_opened lived
  refine ⟨crowd, chronicle, output, lived, late, given, regions, own 1 output given, ?_⟩
  intro submitted member first ran wasRan served
  exact stale submitted member (first ▸ late) ran wasRan served 1 output given

end CustomModel

end Inference
