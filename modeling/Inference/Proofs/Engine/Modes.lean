/-
Two ways to allocate.

The regions of an output are allocated by the backend, which lends them out and wants them back,
or by the engine.  What a caller is told does not depend on it: after the same pass it is given the
same answer, except that in the one case its output is on lease and in the other its own.  What
depends on it is that the engine has to find room for the regions before the pass, and dies if there
is none.

With the same pass for both, `Agree` relates what two workers come back with (`Ran.outcome_agree`),
and `Call.cloned` the answers that their callers are given.  `Chronicle.Restores` says what is
given back to a backend (`Crowd.Lived.restores`).
-/
import Inference.Proofs.Engine.Custody
import Inference.Proofs.Engine.Outcome
import Inference.Proofs.Engine.Usability

namespace Inference

variable {W : Type}

/-! ### Outcomes -/

/-- What comes of the same pass in regions of the backend, and in regions of the engine. -/
inductive Pass.Agree (pass : Pass) (output : Descriptor) (lease : Lease) :
    Except Fault Frame → Except Fault Frame → Prop where
  | good (ended : pass.ending = .done) (sizes : pass.outputs.map List.length = output.sizes) :
      Agree pass output lease
        (.ok { info := output, regions := pass.outputs.map some, owner := .backend
               lease := some lease })
        (.ok { info := output, regions := pass.outputs.map some, owner := .engine })
  | failed {text : String}
      (bad : ¬ (pass.ending = .done ∧ pass.outputs.map List.length = output.sizes))
      (told : pass.failure? output = some (.passFailed text)) :
      Agree pass output lease (.error (.passFailed text)) (.error (.passFailed text))

/-- It does not matter for the outcome of a pass who has allocated its regions. -/
theorem Ran.outcome_agree {ran ran' : Ran} {output : Descriptor}
    (valid : output.validate = .ok ()) (lends : ran.lending = true) (keeps : ran'.lending = false)
    (same : ran'.pass = ran.pass) (engine engine' : Nat) :
    ran.pass.Agree output ⟨engine, ran.ticket⟩ (ran.outcome output engine)
      (ran'.outcome output engine') := by
  unfold outcome
  rw [same, lends, keeps]
  cases failure : ran.pass.failure? output with
  | some fault =>
      obtain ⟨text, rfl⟩ := Pass.failure?_eq failure
      refine .failed (fun good => ?_) failure
      cases failure.symm.trans (Pass.good_iff.2 good)
  | none =>
      obtain ⟨ended, sizes⟩ := Pass.good_iff.1 failure
      have made := Frame.ofRegions_eq_ok valid (Pass.checkRegions_of_good failure)
      have kept : Frame.produced output ran.pass.outputs
          = .ok { info := output, regions := ran.pass.outputs.map some, owner := .engine } := by
        rw [Frame.produced, made]
        rfl
      simp only [if_true, Bool.false_eq_true, if_false, kept]
      exact .good ended sizes

theorem Ran.of_outcome {ran : Ran} {output : Descriptor} {engine : Nat} {frame : Frame}
    (made : ran.outcome output engine = .ok frame) : frame.info = output
      ∧ ran.pass = { ending := .done, outputs := frame.present }
      ∧ ran.lending = frame.lease.isSome := by
  unfold outcome at made
  cases failure : ran.pass.failure? output with
  | some fault =>
      rw [failure] at made
      cases made
  | none =>
      have whole (regions : List Bytes) : (regions.map some).filterMap id = regions := by simp
      have same : ran.pass = { ending := .done, outputs := ran.pass.outputs } := by
        rw [← Pass.ending_of_good failure]
      rw [failure] at made
      cases lending : ran.lending with
      | true =>
          rw [lending] at made
          cases made
          exact ⟨rfl, same.trans (congrArg _ (whole _).symm), rfl⟩
      | false =>
          rw [lending] at made
          cases Frame.eq_of_produced made
          exact ⟨rfl, same.trans (congrArg _ (whole _).symm), rfl⟩

/-! ### Answers -/

namespace Call

/-- The same call, with a copy of its output that belongs to the application. -/
def cloned : Call → Call
  | ended (.done (.frame output)) target => ended (.done (.frame output.clone)) target
  | ended (.done (.shaped output info)) target => ended (.done (.shaped output.clone info)) target
  | dropping output answer target => dropping output.clone answer target
  | call => call

theorem receive_of_agree {pass : Pass} {output : Descriptor} {lease : Lease}
    {produced produced' : Except Fault Frame} (agree : pass.Agree output lease produced produced')
    (task : Task) : receive task produced' = (receive task produced).cloned := by
  cases agree with
  | failed => rfl
  | good =>
      simp only [receive, hand]
      cases task.target with
      | some target =>
          let source := Frame.lent output pass.outputs lease
          have copied : copyFrom source.clone 0 target source.count
              = copyFrom source 0 target source.count := copyFrom_congr (by rfl) _ _ _
          exact congrArg₂ (dropping source.clone) (congrArg Prod.fst copied)
            (congrArg Prod.snd copied)
      | none => cases task.reshape <;> rfl

end Call

/-! ### What is given back -/

/-- A failed pass leaves no frame behind. -/
theorem WorkerStep.kept_of_failed {host after : Host W} (step : WorkerStep host after) {ran : Ran}
    (ends : host.pass? = some ran) {request : Request} {outputs : List Bytes}
    (inside : host.engine.worker = .inPass request outputs ran.lending)
    (failure : ran.pass.failure? request.output ≠ none) : after.kept = host.kept := by
  cases step with
  | took parked => cases parked.symm.trans inside
  | left parked => cases parked.symm.trans inside
  | rested parked => cases parked.symm.trans inside
  | refused holding => cases holding.symm.trans inside
  | starved holding => cases holding.symm.trans inside
  | entered holding => cases holding.symm.trans inside
  | recorded returning => cases returning.symm.trans inside
  | finished inside' bytes finish ended =>
      cases ends.symm.trans (Crowd.pass?_of_inPass inside' bytes finish)
      cases inside.symm.trans inside'
      have same {middle after : Host W} (desk : middle.desk = host.desk)
          (kept : after.kept = middle.desk.lentOut) : after.kept = host.kept := by
        rw [kept, desk, Host.kept, inside]
        rfl
      cases ended with
      | failed => exact same rfl rfl
      | returned _ back => exact same (Host.beside_of_release back).desk rfl
      | broke _ back => exact same (Host.beside_of_release back).desk rfl
      | produced good => exact absurd good failure
      | lent good => exact absurd good failure

/-- What was given back to the backend in the course of a history. -/
structure Chronicle.Restores (chronicle : Chronicle) (crowd : Crowd W) (returned : List Receipt) :
    Prop where
  /-- No output is given back twice. -/
  once : (returned.map (·.ticket)).Nodup
  /-- Every one of them was allocated by the backend. -/
  lent : ∀ receipt ∈ returned, ∃ ran ∈ chronicle.ran, ran.lending = true ∧ ran.receipt = receipt
  /-- That of a failed pass is among them, as the pass has left it. -/
  failed : ∀ s ∈ chronicle.submitted, ∀ ran ∈ chronicle.ran, ran.ticket = s.ticket →
    ran.lending = true → ran.pass.failure? s.output ≠ none → ran.receipt ∈ returned
  /-- One that there still is a frame of is not. -/
  kept : ∀ frame ∈ crowd.existing, frame.receipt ∉ returned

namespace Crowd

variable {log : W → Returns} {chronicle : Chronicle} {crowd next : Crowd W}
  {returned back : List Receipt}

theorem Conserved.back_of_failed (before : crowd.Conserved log chronicle returned)
    (after : next.Conserved log (chronicle.after crowd next .works) (returned ++ back))
    (same : next.existing = crowd.existing) : crowd.host.makes.Perm back := by
  refine List.perm_iff_count.2 fun receipt => ?_
  have here := before.balance.count_eq receipt
  have there := after.balance.count_eq receipt
  rw [Chronicle.lent_works, same] at there
  simp only [List.count_append] at here there
  omega

theorem Lived.failed_returned {backend : Backend W} {id : Nat} {options : Options}
    {framework : Framework} {world : W} {live : List Nat} {host : Host W}
    (logs : backend.Logs log) (empty : log world = [])
    (opened : backend.openAs id options framework world live = .opened host)
    (lived : Lived { host } crowd chronicle) :
    ∃ returned, crowd.Conserved log chronicle returned
      ∧ ∀ ran ∈ chronicle.ran, ran.lending = true → ∃ s ∈ chronicle.submitted,
        s.ticket = ran.ticket ∧ (ran.pass.failure? s.output ≠ none → ran.receipt ∈ returned) := by
  refine @Lived.keeps W _ _ _ (fun crowd chronicle => ∃ returned,
    crowd.Conserved log chronicle returned ∧ ∀ ran ∈ chronicle.ran, ran.lending = true →
      ∃ s ∈ chronicle.submitted, s.ticket = ran.ticket
        ∧ (ran.pass.failure? s.output ≠ none → ran.receipt ∈ returned)) lived ?_ ?_
  · obtain ⟨returned, conserved⟩ := Conserved.of_lived logs empty opened .start
    exact ⟨returned, conserved, nofun⟩
  rintro crowd next chronicle move ⟨returned, conserved, failed⟩ moved
  obtain ⟨back, conserved'⟩ := conserved.moved moved
  refine ⟨returned ++ back, conserved', ?_⟩
  have grows := chronicle.grows_after crowd next move
  have old : ∀ ran ∈ chronicle.ran, ran.lending = true →
      ∃ s ∈ (chronicle.after crowd next move).submitted, s.ticket = ran.ticket
        ∧ (ran.pass.failure? s.output ≠ none → ran.receipt ∈ returned ++ back) := by
    intro ran member lends
    obtain ⟨s, asked, ticket, given⟩ := failed ran member lends
    exact ⟨s, grows.submitted asked, ticket, fun bad => List.mem_append_left _ (given bad)⟩
  intro ran member lends
  cases moved with
  | worked step =>
      rcases List.mem_append.1 member with before | new
      · exact old ran before lends
      -- The pass has just come to its end.
      have ends := Option.mem_toList.1 new
      obtain ⟨request, outputs, inside, ticket⟩ := inPass_of_pass? ends
      obtain ⟨⟨s, asked, mine, output, -⟩, -⟩ :=
        conserved.told.follows.ahead request (.inr (by rw [inside]; rfl))
      refine ⟨s, grows.submitted asked, mine.trans ticket.symm, fun bad => ?_⟩
      have same := step.kept_of_failed ends inside (output ▸ bad)
      have made := conserved.back_of_failed conserved' (congrArg (· ++ _) same)
      rw [Host.makes, ends, Option.toList_some, List.filter_singleton, lends] at made
      exact List.mem_append_right _ (made.mem_iff.1 (List.mem_singleton_self _))
  | called mover =>
      rw [Chronicle.after_called mover] at member
      exact old ran member lends
  | _ => exact old ran member lends

/-- What was given back, and what was not. -/
theorem Lived.restores {backend : Backend W} {id : Nat} {options : Options}
    {framework : Framework} {world : W} {live : List Nat} {host : Host W}
    (opened : backend.openAs id options framework world live = .opened host) {returns : Returns}
    (audited : crowd.Returned host chronicle returns) :
    ∃ returned, returned.map Receipt.regions = returns ∧ chronicle.Restores crowd returned := by
  obtain ⟨returned, conserved, failed⟩ := Lived.failed_returned backend.audited_logs rfl
    (Backend.openAs_audited backend world [] opened) audited
  have balance : chronicle.lent.Perm (returned ++ crowd.existing.map Frame.receipt) :=
    conserved.balance
  have tickets := (balance.map (·.ticket)).nodup_iff.1 conserved.told.lent_tickets
  rw [List.map_append, List.nodup_append] at tickets
  refine ⟨returned, conserved.recorded.symm, tickets.1, ?_, ?_, ?_⟩
  · intro receipt member
    have lent := balance.mem_iff.2 (List.mem_append_left _ member)
    obtain ⟨ran, member, same⟩ := List.mem_map.1 lent
    obtain ⟨member, lends⟩ := List.mem_filter.1 member
    exact ⟨ran, member, lends, same⟩
  · intro s member ran wasRan ticket lends bad
    obtain ⟨s', member', ticket', given⟩ := failed ran wasRan lends
    -- Only one request was submitted under that ticket.
    cases conserved.told.submitted_unique member' member (ticket'.trans ticket)
    exact given bad
  · intro frame stays member
    have kept := List.mem_map_of_mem (f := Receipt.ticket)
      (List.mem_map_of_mem (f := Frame.receipt) stays)
    exact tickets.2.2 _ (List.mem_map_of_mem (f := Receipt.ticket) member) _ kept rfl

/-! ### The two modes -/

/-- Let there be two engines, whose backends take back without a crash what they are given, and let
each worker be about a request of its own, under the same usable descriptor for the output.  Each
of them gets on with its request, the one in regions of its backend and the other in regions of its
engine, with one exception: if the output does not fit in memory, the other one dies before the
pass.  Once both are back from their passes, and these have ended in the same way, both have the
same outcome, and their callers are given the same answer, except that one output is on lease and
the other one belongs to its caller.  It is a good one just if the pass has ended well and has left
regions of the sizes that were agreed.  A backend is given back what its failed passes have left,
once and as they left it, and nothing that there still is a frame of or that it has not
allocated. -/
theorem modes_agree_iff_room {W' : Type} {backend : Backend W} {backend' : Backend W'}
    {id id' : Nat} {options options' : Options} {framework framework' : Framework} {world : W}
    {world' : W'} {live live' : List Nat} {host : Host W} {host' : Host W'}
    (opened : backend.openAs id options framework world live = .opened host)
    (opened' : backend'.openAs id' options' framework' world' live' = .opened host')
    (safe : backend.TakesBack) (safe' : backend'.TakesBack) {crowd : Crowd W} {crowd' : Crowd W'}
    {chronicle chronicle' : Chronicle} (lived : Lived { host } crowd chronicle)
    (lived' : Lived { host := host' } crowd' chronicle') {request request' : Request}
    (agreed : request'.output = request.output) (valid : request.output.validate = .ok ()) :
    crowd.Proceeds request ∧ crowd'.Proceeds request'
      ∧ (∀ ran ∈ chronicle.ran, ∀ ran' ∈ chronicle'.ran, ran.ticket = request.ticket →
        ran'.ticket = request'.ticket → ran.lending = true → ran'.lending = false →
        ran'.pass = ran.pass → ∀ produced produced',
        crowd.host.engine.worker = .returning request produced →
        crowd'.host.engine.worker = .returning request' produced' →
          ran.pass.Agree request.output ⟨crowd.host.engine.id, request.ticket⟩ produced produced'
          ∧ ∀ task, Call.receive task produced' = (Call.receive task produced).cloned)
      ∧ (∀ returns, crowd.Returned host chronicle returns → ∃ returned,
        returned.map Receipt.regions = returns ∧ chronicle.Restores crowd returned)
      ∧ ∀ returns, crowd'.Returned host' chronicle' returns → ∃ returned,
        returned.map Receipt.regions = returns ∧ chronicle'.Restores crowd' returned := by
  have fresh := Backend.fresh_of_opened opened
  have fresh' := Backend.fresh_of_opened opened'
  refine ⟨lived.proceeds fresh safe request, lived'.proceeds fresh' safe' request', ?_,
    fun _ audited => Lived.restores opened audited, fun _ audited => Lived.restores opened' audited⟩
  intro ran member ran' member' ticket ticket' lends keeps same produced produced' back back'
  have told := Chronicle.Tells.of_lived fresh lived
  have told' := Chronicle.Tells.of_lived fresh' lived'
  obtain ⟨own, wasRan, asked, rfl⟩ := lived.returned_outcome fresh back
  obtain ⟨own', wasRan', asked', rfl⟩ := lived'.returned_outcome fresh' back'
  -- No other pass was run for either of the requests.
  obtain rfl := told.ran_unique wasRan member (asked.trans ticket.symm)
  obtain rfl := told'.ran_unique wasRan' member' (asked'.trans ticket'.symm)
  have agree := Ran.outcome_agree valid lends keeps same crowd.host.engine.id
    crowd'.host.engine.id
  rw [agreed, ← ticket]
  exact ⟨agree, Call.receive_of_agree agree⟩

end Crowd

namespace CustomModel

/-- A caller hands in a byte, and the worker comes back from the pass on it. -/
def byteAndBack : List Move :=
  [.begins (.infer (byteTask 7).input (some 0)), .steps 0, .steps 0, .works, .works, .works]

theorem byteAndBack_reached (host : Host Unit) (frame : Frame)
    (run : (Crowd.afterAll? { host } byteAndBack).bind (·.host.engine.worker.made?) = some frame) :
    ∃ (crowd : Crowd Unit) (chronicle : Chronicle) (request : Request),
      Crowd.Lived { host } crowd chronicle
        ∧ crowd.host.engine.worker = .returning request (.ok frame) := by
  obtain ⟨crowd, reached, made⟩ := Option.bind_eq_some_iff.1 run
  obtain ⟨chronicle, lived⟩ := (Crowd.reachable_of_afterAll? reached).lived
  unfold Worker.made? at made
  split at made
  · cases made
    exact ⟨crowd, chronicle, _, lived, ‹_›⟩
  · cases made

/-- The byte comes back in both modes, on lease in the one and not in the other, and either caller
is given it with its next step. -/
theorem byte_back_in_both_modes : ∃ (crowd crowd' : Crowd Unit) (request request' : Request)
    (frame frame' : Frame), Crowd.Reachable { host := lendingEngine } crowd
      ∧ Crowd.Reachable { host := echoEngine } crowd'
      ∧ frame.regions = [some [7]] ∧ frame'.regions = [some [7]]
      ∧ frame.lease.isSome = true ∧ frame'.lease = none
      ∧ (∃ next, crowd.after? .works = some next ∧ crowd.Served next request (.ok frame))
      ∧ (∃ next, crowd'.after? .works = some next ∧ crowd'.Served next request' (.ok frame'))
      ∧ ∀ task, Call.receive task (.ok frame') = (Call.receive task (.ok frame)).cloned := by
  let frame : Frame := {
    info := echoByte.output, regions := [some [7]], owner := .backend, lease := some ⟨0, 1⟩ }
  let frame' : Frame := { info := echoByte.output, regions := [some [7]], owner := .engine }
  obtain ⟨crowd, chronicle, request, lived, back⟩ :=
    byteAndBack_reached lendingEngine frame (by decide +kernel)
  obtain ⟨crowd', chronicle', request', lived', back'⟩ :=
    byteAndBack_reached echoEngine frame' (by decide +kernel)
  have opened : lendingByte.openAs 0 {} .custom () [] = .opened lendingEngine := rfl
  obtain ⟨ran, wasRan, ticket, outcome⟩ :=
    lived.returned_outcome (Backend.fresh_of_opened opened) back
  obtain ⟨ran', wasRan', ticket', outcome'⟩ :=
    lived'.returned_outcome (Backend.fresh_of_opened echoByte_opened) back'
  obtain ⟨info, pass, lends⟩ := Ran.of_outcome outcome.symm
  obtain ⟨info', pass', keeps⟩ := Ran.of_outcome outcome'.symm
  obtain ⟨proceeds, proceeds', agree, -⟩ := Crowd.modes_agree_iff_room opened echoByte_opened
    (fun _ _ => rfl) (fun _ _ => rfl) lived lived' (info'.symm.trans info)
    (info ▸ (rfl : echoByte.output.validate = .ok ()))
  obtain ⟨-, same⟩ := agree ran wasRan ran' wasRan' ticket ticket' lends keeps
    (pass'.trans pass.symm) _ _ back back'
  exact ⟨crowd, crowd', request, request', frame, frame', lived.reachable, lived'.reachable,
    rfl, rfl, rfl, rfl, proceeds.records _ back, proceeds'.records _ back', same⟩

/-! ### Modes that disagree -/

/-- The model that answers with more than fits in memory, in regions of its own. -/
def lendingBoundless : Backend Unit := { boundless.backend with allocates := fun _ => true }

/-- An engine on that model. -/
def lendingBoundlessEngine : Host Unit where
  engine := { boundlessEngine.engine with backend := lendingBoundless }
  world := ()
  live := [0]

end CustomModel

/-- Whether the call was told what failed in its pass. -/
def Call.isTold : Call → Bool
  | ended (.failed (.passFailed _)) none => true
  | _ => false

theorem Call.eq_of_isTold {call : Call} (h : call.isTold = true) :
    ∃ text, call = .ended (.failed (.passFailed text)) none := by
  unfold isTold at h
  split at h
  · exact ⟨_, rfl⟩
  · cases h

open CustomModel in
/-- The model leaves one byte, which is not what was agreed, and says so in regions of its own: its
caller is told.  In regions of the engine there is no pass; the worker dies, and whatever happens
then, the caller is not told. -/
theorem Crowd.oversized_told_in_one_mode : oversized.validate = .ok ()
    ∧ lendingBoundless.openAs 0 {} .custom () [] = .opened lendingBoundlessEngine
    ∧ boundless.backend.openAs 0 {} .custom () [] = .opened boundlessEngine
    ∧ (∃ crowd fault, Reachable { host := lendingBoundlessEngine } crowd
      ∧ crowd.calls[0]? = some (.ended (.failed fault) none) ∧ ∃ text, fault = .passFailed text)
    ∧ ∃ (crowd : Crowd Unit) (task : Task) (timeout : Nat),
      Reachable { host := boundlessEngine } crowd ∧ crowd.host.engine.worker = .died
        ∧ crowd.calls[0]? = some (.awaiting task timeout 1)
        ∧ ∀ later, Reachable crowd later → later.Unanswered 0 task timeout 1 := by
  have opened : boundless.backend.openAs 0 {} .custom () [] = .opened boundlessEngine := rfl
  refine ⟨rfl, rfl, opened, ?_, ?_⟩
  · have run : (Crowd.afterAll? { host := lendingBoundlessEngine }
        (byteAndBack ++ [.works, .steps 0])).any (fun crowd => crowd.calls[0]?.any Call.isTold)
          = true := by
      decide +kernel
    obtain ⟨crowd, reached, seen⟩ := (Option.any_eq_true _ _).1 run
    obtain ⟨call, found, told⟩ := (Option.any_eq_true _ _).1 seen
    obtain ⟨text, rfl⟩ := Call.eq_of_isTold told
    exact ⟨crowd, _, reachable_of_afterAll? reached, found, text, rfl⟩
  · have run : (Crowd.afterAll? { host := boundlessEngine }
        [.begins (.infer (byteTask 7).input (some 0)), .steps 0, .steps 0, .works]).any
          (fun crowd =>
          crowd.host.engine.worker.request?.isSome && (crowd.after? .works).any fun next =>
            next.host.engine.worker.hasDied && next.waiting? 0 == some 1) = true := by
      decide +kernel
    obtain ⟨crowd, reached, seen⟩ := (Option.any_eq_true _ _).1 run
    obtain ⟨taken, seen⟩ := (Bool.and_eq_true _ _).mp seen
    obtain ⟨request, taken⟩ := Option.isSome_iff_exists.1 taken
    obtain ⟨next, work, seen⟩ := (Option.any_eq_true _ _).1 seen
    obtain ⟨died, waits⟩ := (Bool.and_eq_true _ _).mp seen
    have died := Worker.eq_of_hasDied died
    obtain ⟨task, timeout, waits⟩ := waiting?_eq_some.1 (eq_of_beq waits)
    have reach := reachable_of_afterAll? reached
    have orderly := Orderly.of_reachable (Backend.fresh_of_opened opened) reach
    have stuck := Stuck.of_work orderly taken work died
    exact ⟨next, task, timeout, .step reach _ work, died, waits,
      fun later onward => Unanswered.of_reachable (.inl waits) stuck onward⟩

end Inference
