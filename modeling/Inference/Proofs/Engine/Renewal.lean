/-
Timeouts leave nothing behind.

Between two calls an engine whose callers come one after another is as good as new.  Nothing is on
its desk, what was allocated for impatient callers has been given back, and from then on it does
what an engine does that was just opened with its descriptors on its backend; the one difference is
how far it has counted (`Host.Clean.eq_ahead`, `Crowd.eq_behind_renewed`).
-/
import Inference.Proofs.Engine.SingleFile
import Inference.Proofs.Engine.Tandem

namespace Inference

variable {W : Type}

/-! ### The lock on the backend -/

namespace Backend.Calm

theorem sound_release {host after : Host W} (calm : host.engine.backend.Calm)
    {regions : List Bytes} {crash : Option String} (back : host.release regions = (crash, after)) :
    after.engine.backendPoisoned = host.engine.backendPoisoned := by
  have answer := calm.release back
  subst answer
  unfold Host.release at back
  cases released : host.engine.backend.release regions host.world with
  | mk crash world =>
      rw [released] at back
      cases crash with
      | some message => cases back
      | none =>
          cases back
          rfl

theorem sound_settle (host : Host W) :
    host.settle.engine.backendPoisoned = host.engine.backendPoisoned := by
  unfold Host.settle
  split <;> rfl

theorem sound_takeBack {host after : Host W} (calm : host.engine.backend.Calm) {frame : Frame}
    {crash : Option String} (back : host.takeBack frame = (crash, after)) :
    after.engine.backendPoisoned = host.engine.backendPoisoned := by
  unfold Host.takeBack at back
  cases released : host.release frame.present with
  | mk crash middle =>
      rw [released] at back
      have same := calm.sound_release released
      cases back
      exact (sound_settle _).trans same

theorem sound_drops {host after : Host W} (calm : host.engine.backend.Calm) {frames : List Frame}
    {crash : Option String} (drops : host.Drops frames crash after) :
    after.engine.backendPoisoned = host.engine.backendPoisoned := by
  induction drops with
  | nil => rfl
  | plain _ _ ih => exact ih calm
  | returned _ _ back _ ih =>
      refine (ih ?_).trans (calm.sound_takeBack back)
      rw [(Host.beside_of_takeBack back).backend]
      exact calm
  | crashed _ _ back => exact calm.sound_takeBack back

theorem sound_tuned {host after : Host W} (tuned : host.Tuned after) :
    after.engine.backendPoisoned = host.engine.backendPoisoned := by
  cases tuned <;> rfl

theorem sound_detach (host : Host W) :
    host.detach.engine.backendPoisoned = host.engine.backendPoisoned := by
  unfold Host.detach
  split
  · exact sound_settle _
  · rfl

end Backend.Calm

open Backend.Calm in
/-- No step of a call or of the worker poisons the lock of a calm backend. -/
theorem CallStep.sound {call next : Call} {host after : Host W}
    (step : CallStep call host next after) (calm : host.engine.backend.Calm) :
    after.engine.backendPoisoned = host.engine.backendPoisoned := by
  have dropped {middle dropped : Host W} {crash : Option String} (tuned : host.Tuned middle)
      (drops : middle.cleared.Drops middle.stale crash dropped) :
      dropped.engine.backendPoisoned = host.engine.backendPoisoned := by
    have calm : middle.cleared.engine.backend.Calm := by
      show middle.engine.backend.Calm
      rw [tuned.alike.backend]
      exact calm
    have same := sound_tuned tuned
    exact (calm.sound_drops drops).trans same
  cases step with
  | ran _ touched =>
      cases touched with
      | tuned tuned => exact sound_tuned tuned
      | wrecked wrecked =>
          cases wrecked with
          | intro _ crash => exact (calm.no_crash crash).elim
  | submitted tuned _ _ _ _ drops =>
      have same := dropped tuned drops
      exact same
  | faltered tuned _ drops =>
      have same := dropped tuned drops
      exact same
  | copied drops => exact calm.sound_drops drops
  | spoilt drops => exact calm.sound_drops drops
  | @cleared last _ after crash _ drops _ =>
      have calm : (host.withDesk (host.desk.clear last).2).engine.backend.Calm := calm
      have same : after.engine.backendPoisoned = host.engine.backendPoisoned :=
        calm.sound_drops drops
      unfold Host.leftBy
      split
      · exact (sound_detach after).trans same
      · exact same
  | _ => rfl

open Backend.Calm in
theorem WorkerStep.sound {host after : Host W} (step : WorkerStep host after)
    (healthy : host.Healthy) : after.engine.backendPoisoned = host.engine.backendPoisoned := by
  cases step with
  | @starved request _ _ holding _ _ _ room =>
      have fits := healthy.inHand request (by rw [holding]; rfl)
      rw [Descriptor.checkRoom_of_fits fits] at room
      cases room
  | @finished _ _ _ _ _ world _ _ _ _ ended =>
      have calm : Backend.Calm (Host.engine { host with world }).backend := healthy.calm
      cases ended with
      | returned _ back =>
          have same := calm.sound_release back
          exact same
      | broke _ back =>
          have same := calm.sound_release back
          exact same
      | _ => rfl
  | recorded _ recorded =>
      have calm : host.unmarked.engine.backend.Calm := healthy.calm
      cases recorded with
      | delivered =>
          unfold Host.deliver
          split
          · rfl
          · simp only
            split <;> rfl
      | ignored => rfl
      | returned _ _ back =>
          have same := calm.sound_takeBack back
          exact same
      | broke _ _ back =>
          have same := calm.sound_takeBack back
          exact same
  | _ => rfl

namespace Crowd

variable {crowd next : Crowd W} {chronicle : Chronicle}

/-- The lock on a calm backend is never poisoned. -/
theorem backend_sound {backend : Backend W} (calm : backend.Calm) {id : Nat} {options : Options}
    {framework : Framework} {world : W} {live : List Nat} {host : Host W}
    (opened : backend.openAs id options framework world live = .opened host)
    (reach : Reachable { host } crowd) : crowd.host.engine.backendPoisoned = false := by
  induction reach with
  | refl =>
      obtain ⟨input, output, after, -, rfl⟩ := Backend.opened_cases opened
      rfl
  | @step crowd next before move made ih =>
      have healthy := (Attended.of_reachable calm opened before).healthy
      cases moved_of_after? made with
      | began => exact ih
      | called _ _ step => exact (step.sound healthy.calm).trans ih
      | worked step => exact (step.sound healthy).trans ih
      | dropped _ drops => exact (healthy.calm.sound_drops drops).trans ih
      | gaveUp => exact ih

end Crowd

/-! ### As good as new -/

namespace Host

/-- The engine as it would be if it had just been opened, with its descriptors, on its backend. -/
def renewed (host : Host W) : Host W where
  engine := {
    id := host.engine.id
    framework := host.engine.framework
    accelerator := host.engine.accelerator
    backend := host.engine.backend
    desk := { input := host.desk.input, output := host.desk.output, timeout := host.desk.timeout } }
  world := host.world
  live := host.live

/-- How far the engine has counted. -/
def counted (host : Host W) : Offset where
  tickets := host.desk.ticket
  numbers := host.desk.outstanding.last

/-- A clean engine is a new one that has counted further. -/
theorem Clean.eq_ahead {host : Host W} (clean : host.Clean) (isOpen : host.engine.isOpen = true)
    (desk : host.engine.deskPoisoned = false) (backend : host.engine.backendPoisoned = false)
    (attached : host.desk.attached = true) :
    host = host.renewed.ahead host.counted host.engine.lent := by
  obtain ⟨mode, request, deserted, response, entries, worker⟩ := clean
  obtain ⟨⟨id, framework, accelerator, behind, _, ⟨_, _, ticket, _, _, ⟨_, last⟩, input, output,
    timeout, _⟩, _, _, _, lent⟩, world, live⟩ := host
  simp only [Host.desk] at mode request deserted response entries attached
  simp only at isOpen desk backend worker
  subst mode request deserted response entries worker isOpen desk backend attached
  simp [ahead, renewed, counted, Host.desk, Desk.ahead, Outstanding.ahead, Worker.ahead]

theorem renewed_staying (host : Host W) : Crowd.Staying { host := host.renewed } := by
  have fresh : host.renewed.Fresh host.engine.backend := ⟨⟨_, _, _, rfl⟩, rfl, rfl, rfl⟩
  exact ⟨rfl, by simp, .of_reachable fresh .refl⟩

end Host

namespace Crowd

variable {crowd : Crowd W} {chronicle : Chronicle}

theorem Conserved.dropped_lt {log : W → Returns} {returned : List Receipt}
    (h : crowd.Conserved log chronicle returned) {caller : Nat} (dropped : caller ∈ crowd.dropped) :
    caller < crowd.calls.length := by
  obtain ⟨output, given⟩ := Option.isSome_iff_exists.1
    (h.through caller (List.contains_iff_mem.2 dropped))
  obtain ⟨call, found, -⟩ := Option.bind_eq_some_iff.1 given
  exact (List.getElem?_eq_some_iff.1 found).1

theorem kept_of_clean (clean : crowd.host.Clean)
    (settled : ∀ call ∈ crowd.calls, call.isOver = true)
    (winding : crowd.Winding) : crowd.givenUp = false := by
  by_contra given
  rcases winding.ended (by simpa using given) with ⟨caller, call, found, last⟩ | ⟨-, gone, -⟩
  · cases (Call.not_last_of_over (settled call (List.mem_of_getElem? found))).symm.trans last
  · rw [clean.worker] at gone
    cases gone

/-- A crowd at rest is one of nobody on a new engine, behind those who came before. -/
theorem eq_behind_renewed (host : crowd.host = crowd.host.renewed.ahead crowd.host.counted
    crowd.host.engine.lent) (kept : crowd.givenUp = false) :
    crowd = crowd.behind crowd.host.counted crowd.host.engine.lent
      { host := crowd.host.renewed } := by
  unfold behind
  rw [← host]
  simp only [List.map_nil, List.append_nil, List.nil_append]
  rw [← kept]

/-- If callers come one after another, a mark is that of the request in flight.  When no call is in
progress and the worker has nothing to do, the desk of the open engine is clean, and what was
allocated for impatient callers has been given back.  From there on every run that does not close
the engine goes as it goes on an engine that was just opened. -/
theorem as_new_after_timeouts {backend : Backend W} (calm : backend.Calm) {id : Nat}
    {options : Options} {framework : Framework} {world : W} {live : List Nat} {host : Host W}
    (opened : backend.openAs id options framework world live = .opened host)
    (inFile : InFile { host } crowd chronicle) :
    crowd.Marked
      ∧ (crowd.Rests →
        crowd.host.Clean
          ∧ (∀ returns, crowd.Returned host chronicle returns →
            ∃ returned : List Receipt, returned.map (·.regions) = returns
              ∧ chronicle.lent.Perm (returned ++ crowd.existing.map Frame.receipt)
              ∧ ∀ s ∈ chronicle.submitted, crowd.timedOut s.caller = true →
                ∀ ran ∈ chronicle.ran, ran.ticket = s.ticket → ran.lending = true →
                  ran.receipt ∈ returned)
          ∧ ∀ moves : List Move, (∀ move ∈ moves, move.stays = true) →
            ∃ lent, crowd.afterAll? (moves.map (Move.behind crowd.calls.length))
              = (afterAll? { host := crowd.host.renewed } moves).map fun next =>
                  crowd.behind crowd.host.counted lent next) := by
  have lived := inFile.lived
  have fresh := Backend.fresh_of_opened opened
  have attended := Attended.of_reachable calm opened lived.reachable
  have completes := Chronicle.Completes.of_lived calm opened lived
  have filed := Filed.of_inFile calm opened inFile
  obtain ⟨taken, tallied⟩ := lived.tallied
  refine ⟨filed.marked, fun rests => ?_⟩
  have clean := filed.clean rests attended.orderly (Retiring.of_reachable fresh lived.reachable)
    (InTurn.of_tallied calm opened tallied).engaged
  have conserves {returns : Returns} (audited : crowd.Returned host chronicle returns) :=
    Conserved.of_lived backend.audited_logs rfl (Backend.openAs_audited backend world [] opened)
      audited
  refine ⟨clean, ?_, ?_⟩
  · intro returns audited
    obtain ⟨returned, conserved⟩ := conserves audited
    have nothing : crowd.host.kept = [] := by
      rw [Host.kept, clean.worker, Desk.lentOut_of_empty clean.entries]
      rfl
    exact ⟨returned, conserved.recorded.symm, conserved.balance,
      fun s submitted late ran wasRan own lending =>
        conserved.timedOut_returned rests.settled nothing submitted late wasRan own lending⟩
  · intro moves stays
    obtain ⟨returns, audited⟩ := lived.returned
    obtain ⟨returned, conserved⟩ := conserves audited
    have host := clean.eq_ahead rests.isOpen attended.healthy.unpoisoned
      (backend_sound calm opened lived.reachable)
      (completes.attached (by rw [clean.worker]; rfl))
    have same := eq_behind_renewed host (kept_of_clean clean rests.settled attended.winding)
    have older : ∀ caller ∈ crowd.dropped, caller < crowd.calls.length :=
      fun _ dropped => conserved.dropped_lt dropped
    obtain ⟨lent, run⟩ := behind_afterAll? crowd.host.counted crowd.host.engine.lent older
      crowd.host.renewed_staying stays
    rw [← same] at run
    exact ⟨lent, run⟩

end Crowd

/-! ### An impatient caller, and one after it -/

namespace CustomModel

/-- A caller loses patience while its pass is running, and the worker gets rid of the output. -/
def impatientCaller : List Move :=
  [.begins (.infer (byteTask 7).input (some 5)), .steps 0, .steps 0, .works, .works, .expires 0,
    .works, .works]

/-- A caller waits for its output. -/
def patientCaller : List Move :=
  [.begins (.infer (byteTask 9).input none), .steps 0, .steps 0, .steps 0, .steps 0,
    .works, .works, .works, .works, .steps 0]

/-- Whether the only caller has lost patience and there is nothing to do. -/
def restsAlone (crowd : Crowd Unit) : Bool :=
  crowd.host.engine.isOpen && crowd.calls.all Call.isOver && crowd.host.requests.length == 0
    && crowd.timedOut 0 && crowd.calls.length == 1

theorem rests_of_restsAlone {crowd : Crowd Unit} (h : restsAlone crowd = true) :
    crowd.Rests ∧ crowd.timedOut 0 = true ∧ crowd.calls.length = 1 := by
  simp only [restsAlone, Bool.and_eq_true, List.all_eq_true, beq_iff_eq,
    List.length_eq_zero_iff] at h
  obtain ⟨⟨⟨⟨isOpen, settled⟩, free⟩, late⟩, one⟩ := h
  exact ⟨⟨isOpen, settled, free⟩, late, one⟩

theorem impatientCaller_reached : ∃ (crowd : Crowd Unit) (chronicle : Chronicle),
    restsAlone crowd = true ∧ crowd.host.renewed = lendingEngine
      ∧ Crowd.InFile { host := lendingEngine } crowd chronicle
      ∧ crowd.Returned lendingEngine chronicle [[[7]]] := by
  have run : (Crowd.afterAll? { host := lendingEngine } impatientCaller).map restsAlone
      = some true := by
    decide +kernel
  have audit : (Crowd.afterAll? (Crowd.withRecord { host := lendingEngine } []) impatientCaller).map
      (fun crowd => crowd.host.world.2) = some [[[7]]] := by
    decide +kernel
  have renewed : (Crowd.afterAll? { host := lendingEngine } impatientCaller).map
      (fun crowd => crowd.host.renewed) = some lendingEngine := by
    rfl
  obtain ⟨crowd, reached, rests⟩ := Option.map_eq_some_iff.1 run
  rw [reached] at renewed
  obtain ⟨chronicle, returns, inFile, returned, audited⟩ :=
    Crowd.InFile.call .start .start (by simp) (by decide) reached
  unfold impatientCaller at audit
  rw [audited] at audit
  cases audit
  exact ⟨crowd, chronicle, rests, Option.some.inj renewed, inFile, returned⟩

/-- The byte of a caller that lost patience went back, and the next caller is served as by a new
engine. -/
theorem next_caller_served_as_new : ∃ (crowd : Crowd Unit) (chronicle : Chronicle),
    Crowd.InFile { host := lendingEngine } crowd chronicle ∧ crowd.Rests
      ∧ crowd.timedOut 0 = true ∧ crowd.Returned lendingEngine chronicle [[[7]]]
      ∧ crowd.host.Clean
      ∧ ∃ next, crowd.afterAll? (patientCaller.map (Move.behind 1)) = some next
        ∧ (next.given? 1).map (·.regions) = some [some [9]] := by
  obtain ⟨crowd, chronicle, alone, renewed, inFile, returned⟩ := impatientCaller_reached
  obtain ⟨rests, late, one⟩ := rests_of_restsAlone alone
  obtain ⟨-, restful⟩ := Crowd.as_new_after_timeouts lendingByte_calm lendingByte_opened inFile
  obtain ⟨clean, -, renews⟩ := restful rests
  obtain ⟨lent, run⟩ := renews patientCaller (by decide)
  have served : (Crowd.afterAll? { host := lendingEngine } patientCaller).map
      (fun crowd => (crowd.given? 0).map (·.regions)) = some (some [some [9]]) := by
    decide +kernel
  obtain ⟨next, reached, given⟩ := Option.map_eq_some_iff.1 served
  obtain ⟨output, given, regions⟩ := Option.map_eq_some_iff.1 given
  rw [renewed, reached, one] at run
  refine ⟨crowd, chronicle, inFile, rests, late, returned, clean, _, run, ?_⟩
  -- The output is the one that the caller of the new engine is given.
  obtain ⟨call, found, shown⟩ := Option.bind_eq_some_iff.1 given
  have behind : (crowd.behind crowd.host.counted lent next).calls[crowd.calls.length + 0]?
      = next.calls[0]?.map (Call.ahead crowd.host.counted) := Crowd.behind_getElem? 0
  rw [one] at behind
  simp only [Crowd.given?]
  rw [behind, found]
  simp [Call.output?_ahead, shown, Frame.ahead, regions]

end CustomModel

end Inference
