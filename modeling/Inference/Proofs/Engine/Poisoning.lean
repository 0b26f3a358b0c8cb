/-
What is left of an engine whose backend crashed under the lock.

The backend of an idle engine crashes over a question that a caller puts to it under the lock.
From then on nobody is let in, and `Barred` follows what that comes to (`Crowd.bars_of_reachable`,
`Crowd.bricked_of_struck`).  Still the engine can be put away like any other.  Closing takes the
lock regardless: the worker leaves, and the engine lets go of its backend
(`Crowd.putsAway_of_lived`).  Outputs that callers hold can be dropped at any time, before and
after, and each of them goes back once (`Crowd.givesBack_of_lived`).
-/
import Inference.Proofs.Engine.Barred
import Inference.Proofs.Engine.Dropping
import Inference.Proofs.Engine.Fitting
import Inference.Proofs.Engine.Handles
import Inference.Proofs.Engine.Wreckage

namespace Inference

variable {W : Type}

/-! ### Closing -/

namespace Host

variable {host first : Host W}

theorem detach_world (attached : host.desk.attached = true) : host.detach.world
    = if host.engine.lent = 0 then host.engine.backend.dropped host.world else host.world := by
  rw [detach, if_pos attached, settle]
  by_cases last : host.engine.lent = 0 <;> simp [desk, withDesk, last]

/-- The handle is closed and the worker has left. -/
def vacated (host : Host W) : Host W :=
  { host with
    engine := { host.engine with
      isOpen := false, worker := .exited, desk := { host.desk with mode := .leaving } }
    live := host.live.filter (· != host.engine.id) }

/-- Of a closed engine nothing is left but what callers hold. -/
theorem vacated_detach (host : Host W) : host.vacated.detach.engine.worker = .exited
    ∧ host.vacated.detach.engine.isOpen = false ∧ host.vacated.detach.desk.attached = false
    ∧ host.vacated.detach.isLive = false := by
  have alike := host.vacated.detach_alike
  refine ⟨alike.worker, alike.isOpen, detach_attached _, ?_⟩
  rw [isLive, alike.id, detach_live]
  simp [vacated]

/-- Whoever closes such an engine sees the worker leave and lets go of the backend. -/
theorem perform_close (isOpen : host.engine.isOpen = true) (parked : host.engine.worker = .parked)
    (empty : host.desk.request = none) (tidy : host.desk.Tidy) :
    host.perform .close = (.done .none, host.vacated.detach) := by
  let retired : Host W := { host with
    engine := { host.engine with isOpen := false }
    live := host.live.filter (· != host.engine.id) }
  let leaving := retired.withDesk { retired.desk with mode := .leaving }
  let left := leaving.withWorker .exited
  have closes : (Call.closing false).step host = some (.dismissing false, retired) := by
    have retires : host.retire = some retired := if_pos isOpen
    rw [Call.step, retires]
  have dismisses : (Call.dismissing false).step retired = some (.expecting false, leaving) := rfl
  have waits : (Call.expecting false).step leaving = none := by
    have here : leaving.engine.worker.gone = false := by
      show host.engine.worker.gone = false
      rw [parked]
      rfl
    simp [Call.step, here]
  have leaves : leaving.stepWorker = some left := by
    have worker : leaving.engine.worker = .parked := parked
    have mode : leaving.desk.mode = .leaving := rfl
    have request : leaving.desk.request = none := empty
    simp only [stepWorker, worker, wake, mode, request]
    rfl
  have parts : (Call.expecting false).step left = some (.clearing false, left) := rfl
  have clears : (Call.clearing false).step left = some (.ended (.done .none) none, left.detach) :=
    Call.step_clearing tidy
  have still : left.detach.stepWorker = none := by
    have gone : left.detach.engine.worker = .exited := left.detach_alike.worker
    rw [stepWorker, gone]
  have run : Operation.close.call.runWith callSteps host
      = (.ended (.done .none) none, host.vacated.detach) :=
    (Call.runWith_step closes _).trans <| (Call.runWith_step dismisses _).trans <|
      (Call.runWith_work waits leaves _).trans <| (Call.runWith_step parts _).trans <|
      (Call.runWith_step clears _).trans (Call.runWith_ended still _ _ _)
  unfold perform
  rw [run]
  rfl

end Host

namespace Crowd

variable {crowd later : Crowd W} {chronicle past since : Chronicle} {caller : Nat}

/-! ### What a crash comes to -/

/-- Since the lock was poisoned nobody gets past it. -/
structure Bars (struck later : Crowd W) : Prop where
  /-- Until the handle is closed the desk is as it was, and the worker rests. -/
  kept : later.host.engine.isOpen = true → later.host.desk = struck.host.desk
    ∧ later.host.stepWorker = none
  /-- The handle counts as live until then. -/
  live : later.host.isLive = later.host.engine.isOpen
  /-- Nothing changes until then, unless an output is dropped, and only a call that has come to
  close the handle puts an end to that. -/
  idles : later.host.engine.isOpen = true → ∀ move next, later.after? move = some next →
    later.Idles move next.host ∧ (next.host.engine.isOpen = true
      ∨ ∃ caller last, move = .steps caller ∧ later.calls[caller]? = some (.closing last))
  /-- Whatever is asked of the engine fails, because of the lock or of what was brought along. -/
  refuses : later.host.engine.isOpen = true → ∀ operation, operation ≠ .close →
    ∃ fault, later.host.perform operation = (.failed fault, later.host)
      ∧ (fault = .poisonedLock ∨ ∃ info reason, operation.shape? = some info
        ∧ info.defect? = some reason ∧ fault = .invalidParameter reason)
  /-- So it does among others, whatever they do.  No step that it takes changes anything, the world
  of the backend included. -/
  lockedOut : ∀ operation next last, operation ≠ .close →
    later.after? (.begins operation) = some next → Reachable next last →
      ∃ call, last.calls[later.calls.length]? = some call
        ∧ call.LockedOut operation last.host.engine.isOpen
        ∧ (call.isOver = true ∨ ∃ after, last.after? (.steps later.calls.length) = some after)
        ∧ ∀ move after, move.caller? = some later.calls.length → last.after? move = some after →
          after.host = last.host
  /-- Whoever was about to take the lock, or waited for an outcome, is turned away as well. -/
  turnsAway : ∀ caller call target, later.calls[caller]? = some call → call.atLock? = some target →
    (∃ next, later.after? (.steps caller) = some next)
      ∧ ∀ move next, move.caller? = some caller → later.after? move = some next →
        next = later.update caller (.ended (.failed .poisonedLock) target, later.host)

/-- The engine can be closed like any other. -/
structure PutsAway (later : Crowd W) (chronicle : Chronicle) : Prop where
  byOne : chronicle.ClosedByOne later
  /-- Whoever closes it alone is told that all is well, and has put it away. -/
  closes : later.host.engine.isOpen = true → ∃ after,
    later.host.perform .close = (.done .none, after) ∧ after.engine.worker = .exited
      ∧ after.engine.isOpen = false ∧ after.desk.attached = false ∧ after.isLive = false
      ∧ after.world = if later.host.engine.lent = 0
        then later.host.engine.backend.dropped later.host.world else later.host.world
  /-- The worker leaves as soon as it is asked to. -/
  leaves : later.host.desk.mode = .leaving → later.host.engine.worker = .exited
    ∨ ∃ next, later.after? .works = some next ∧ next.host.engine.worker = .exited
  /-- It has left when the call that has closed the handle is through. -/
  through : ∀ caller : Nat, chronicle.begun[caller]? = some Operation.close →
    later.calls[caller]? = some (Call.ended (.done .none) none) →
      later.host.engine.worker = .exited ∧ later.host.desk.attached = false

/-- The outputs that callers hold can be dropped, and each of them goes back once. -/
structure GivesBack (later : Crowd W) (host : Host W) (chronicle : Chronicle) : Prop where
  drops : ∀ caller output, later.held? caller = some output →
    ∃ next, later.after? (.drops caller) = some next
      ∧ next.host = (if output.lease.isNone then later.host else (later.host.takeBack output).2)
      ∧ ∀ last, Reachable next last → last.held? caller = none
  /-- An output that is dropped is from then on among what was given back, exactly once. -/
  once : ∃ returned, later.Settles host chronicle returned
    ∧ ∀ caller output next last since, later.held? caller = some output → output.lease ≠ none →
      later.after? (.drops caller) = some next → Lived next last since →
        ∃ more, last.Settles host (chronicle.append since) (returned ++ output.receipt :: more)
          ∧ output.receipt.ticket ∉ (returned ++ more).map (·.ticket)

section aftermath

variable {backend : Backend W} {id : Nat} {options : Options} {framework : Framework} {world : W}
  {live : List Nat} {host : Host W} {struck : Crowd W}

theorem bars_of_reachable (opened : backend.openAs id options framework world live = .opened host)
    (reach : Reachable { host } struck) (barred : struck.host.Barred struck.host)
    (rests : struck.host.Rests) (onward : Reachable struck later) : struck.Bars later := by
  have fresh := Backend.fresh_of_opened opened
  have whole := reach.trans onward
  have barred' := barred_of_reachable fresh reach barred rests onward
  have poisoned := barred'.poisoned
  have retiring := Retiring.of_reachable fresh whole
  exact {
    kept := by
      intro isOpen
      obtain ⟨desk, -, still⟩ := barred'.still rests (retiring.stays isOpen)
      exact ⟨desk, still⟩
    live := listed_of_reachable opened whole
    idles := by
      intro isOpen move next made
      have idles := idles_of_after? barred' rests retiring isOpen made
      exact ⟨idles, idles.isOpen isOpen⟩
    refuses := by
      intro isOpen operation other
      obtain ⟨-, -, still⟩ := barred'.still rests (retiring.stays isOpen)
      obtain ⟨fault, steps, fails, few, reason⟩ :=
        Operation.fails_of_poisoned isOpen poisoned other
      refine ⟨fault, Host.perform_of_fails fails still (Nat.le_trans few (by decide)), ?_⟩
      refine reason.imp_right fun ⟨info, invalid, brought⟩ => ?_
      obtain ⟨reason, defect, same⟩ := Descriptor.defect_of_validate invalid
      refine ⟨info, reason, ?_, defect, same⟩
      obtain rfl | ⟨input, rfl⟩ := brought <;> rfl
    lockedOut := by
      intro operation next last other made onward'
      obtain ⟨call, found, out⟩ :=
        lockedOut_of_reachable fresh whole barred' rests other made onward'
      have poisoned := (barred_of_reachable fresh whole barred' rests
        (Reachable.trans (.step .refl _ made) onward')).poisoned
      refine ⟨call, found, out, ?_, ?_⟩
      · rcases out.isOver_or_step poisoned with isOver | ⟨after, stepped⟩
        · exact .inl isOver
        · exact .inr ⟨_, after?_steps found stepped⟩
      · intro move after mover moves
        obtain ⟨_, _, _, found', goes, rfl⟩ := goes_of_after? moves mover
        cases found.symm.trans found'
        exact (out.goes poisoned goes).2
    turnsAway := by
      intro caller call target found here
      refine ⟨⟨_, after?_steps found (Call.step_at_lock here poisoned)⟩, ?_⟩
      intro move next mover made
      obtain ⟨_, _, _, found', goes, rfl⟩ := goes_of_after? made mover
      cases found.symm.trans found'
      obtain ⟨rfl, rfl⟩ := goes.turned_away here poisoned
      rfl }

/-- An engine that has let go of its backend has come to its end. -/
theorem left_of_detached (barred : later.host.Barred struck.host) (rests : struck.host.Rests)
    (detached : later.host.desk.attached = false) : later.host.desk.mode = .leaving
      ∧ later.host.desk.request = none ∧ later.host.engine.worker = .exited := by
  cases barred with
  | resting _ desk => cases (desk ▸ rests.attached).symm.trans detached
  | asked _ _ _ attached => cases attached.symm.trans detached
  | left _ leaving empty exited => exact ⟨leaving, empty, exited⟩

theorem putsAway_of_lived (fresh : host.Fresh backend) (lived : Lived { host } struck past)
    (barred : struck.host.Barred struck.host) (rests : struck.host.Rests)
    (onward : Lived struck later since) : later.PutsAway (past.append since) := by
  have whole := lived.trans onward
  have orderly := Orderly.of_reachable fresh whole.reachable
  have retiring := Retiring.of_reachable fresh whole.reachable
  have closing := Chronicle.Closing.of_lived fresh whole
  have barred' := barred_of_reachable fresh lived.reachable barred rests onward.reachable
  exact {
    byOne := by
      refine closing.closedByOne orderly fun detached => ?_
      obtain ⟨leaving, empty, -⟩ := left_of_detached barred' rests detached
      exact ⟨leaving, empty⟩
    closes := by
      intro isOpen
      obtain ⟨desk, parked, -⟩ := barred'.still rests (retiring.stays isOpen)
      have empty : later.host.desk.request = none := desk ▸ rests.empty
      have attached : later.host.vacated.desk.attached = true :=
        (congrArg Desk.attached desk).trans rests.attached
      obtain ⟨exited, closed, detached, dead⟩ := later.host.vacated_detach
      exact ⟨_, Host.perform_close isOpen parked empty orderly.ordered.tidy, exited, closed,
        detached, dead, Host.detach_world attached⟩
    leaves := by
      intro leaving
      obtain ⟨-, exited | ⟨-, -, goes⟩⟩ := barred'.leaves rests leaving
      · exact .inl exited
      · exact .inr ⟨_, Option.map_eq_some_iff.2 ⟨_, goes, rfl⟩, rfl⟩
    through := by
      intro caller begun ended
      have detached := closing.through caller begun ended
      exact ⟨(left_of_detached barred' rests detached).2.2, detached⟩ }

theorem givesBack_of_lived (opened : backend.openAs id options framework world live = .opened host)
    (lived : Lived { host } later past) (barred : later.host.Barred struck.host) :
    later.GivesBack host past where
  drops _ _ held := drops_held held barred.free
  once := settles_of_lived opened lived

/-- From the crash on the engine is of no use, can be put away, and keeps nothing from its
backend. -/
structure Bricked (struck : Crowd W) (host : Host W) (past : Chronicle) : Prop where
  bars : ∀ later, Reachable struck later → struck.Bars later
  putsAway : ∀ later since, Lived struck later since → later.PutsAway (past.append since)
  givesBack : ∀ later since, Lived struck later since → later.GivesBack host (past.append since)

theorem bricked_of_rests (opened : backend.openAs id options framework world live = .opened host)
    (lived : Lived { host } struck past) (poisoned : struck.host.engine.deskPoisoned = true)
    (rests : struck.host.Rests) (parked : struck.host.engine.worker = .parked) :
    struck.Bricked host past := by
  have fresh := Backend.fresh_of_opened opened
  have barred : struck.host.Barred struck.host := .resting poisoned rfl parked
  refine ⟨fun later onward => ?_, fun later since onward => ?_, fun later since onward => ?_⟩
  · exact bars_of_reachable opened lived.reachable barred rests onward
  · exact putsAway_of_lived fresh lived barred rests onward
  · exact givesBack_of_lived opened (lived.trans onward)
      (barred_of_reachable fresh lived.reachable barred rests onward.reachable)

/-- A crash under the lock of an idle engine leaves it like that. -/
theorem bricked_of_struck (opened : backend.openAs id options framework world live = .opened host)
    (lived : Lived { host } crowd past) (idle : crowd.host.desk.mode = .idle) {move : Move}
    (made : crowd.after? move = some struck) {left : W}
    (here : struck.host = crowd.host.struck left) :
    struck.Bricked host (past.after crowd struck move) := by
  obtain ⟨rests, parked⟩ := rests_of_idle (Backend.fresh_of_opened opened) lived.reachable idle
  refine bricked_of_rests opened (lived.move _ made) ?_ ?_ ?_ <;> rw [here]
  · rfl
  · exact ⟨rests.idle, rests.empty, rests.attached⟩
  · exact parked

end aftermath

/-- Under every schedule, and whatever the backend does: a question that a caller puts to the
backend of an idle engine under the lock, and over which the backend crashes, ends the call with
the crash and poisons both locks.  Nothing else has happened by that.  From then on nobody is let
in: until the handle is closed, whatever is asked of the engine fails and leaves it as it is, and
the handle counts as live.  The engine can be closed like any other, and the outputs that callers
hold go back when they are dropped, each of them once.  A caller that has taken the lock can crash
in one other way only: the backend crashes over the memory of an outcome that nobody has picked
up. -/
theorem bricked_by_crash {backend : Backend W} {id : Nat} {options : Options}
    {framework : Framework} {world : W} {live : List Nat} {host : Host W}
    (opened : backend.openAs id options framework world live = .opened host)
    {chronicle : Chronicle} (lived : Lived { host } crowd chronicle)
    (idle : crowd.host.desk.mode = .idle) {part : Part}
    (enters : crowd.calls[caller]? = some (.entering part)) :
    (∀ message world, crowd.host.engine.deskPoisoned = false →
        crowd.host.engine.backendPoisoned = false → part.Wrecks crowd.host message world →
        ∃ struck, crowd.after? (.steps caller) = some struck
          ∧ struck.calls[caller]? = some (.ended (.crashed message) part.target?)
          ∧ struck.host = crowd.host.struck world
          ∧ struck.Bricked host (chronicle.after crowd struck (.steps caller)))
      ∧ ∀ message target struck, crowd.after? (.steps caller) = some struck →
        struck.calls[caller]? = some (.ended (.crashed message) target) →
        (∃ world, part.Wrecks crowd.host message world ∧ struck.host = crowd.host.struck world
            ∧ struck.Bricked host (chronicle.after crowd struck (.steps caller)))
          ∨ ∃ task timeout middle dropped, part = .submit task timeout ∧ crowd.host.Tuned middle
            ∧ middle.cleared.Drops middle.stale (some message) dropped
            ∧ struck.host = dropped.poisonDesk := by
  have fresh := Backend.fresh_of_opened opened
  obtain ⟨rests, parked⟩ := rests_of_idle fresh lived.reachable idle
  refine ⟨fun message world unpoisoned sound wrecks => ?_,
    fun message target struck made ended => ?_⟩
  · have quiet : crowd.host.desk.mode ≠ .running := by
      rw [idle]
      nofun
    have free : crowd.host.engine.worker.busy = false := by
      rw [parked]
      rfl
    have receptive : crowd.host.Receptive := ⟨quiet, rests.attached, free, sound⟩
    have made := after?_steps enters (Call.step_wrecked wrecks receptive unpoisoned)
    refine ⟨_, made, ?_, rfl, bricked_of_struck opened lived idle made rfl⟩
    rw [getElem?_update enters, if_pos rfl]
  · obtain ⟨_, after, next, found, goes, same⟩ := goes_of_after? made rfl
    cases enters.symm.trans found
    rw [same, getElem?_update enters, if_pos rfl] at ended
    cases ended
    obtain ⟨world, wrecks, left⟩ | other := Call.wrecks_of_step (goes.step rfl)
    · have here : struck.host = crowd.host.struck world := (congrArg Crowd.host same).trans left
      exact .inl ⟨world, wrecks, here, bricked_of_struck opened lived idle made here⟩
    · rw [same]
      exact .inr other

end Crowd

/-- The property that a call is about to read under the lock. -/
def Call.reads? : Call → Option String
  | entering (.readProperty key) => some key
  | _ => none

theorem Call.eq_of_reads? {call : Call} {key : String} (h : call.reads? = some key) :
    call = entering (.readProperty key) := by
  cases call with
  | entering part =>
      cases part with
      | readProperty =>
          cases h
          rfl
      | _ => cases h
  | _ => cases h

namespace CustomModel

/-- The model that crashes when it is asked for a property, with regions of its own. -/
def touchyLender : Backend Unit := { touchyByte with allocates := fun _ => true }

/-- An engine on that model. -/
def touchyLendingEngine : Host Unit :=
  { touchyEngine with engine := { touchyEngine.engine with backend := touchyLender } }

/-- A caller is given its output, and another one comes to read a property. -/
def readAfterPass : List Move :=
  [.begins (.infer (byteTask 7).input (some 0)), .steps 0, .steps 0, .works, .works, .works, .works,
    .steps 0, .begins (.read "speed"), .steps 1]

/-- The crash bricks the engine.  The lock turns the next caller away, the engine can be closed, and
the byte that the first caller was given goes back when it is dropped. -/
theorem byte_back_after_crash : ∃ (crowd struck : Crowd Unit) (chronicle : Chronicle),
    Crowd.Lived { host := touchyLendingEngine } crowd chronicle ∧ crowd.host.desk.mode = .idle
      ∧ crowd.after? (.steps 1) = some struck
      ∧ struck.calls[1]? = some (.ended (.crashed "the property is out of reach") none)
      ∧ struck.host.engine.isOpen = true ∧ struck.host.isLive = true
      ∧ struck.host.perform .timeout = (.failed .poisonedLock, struck.host)
      ∧ (∃ after, struck.host.perform .close = (.done .none, after)
        ∧ after.engine.worker = .exited ∧ after.isLive = false)
      ∧ ∃ output next, struck.held? 0 = some output ∧ output.regions = [some [7]]
        ∧ struck.after? (.drops 0) = some next
        ∧ ∃ returned, next.Settles touchyLendingEngine
          (chronicle.after crowd struck (.steps 1)) returned ∧ output.receipt ∈ returned := by
  have run : (Crowd.afterAll? { host := touchyLendingEngine } readAfterPass).any (fun crowd =>
      decide (crowd.host.desk.mode = .idle ∧ crowd.host.engine.isOpen = true
        ∧ crowd.host.engine.deskPoisoned = false ∧ crowd.host.engine.backendPoisoned = false
        ∧ crowd.calls[1]?.bind Call.reads? = some "speed"
        ∧ crowd.host.engine.ownProperty? "speed" = none
        ∧ ((crowd.after? (.steps 1)).bind (·.held? 0)).map
            (fun output => (output.regions, output.lease.isSome)) = some ([some [7]], true)))
              = true := by
    decide +kernel
  obtain ⟨crowd, reached, idle, isOpen, unpoisoned, sound, reads, foreign, held⟩ :=
    Crowd.exists_of_any run
  obtain ⟨chronicle, lived, -⟩ := Crowd.Lived.run .start reached
  have opened : touchyLender.openAs 0 {} .custom () [] = .opened touchyLendingEngine := rfl
  obtain ⟨call, found, reads⟩ := Option.bind_eq_some_iff.1 reads
  obtain rfl := Call.eq_of_reads? reads
  obtain ⟨crashes, -⟩ := Crowd.bricked_by_crash opened lived idle found
  have backend : crowd.host.engine.backend = touchyLender :=
    lived.reachable.backend (Backend.fresh_of_opened opened)
  obtain ⟨struck, made, ended, here, bricked⟩ := crashes "the property is out of reach" ()
    unpoisoned sound (.read foreign (by rw [backend]; rfl))
  have isOpen' : struck.host.engine.isOpen = true := by
    rw [here]
    exact isOpen
  have bars := bricked.bars struck .refl
  obtain ⟨fault, performed, reason⟩ := bars.refuses isOpen' .timeout (by nofun)
  obtain rfl : fault = .poisonedLock := reason.resolve_right (by rintro ⟨_, _, ⟨⟩, -⟩)
  obtain ⟨after, closed, exited, -, -, dead, -⟩ := (bricked.putsAway struck _ .start).closes isOpen'
  have back := bricked.givesBack struck _ .start
  rw [made] at held
  obtain ⟨output, held, given⟩ := Option.map_eq_some_iff.1 held
  obtain ⟨regions, leased⟩ := Prod.mk.inj given
  obtain ⟨next, dropped, -⟩ := back.drops 0 output held
  obtain ⟨returned, -, once⟩ := back.once
  obtain ⟨more, settles, -⟩ := once 0 output next next _ held
    (Option.isSome_iff_ne_none.1 leased) dropped .start
  rw [Chronicle.append_nothing, Chronicle.append_nothing] at settles
  refine ⟨crowd, struck, chronicle, lived, idle, made, ended, isOpen', bars.live.trans isOpen',
    performed, ⟨after, closed, exited, dead⟩, output, next, held, regions, dropped, _, settles, ?_⟩
  exact List.mem_append_right _ List.mem_cons_self

end CustomModel

end Inference
