/-
Two engines that count differently.

Calls and worker take the same steps on an engine that is ahead of another one in its counting
(`Call.trails_step`, `Host.stepWorker_ahead`), and so do whole crowds that never close it
(`Crowd.behind_after?`, `Crowd.behind_afterAll?`).
-/
import Inference.Proofs.Engine.Renumbering

namespace Inference

variable {W : Type} {o : Offset}

/-! ### Steps of calls -/

namespace Call

variable (o)

theorem copyFrom_ahead (output : Frame) (index : Nat) (target : Frame) (steps : Nat) :
    copyFrom (output.ahead o) index target steps = copyFrom output index target steps :=
  copyFrom_congr (by rfl) index target steps

theorem copyFrom_plain (output : Frame) (index : Nat) (target : Frame) (steps : Nat) :
    (copyFrom output index target steps).1.map (Reply.ahead o)
      = (copyFrom output index target steps).1 := by
  obtain ⟨answer, same⟩ := copyFrom_reply output index target steps
  rw [same]
  cases answer <;> rfl

theorem receive_ahead (task : Task) (result : Except Fault Frame) :
    receive task (result.map fun frame => frame.ahead o) = (receive task result).ahead o := by
  cases result with
  | error fault => rfl
  | ok output =>
      have handed : (if (output.ahead o).owner = .engine then
            { output.ahead o with owner := .caller } else output.ahead o)
          = (if output.owner = .engine then { output with owner := .caller }
            else output).ahead o := by
        by_cases owned : output.owner = .engine
        · rw [if_pos owned]
          exact if_pos owned
        · rw [if_neg owned]
          exact if_neg owned
      simp only [Except.map, receive, hand, handed]
      generalize (if output.owner = .engine then { output with owner := .caller } else output) = out
      cases task.target with
      | some target =>
          have count : (out.ahead o).count = out.count := rfl
          simp only [count, copyFrom_ahead, Call.ahead, copyFrom_plain]
      | none =>
          simp only
          split <;> rfl

variable {o} {host : Host W} {lent : Nat}

theorem trails_tryReceive (o : Offset) (lent : Nat) (attached : host.desk.attached = true)
    (tidy : host.desk.Tidy) (task : Task) (ticket : Nat) :
    Trails o (Call.ahead o) (tryReceive task ticket host)
      (tryReceive task (ticket + o.tickets) (host.ahead o lent)) := by
  have present : (host.ahead o lent).desk.hasResponse (ticket + o.tickets)
      = host.desk.hasResponse ticket := host.desk.hasResponse_ahead o ticket
  have collected : (host.ahead o lent).desk.collect = _ := Desk.collect_ahead o tidy
  have kept := host.desk.attached_collect.trans attached
  unfold tryReceive
  rw [present, collected]
  refine .ite (.done attached) (.ite ?_ .never)
  cases collects : host.desk.collect with
  | mk result desk =>
      rw [collects] at kept
      cases result with
      | none => exact .never
      | some result =>
          have received := receive_ahead o task result
          simp only [Option.map_some, received]
          exact .done kept

theorem trails_expire (attached : host.desk.attached = true) (tidy : host.desk.Tidy) (call : Call) :
    Trails o (Call.ahead o) (call.expire host) ((call.ahead o).expire (host.ahead o lent)) := by
  cases call with
  | awaiting task timeout ticket =>
      refine .ite .never ?_
      obtain ⟨⟨lent', same⟩, kept⟩ :=
        trails_tryReceive o lent attached tidy task ticket
      rw [same]
      cases received : tryReceive task ticket host with
      | none => exact .done attached
      | some next =>
          refine ⟨⟨lent', rfl⟩, ?_⟩
          rintro _ ⟨⟩
          exact kept _ received
  | _ => exact .never

/-- A step of a call that does not let go of the backend. -/
theorem trails_step (attached : host.desk.attached = true) (tidy : host.desk.Tidy) {call : Call}
    (holds : ∀ last, call ≠ .clearing last) :
    Trails o (Call.ahead o) (call.step host) ((call.ahead o).step (host.ahead o lent)) := by
  cases call with
  | checking part =>
      simp only [step, Call.ahead]
      have isOpen : (host.ahead o lent).engine.isOpen = host.engine.isOpen := rfl
      rw [isOpen]
      split
      · exact .done attached
      · exact .done attached
  | entering part =>
      refine (Act.steady_locked part.steady_run host lent attached).map ?_
      intro outcome after lent kept
      cases outcome <;> exact ⟨rfl, kept⟩
  | awaiting task timeout ticket => exact trails_tryReceive o lent attached tidy task ticket
  | dropping output answer target =>
      refine (Act.steady_drop output host lent attached).map ?_
      intro outcome after lent kept
      cases outcome <;> exact ⟨rfl, kept⟩
  | closing last =>
      simp only [step, Call.ahead, Host.retire]
      have isOpen : (host.ahead o lent).engine.isOpen = host.engine.isOpen := rfl
      rw [isOpen]
      cases host.engine.isOpen with
      | true => exact .done attached
      | false => cases last <;> exact .done attached
  | dismissing last => exact .done attached
  | expecting last =>
      have gone : (host.ahead o lent).engine.worker.gone = host.engine.worker.gone :=
        Worker.gone_ahead o host.engine.worker
      simp only [step, Call.ahead]
      rw [gone]
      exact .ite (.done attached) .never
  | clearing last => exact absurd rfl (holds last)
  | ended => exact .never

end Call

/-! ### Steps of the worker -/

namespace Host

variable (host : Host W) (o : Offset) (lent : Nat)

theorem wake_ahead :
    (host.ahead o lent).wake = host.wake.map fun after => after.ahead o lent := by
  have mode : (host.ahead o lent).desk.mode = host.desk.mode := rfl
  have request : (host.ahead o lent).desk.request
      = host.desk.request.map fun request => request.ahead o := rfl
  unfold wake
  simp only [mode, request]
  cases host.desk.mode <;> cases host.desk.request <;> rfl

theorem beginPass_ahead (request : Request) :
    (host.ahead o lent).beginPass (request.ahead o) = (host.beginPass request).ahead o lent := by
  have attached : (host.ahead o lent).desk.attached = host.desk.attached := rfl
  have allocates :
      (host.ahead o lent).engine.backend.allocates (host.ahead o lent).world
        = host.engine.backend.allocates host.world := rfl
  have input : (request.ahead o).input = request.input := rfl
  have output : (request.ahead o).output = request.output := rfl
  unfold beginPass
  simp only [attached, allocates, input, output]
  split
  · rfl
  cases request.input.allBytes with
  | error fault => rfl
  | ok inputs =>
      simp only
      split <;> rfl

theorem endPass_ahead (request : Request) (lending : Bool) (pass : Pass) :
    ∃ lent', (host.ahead o lent).endPass (request.ahead o) lending pass
      = (host.endPass request lending pass).ahead o lent' := by
  have output : (request.ahead o).output = request.output := rfl
  unfold endPass
  rw [output]
  cases pass.failure? request.output with
  | some fault =>
      refine ⟨lent, ?_⟩
      cases lending with
      | false => rfl
      | true =>
          simp only [if_true, release_ahead]
          obtain ⟨crash, after⟩ := host.release pass.outputs
          cases crash <;> rfl
  | none =>
      cases lending with
      | true => exact ⟨lent + 1, rfl⟩
      | false =>
          refine ⟨lent, ?_⟩
          change (host.ahead o lent).withWorker
              (.returning (request.ahead o) (Frame.produced request.output pass.outputs))
            = (host.withWorker (.returning request
                (Frame.produced request.output pass.outputs))).ahead o lent
          cases made : Frame.produced request.output pass.outputs with
          | error fault => rfl
          | ok frame =>
              rw [Frame.eq_of_produced made]
              rfl

theorem deliver_ahead (ticket : Nat) (produced : Except Fault Frame) :
    (host.ahead o lent).deliver (ticket + o.tickets) (produced.map fun frame => frame.ahead o)
      = (host.deliver ticket produced).ahead o lent := by
  cases produced with
  | error fault => rfl
  | ok frame =>
      have owner : (frame.ahead o).owner = frame.owner := rfl
      simp only [deliver, Except.map, owner]
      split
      · have number : host.desk.outstanding.last + o.numbers + 1
            = host.desk.outstanding.last + 1 + o.numbers := Nat.add_right_comm ..
        simpa [Outstanding.add, ahead, withDesk, desk, Desk.ahead, Outstanding.ahead,
          Response.ahead, Parcel.ahead, Except.map] using number
      · rfl

theorem record_ahead (attached : host.desk.attached = true) (request : Request)
    (produced : Except Fault Frame) :
    ∃ lent', (host.ahead o lent).record (request.ahead o) (produced.map fun frame => frame.ahead o)
      = (host.record request produced).ahead o lent' := by
  have deserted : (host.ahead o lent).desk.deserted = some (request.ahead o).ticket
      ↔ host.desk.deserted = some request.ticket := by
    show host.desk.deserted.map (fun ticket => ticket + o.tickets)
      = some (request.ticket + o.tickets) ↔ _
    cases host.desk.deserted <;> simp
  by_cases mark : host.desk.deserted = some request.ticket
  · unfold record
    rw [if_pos mark, if_pos (deserted.2 mark)]
    cases produced with
    | error fault => exact ⟨lent, rfl⟩
    | ok frame =>
        have unmarked : (host.ahead o lent).withDesk
            { (host.ahead o lent).desk with deserted := none }
            = (host.withDesk { host.desk with deserted := none }).ahead o lent := rfl
        simp only [Except.map, Frame.isNone_lease_ahead, unmarked]
        by_cases plain : frame.lease.isNone = true
        · simp only [if_pos plain]
          exact ⟨lent, rfl⟩
        · simp only [if_neg plain]
          obtain ⟨lent', same⟩ := (host.withDesk { host.desk with deserted := none }).takeBack_ahead
            o lent attached frame
          refine ⟨lent', ?_⟩
          rw [same]
          obtain ⟨crash, after⟩ :=
            (host.withDesk { host.desk with deserted := none }).takeBack frame
          cases crash <;> rfl
  · refine ⟨lent, ?_⟩
    have delivered := host.deliver_ahead o lent request.ticket produced
    unfold record
    rw [if_neg mark, if_neg fun marked => mark (deserted.1 marked)]
    exact congrArg complete delivered

theorem stepWorker_ahead (attached : host.desk.attached = true) :
    ∃ lent', (host.ahead o lent).stepWorker
      = host.stepWorker.map fun after => after.ahead o lent' := by
  have worker : (host.ahead o lent).engine.worker = host.engine.worker.ahead o := rfl
  unfold stepWorker
  rw [worker]
  cases host.engine.worker with
  | parked => exact ⟨lent, host.wake_ahead o lent⟩
  | holding request => exact ⟨lent, congrArg some (host.beginPass_ahead o lent request)⟩
  | inPass request outputs lending =>
      have input : (request.ahead o).input = request.input := rfl
      simp only [Worker.ahead, input]
      cases request.input.allBytes with
      | error fault => exact ⟨lent, rfl⟩
      | ok inputs =>
          have finish : (host.ahead o lent).engine.backend.finish inputs outputs lending
                (host.ahead o lent).world
              = host.engine.backend.finish inputs outputs lending host.world := rfl
          simp only [finish]
          cases host.engine.backend.finish inputs outputs lending host.world with
          | none => exact ⟨lent, rfl⟩
          | some result =>
              obtain ⟨lent', same⟩ := Host.endPass_ahead { host with world := result.2 } o lent
                request lending result.1
              exact ⟨lent', congrArg some same⟩
  | returning request produced =>
      obtain ⟨lent', same⟩ := host.record_ahead o lent attached request produced
      exact ⟨lent', congrArg some same⟩
  | exited => exact ⟨lent, rfl⟩
  | died => exact ⟨lent, rfl⟩

end Host

/-! ### Whole runs -/

/-- Whether a call has nothing to do with closing the engine. -/
def Call.stays : Call → Bool
  | closing _ | dismissing _ | expecting _ | clearing _ => false
  | _ => true

/-- Whether a move begins nothing that closes the engine. -/
def Move.stays : Move → Bool
  | begins operation => operation.call.stays
  | givesUp => false
  | _ => true

/-- The same move in a crowd in which so many callers came before. -/
def Move.behind (count : Nat) : Move → Move
  | steps caller => steps (count + caller)
  | expires caller => expires (count + caller)
  | drops caller => drops (count + caller)
  | move => move

theorem CallStep.stays {call next : Call} {host after : Host W}
    (step : CallStep call host next after) (stays : call.stays = true) : next.stays = true := by
  cases step with
  | checked onward => cases onward <;> rfl
  | ran onward => cases onward <;> rfl
  | @received task _ _ _ _ result =>
      cases result with
      | error => rfl
      | ok output =>
          simp only [Call.receive, Call.hand]
          repeat' split
          all_goals rfl
  | retired | refused | inherited | dismissed | parted | cleared => cases stays
  | _ => rfl

/-- An operation begins with nothing that was counted. -/
theorem Operation.call_ahead (operation : Operation) : operation.call.ahead o = operation.call := by
  cases operation with
  | reshape info | inferShaped _ info =>
      simp only [call, guarded]
      split <;> rfl
  | infer _ timeout => cases timeout <;> rfl
  | _ => rfl

namespace Crowd

/-- A crowd that began where another one stopped, which was `o` ahead of a new one by then. -/
def behind (past : Crowd W) (o : Offset) (lent : Nat) (crowd : Crowd W) : Crowd W where
  host := crowd.host.ahead o lent
  calls := past.calls ++ crowd.calls.map (Call.ahead o)
  dropped := crowd.dropped.map (fun caller => past.calls.length + caller) ++ past.dropped
  givenUp := crowd.givenUp

/-- Nobody closes the engine, and its desk is in order. -/
structure Staying (crowd : Crowd W) : Prop where
  attached : crowd.host.desk.attached = true
  calls : ∀ call ∈ crowd.calls, call.stays = true
  orderly : crowd.Orderly

variable {past crowd next : Crowd W} {move : Move} {lent : Nat}

theorem Staying.moved (h : crowd.Staying) (moved : crowd.Moved move next)
    (stays : move.stays = true) : next.Staying := by
  have orderly := h.orderly.moved moved
  cases moved with
  | began operation =>
      refine ⟨h.attached, fun call member => ?_, orderly⟩
      rcases List.mem_append.1 member with old | new
      · exact h.calls call old
      · rw [List.mem_singleton.1 new]
        exact stays
  | @called _ _ call after _ _ found step =>
      have stays := h.calls call (List.mem_of_getElem? found)
      refine ⟨?_, fun other member => ?_, orderly⟩
      · rcases step.attached h.orderly.ordered with same | ⟨last, rfl⟩
        · exact same.trans h.attached
        · cases stays
      · rcases List.mem_or_eq_of_mem_set member with old | rfl
        · exact h.calls other old
        · exact step.stays stays
  | worked step =>
      obtain ⟨_, _, _, _, _, desk⟩ := step.desk
      exact ⟨(congrArg Desk.attached desk).trans h.attached, h.calls, orderly⟩
  | dropped held drops =>
      exact ⟨(congrArg Desk.attached drops.beside.desk).trans h.attached, h.calls, orderly⟩
  | gaveUp => cases stays

theorem behind_getElem? (caller : Nat) :
    (past.behind o lent crowd).calls[past.calls.length + caller]?
      = crowd.calls[caller]?.map (Call.ahead o) := by
  have later : past.calls.length ≤ past.calls.length + caller := Nat.le_add_right _ _
  show (past.calls ++ crowd.calls.map (Call.ahead o))[past.calls.length + caller]? = _
  rw [List.getElem?_append_right later, Nat.add_sub_cancel_left, List.getElem?_map]

theorem behind_update (caller : Nat) (after : Call) (host : Host W) (lent' : Nat) :
    (past.behind o lent crowd).update (past.calls.length + caller)
        (after.ahead o, host.ahead o lent')
      = past.behind o lent' (crowd.update caller (after, host)) := by
  simp [behind, update, List.map_set]

theorem behind_held? (old : ∀ caller ∈ past.dropped, caller < past.calls.length) (caller : Nat) :
    (past.behind o lent crowd).held? (past.calls.length + caller)
      = (crowd.held? caller).map fun output => output.ahead o := by
  have dropped : (past.behind o lent crowd).dropped.contains (past.calls.length + caller)
      = crowd.dropped.contains caller := by
    rw [Bool.eq_iff_iff, List.contains_iff_mem, List.contains_iff_mem]
    constructor
    · intro member
      rcases List.mem_append.1 member with here | before
      · obtain ⟨other, member, same⟩ := List.mem_map.1 here
        cases Nat.add_left_cancel same
        exact member
      · have := old _ before
        omega
    · intro member
      exact List.mem_append_left _ (List.mem_map.2 ⟨caller, member, rfl⟩)
  unfold held?
  rw [dropped, behind_getElem?]
  split
  · rfl
  cases crowd.calls[caller]? with
  | none => rfl
  | some call => exact call.output?_ahead o

theorem behind_called {caller : Nat} {act later : Call → Option (Call × Host W)}
    (trails : ∀ call, crowd.calls[caller]? = some call →
      Trails o (Call.ahead o) (act call) (later (call.ahead o))) :
    ∃ lent', ((past.behind o lent crowd).calls[past.calls.length + caller]?.bind fun call =>
          (later call).bind fun after =>
            some ((past.behind o lent crowd).update (past.calls.length + caller) after))
        = (crowd.calls[caller]?.bind fun call =>
            (act call).bind fun after => some (crowd.update caller after)).map
              fun next => past.behind o lent' next := by
  rw [behind_getElem?]
  cases found : crowd.calls[caller]? with
  | none => exact ⟨lent, rfl⟩
  | some call =>
      obtain ⟨⟨lent', same⟩, -⟩ := trails call found
      simp only [Option.map_some, Option.bind_some, same]
      cases act call with
      | none => exact ⟨lent, rfl⟩
      | some after => exact ⟨lent', congrArg some (behind_update caller after.1 after.2 lent')⟩

/-- Every move does the same behind other callers, and none is possible that was not before. -/
theorem behind_after? (o : Offset) (lent : Nat)
    (old : ∀ caller ∈ past.dropped, caller < past.calls.length)
    (h : crowd.Staying) (stays : move.stays = true) :
    ∃ lent', (past.behind o lent crowd).after? (move.behind past.calls.length)
      = (crowd.after? move).map fun next => past.behind o lent' next := by
  have attached := h.attached
  have tidy := h.orderly.ordered.tidy
  cases move with
  | begins operation =>
      refine ⟨lent, ?_⟩
      have givenUp : (past.behind o lent crowd).givenUp = crowd.givenUp := rfl
      simp only [Move.behind, after?, givenUp]
      split
      · rfl
      · simp [behind, operation.call_ahead]
  | steps caller =>
      refine behind_called fun call found => Call.trails_step attached tidy ?_
      rintro last rfl
      cases h.calls _ (List.mem_of_getElem? found)
  | expires caller => exact behind_called fun call _ => Call.trails_expire attached tidy call
  | works =>
      obtain ⟨lent', same⟩ := crowd.host.stepWorker_ahead o lent attached
      refine ⟨lent', ?_⟩
      show ((crowd.host.ahead o lent).stepWorker.map fun host =>
          { past.behind o lent crowd with host }) = _
      rw [same]
      simp only [after?, Option.map_map]
      rfl
  | drops caller =>
      simp only [Move.behind, after?, behind_held? old]
      cases crowd.held? caller with
      | none => exact ⟨lent, rfl⟩
      | some output =>
          obtain ⟨⟨lent', same⟩, -⟩ := Act.steady_drop output crowd.host lent attached
          refine ⟨lent', ?_⟩
          change ((Act.drop (output.ahead o) (crowd.host.ahead o lent)).bind fun result => _) = _
          rw [same]
          cases ran : Act.drop output crowd.host with
          | none => simp [ran]
          | some result => simp [ran, behind]
  | givesUp => cases stays

/-- So does every run. -/
theorem behind_afterAll? (o : Offset) (lent : Nat)
    (old : ∀ caller ∈ past.dropped, caller < past.calls.length)
    {moves : List Move} (h : crowd.Staying) (stays : ∀ move ∈ moves, move.stays = true) :
    ∃ lent', (past.behind o lent crowd).afterAll? (moves.map (Move.behind past.calls.length))
      = (crowd.afterAll? moves).map fun next => past.behind o lent' next := by
  induction moves generalizing crowd lent with
  | nil => exact ⟨lent, rfl⟩
  | cons move rest ih =>
      have here := stays move List.mem_cons_self
      obtain ⟨lent', same⟩ := behind_after? o lent old h here
      rw [List.map_cons, afterAll?, afterAll?, same]
      cases made : crowd.after? move with
      | none => exact ⟨lent, rfl⟩
      | some next =>
          exact ih lent' (h.moved (moved_of_after? made) here) fun move member =>
            stays move (List.mem_cons_of_mem _ member)

end Crowd

end Inference
