/-
Where the outputs come from.

A request keeps its ticket from the moment it is submitted until its outcome is picked up, and so
does the pass that is run for it.  `Chronicle.Made` says of a frame that it is what the pass of a
ticket left behind, on the input that was submitted under that ticket.  `Chronicle.Follows` follows
it from the worker to the desk, through every step of a call (`Chronicle.Follows.callStep`) and of
the worker (`Chronicle.Follows.workerStep`).
-/
import Inference.Proofs.Engine.Chronicle

namespace Inference

variable {W : Type}

/-! ### Tasks -/

/-- The input that an operation runs a pass on. -/
def Operation.input? : Operation → Option Frame
  | infer frame _ => some frame
  | inferInto frame _ => some frame
  | inferShaped frame _ => some frame
  | _ => none

/-- The task that a call is about until it has its outcome. -/
def Call.task? : Call → Option Task
  | checking part => part.task?
  | entering part => part.task?
  | awaiting task _ _ => some task
  | _ => none

theorem Operation.input?_of_task {operation : Operation} {task : Task}
    (h : operation.call.task? = some task) : operation.input? = some task.input := by
  cases operation with
  | infer frame timeout => cases timeout <;> cases h <;> rfl
  | inferInto frame target =>
      cases h
      rfl
  | inferShaped frame info =>
      simp only [call, guarded] at h
      split at h
      · cases h
      · cases h
        rfl
  | reshape info =>
      simp only [call, guarded] at h
      split at h <;> cases h
  | _ => cases h

/-- A call keeps its task. -/
theorem CallStep.task {call next : Call} {host after : Host W}
    (step : CallStep call host next after)
    {task : Task} (h : next.task? = some task) : call.task? = some task := by
  have onward {part : Part} (onward : next.Onward part.task?) : part.task? = some task := by
    cases onward with
    | checking same => exact same.symm.trans h
    | entering same => exact same.symm.trans h
    | ended => cases h
  cases step with
  | checked goes => exact onward goes
  | ran goes => exact onward goes
  | submitted => exact h
  | @received task _ _ _ _ result =>
      rcases Call.receive_cases task result with ⟨_, _, _, same⟩ | ⟨_, _, same⟩ <;>
        rw [same] at h <;> cases h
  | _ => cases h

/-! ### Outputs -/

namespace Chronicle

/-- The frame is what the pass of a ticket made of the input that was submitted under it. -/
structure Made (chronicle : Chronicle) (ticket : Nat) (frame : Frame) (submitted : Submitted)
    (ran : Ran) : Prop where
  wasSubmitted : submitted ∈ chronicle.submitted
  wasRan : ran ∈ chronicle.ran
  requested : submitted.ticket = ticket
  served : ran.ticket = ticket
  /-- The pass was given a copy of the caller's input. -/
  inputs : submitted.input.allBytes = .ok ran.inputs
  good : ran.pass.ending = .done
  /-- The frame holds what the pass left behind. -/
  regions : frame.regions = ran.pass.outputs.map some
  /-- Its descriptor is the one that was agreed when the request was submitted. -/
  info : frame.info = submitted.output
  /-- Memory of the backend is on lease under the ticket. -/
  lease : frame.lease.map (·.pass) = if ran.lending then some ticket else none

/-- The history only grows. -/
structure Grows (chronicle after : Chronicle) : Prop where
  submitted : chronicle.submitted ⊆ after.submitted
  ran : chronicle.ran ⊆ after.ran

theorem Made.grow {chronicle after : Chronicle} (grows : chronicle.Grows after) {ticket : Nat}
    {frame : Frame} {submitted : Submitted} {ran : Ran}
    (h : chronicle.Made ticket frame submitted ran) : after.Made ticket frame submitted ran :=
  { h with wasSubmitted := grows.submitted h.wasSubmitted, wasRan := grows.ran h.wasRan }

theorem grows_after (chronicle : Chronicle) (crowd next : Crowd W) (move : Move) :
    chronicle.Grows (chronicle.after crowd next move) := by
  cases move <;> constructor <;> simp [Chronicle.after]

end Chronicle

/-- The request that the worker has not run yet. -/
def Worker.ahead? : Worker → Option Request
  | holding request => some request
  | inPass request .. => some request
  | _ => none

theorem Worker.request?_of_ahead {worker : Worker} {request : Request}
    (h : worker.ahead? = some request) : worker.request? = some request := by
  cases worker with
  | holding => exact h
  | inPass => exact h
  | _ => cases h

/-- Where no request is still to be run, there is nothing to say of one. -/
theorem Desk.nothing_coming {desk : Desk} {worker : Worker} {P : Request → Prop}
    (queued : desk.request = none) (ahead : worker.ahead? = none) :
    ∀ request, desk.request = some request ∨ worker.ahead? = some request → P request := by
  rw [queued, ahead]
  intro request coming
  rcases coming with queued | inHand
  · cases queued
  · cases inHand

/-- The outcome on the desk, with its output. -/
def Desk.outcome? (desk : Desk) : Option (Except Fault Frame) := desk.collect.1

/-- Whether the call has not submitted anything yet. -/
def Call.isEarly : Call → Bool
  | checking _ | entering _ => true
  | _ => false

/-- What is known of the request that is on its way and of its outcome. -/
structure Chronicle.Follows (chronicle : Chronicle) (host : Host W) : Prop where
  tickets : (chronicle.submitted.map (·.ticket)).Nodup
  passes : (chronicle.ran.map (·.ticket)).Nodup
  submitted : ∀ s ∈ chronicle.submitted, s.ticket ≤ host.desk.ticket
  ran : ∀ r ∈ chronicle.ran, r.ticket ≤ host.desk.ticket
  /-- A request that is still to be run has been submitted, and not been run before. -/
  ahead : ∀ request, host.desk.request = some request ∨ host.engine.worker.ahead? = some request →
    (∃ s ∈ chronicle.submitted, s.ticket = request.ticket ∧ s.output = request.output
      ∧ s.input.allBytes = request.input.allBytes) ∧ ∀ r ∈ chronicle.ran, r.ticket ≠ request.ticket
  returning : ∀ request frame, host.engine.worker = .returning request (.ok frame) →
    ∃ s r, chronicle.Made request.ticket frame s r
  outcome : ∀ frame, host.desk.outcome? = some (.ok frame) →
    ∃ s r, chronicle.Made host.desk.ticket frame s r

theorem Desk.outcome?_congr {desk after : Desk} (response : after.response = desk.response)
    (outstanding : after.outstanding = desk.outstanding) : after.outcome? = desk.outcome? := by
  unfold outcome? collect
  rw [response, outstanding]
  cases desk.response with
  | none => rfl
  | some recorded =>
      obtain ⟨ticket, result⟩ := recorded
      cases result with
      | error fault => rfl
      | ok parcel => cases parcel <;> rfl

theorem Desk.outcome?_of_none {desk : Desk} (h : desk.response = none) : desk.outcome? = none := by
  unfold outcome? collect
  rw [h]

theorem Pass.ending_of_good {pass : Pass} {info : Descriptor} (h : pass.failure? info = none) :
    pass.ending = .done := by
  unfold failure? at h
  split at h
  · assumption
  · cases h
  · cases h

namespace Chronicle.Follows

variable {chronicle : Chronicle} {host after : Host W}

theorem still (h : chronicle.Follows host) (ticket : after.desk.ticket = host.desk.ticket)
    (ahead : ∀ request,
      after.desk.request = some request ∨ after.engine.worker.ahead? = some request →
      host.desk.request = some request ∨ host.engine.worker.ahead? = some request)
    (returning : ∀ request frame, after.engine.worker = .returning request (.ok frame) →
      host.engine.worker = .returning request (.ok frame))
    (outcome : after.desk.response = none ∨ after.desk.response = host.desk.response
      ∧ after.desk.outstanding = host.desk.outstanding) : chronicle.Follows after where
  tickets := h.tickets
  passes := h.passes
  submitted := by
    rw [ticket]
    exact h.submitted
  ran := by
    rw [ticket]
    exact h.ran
  ahead request coming := h.ahead request (ahead request coming)
  returning request frame returns := h.returning request frame (returning request frame returns)
  outcome frame recorded := by
    rcases outcome with none | ⟨response, outstanding⟩
    · cases (Desk.outcome?_of_none none).symm.trans recorded
    · rw [ticket]
      rw [Desk.outcome?_congr response outstanding] at recorded
      exact h.outcome frame recorded

theorem alike (h : chronicle.Follows host) (alike : host.Alike after) :
    chronicle.Follows after := by
  obtain ⟨_, _, _, _, desk⟩ := alike.desk
  refine h.still ?_ ?_ ?_ (.inr ⟨?_, ?_⟩)
  · rw [desk]
  · rw [desk, alike.worker]
    exact fun _ coming => coming
  · rw [alike.worker]
    exact fun _ _ returns => returns
  · rw [desk]
  · rw [desk]

theorem cleared {middle dropped : Host W} {crash : Option String} (h : chronicle.Follows host)
    (ordered : Ordered host.desk host.engine.worker) (tuned : host.Tuned middle)
    (idle : middle.desk.mode = .idle) (drops : middle.cleared.Drops middle.stale crash dropped) :
    chronicle.Follows dropped := by
  obtain ⟨-, parked, desk⟩ := ordered.cleared tuned idle drops
  have before := h.alike tuned.alike
  refine before.still ?_ ?_ ?_ (.inl ?_)
  · rw [desk]
    rfl
  · rw [desk, parked]
    intro request coming
    rcases coming with queued | inHand
    · exact .inl queued
    · cases inHand
  · rw [parked]
    nofun
  · rw [desk]
    rfl

theorem submitted_next (h : chronicle.Follows host) {task : Task} (caller : Nat)
    (parked : host.engine.worker = .parked) (free : host.desk.response = none) :
    Follows { chronicle with submitted := chronicle.submitted ++ [{
      caller, ticket := host.desk.ticket + 1, input := task.input, output := host.desk.output }] }
      (host.enqueue task) where
  tickets := by
    rw [List.map_append, List.nodup_append]
    refine ⟨h.tickets, by simp, ?_⟩
    intro old oldMem new newMem same
    obtain ⟨s, member, rfl⟩ := List.mem_map.1 oldMem
    have bound := h.submitted s member
    simp only [List.map_cons, List.map_nil, List.mem_singleton] at newMem
    omega
  passes := h.passes
  submitted := by
    intro s member
    show s.ticket ≤ host.desk.ticket + 1
    rcases List.mem_append.1 member with old | new
    · exact Nat.le_succ_of_le (h.submitted s old)
    · obtain rfl := List.mem_singleton.1 new
      exact Nat.le_refl _
  ran r member := Nat.le_succ_of_le (h.ran r member)
  ahead := by
    intro request coming
    rcases coming with queued | inHand
    · cases queued
      refine ⟨⟨_, List.mem_append_right _ List.mem_cons_self, rfl, rfl, rfl⟩, ?_⟩
      intro r member same
      have bound := h.ran r member
      rw [same] at bound
      exact Nat.not_succ_le_self _ bound
    · change host.engine.worker.ahead? = some request at inHand
      rw [parked] at inHand
      cases inHand
  returning := by
    intro request frame returns
    cases parked.symm.trans returns
  outcome := by
    intro frame recorded
    have none : (host.enqueue task).desk.outcome? = none := Desk.outcome?_of_none free
    cases none.symm.trans recorded

theorem callStep {call next : Call} {chronicle' : Chronicle} (h : chronicle.Follows host)
    (caller : Nat) (ordered : Ordered host.desk host.engine.worker)
    (step : CallStep call host next after)
    (submits : ∀ task timeout ticket, call = .entering (.submit task timeout) →
      next = .awaiting task timeout ticket → chronicle' = { chronicle with
        submitted := chronicle.submitted ++ [{
          caller, ticket, input := task.input, output := after.desk.output }] })
    (otherwise : next.ticket? = none → chronicle' = chronicle) : chronicle'.Follows after := by
  cases step with
  | checked onward =>
      rw [otherwise (Call.ticket?_onward onward)]
      exact h
  | ran onward touched =>
      rw [otherwise (Call.ticket?_onward onward)]
      exact h.alike touched.alike
  | @submitted task timeout _ middle dropped inputs tuned _ idle _ _ drops =>
      obtain ⟨-, parked, desk⟩ := ordered.cleared tuned idle drops
      have before := h.cleared ordered tuned idle drops
      rw [submits task timeout _ rfl rfl]
      exact before.submitted_next caller parked (by rw [desk]; rfl)
  | @faltered task timeout _ middle after message tuned idle drops =>
      rw [otherwise rfl]
      exact (h.cleared ordered tuned idle drops).alike (.of_desk rfl ⟨_, _, _, _, rfl⟩)
  | lockedOut =>
      rw [otherwise rfl]
      exact h
  | received _ collected =>
      rw [otherwise (Call.ticket?_receive _ _), (Desk.collect_of_tidy ordered.tidy collected).1]
      exact h.still rfl (fun _ coming => coming) (fun _ _ returns => returns) (.inl rfl)
  | deserted =>
      rw [otherwise rfl]
      exact h.still rfl (fun _ coming => coming) (fun _ _ returns => returns) (.inr ⟨rfl, rfl⟩)
  | copied drops =>
      rw [otherwise rfl]
      exact h.alike drops.beside.alike
  | spoilt drops =>
      rw [otherwise rfl]
      exact h.alike drops.beside.alike
  | retired =>
      rw [otherwise rfl]
      exact h.still rfl (fun _ coming => coming) (fun _ _ returns => returns) (.inr ⟨rfl, rfl⟩)
  | refused =>
      rw [otherwise rfl]
      exact h
  | inherited =>
      rw [otherwise rfl]
      exact h
  | dismissed =>
      rw [otherwise rfl]
      exact h.still rfl (fun _ coming => coming) (fun _ _ returns => returns) (.inr ⟨rfl, rfl⟩)
  | parted =>
      rw [otherwise rfl]
      exact h
  | @cleared last _ after crash answer drops _ =>
      rw [otherwise rfl]
      have before : chronicle.Follows (host.withDesk (host.desk.clear last).2) := by
        obtain ⟨-, clear⟩ | ⟨-, clear⟩ := Desk.clear_cases ordered.tidy last
        · rw [clear]
          exact h
        · rw [clear]
          refine h.still rfl ?_ (fun _ _ returns => returns) (.inl rfl)
          intro request coming
          rcases coming with queued | inHand
          · cases queued
          · exact .inr inHand
      exact (before.alike drops.beside.alike).alike (Host.leftBy_alike _ _ _)

/-- The worker has run a pass, and comes back with what it produced, if at all. -/
theorem ranNext (h : chronicle.Follows host) (ordered : Ordered host.desk host.engine.worker)
    {request : Request} (ahead : host.engine.worker.ahead? = some request) {ran : Ran}
    (served : ran.ticket = request.ticket) (inputs : request.input.allBytes = .ok ran.inputs)
    (desk : after.desk = host.desk) (through : after.engine.worker.ahead? = none)
    (good : ∀ other frame, after.engine.worker = .returning other (.ok frame) →
      other = request ∧ ran.pass.ending = .done ∧ frame.regions = ran.pass.outputs.map some
        ∧ frame.info = request.output
        ∧ frame.lease.map (·.pass) = if ran.lending then some request.ticket else none) :
    Follows { chronicle with ran := chronicle.ran ++ [ran] } after := by
  have inHand := Worker.request?_of_ahead ahead
  obtain ⟨-, free, -⟩ := ordered.alone inHand
  obtain ⟨last, silent⟩ := ordered.inHand request inHand
  obtain ⟨⟨s, member, ticket, output, bytes⟩, fresh⟩ := h.ahead request (.inr ahead)
  exact {
    tickets := h.tickets
    passes := by
      rw [List.map_append, List.nodup_append]
      refine ⟨h.passes, by simp, ?_⟩
      intro old oldMem new newMem same
      obtain ⟨r, before, rfl⟩ := List.mem_map.1 oldMem
      simp only [List.map_cons, List.map_nil, List.mem_singleton] at newMem
      exact fresh r before (same.trans (newMem.trans served))
    submitted := by
      rw [desk]
      exact h.submitted
    ran := by
      rw [desk]
      intro r member
      rcases List.mem_append.1 member with old | new
      · exact h.ran r old
      · obtain rfl := List.mem_singleton.1 new
        exact Nat.le_of_eq (served.trans last)
    ahead := by
      rw [desk]
      exact Desk.nothing_coming free through
    returning := by
      intro other frame returns
      obtain ⟨rfl, done, regions, info, lease⟩ := good other frame returns
      exact ⟨s, ran, {
        wasSubmitted := member
        wasRan := List.mem_append_right _ List.mem_cons_self
        requested := ticket
        served := served
        inputs := bytes.trans inputs
        good := done
        regions := regions
        info := info.trans output.symm
        lease := lease }⟩
    outcome := by
      rw [desk]
      intro frame recorded
      cases (Desk.outcome?_of_none silent).symm.trans recorded }

theorem through (h : chronicle.Follows host) (desk : after.desk = host.desk)
    (ahead : after.engine.worker.ahead? = none)
    (empty : after.engine.worker.made? = none) : chronicle.Follows after := by
  refine h.still (by rw [desk]) ?_ (Worker.made_of_none empty) (.inr ⟨by rw [desk], by rw [desk]⟩)
  rw [desk, ahead]
  intro request coming
  rcases coming with queued | inHand
  · exact .inl queued
  · cases inHand

theorem nothingLeft (h : chronicle.Follows host) (ticket : after.desk.ticket = host.desk.ticket)
    (request : after.desk.request = none) (response : after.desk.response = none)
    (ahead : after.engine.worker.ahead? = none)
    (empty : after.engine.worker.made? = none) : chronicle.Follows after :=
  h.still ticket (Desk.nothing_coming request ahead) (Worker.made_of_none empty) (.inl response)

theorem recorded {request : Request} {produced : Except Fault Frame} (h : chronicle.Follows host)
    (ordered : Ordered host.desk host.engine.worker)
    (returning : host.engine.worker = .returning request produced)
    (recorded : Recorded host request produced after) : chronicle.Follows after := by
  have inHand : host.engine.worker.request? = some request := by
    rw [returning]
    rfl
  obtain ⟨-, free, -⟩ := ordered.alone inHand
  obtain ⟨last, silent⟩ := ordered.inHand request inHand
  have dropped {frame : Frame} {crash : Option String} {after : Host W}
      (back : host.unmarked.takeBack frame = (crash, after)) :
      after.desk.ticket = host.desk.ticket ∧ after.desk.request = none
        ∧ after.desk.response = none := by
    rw [(Host.beside_of_takeBack back).desk]
    exact ⟨rfl, free, silent⟩
  cases recorded with
  | delivered =>
      obtain ⟨response, outstanding, desk, -, -, outcome⟩ := ordered.delivered returning
      have same : (host.deliver request.ticket produced).complete.desk.outcome?
          = some produced := by
        rw [← outcome]
        exact Desk.outcome?_congr rfl rfl
      have ticket : (host.deliver request.ticket produced).complete.desk.ticket
          = host.desk.ticket :=
        (host.deliver_tickets request.ticket produced).1
      have request? : (host.deliver request.ticket produced).complete.desk.request = none := by
        show (host.deliver request.ticket produced).desk.request = none
        rw [desk]
        exact free
      exact {
        tickets := h.tickets
        passes := h.passes
        submitted := by
          rw [ticket]
          exact h.submitted
        ran := by
          rw [ticket]
          exact h.ran
        ahead := Desk.nothing_coming request? rfl
        returning := Worker.made_of_none rfl
        outcome := by
          rw [same, ticket, ← last]
          rintro frame ⟨⟩
          exact h.returning request frame returning }
  | ignored => exact h.nothingLeft rfl free silent rfl rfl
  | returned _ _ back =>
      obtain ⟨ticket, request, response⟩ := dropped back
      exact h.nothingLeft ticket request response rfl rfl
  | broke _ _ back =>
      obtain ⟨ticket, request, response⟩ := dropped back
      exact h.nothingLeft ticket request response rfl rfl

/-- What a pass leaves behind is what the worker comes back with. -/
theorem finished {request : Request} {inputs outputs : List Bytes} {lending : Bool} {pass : Pass}
    {world : W} (h : chronicle.Follows host) (ordered : Ordered host.desk host.engine.worker)
    (inside : host.engine.worker = .inPass request outputs lending)
    (bytes : request.input.allBytes = .ok inputs)
    (ended : PassEnd { host with world } request pass lending after) :
    Follows { chronicle with
      ran := chronicle.ran ++ [{ ticket := request.ticket, inputs, lending, pass }] } after := by
  have ahead : host.engine.worker.ahead? = some request := by
    rw [inside]
    rfl
  cases ended with
  | failed => exact h.ranNext ordered ahead rfl bytes rfl rfl (Worker.made_of_none rfl)
  | returned _ back =>
      exact h.ranNext ordered ahead rfl bytes (Host.beside_of_release back).desk rfl
        (Worker.made_of_none rfl)
  | broke _ back =>
      exact h.ranNext ordered ahead rfl bytes (Host.beside_of_release back).desk rfl
        (Worker.made_of_none rfl)
  | produced good =>
      refine h.ranNext ordered ahead rfl bytes rfl rfl ?_
      intro other frame returns
      obtain ⟨same, made⟩ := Worker.returning.inj returns
      rw [Frame.eq_of_produced made]
      exact ⟨same.symm, Pass.ending_of_good good, rfl, rfl, rfl⟩
  | lent good =>
      refine h.ranNext ordered ahead rfl bytes rfl rfl ?_
      intro other frame returns
      obtain ⟨same, made⟩ := Worker.returning.inj returns
      cases made
      exact ⟨same.symm, Pass.ending_of_good good, rfl, rfl, rfl⟩

theorem workerStep (h : chronicle.Follows host) (ordered : Ordered host.desk host.engine.worker)
    (step : WorkerStep host after) :
    Follows { chronicle with ran := chronicle.ran ++ host.pass?.toList } after := by
  have nothing (free : host.engine.worker.busy = false) :
      { chronicle with ran := chronicle.ran ++ host.pass?.toList } = chronicle := by
    rw [Crowd.pass?_of_free free]
    simp
  cases step with
  | took parked awake queued =>
      rw [nothing (by rw [parked]; rfl)]
      refine h.still rfl ?_ (Worker.made_of_none rfl) (.inr ⟨rfl, rfl⟩)
      intro request coming
      rcases coming with none | inHand
      · cases none
      · cases inHand
        exact .inl queued
  | left parked =>
      rw [nothing (by rw [parked]; rfl)]
      exact h.through rfl rfl rfl
  | rested parked =>
      rw [nothing (by rw [parked]; rfl)]
      exact h.still rfl (fun _ coming => coming) (fun _ _ returns => returns) (.inr ⟨rfl, rfl⟩)
  | refused holding =>
      rw [nothing (by rw [holding]; rfl)]
      exact h.through rfl rfl rfl
  | starved holding =>
      rw [nothing (by rw [holding]; rfl)]
      exact h.through rfl rfl rfl
  | entered holding =>
      rw [nothing (by rw [holding]; rfl)]
      refine h.still rfl ?_ (Worker.made_of_none rfl) (.inr ⟨rfl, rfl⟩)
      intro request coming
      rcases coming with queued | inHand
      · exact .inl queued
      · cases inHand
        exact .inr (by rw [holding]; rfl)
  | finished inside bytes finish ended =>
      rw [Crowd.pass?_of_inPass inside bytes finish]
      exact h.finished ordered inside bytes ended
  | recorded returning recorded =>
      rw [nothing (by rw [returning]; rfl)]
      exact h.recorded ordered returning recorded

/-- At first there is nothing to follow. -/
theorem of_fresh {backend : Backend W} (fresh : host.Fresh backend) : Follows {} host := by
  obtain ⟨_, _, _, desk⟩ := fresh.desk
  have silent : host.desk.response = none := by rw [desk]
  have free : host.desk.request = none := by rw [desk]
  exact {
    tickets := List.nodup_nil
    passes := List.nodup_nil
    submitted := by
      intro s member
      cases member
    ran := by
      intro r member
      cases member
    ahead := Desk.nothing_coming free (by rw [fresh.worker]; rfl)
    returning := Worker.made_of_none (by rw [fresh.worker]; rfl)
    outcome := by
      intro frame recorded
      cases (Desk.outcome?_of_none silent).symm.trans recorded }

end Chronicle.Follows

end Inference
