/-
One caller after another.

If no call begins before the one before it is over, nobody is ever overtaken.  Then a mark on the
desk is that of the request in flight, an outcome on the desk is awaited by its caller, and once
the worker is through with what an impatient caller has left behind nothing remains of it
(`Crowd.Filed.clean`), and what was allocated for that caller has been given back
(`Crowd.Conserved.timedOut_returned`).
-/
import Inference.Proofs.Engine.Oversight

namespace Inference

variable {W : Type}

namespace Crowd

/-- The crowds that can be reached from another one if no call begins before all others are over,
with what happened on the way. -/
inductive InFile (first : Crowd W) : Crowd W → Chronicle → Prop where
  | start : InFile first first {}
  | move {crowd next : Crowd W} {chronicle : Chronicle} (before : InFile first crowd chronicle)
      (move : Move) (alone : move.begun? ≠ none → ∀ call ∈ crowd.calls, call.isOver = true)
      (made : crowd.after? move = some next) : InFile first next (chronicle.after crowd next move)

theorem InFile.lived {first crowd : Crowd W} {chronicle : Chronicle}
    (h : InFile first crowd chronicle) : Lived first crowd chronicle := by
  induction h with
  | start => exact .start
  | move _ move _ made ih => exact .move ih move made

/-- Moves with which no call begins keep the file, with a record and without one, and so do those
of the next caller, once all calls are over. -/
theorem InFile.afterAll {host : Host W} {crowd last : Crowd W} {chronicle : Chronicle}
    {returns : Returns} {moves : List Move} (inFile : InFile { host } crowd chronicle)
    (returned : crowd.Returned host chronicle returns) (quiet : ∀ move ∈ moves, move.begun? = none)
    (h : crowd.afterAll? moves = some last) :
    ∃ chronicle after, InFile { host } last chronicle ∧ last.Returned host chronicle after
      ∧ (crowd.withRecord returns).afterAll? moves = some (last.withRecord after) := by
  induction moves generalizing crowd chronicle returns with
  | nil =>
      cases h
      exact ⟨chronicle, returns, inFile, returned, rfl⟩
  | cons move rest ih =>
      obtain ⟨next, made, h⟩ := Option.bind_eq_some_iff.1 h
      obtain ⟨middle, audited, returned⟩ := returned.move made
      have still := quiet move List.mem_cons_self
      obtain ⟨chronicle, after, inFile, returned, run⟩ :=
        ih (inFile.move move (fun begins => absurd still begins) made) returned
          (fun other member => quiet other (List.mem_cons_of_mem _ member)) h
      exact ⟨chronicle, after, inFile, returned, Option.bind_eq_some_iff.2 ⟨_, audited, run⟩⟩

theorem InFile.call {host : Host W} {crowd last : Crowd W} {chronicle : Chronicle}
    {returns : Returns} {operation : Operation} {moves : List Move}
    (inFile : InFile { host } crowd chronicle) (returned : crowd.Returned host chronicle returns)
    (settled : ∀ call ∈ crowd.calls, call.isOver = true)
    (quiet : ∀ move ∈ moves, move.begun? = none)
    (h : crowd.afterAll? (.begins operation :: moves) = some last) :
    ∃ chronicle after, InFile { host } last chronicle ∧ last.Returned host chronicle after
      ∧ (crowd.withRecord returns).afterAll? (.begins operation :: moves)
        = some (last.withRecord after) := by
  obtain ⟨next, made, h⟩ := Option.bind_eq_some_iff.1 h
  obtain ⟨middle, audited, returned⟩ := returned.move made
  obtain ⟨chronicle, after, inFile, returned, run⟩ :=
    (inFile.move _ (fun _ => settled) made).afterAll returned quiet h
  exact ⟨chronicle, after, inFile, returned, Option.bind_eq_some_iff.2 ⟨_, audited, run⟩⟩

/-- At most one call is in progress. -/
def Single (crowd : Crowd W) : Prop :=
  ∀ (caller other : Nat) (call call' : Call), crowd.calls[caller]? = some call →
    crowd.calls[other]? = some call' → call.isOver = false → call'.isOver = false → caller = other

/-- Whoever waits has submitted the last request. -/
def Latest (crowd : Crowd W) : Prop :=
  ∀ caller ticket, crowd.waiting? caller = some ticket → ticket = crowd.host.desk.ticket

/-- A mark is that of the request in flight. -/
def Marked (crowd : Crowd W) : Prop :=
  ∀ ticket, crowd.host.desk.deserted = some ticket →
    ∃ request ∈ crowd.host.requests, request.ticket = ticket

variable {crowd next : Crowd W} {chronicle : Chronicle} {move : Move}

theorem single_append {calls : List Call} {call : Call}
    (settled : ∀ call ∈ calls, call.isOver = true) (givenUp : Bool) :
    Single { crowd with calls := calls ++ [call], givenUp } := by
  have last {index : Nat} {here : Call} (found : (calls ++ [call])[index]? = some here)
      (active : here.isOver = false) : index = calls.length := by
    rcases getElem?_append_cases found with old | ⟨same, -⟩
    · cases active.symm.trans (settled here (List.mem_of_getElem? old))
    · exact same
  intro caller other here there found found' active active'
  rw [last found active, last found' active']

theorem Single.moved (h : crowd.Single)
    (alone : move.begun? ≠ none → ∀ call ∈ crowd.calls, call.isOver = true)
    (moved : crowd.Moved move next) : next.Single := by
  cases moved with
  | began operation => exact single_append (alone nofun) _
  | called _ found step =>
      intro caller other here there foundHere foundThere active active'
      have mine := step.not_over
      rcases update_cases found foundHere with ⟨rfl, -⟩ | ⟨-, old⟩ <;>
        rcases update_cases found foundThere with ⟨rfl, -⟩ | ⟨-, old'⟩
      · rfl
      · exact h _ _ _ _ found old' mine active'
      · exact h _ _ _ _ old found active mine
      · exact h _ _ _ _ old old' active active'
  | worked => exact h
  | dropped => exact h
  | gaveUp _ ended => exact single_append ended _

theorem active_of_waiting {caller ticket : Nat} (waits : crowd.waiting? caller = some ticket) :
    ∃ call, crowd.calls[caller]? = some call ∧ call.isOver = false := by
  obtain ⟨task, timeout, found⟩ := waiting?_eq_some.1 waits
  exact ⟨_, found, rfl⟩

theorem Latest.moved (h : crowd.Latest) (single : crowd.Single) (orderly : crowd.Orderly)
    (moved : crowd.Moved move next) : next.Latest := by
  cases moved with
  | began operation =>
      intro caller ticket waits
      rw [waiting?, crowd.waiting?_append operation.ticket?_call] at waits
      exact h caller ticket waits
  | @called _ mover call after host _ found step =>
      intro caller ticket waits
      show ticket = host.desk.ticket
      rw [waiting?_update found] at waits
      rcases step.tickets orderly.ordered with ⟨mine, next, -⟩ | ⟨idle, same, -⟩
      · split at waits
        · cases mine.symm.trans waits
          exact next.symm
        · -- The one that submits is the only one in progress.
          rename_i differ
          obtain ⟨other, found', active⟩ := active_of_waiting waits
          exact absurd (single _ _ _ _ found found' step.not_over active) differ
      · rw [same]
        split at waits
        · cases idle.symm.trans waits
        · exact h caller ticket waits
  | worked step =>
      intro caller ticket waits
      rw [h caller ticket waits]
      exact step.tickets.1.symm
  | @dropped _ _ _ host _ drops =>
      intro caller ticket waits
      show ticket = host.desk.ticket
      rw [drops.beside.desk]
      exact h caller ticket waits
  | gaveUp =>
      intro caller ticket waits
      rw [waiting?, crowd.waiting?_append rfl] at waits
      exact h caller ticket waits

namespace Marked

theorem called {caller : Nat} {call after : Call} {host : Host W} (h : crowd.Marked)
    (attended : crowd.Attended) (latest : crowd.Latest)
    (emptied : ∀ last, call = .clearing last → crowd.host.desk.request = none)
    (found : crowd.calls[caller]? = some call) (step : CallStep call crowd.host after host) :
    (crowd.update caller (after, host)).Marked := by
  obtain ⟨orderly, -, healthy, pending⟩ := attended
  have ordered := orderly.ordered
  intro ticket mark
  change host.desk.deserted = some ticket at mark
  show ∃ request ∈ host.requests, request.ticket = ticket
  rcases step.tickets ordered with ⟨waits, -, same⟩ | ⟨idle, -, -⟩
  · -- The engine was idle, so there was no mark either.
    obtain ⟨request, flies, -⟩ := h ticket (same.symm.trans mark)
    by_cases rests : crowd.host.desk.mode = .idle
    · rw [Host.requests_of_idle ordered rests] at flies
      cases flies
    · cases (step.awake rests).symm.trans waits
  · rw [Host.requests_callStep step ordered healthy idle emptied]
    rcases step.mark ordered healthy with same | ⟨own, waits, absent, marked⟩
    · exact h ticket (same.symm.trans mark)
    · cases marked.symm.trans mark
      -- Its request is pending, and it has found no outcome.
      have waiting : crowd.waiting? caller = some ticket := by
        rw [waiting?, found]
        exact waits
      cases latest caller ticket waiting
      rcases pending caller waiting with ⟨request, queued, own⟩ | ⟨request, inHand, own⟩ | recorded
      · exact ⟨request, by simp [Host.requests, queued], own⟩
      · exact ⟨request, by simp [Host.requests, inHand], own⟩
      · cases absent.symm.trans recorded

theorem worked {host : Host W} (h : crowd.Marked) (orderly : crowd.Orderly)
    (step : WorkerStep crowd.host host) (calm : CalmStep crowd.host host) :
    Marked { crowd with host } := by
  intro ticket mark
  change host.desk.deserted = some ticket at mark
  show ∃ request ∈ host.requests, request.ticket = ticket
  have before : crowd.host.desk.deserted = some ticket := by
    rcases step.tickets.2 with same | none
    · exact same.symm.trans mark
    · cases none.symm.trans mark
  obtain ⟨request, flies, own⟩ := h ticket before
  have ordered := orderly.ordered
  -- A request that stays in flight is the same one.
  have stays {host : Host W} (same : host.requests = crowd.host.requests) :
      ∃ request ∈ host.requests, request.ticket = ticket := ⟨request, same ▸ flies, own⟩
  cases calm with
  | took parked queued =>
      exact stays (by simp [Host.requests, Host.withWorker, Host.withDesk, Host.desk, parked,
        show crowd.host.engine.desk.request = _ from queued, Worker.request?])
  | left parked _ empty =>
      rw [Host.requests_of empty parked] at flies
      cases flies
  | rested => exact stays rfl
  | entered holding =>
      exact stays (by simp [Host.requests, Host.withWorker, Host.desk, holding, Worker.request?])
  | passed passes =>
      have inHand := Worker.request?_of_ahead passes.ahead
      refine stays ?_
      rw [Host.requests, passes.desk, passes.returns, Host.requests, inHand]
      rfl
  | @recorded request' _ _ returning free records =>
      have queue := ordered.free_of returning rfl
      rw [Host.requests_of queue returning] at flies
      cases List.mem_singleton.1 flies
      rw [← own] at before
      cases (records.deserted before).1.symm.trans mark

end Marked

/-- What holds of an engine whose callers come one after another. -/
structure Filed (crowd : Crowd W) : Prop where
  single : crowd.Single
  latest : crowd.Latest
  marked : crowd.Marked
  expected : crowd.Expected False

namespace Filed

theorem not_overlooks (h : crowd.Filed)
    (ordered : Ordered crowd.host.desk crowd.host.engine.worker) :
    ¬ crowd.Overlooks := by
  intro overlooks
  obtain ⟨earlier, before, mark⟩ := overlooks.mark
  obtain ⟨request, flies, own⟩ := h.marked earlier mark
  have last : request.ticket = crowd.host.desk.ticket := by
    rw [Host.requests, List.mem_append, Option.mem_toList, Option.mem_toList] at flies
    rcases flies with queued | inHand
    · exact (ordered.queued request queued).2.1
    · exact (ordered.inHand request inHand).1
  omega

theorem of_inFile {backend : Backend W} (calm : backend.Calm) {id : Nat} {options : Options}
    {framework : Framework} {world : W} {live : List Nat} {host : Host W}
    (opened : backend.openAs id options framework world live = .opened host)
    (inFile : InFile { host } crowd chronicle) : crowd.Filed := by
  have fresh := Backend.fresh_of_opened opened
  induction inFile with
  | start =>
      obtain ⟨_, _, _, desk⟩ := fresh.desk
      refine ⟨?_, ?_, ?_, .of_fresh fresh⟩
      · intro caller _ call _ found
        simp at found
      · intro caller ticket waits
        simp [waiting?] at waits
      · intro ticket mark
        change host.desk.deserted = some ticket at mark
        rw [desk] at mark
        cases mark
  | @move crowd next chronicle before move alone made h =>
      have lived := before.lived
      have attended := Attended.of_reachable calm opened lived.reachable
      have completes := Chronicle.Completes.of_lived calm opened lived
      have moved := moved_of_after? made
      refine ⟨h.single.moved alone moved, h.latest.moved h.single attended.orderly moved, ?_, ?_⟩
      · cases moved with
        | began => exact h.marked
        | @called _ caller call after host mover found step =>
            refine h.marked.called attended h.latest ?_ found step
            rintro last rfl
            exact (completes.gone (attended.winding.clearing caller last found)).2
        | @worked host step =>
            obtain ⟨host', stepped, same⟩ := Option.map_eq_some_iff.1 made
            cases congrArg Crowd.host same
            exact h.marked.worked attended.orderly step
              (completes.calmStep attended.orderly.ordered attended.healthy stepped)
        | @dropped _ _ _ host _ drops =>
            intro ticket mark
            show ∃ request ∈ host.requests, request.ticket = ticket
            have requests : host.requests = crowd.host.requests := by
              rw [Host.requests, drops.beside.desk, drops.beside.worker, Host.requests]
            rw [requests]
            exact h.marked ticket ((congrArg Desk.deserted drops.beside.desk).symm.trans mark)
        | gaveUp => exact h.marked
      · refine h.expected.moved attended (.of_lived calm opened lived) completes made
          (fun no _ => no) fun overlooks _ => h.not_overlooks attended.orderly.ordered overlooks

end Filed

end Crowd

/-! ### Between two calls -/

/-- Nothing is left on the desk of what was done before. -/
structure Host.Clean (host : Host W) : Prop where
  mode : host.desk.mode = .idle
  request : host.desk.request = none
  deserted : host.desk.deserted = none
  response : host.desk.response = none
  entries : host.desk.outstanding.entries = []
  worker : host.engine.worker = .parked

namespace Crowd

variable {crowd : Crowd W} {chronicle : Chronicle}

/-- Nobody uses the engine, and the worker has nothing to do. -/
structure Rests (crowd : Crowd W) : Prop where
  isOpen : crowd.host.engine.isOpen = true
  settled : ∀ call ∈ crowd.calls, call.isOver = true
  free : crowd.host.requests = []

/-- Between two calls nothing is left of those before. -/
theorem Filed.clean (h : crowd.Filed) (rests : crowd.Rests) (orderly : crowd.Orderly)
    (retiring : crowd.Retiring) (engaged : crowd.host.Engaged) : crowd.host.Clean := by
  have idle : crowd.host.desk.mode = .idle := by
    cases mode : crowd.host.desk.mode with
    | idle => rfl
    | running => exact absurd rests.free (engaged mode)
    | leaving => cases rests.isOpen.symm.trans (retiring.leaving mode)
  have silent : crowd.host.desk.response = none := by
    refine Desk.response_of_outcome_none ?_
    by_contra recorded
    rcases h.expected recorded with ⟨caller, waits⟩ | ⟨⟨⟩⟩
    cases (waiting?_of_over rests.settled caller).symm.trans waits
  obtain ⟨parked, free⟩ := orderly.ordered.idle idle
  refine ⟨idle, free, ?_, silent, Desk.entries_of_tidy orderly.ordered.tidy silent, parked⟩
  cases mark : crowd.host.desk.deserted with
  | none => rfl
  | some ticket =>
      obtain ⟨request, flies, -⟩ := h.marked ticket mark
      rw [rests.free] at flies
      cases flies

/-- A frame on lease that is with a caller is the output of the pass for that caller's request. -/
theorem keptBy_own (tells : chronicle.Tells crowd)
    (settled : ∀ call ∈ crowd.calls, call.isOver = true)
    {caller : Nat} {frame : Frame} (kept : frame ∈ crowd.keptBy caller) :
    ∃ s ∈ chronicle.submitted, s.caller = caller ∧ frame.receipt.ticket = s.ticket
      ∧ (crowd.given? caller).isSome = true := by
  unfold keptBy at kept
  split at kept
  · cases kept
  obtain ⟨call, found, kept⟩ := List.mem_flatMap.1 kept
  rw [Option.mem_toList] at found
  have ended := settled call (List.mem_of_getElem? found)
  have given : ∃ output, call.output? = some output ∧ frame ∈ output.onLease := by
    cases call with
    | ended answer target =>
        change frame ∈ (Call.ended answer target).output?.toList.flatMap Frame.onLease at kept
        obtain ⟨output, given, leased⟩ := List.mem_flatMap.1 kept
        exact ⟨output, Option.mem_toList.1 given, leased⟩
    | _ => cases ended
  obtain ⟨output, given, leased⟩ := given
  have some : frame = output ∧ output.lease ≠ none := by
    unfold Frame.onLease at leased
    split at leased
    · rename_i lease
      exact ⟨List.mem_singleton.1 leased, Option.isSome_iff_ne_none.1 lease⟩
    · cases leased
  obtain ⟨rfl, lease⟩ := some
  obtain ⟨ticket, s, r, made, own⟩ := tells.outputs caller call frame found given
  refine ⟨s, made.wasSubmitted, own, ?_, ?_⟩
  · have pass := made.lease
    rw [Frame.receipt, pass, made.requested]
    split
    · rfl
    · rename_i plain
      rw [if_neg plain, Option.map_eq_none_iff] at pass
      exact absurd pass lease
  · rw [given?, found]
    exact Option.isSome_of_eq_some given

/-- Once the engine has nothing in its hands, what was allocated for an impatient caller has been
given back. -/
theorem Conserved.timedOut_returned {log : W → Returns} {returned : List Receipt}
    (h : crowd.Conserved log chronicle returned)
    (settled : ∀ call ∈ crowd.calls, call.isOver = true)
    (nothing : crowd.host.kept = []) {s : Submitted} (submitted : s ∈ chronicle.submitted)
    (late : crowd.timedOut s.caller = true) {ran : Ran} (wasRan : ran ∈ chronicle.ran)
    (own : ran.ticket = s.ticket) (lending : ran.lending = true) : ran.receipt ∈ returned := by
  have allocated : ran.receipt ∈ chronicle.lent :=
    List.mem_map_of_mem (List.mem_filter.2 ⟨wasRan, lending⟩)
  rcases List.mem_append.1 (h.balance.mem_iff.1 allocated) with back | remains
  · exact back
  · obtain ⟨frame, member, same⟩ := List.mem_map.1 remains
    rw [existing, nothing, List.nil_append] at member
    obtain ⟨caller, -, kept⟩ := List.mem_flatMap.1 member
    obtain ⟨s', submitted', own', ticket, given⟩ := keptBy_own h.told settled kept
    -- Whoever has the frame has submitted the request of the impatient caller, and is given
    -- nothing.
    have ticket : s'.ticket = s.ticket := by
      rw [← ticket, same]
      exact own
    cases h.told.submitted_unique submitted' submitted ticket
    rw [own'] at late
    rw [given?_of_timedOut late] at given
    cases given

end Crowd

end Inference
