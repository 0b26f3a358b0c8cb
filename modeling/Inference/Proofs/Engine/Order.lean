/-
Where the request is, and where its outcome.

At any time the desk and the worker are in one of a few situations: there is nothing to do, a
request lies on the desk, the worker has it, or its outcome lies on the desk.  Whatever is there
belongs to the last ticket given out.  `Ordered` says so of one engine, and every step of a call
(`Ordered.callStep`) and of the worker (`Ordered.workerStep`) keeps it.
-/
import Inference.Proofs.Engine.Alike
import Inference.Proofs.Engine.Opened

namespace Inference

variable {W : Type}

/-- The output that the worker comes back with. -/
def Worker.made? : Worker → Option Frame
  | returning _ (.ok frame) => some frame
  | _ => none

theorem Worker.made_of_none {worker : Worker} {P : Request → Frame → Prop}
    (h : worker.made? = none) :
    ∀ request frame, worker = .returning request (.ok frame) → P request frame := by
  intro request frame returns
  rw [returns] at h
  cases h

/-- Where the request or its outcome is. -/
structure Ordered (desk : Desk) (worker : Worker) : Prop where
  /-- Without a pass there is no request, and the worker waits. -/
  idle : desk.mode = .idle → worker = .parked ∧ desk.request = none
  /-- A request on the desk is the last one, and the worker waits. -/
  queued : ∀ request, desk.request = some request →
    worker = .parked ∧ request.ticket = desk.ticket ∧ desk.response = none
  /-- A request in the worker's hands is the last one. -/
  inHand : ∀ request, worker.request? = some request →
    request.ticket = desk.ticket ∧ desk.response = none
  /-- An outcome is that of the last request. -/
  answered : ∀ response, desk.response = some response → response.ticket = desk.ticket
  /-- Only tickets that were given out are deserted. -/
  marked : ∀ ticket, desk.deserted = some ticket → ticket ≤ desk.ticket
  tidy : desk.Tidy
  /-- Frames that the worker returns belong to the backend if they are on lease. -/
  made : ∀ request frame, worker = .returning request (.ok frame) →
    (frame.owner = .backend ↔ frame.lease ≠ none)

namespace Ordered

variable {desk : Desk} {worker : Worker} {host after : Host W}

theorem alike (h : Ordered host.desk host.engine.worker) (alike : host.Alike after) :
    Ordered after.desk after.engine.worker := by
  obtain ⟨input, output, timeout, attached, same⟩ := alike.desk
  rw [same, alike.worker]
  exact ⟨h.idle, h.queued, h.inHand, h.answered, h.marked, h.tidy, h.made⟩

/-- The worker is busy with a request, so there is none on the desk and no outcome either. -/
theorem alone (h : Ordered desk worker) {request : Request}
    (inHand : worker.request? = some request) :
    desk.mode ≠ .idle ∧ desk.request = none ∧ desk.outstanding.entries = [] := by
  have busy : worker ≠ .parked := by
    rintro rfl
    cases inHand
  refine ⟨fun idle => busy (h.idle idle).1, ?_,
    Desk.entries_of_tidy h.tidy (h.inHand request inHand).2⟩
  cases queued : desk.request with
  | none => rfl
  | some other => exact absurd (h.queued other queued).1 busy

theorem withMode (h : Ordered desk worker) {mode : Mode} (awake : mode ≠ .idle) :
    Ordered { desk with mode } worker :=
  ⟨fun idle => absurd idle awake, h.queued, h.inHand, h.answered, h.marked, h.tidy, h.made⟩

theorem withDeserted (h : Ordered desk worker) {deserted : Option Nat}
    (marked : ∀ ticket, deserted = some ticket → ticket ≤ desk.ticket) :
    Ordered { desk with deserted } worker :=
  ⟨h.idle, h.queued, h.inHand, h.answered, marked, h.tidy, h.made⟩

theorem blank (h : Ordered desk worker) : Ordered desk.blank worker where
  idle := h.idle
  queued request queued := ⟨(h.queued request queued).1, (h.queued request queued).2.1, rfl⟩
  inHand request inHand := ⟨(h.inHand request inHand).1, rfl⟩
  answered := nofun
  marked := h.marked
  tidy := desk.blank_tidy
  made := h.made

theorem withoutRequest (h : Ordered desk worker) :
    Ordered { desk with request := none } worker where
  idle idle := ⟨(h.idle idle).1, rfl⟩
  queued := nofun
  inHand := h.inHand
  answered := h.answered
  marked := h.marked
  tidy := h.tidy
  made := h.made

theorem enqueue (h : Ordered desk worker) (parked : worker = .parked) (awake : desk.mode ≠ .idle)
    (free : desk.response = none) {request : Request} (next : request.ticket = desk.ticket + 1) :
    Ordered { desk with ticket := desk.ticket + 1, request := some request } worker where
  idle idle := absurd idle awake
  queued := by
    rintro request ⟨⟩
    exact ⟨parked, next, free⟩
  inHand := by
    subst parked
    nofun
  answered response recorded := by
    rw [free] at recorded
    cases recorded
  marked ticket marked := Nat.le_succ_of_le (h.marked ticket marked)
  tidy := h.tidy
  made := h.made

/-- Nothing that is done to an engine before its request is submitted gets in the way of it. -/
theorem cleared {middle dropped : Host W} (h : Ordered host.desk host.engine.worker)
    (tuned : host.Tuned middle) (idle : middle.desk.mode = .idle) {crash : Option String}
    (drops : middle.cleared.Drops middle.stale crash dropped) :
    Ordered dropped.desk dropped.engine.worker ∧ dropped.engine.worker = .parked
      ∧ dropped.desk = { middle.desk.blank with mode := .running } := by
  have before := h.alike tuned.alike
  have desk : dropped.desk = { middle.desk.blank with mode := .running } := by
    rw [drops.beside.desk]
    have tidy : Desk.Tidy { middle.desk with mode := .running } := before.tidy
    exact (Desk.forget_of_tidy tidy).2
  have worker : dropped.engine.worker = middle.engine.worker := drops.beside.worker
  have parked := (before.idle idle).1
  refine ⟨?_, worker.trans parked, desk⟩
  rw [desk, worker]
  exact before.blank.withMode nofun

theorem ticket_of_response (h : Ordered desk worker) {ticket : Nat}
    (present : desk.hasResponse ticket = true) : ticket = desk.ticket := by
  obtain ⟨response, recorded, rfl⟩ := Desk.hasResponse_iff.1 present
  exact h.answered response recorded

/-- No step of a call breaks the order. -/
theorem callStep {call next : Call} (h : Ordered host.desk host.engine.worker)
    (step : CallStep call host next after)
    (given : ∀ task timeout ticket, call = .awaiting task timeout ticket →
      ticket ≤ host.desk.ticket) :
    Ordered after.desk after.engine.worker := by
  cases step with
  | checked => exact h
  | ran _ touched => exact h.alike touched.alike
  | submitted tuned _ idle _ _ drops =>
      obtain ⟨before, parked, desk⟩ := h.cleared tuned idle drops
      have running : (Host.desk _).mode = .running := congrArg Desk.mode desk
      exact before.enqueue parked (by rw [running]; nofun) (congrArg Desk.response desk) rfl
  | faltered tuned idle drops => exact (h.cleared tuned idle drops).1
  | lockedOut => exact h
  | received _ collected =>
      rw [(Desk.collect_of_tidy h.tidy collected).1]
      exact h.blank
  | deserted =>
      refine h.withDeserted ?_
      rintro ticket ⟨⟩
      exact given _ _ _ rfl
  | copied drops => exact h.alike drops.beside.alike
  | spoilt drops => exact h.alike drops.beside.alike
  | retired => exact h
  | refused => exact h
  | inherited => exact h
  | dismissed => exact h.withMode nofun
  | parted => exact h
  | @cleared last host after crash answer drops _ =>
      have before : Ordered (host.desk.clear last).2 host.engine.worker := by
        obtain ⟨-, clear⟩ | ⟨-, clear⟩ := Desk.clear_cases h.tidy last
        · rw [clear]
          exact h
        · rw [clear]
          exact h.blank.withoutRequest
      have dropped : Ordered after.desk after.engine.worker := by
        rw [drops.beside.desk, drops.beside.worker]
        exact before
      exact dropped.alike (Host.leftBy_alike _ _ _)

theorem goOn (h : Ordered desk worker) {request : Request} (inHand : worker.request? = some request)
    {next : Worker} (same : ∀ other, next.request? = some other → other = request)
    (made : ∀ request frame, next = .returning request (.ok frame) →
      (frame.owner = .backend ↔ frame.lease ≠ none)) : Ordered desk next where
  idle idle := absurd idle (h.alone inHand).1
  queued request queued := by
    rw [(h.alone inHand).2.1] at queued
    cases queued
  inHand other inNext := by
    rw [same other inNext]
    exact h.inHand request inHand
  answered := h.answered
  marked := h.marked
  tidy := h.tidy
  made := made

theorem complete (h : Ordered desk worker) {request : Request}
    (inHand : worker.request? = some request)
    (mode : Mode) {deserted : Option Nat} {response : Option Response} {outstanding : Outstanding}
    (marked : ∀ ticket, deserted = some ticket → ticket ≤ desk.ticket)
    (own : ∀ recorded, response = some recorded → recorded.ticket = request.ticket)
    (tidy : Outstanding.Tidy response outstanding.entries) :
    Ordered { desk with mode, deserted, response, outstanding } .parked where
  idle _ := ⟨rfl, (h.alone inHand).2.1⟩
  queued request queued := by
    cases (h.alone inHand).2.1.symm.trans queued
  inHand := nofun
  answered recorded present := (own recorded present).trans (h.inHand request inHand).1
  marked := marked
  tidy := tidy
  made := Worker.made_of_none rfl

/-- A worker without a request cannot be idle unless it waits. -/
theorem fate (h : Ordered desk worker) (awake : desk.mode ≠ .idle) (free : desk.request = none)
    {next : Worker} (empty : next.request? = none) : Ordered desk next where
  idle idle := absurd idle awake
  queued request queued := by
    cases free.symm.trans queued
  inHand request inHand := by
    cases empty.symm.trans inHand
  answered := h.answered
  marked := h.marked
  tidy := h.tidy
  made := by
    rintro request frame rfl
    cases empty

theorem deliver_desk {produced : Except Fault Frame} (ticket : Nat)
    (entries : host.desk.outstanding.entries = [])
    (made : ∀ frame, produced = .ok frame → (frame.owner = .backend ↔ frame.lease ≠ none)) :
    ∃ response outstanding, (host.deliver ticket produced).desk
        = { host.desk with response := some response, outstanding }
      ∧ response.ticket = ticket ∧ Outstanding.Tidy (some response) outstanding.entries
      ∧ (host.deliver ticket produced).desk.collect.1 = some produced := by
  cases produced with
  | error fault => exact ⟨_, _, rfl, rfl, by rw [entries]; exact .failed, rfl⟩
  | ok frame =>
      by_cases owned : frame.owner = .backend
      · have leased := (made frame rfl).1 owned
        refine ⟨⟨ticket, .ok (.tracked (host.desk.outstanding.last + 1))⟩,
          (host.desk.outstanding.add frame).2, ?_, rfl, ?_, ?_⟩
        · simp only [Host.deliver, if_pos owned]
          rfl
        · rw [Outstanding.add, entries]
          exact .tracked leased
        · have nothing : host.engine.desk.outstanding.entries = [] := entries
          simp only [Host.deliver, if_pos owned]
          simp [Desk.collect, Host.desk, Host.withDesk, Outstanding.add, Outstanding.take,
            Outstanding.find?, nothing]
      · have plain : frame.lease = none := by
          by_cases plain : frame.lease = none
          · exact plain
          · exact absurd ((made frame rfl).2 plain) owned
        refine ⟨⟨ticket, .ok (.owned frame)⟩, host.desk.outstanding, ?_, rfl, ?_, ?_⟩
        · simp only [Host.deliver, if_neg owned]
          rfl
        · rw [entries]
          exact .owned plain
        · simp only [Host.deliver, if_neg owned]
          rfl

/-- The worker records the outcome it comes back with: the desk has nothing else on it. -/
theorem delivered {request : Request} {produced : Except Fault Frame}
    (h : Ordered host.desk host.engine.worker)
    (returning : host.engine.worker = .returning request produced) :
    ∃ response outstanding, (host.deliver request.ticket produced).desk
        = { host.desk with response := some response, outstanding }
      ∧ response.ticket = request.ticket ∧ Outstanding.Tidy (some response) outstanding.entries
      ∧ (host.deliver request.ticket produced).desk.collect.1 = some produced := by
  have inHand : host.engine.worker.request? = some request := by
    rw [returning]
    rfl
  refine deliver_desk request.ticket (h.alone inHand).2.2 ?_
  rintro frame rfl
  exact h.made request frame returning

theorem recorded {request : Request} {produced : Except Fault Frame}
    (h : Ordered host.desk host.engine.worker)
    (returning : host.engine.worker = .returning request produced)
    (recorded : Recorded host request produced after) : Ordered after.desk after.engine.worker := by
  have inHand : host.engine.worker.request? = some request := by
    rw [returning]
    rfl
  have unmarked : ∀ ticket, none = some ticket → ticket ≤ host.desk.ticket := nofun
  have own : ∀ response, host.desk.response = some response → response.ticket = request.ticket := by
    rw [(h.inHand request inHand).2]
    nofun
  cases recorded with
  | delivered awaited =>
      obtain ⟨response, outstanding, desk, ticket, tidy, -⟩ := h.delivered returning
      show Ordered { (host.deliver request.ticket produced).desk with mode := _ } .parked
      rw [desk]
      refine h.complete inHand _ h.marked ?_ tidy
      rintro recorded ⟨⟩
      exact ticket
  | ignored deserted plain => exact h.complete inHand _ unmarked own h.tidy
  | @returned frame after deserted leased back =>
      show Ordered { after.desk with mode := after.desk.mode.finish } .parked
      rw [(Host.beside_of_takeBack back).desk]
      exact h.complete inHand _ unmarked own h.tidy
  | @broke frame message after deserted leased back =>
      show Ordered after.desk .died
      rw [(Host.beside_of_takeBack back).desk]
      exact (h.withDeserted unmarked).fate (h.alone inHand).1 (h.alone inHand).2.1 rfl

/-- What a pass produces is handed on, whether it is good or not. -/
theorem passEnd {world : W} {request : Request} {pass : Pass} {lending : Bool}
    (h : Ordered host.desk host.engine.worker) (inHand : host.engine.worker.request? = some request)
    (ended : PassEnd { host with world } request pass lending after) :
    Ordered after.desk after.engine.worker := by
  have same {produced : Except Fault Frame} (other : Request)
      (inNext : (Worker.returning request produced).request? = some other) : other = request := by
    cases inNext
    rfl
  cases ended with
  | failed failure => exact h.goOn inHand same (Worker.made_of_none rfl)
  | @returned fault middle failure back =>
      show Ordered middle.desk _
      rw [(Host.beside_of_release back).desk]
      exact h.goOn inHand same (Worker.made_of_none rfl)
  | @broke fault message middle failure back =>
      show Ordered middle.desk _
      rw [(Host.beside_of_release back).desk]
      exact h.fate (h.alone inHand).1 (h.alone inHand).2.1 rfl
  | produced good =>
      refine h.goOn inHand same ?_
      intro other frame made
      rw [Frame.eq_of_produced (Worker.returning.inj made).2]
      simp
  | lent good =>
      refine h.goOn inHand same ?_
      rintro other frame ⟨⟩
      simp [Frame.lent]

/-- No step of the worker breaks the order. -/
theorem workerStep (h : Ordered host.desk host.engine.worker) (step : WorkerStep host after) :
    Ordered after.desk after.engine.worker := by
  cases step with
  | took parked awake queued =>
      have queue := h.queued _ queued
      exact {
        idle := fun idle => absurd idle awake
        queued := nofun
        inHand := by
          rintro request ⟨⟩
          exact queue.2
        answered := h.answered
        marked := h.marked
        tidy := h.tidy
        made := Worker.made_of_none rfl }
  | left parked asked empty => exact h.fate (by rw [asked]; nofun) empty rfl
  | rested parked asked empty =>
      exact {
        idle := fun _ => ⟨parked, empty⟩
        queued := h.queued
        inHand := h.inHand
        answered := h.answered
        marked := h.marked
        tidy := h.tidy
        made := h.made }
  | refused holding =>
      refine h.goOn (by rw [holding]; rfl) ?_ (Worker.made_of_none rfl)
      rintro other ⟨⟩
      rfl
  | @starved request _ _ holding _ _ _ room =>
      have alone := h.alone (show host.engine.worker.request? = some request by rw [holding]; rfl)
      exact h.fate alone.1 alone.2.1 rfl
  | entered holding allocates bytes =>
      refine h.goOn (by rw [holding]; rfl) ?_ (Worker.made_of_none rfl)
      rintro other ⟨⟩
      rfl
  | @finished request inputs outputs lending pass world after inside bytes finish ended =>
      have inHand : host.engine.worker.request? = some request := by
        rw [inside]
        rfl
      exact h.passEnd inHand ended
  | recorded returning recorded => exact h.recorded returning recorded

end Ordered

/-- A newly opened engine. -/
structure Host.Fresh (host : Host W) (backend : Backend W) : Prop where
  desk : ∃ input output timeout, host.desk = { input, output, timeout }
  worker : host.engine.worker = .parked
  isOpen : host.engine.isOpen = true
  backend : host.engine.backend = backend

theorem Backend.fresh_of_opened {backend : Backend W} {id : Nat} {options : Options}
    {framework : Framework} {world : W} {live : List Nat} {host : Host W}
    (h : backend.openAs id options framework world live = .opened host) : host.Fresh backend := by
  obtain ⟨input, output, after, -, rfl⟩ := opened_cases h
  exact ⟨⟨_, _, _, rfl⟩, rfl, rfl, rfl⟩

theorem Ordered.of_fresh {backend : Backend W} {host : Host W} (fresh : host.Fresh backend) :
    Ordered host.desk host.engine.worker := by
  obtain ⟨input, output, timeout, desk⟩ := fresh.desk
  rw [desk, fresh.worker]
  exact {
    idle := fun _ => ⟨rfl, rfl⟩
    queued := nofun
    inHand := nofun
    answered := nofun
    marked := nofun
    tidy := .blank
    made := Worker.made_of_none rfl }

end Inference
