/-
What most steps leave alone.

`Desk.Tidy` says that the outputs that are outstanding are just the one of the outcome on the desk;
the ways in which a desk gives outputs away are settled under that assumption, by `collect_of_tidy`
and `clear_cases` above all.  `Host.Alike` relates two hosts between which nothing has happened to
requests, outcomes and tickets, which is so for most of what callers do (`Touched.alike`,
`leftBy_alike`).
-/
import Inference.Engine.Open
import Inference.Proofs.Engine.Transition

namespace Inference

variable {W : Type}

/-- The request that the worker has at hand. -/
def Worker.request? : Worker → Option Request
  | holding request => some request
  | inPass request .. => some request
  | returning request _ => some request
  | _ => none

/-! ### Outputs on lease -/

/-- The frame itself, if its memory is on lease. -/
def Frame.onLease (frame : Frame) : List Frame := if frame.lease.isSome then [frame] else []

theorem Frame.onLease_of_none {frame : Frame} (h : frame.lease = none) : frame.onLease = [] := by
  simp [onLease, h]

theorem Frame.onLease_of_ne_none {frame : Frame} (h : frame.lease ≠ none) :
    frame.onLease = [frame] := by
  simp [onLease, Option.isSome_iff_ne_none, h]

/-- The output of an outcome, if it is on lease. -/
def leasedIn : Except Fault Frame → List Frame
  | .ok frame => frame.onLease
  | .error _ => []

/-- Outstanding is the output of the recorded outcome, if that is on lease, and nothing else. -/
inductive Outstanding.Tidy : Option Response → List (Nat × Frame) → Prop where
  | blank : Tidy none []
  | failed {ticket : Nat} {fault : Fault} : Tidy (some ⟨ticket, .error fault⟩) []
  | owned {ticket : Nat} {frame : Frame} (plain : frame.lease = none) :
      Tidy (some ⟨ticket, .ok (.owned frame)⟩) []
  | tracked {ticket number : Nat} {frame : Frame} (leased : frame.lease ≠ none) :
      Tidy (some ⟨ticket, .ok (.tracked number)⟩) [(number, frame)]

namespace Desk

theorem hasResponse_iff {desk : Desk} {ticket : Nat} :
    desk.hasResponse ticket = true
      ↔ ∃ response, desk.response = some response ∧ response.ticket = ticket := by
  unfold hasResponse
  cases desk.response with
  | none => simp
  | some response => simp

/-- Nothing is outstanding but what is awaited. -/
def Tidy (desk : Desk) : Prop := Outstanding.Tidy desk.response desk.outstanding.entries

/-- The outputs that wait for a caller. -/
def lentOut (desk : Desk) : List Frame := desk.outstanding.entries.map (·.2)

/-- The desk without a recorded outcome. -/
def blank (desk : Desk) : Desk :=
  { desk with response := none, outstanding := { desk.outstanding with entries := [] } }

theorem blank_tidy (desk : Desk) : desk.blank.Tidy := .blank

theorem entries_of_tidy {desk : Desk} (tidy : desk.Tidy) (h : desk.response = none) :
    desk.outstanding.entries = [] := by
  unfold Tidy at tidy
  rw [h] at tidy
  generalize desk.outstanding.entries = entries at tidy
  cases tidy
  rfl

theorem forget_of_tidy {desk : Desk} (tidy : desk.Tidy) :
    desk.forget.1.toList = desk.lentOut ∧ desk.forget.2 = desk.blank := by
  obtain ⟨mode, request, ticket, deserted, response, ⟨entries, last⟩⟩ := desk
  cases tidy with
  | tracked =>
      simp [forget, awaited?, Response.awaited?, lentOut, blank, Outstanding.remove,
        Outstanding.find?, Outstanding.erase]
  | _ => exact ⟨rfl, rfl⟩

theorem sweep_of_tidy {desk : Desk} (tidy : desk.Tidy) : desk.sweep = ([], desk) := by
  obtain ⟨mode, request, ticket, deserted, response, ⟨entries, last⟩⟩ := desk
  cases tidy with
  | tracked => simp [sweep, awaited?, Response.awaited?, Outstanding.keepOnly]
  | _ => rfl

theorem empty_eq (desk : Desk) :
    desk.empty = (desk.lentOut, { desk.blank with request := none }) := by
  have all_dropped : (desk.outstanding.entries.filter fun entry => some entry.1 != none)
      = desk.outstanding.entries := List.filter_eq_self.2 fun _ _ => rfl
  simp [empty, lentOut, blank, Outstanding.keepOnly, all_dropped]

/-- Closing leaves the desk as it is, but for the last user of the engine, which empties it. -/
theorem clear_cases {desk : Desk} (tidy : desk.Tidy) (last : Bool) :
    (last = false ∧ desk.clear last = ([], desk))
      ∨ (last = true ∧ desk.clear last = (desk.lentOut, { desk.blank with request := none })) := by
  cases last with
  | false => exact .inl ⟨rfl, desk.sweep_of_tidy tidy⟩
  | true => exact .inr ⟨rfl, desk.empty_eq⟩

/-- A caller that collects an outcome gets all that is outstanding. -/
theorem collect_of_tidy {desk : Desk} (tidy : desk.Tidy) {result : Except Fault Frame}
    {after : Desk} (h : desk.collect = (some result, after)) :
    after = desk.blank ∧ desk.lentOut = leasedIn result := by
  obtain ⟨mode, request, ticket, deserted, response, ⟨entries, last⟩⟩ := desk
  cases tidy with
  | blank => cases h
  | failed =>
      cases h
      exact ⟨rfl, rfl⟩
  | owned plain =>
      cases h
      exact ⟨rfl, (Frame.onLease_of_none plain).symm⟩
  | tracked leased =>
      simp [collect, Outstanding.take, Outstanding.find?, Outstanding.erase] at h
      obtain ⟨rfl, rfl⟩ := h
      exact ⟨rfl, (Frame.onLease_of_ne_none leased).symm⟩

end Desk

/-! ### What most work leaves alone -/

namespace Host

/-- Two hosts between which no request, outcome or ticket has moved. -/
structure Alike (host after : Host W) : Prop where
  desk : ∃ input output timeout attached,
    after.desk = { host.desk with input, output, timeout, attached }
  worker : after.engine.worker = host.engine.worker
  isOpen : after.engine.isOpen = host.engine.isOpen
  id : after.engine.id = host.engine.id
  backend : after.engine.backend = host.engine.backend

namespace Alike

variable {host middle after : Host W}

theorem of_desk (h : after.engine = { host.engine with
    desk := after.desk, lent := after.engine.lent
    deskPoisoned := after.engine.deskPoisoned, backendPoisoned := after.engine.backendPoisoned })
    (desk : ∃ input output timeout attached,
      after.desk = { host.desk with input, output, timeout, attached }) : Alike host after where
  desk := desk
  worker := by rw [h]
  isOpen := by rw [h]
  id := by rw [h]
  backend := by rw [h]

theorem refl (host : Host W) : Alike host host := of_desk rfl ⟨_, _, _, _, rfl⟩

theorem trans (h : Alike host middle) (h' : Alike middle after) : Alike host after where
  desk := by
    obtain ⟨_, _, _, _, first⟩ := h.desk
    obtain ⟨input, output, timeout, attached, second⟩ := h'.desk
    exact ⟨input, output, timeout, attached, by rw [second, first]⟩
  worker := h'.worker.trans h.worker
  isOpen := h'.isOpen.trans h.isOpen
  id := h'.id.trans h.id
  backend := h'.backend.trans h.backend

end Alike

theorem Beside.alike {host after : Host W} (h : host.Beside after) : host.Alike after where
  desk := ⟨_, _, _, _, h.desk⟩
  worker := h.worker
  isOpen := h.isOpen
  id := h.id
  backend := h.backend

theorem Tuned.alike {host after : Host W} (h : host.Tuned after) : host.Alike after := by
  cases h <;> exact .of_desk rfl ⟨_, _, _, _, rfl⟩

theorem Touched.alike {host after : Host W} (h : host.Touched after) : host.Alike after := by
  cases h with
  | tuned tuned => exact tuned.alike
  | wrecked wrecked =>
      cases wrecked
      exact .of_desk rfl ⟨_, _, _, _, rfl⟩

theorem detach_alike (host : Host W) : host.Alike host.detach := by
  unfold detach
  split
  · have letGo : host.Alike (host.withDesk { host.desk with attached := false }) :=
      .of_desk rfl ⟨_, _, _, _, rfl⟩
    exact letGo.trans (settle_beside _).alike
  · exact .refl host

theorem leftBy_alike (host : Host W) (last : Bool) (crash : Option String) :
    host.Alike (host.leftBy last crash) := by
  unfold leftBy
  split
  · exact detach_alike host
  · exact .of_desk rfl ⟨_, _, _, _, rfl⟩

end Host

end Inference
