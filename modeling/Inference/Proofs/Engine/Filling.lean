/-
Copying an output into a frame.

A caller can bring a frame to have the output copied into.  It is compared with the agreed output
before the request is submitted, and after the pass the regions are written to it one after
another, until one is refused.  So the frame comes back as it was, or with the first of its tensors
overwritten (`Call.copyFrom_filling`) by the output of the caller's own pass
(`Chronicle.Tells.produced`).

That is all of them, and just the output, if the output that was agreed at the submission still
has the sizes of the frame, none of which is zero.  Otherwise it need not be: what was agreed may
change between the comparison and the submission, and an empty region is refused when the ones
before it have been written already.

`Call.Fills` lists the places at which such a call can be, and `Call.Fills.goes` is its step from
one to the next.
-/
import Inference.Proofs.Engine.Course
import Inference.Proofs.Engine.Fullness
import Inference.Proofs.Tensor.Overlay

namespace Inference

variable {W : Type}

/-! ### Writing one region after another -/

/-- How the writing of regions to the tensors of a frame ends. -/
inductive Frame.Filling (target : Frame) (regions : List Bytes) :
    Outcome Fault Reply → Frame → Prop where
  | all {after : Frame} (overlaid : target.Overlaid regions after) :
      Filling target regions (.done .none) after
  | refused {answer : Outcome Fault Reply} {after : Frame} {written : Nat} {region : Bytes}
      (overlaid : target.Overlaid (regions.take written) after)
      (next : regions[written]? = some region)
      (refusal : ∀ filled, after.write written region ≠ .done filled)
      (failing : ∀ reply, answer ≠ .done reply) : Filling target regions answer after

/-- The tensors are written in order, and the first that is refused is the last that is tried. -/
theorem Call.copyFrom_filling {source target current : Frame} {regions : List Bytes}
    (around : source.regions = regions.map some) (steps index : Nat)
    (length : index + steps = regions.length)
    (overlaid : target.Overlaid (regions.take index) current) :
    target.Filling regions (copyFrom source index current steps).1
      (copyFrom source index current steps).2 := by
  induction steps generalizing index current with
  | zero =>
      rw [List.take_of_length_le (by omega)] at overlaid
      exact .all overlaid
  | succ steps ih =>
      have inside : index < regions.length := by omega
      have next : regions[index]? = some regions[index] := List.getElem?_eq_getElem inside
      have read : source.tensor index = .ok regions[index] := by
        refine Frame.tensor_eq_ok.2 ?_
        rw [around, List.getElem?_map, next]
        rfl
      have taken : (regions.take index).length = index := by
        rw [List.length_take]
        omega
      unfold copyFrom
      rw [read]
      simp only [Outcome.ofExcept, Outcome.bind]
      cases written : current.write index regions[index] with
      | done filled =>
          refine ih (index + 1) (by omega) ?_
          rw [List.take_succ_eq_append_getElem inside]
          exact overlaid.next (by rw [taken]; exact written)
      | failed fault =>
          refine .refused overlaid next (fun filled same => ?_) (by simp)
          cases written.symm.trans same
      | crashed message =>
          refine .refused overlaid next (fun filled same => ?_) (by simp)
          cases written.symm.trans same

namespace Frame.Filling

variable {target after : Frame} {regions : List Bytes} {answer : Outcome Fault Reply}

/-- Regions that fill their tensors are all written, and nothing else is left. -/
theorem all_of_sound (h : target.Filling regions answer after) (sound : target.Sound)
    (sizes : regions.map List.length = target.sizes) (some : ∀ size ∈ target.sizes, 0 < size) :
    answer = .done .none ∧ after.regions = regions.map .some := by
  cases h with
  | all overlaid => exact ⟨rfl, sound.regions_of_overlaid overlaid sizes⟩
  | @refused _ _ written region overlaid next refusal failing =>
      have inside : written < regions.length := (List.getElem?_eq_some_iff.1 next).1
      have taken : (regions.take written).length = written := by
        rw [List.length_take]
        omega
      have sized : target.sizes[written]? = .some region.length := by
        rw [← sizes, List.getElem?_map, next]
        rfl
      obtain ⟨filled, write⟩ := sound.write_done overlaid (by rw [taken]; exact sized)
        (some _ (List.mem_of_getElem? sized))
      rw [taken] at write
      exact absurd write (refusal filled)

end Frame.Filling

/-! ### The course of a call with a frame to fill -/

/-- The regions are what the caller's own pass made of the input it had submitted, and they have the
sizes that were agreed then. -/
structure Chronicle.Produced (chronicle : Chronicle) (caller : Nat) (submitted : Submitted)
    (regions : List Bytes) : Prop where
  wasSubmitted : submitted ∈ chronicle.submitted
  mine : submitted.caller = caller
  pass : ∃ ran ∈ chronicle.ran, ran.ticket = submitted.ticket
    ∧ submitted.input.allBytes = .ok ran.inputs ∧ ran.pass.ending = .done
    ∧ ran.pass.outputs = regions
  sizes : regions.map List.length = submitted.output.sizes

theorem Chronicle.Produced.grow {chronicle after : Chronicle} (grows : chronicle.Grows after)
    {caller : Nat} {submitted : Submitted} {regions : List Bytes}
    (h : chronicle.Produced caller submitted regions) :
    after.Produced caller submitted regions where
  wasSubmitted := grows.submitted h.wasSubmitted
  mine := h.mine
  pass := by
    obtain ⟨ran, member, rest⟩ := h.pass
    exact ⟨ran, grows.ran member, rest⟩
  sizes := h.sizes

/-- Where a call stands that has a frame to fill. -/
inductive Call.Fills (chronicle : Chronicle) (caller : Nat) (task : Task) (target : Frame) :
    Call → Prop where
  | checking {part : Part} (about : part.task? = some task) (back : part.target? = some target) :
      Fills chronicle caller task target (.checking part)
  | entering {part : Part} (about : part.task? = some task) (back : part.target? = some target) :
      Fills chronicle caller task target (.entering part)
  | awaiting {timeout ticket : Nat} :
      Fills chronicle caller task target (.awaiting task timeout ticket)
  | dropping {output after : Frame} {answer : Outcome Fault Reply} {submitted : Submitted}
      {regions : List Bytes} (produced : chronicle.Produced caller submitted regions)
      (input : submitted.input = task.input) (filling : target.Filling regions answer after) :
      Fills chronicle caller task target (.dropping output answer after)
  /-- Nothing was written. -/
  | untouched {answer : Outcome Fault Reply} (failing : ∀ reply, answer ≠ .done reply) :
      Fills chronicle caller task target (.ended answer (some target))
  | filled {after : Frame} {answer ending : Outcome Fault Reply} {submitted : Submitted}
      {regions : List Bytes} (produced : chronicle.Produced caller submitted regions)
      (input : submitted.input = task.input) (filling : target.Filling regions answer after)
      (ends : ending = answer ∨ ∃ message, ending = .crashed message) :
      Fills chronicle caller task target (.ended ending (some after))

namespace Call.Fills

variable {chronicle : Chronicle} {caller : Nat} {task : Task} {target : Frame} {call next : Call}
  {host after : Host W}

theorem grow {chronicle' : Chronicle} (grows : chronicle.Grows chronicle')
    (h : call.Fills chronicle caller task target) : call.Fills chronicle' caller task target := by
  cases h with
  | checking about back => exact .checking about back
  | entering about back => exact .entering about back
  | awaiting => exact .awaiting
  | dropping produced input filling => exact .dropping (produced.grow grows) input filling
  | untouched failing => exact .untouched failing
  | filled produced input filling ends => exact .filled (produced.grow grows) input filling ends

theorem of_failed (fault : Fault) :
    (Call.ended (.failed fault) (some target)).Fills chronicle caller task target :=
  .untouched (by simp)

theorem of_run {part : Part} (about : part.task? = some task) (back : part.target? = some target)
    (aim : task.target = some target) (h : part.run host = some (.done next, after)) :
    next.Fills chronicle caller task target := by
  cases part with
  | fit task' target' =>
      cases about
      simp only [Part.run, Act.desk_bind] at h
      split at h <;> cases h
      exact .checking rfl aim
  | learnTimeout task' =>
      cases about
      cases h
      exact .checking rfl aim
  | submit task' timeout =>
      cases about
      cases Part.submitTask_submission h
      exact .awaiting
  | _ => cases about

theorem of_entering {part : Part} (about : part.task? = some task)
    (back : part.target? = some target) (aim : task.target = some target)
    (h : (Call.entering part).step host = some (next, after)) :
    next.Fills chronicle caller task target := by
  rcases Call.entering_cases h with ⟨-, rfl, -⟩ | ⟨-, outcome, middle, ran, rfl, -⟩
  · rw [back]
    exact .of_failed _
  rw [back]
  cases outcome with
  | done call => exact of_run about back aim ran
  | failed fault => exact .of_failed _
  | crashed message => exact .untouched (by simp)

theorem of_hand {output : Frame} {submitted : Submitted} {regions : List Bytes}
    (aim : task.target = some target) (produced : chronicle.Produced caller submitted regions)
    (input : submitted.input = task.input) (around : output.regions = regions.map some) :
    (hand task output).Fills chronicle caller task target := by
  have copied {source : Frame} (around : source.regions = regions.map some) :
      (Call.dropping source (copyFrom source 0 target source.count).1
        (copyFrom source 0 target source.count).2).Fills chronicle caller task target := by
    have count : source.count = regions.length := by
      rw [Frame.count, around, List.length_map]
    refine .dropping produced input (copyFrom_filling around _ 0 (by omega) ?_)
    exact .refl target
  unfold hand
  rw [aim]
  simp only
  -- The output changes hands before it is copied, unless it is the backend's.
  split
  · exact copied around
  · exact copied around

/-- Every step of such a call is to another of these places. -/
theorem goes (h : call.Fills chronicle caller task target) (aim : task.target = some target)
    (received : ∀ timeout ticket frame desk, call = .awaiting task timeout ticket →
      host.desk.hasResponse ticket = true → host.desk.collect = (some (.ok frame), desk) →
        ∃ submitted regions, chronicle.Produced caller submitted regions
          ∧ submitted.input = task.input ∧ frame.regions = regions.map some)
    (goes : call.Goes host next after) : next.Fills chronicle caller task target := by
  cases h with
  | @checking part about back =>
      have step := goes.step rfl
      simp only [Call.step] at step
      split at step <;> cases step
      · exact .entering about back
      · rw [back]
        exact .of_failed _
  | entering about back => exact of_entering about back aim (goes.step rfl)
  | awaiting =>
      cases goes.callStep with
      | lockedOut =>
          rw [aim]
          exact .of_failed _
      | @received _ _ _ _ desk result present collected =>
          cases result with
          | error fault =>
              show (Call.ended _ task.target).Fills _ _ _ _
              rw [aim]
              exact .of_failed _
          | ok frame =>
              obtain ⟨submitted, regions, produced, input, around⟩ :=
                received _ _ frame desk rfl present collected
              exact of_hand aim produced input around
      | deserted =>
          rw [aim]
          exact .of_failed _
  | dropping produced input filling =>
      cases goes.callStep with
      | copied => exact .filled produced input filling (.inl rfl)
      | spoilt => exact .filled produced input filling (.inr ⟨_, rfl⟩)
  | untouched => cases goes.callStep
  | filled => cases goes.callStep

end Call.Fills

/-! ### What the frame is given back with -/

/-- The output that a caller finds is what its own pass made of its own input, and full. -/
theorem Chronicle.Tells.produced {chronicle : Chronicle} {crowd : Crowd W}
    (told : chronicle.Tells crowd) (full : crowd.host.Full) {caller timeout ticket : Nat}
    {task : Task} {frame : Frame} {desk : Desk}
    (waits : crowd.calls[caller]? = some (.awaiting task timeout ticket))
    (present : crowd.host.desk.hasResponse ticket = true)
    (collected : crowd.host.desk.collect = (some (.ok frame), desk)) :
    ∃ submitted regions, chronicle.Produced caller submitted regions
      ∧ submitted.input = task.input ∧ frame.regions = regions.map some := by
  have recorded : crowd.host.desk.outcome? = some (.ok frame) := congrArg Prod.fst collected
  have last := told.orderly.ordered.ticket_of_response present
  obtain ⟨s, r, made⟩ := told.follows.outcome frame recorded
  obtain ⟨own, member, mine, ticket⟩ := told.waiting caller task timeout ticket waits
  have same : s = own :=
    told.submitted_unique made.wasSubmitted member (by rw [made.requested, ticket, last])
  subst same
  have input : s.input = task.input := by
    obtain ⟨operation, began, brought⟩ := told.brought s member
    obtain ⟨operation', began', asked⟩ := told.asked caller _ task waits rfl
    rw [mine] at began
    cases began.symm.trans began'
    exact Option.some.inj (brought.symm.trans asked)
  have lengths := (Frame.full_iff made.regions).1 (full.outcome frame recorded)
  refine ⟨s, r.pass.outputs, {
    wasSubmitted := member
    mine := mine
    pass := ⟨r, made.wasRan, made.served.trans made.requested.symm, made.inputs, made.good, rfl⟩
    sizes := ?_ }, input, made.regions⟩
  rw [lengths, Frame.sizes, made.info]

namespace Crowd

/-- A frame that was brought to be filled is given back in any case.  If nothing was written to it
the call has failed.  Otherwise the output of the caller's own pass was written to its first
tensors: to all of them if the call ended well, and up to one that was refused if it did not,
unless the backend crashed over the output afterwards.  All are written, and no byte is left from
before, if the sizes that were agreed at the submission are those of the frame and none of them is
zero. -/
theorem frame_filled_or_untouched {backend : Backend W} {id : Nat} {options : Options}
    {framework : Framework} {world : W} {live : List Nat} {host : Host W}
    (opened : backend.openAs id options framework world live = .opened host) {crowd : Crowd W}
    {chronicle : Chronicle} (lived : Lived { host } crowd chronicle) {caller : Nat}
    {input target : Frame} (begun : chronicle.begun[caller]? = some (.inferInto input target))
    {ending : Outcome Fault Reply} {given : Option Frame}
    (ended : crowd.calls[caller]? = some (.ended ending given)) :
    (given = some target ∧ ∀ reply, ending ≠ .done reply)
      ∨ ∃ submitted regions answer after, chronicle.Produced caller submitted regions
        ∧ submitted.input = input ∧ given = some after ∧ target.Filling regions answer after
        ∧ (ending = answer ∨ ∃ message, ending = .crashed message)
        ∧ (target.Sound → submitted.output.sizes = target.sizes →
          (∀ size ∈ target.sizes, 0 < size) →
            answer = .done .none ∧ after.regions = regions.map some) := by
  have fresh := Backend.fresh_of_opened opened
  have fills : (Call.ended ending given).Fills chronicle caller
      { input, target := some target } target := by
    have course := Lived.course
      (Q := fun chronicle caller operation call => ∀ input target,
        operation = .inferInto input target →
          call.Fills chronicle caller { input, target := some target } target)
      fresh ?_ ?_ ?_ lived begun
    · obtain ⟨call, found, fills⟩ := course
      cases ended.symm.trans found
      exact fills input target rfl
    · rintro chronicle caller _ input target rfl
      exact .checking rfl rfl
    · intro chronicle after caller operation call grows fills input target same
      exact (fills input target same).grow grows
    · intro crowd chronicle caller operation call next after lived found fills goes input target
        same
      have told := Chronicle.Tells.of_lived fresh lived
      refine (fills input target same).goes rfl ?_ goes
      rintro timeout ticket frame desk rfl present collected
      exact told.produced (Host.Full.of_reachable fresh lived.reachable) found present collected
  cases fills with
  | untouched failing => exact .inl ⟨rfl, failing⟩
  | @filled after answer _ submitted regions produced input filling ends =>
      refine .inr ⟨submitted, regions, answer, after, produced, input, rfl, filling, ends, ?_⟩
      intro sound sizes some
      exact filling.all_of_sound sound (produced.sizes.trans sizes) some

end Crowd

namespace CustomModel

/-- A model that takes any input and gives it back, with empty regions for further outputs. -/
def elastic : Backend Unit := { echoByte.backend with
  input := fun _ => { tensors := [{ type := .uint8, shape := Shape.ofList [2] }] }
  output := fun _ => { tensors := [{ type := .uint8, shape := Shape.ofList [2] }] }
  allocates := fun _ => true
  adopt := fun info world => (.done info, world)
  finish := fun inputs outputs _ world =>
    some ({ ending := .done, outputs := inputs ++ outputs.drop inputs.length }, world) }

/-- An engine on that model. -/
def elasticEngine : Host Unit where
  engine := {
    id := 0, framework := .custom, accelerator := .any, backend := elastic
    desk := { input := elastic.input (), output := elastic.output (), timeout := 0 } }
  world := ()
  live := [0]

theorem elastic_opened : elastic.openAs 0 {} .custom () [] = .opened elasticEngine := rfl

/-- A frame of two bytes. -/
def twoByteFrame (bytes : Bytes) : Frame := { info := elastic.input (), regions := [some bytes] }

/-- A frame with an entry without a tensor, as it is left by naming an output too many. -/
def namedFrame : Frame where
  info := { tensors := [{ name := some "a", type := .uint8, shape := Shape.ofList [2] },
    { name := some "b" }] }
  regions := [some [9, 9], some []]

/-- A caller names an output too many, and another one runs a pass into such a frame. -/
def halfFilling : List Move :=
  [.begins (.write "outputname" "a,b"), .steps 0, .steps 0,
      .begins (.inferInto (twoByteFrame [5, 6]) namedFrame)] ++ List.replicate 6 (.steps 1)
    ++ List.replicate 4 .works ++ List.replicate 2 (.steps 1)

/-- After the frame of a caller was compared with the output, another one gives the engine an input
of one byte. -/
def shortFilling : List Move :=
  [.begins (.inferInto (byteTask 7).input (twoByteFrame [9, 9])), .steps 0, .steps 0,
      .begins (.reshape echoByte.input), .steps 1, .steps 1] ++ List.replicate 4 (.steps 0)
    ++ List.replicate 4 .works ++ List.replicate 2 (.steps 0)

/-- A pass into a frame, with nobody else about. -/
def plainFilling : List Move :=
  .begins (.inferInto (twoByteFrame [5, 6]) (twoByteFrame [9, 9])) :: List.replicate 6 (.steps 0)
    ++ List.replicate 4 .works ++ List.replicate 2 (.steps 0)

end CustomModel

/-- Whether a call has ended well, and what the frame holds that it gives back. -/
def Call.filled? : Call → Option (Bool × List (Option Bytes))
  | ended (.done _) (some after) => some (true, after.regions)
  | ended _ (some after) => some (false, after.regions)
  | _ => none

theorem Call.eq_of_filled? {call : Call} {well : Bool} {regions : List (Option Bytes)}
    (h : call.filled? = some (well, regions)) : ∃ ending after,
      call = .ended ending (some after) ∧ after.regions = regions
        ∧ (well = true ↔ ∃ reply, ending = .done reply) := by
  cases call with
  | ended ending given =>
      cases given with
      | none => cases ending <;> cases h
      | some after => cases ending <;> cases h <;> exact ⟨_, after, rfl, rfl, by simp⟩
  | _ => cases h

namespace Crowd

open CustomModel in
/-- A pass into a frame of its own size fills it with its output. -/
theorem frame_filled_by_own_pass : ∃ (crowd : Crowd Unit) (chronicle : Chronicle)
    (ending : Outcome Fault Reply) (after : Frame), Lived { host := elasticEngine } crowd chronicle
      ∧ chronicle.begun[0]? = some (.inferInto (twoByteFrame [5, 6]) (twoByteFrame [9, 9]))
      ∧ crowd.calls[0]? = some (.ended ending (some after)) ∧ after.regions = [some [5, 6]]
      ∧ ∃ submitted regions, chronicle.Produced 0 submitted regions
        ∧ (twoByteFrame [9, 9]).Filling regions ending after := by
  have run : ((Crowd.afterAll? { host := elasticEngine } plainFilling).bind fun crowd =>
      crowd.calls[0]?.bind Call.filled?) = some (true, [some [5, 6]]) := by
    decide +kernel
  obtain ⟨crowd, reached, seen⟩ := Option.bind_eq_some_iff.1 run
  obtain ⟨call, found, seen⟩ := Option.bind_eq_some_iff.1 seen
  obtain ⟨ending, after, rfl, holds, well⟩ := Call.eq_of_filled? seen
  obtain ⟨reply, rfl⟩ := well.1 rfl
  obtain ⟨chronicle, lived, begun⟩ := Lived.run .start reached
  have mine : chronicle.begun[0]?
      = some (.inferInto (twoByteFrame [5, 6]) (twoByteFrame [9, 9])) := by
    rw [begun]
    rfl
  refine ⟨crowd, chronicle, .done reply, after, lived, mine, found, holds, ?_⟩
  rcases frame_filled_or_untouched elastic_opened lived mine found with ⟨-, failing⟩ | filled
  · exact absurd rfl (failing reply)
  · obtain ⟨submitted, regions, answer, after', produced, -, ⟨⟩, filling, ends, -⟩ := filled
    rcases ends with rfl | ⟨message, ⟨⟩⟩
    exact ⟨submitted, regions, produced, filling⟩

open CustomModel in
/-- A call that fails can leave its frame half filled, and one that ends well can leave bytes from
before in it. -/
theorem frame_filled_in_part : elastic.openAs 0 {} .custom () [] = .opened elasticEngine
    ∧ ((Crowd.afterAll? { host := elasticEngine } halfFilling).bind fun crowd =>
      crowd.calls[1]?.bind Call.filled?) = some (false, [some [5, 6], some []])
    ∧ ((Crowd.afterAll? { host := elasticEngine } shortFilling).bind fun crowd =>
      crowd.calls[0]?.bind Call.filled?) = some (true, [some [7, 9]]) := by
  refine ⟨elastic_opened, ?_, ?_⟩
  · decide +kernel
  · decide +kernel

end Crowd

end Inference
