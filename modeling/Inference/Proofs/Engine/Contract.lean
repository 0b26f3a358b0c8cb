/-
Engines and backends that agree.

As long as nobody names tensors the descriptors of an engine follow what its backend has taken up,
under every schedule and whatever the calls end in: `Crowd.Following.after` is a move, and
`Crowd.Following.of_run` a run.  An answer of the backend that is of no use is the exception: it is
reported by the call that asked, and leaves the engine behind.
-/
import Inference.Proofs.Engine.Bargain
import Inference.Proofs.Engine.Turn

namespace Inference

variable {W α : Type}

/-! ### Steps of calls -/

section

variable {notes : W → List Question} {host after : Host W}

/-- Whether a part writes the names of tensors. -/
def Part.renames : Part → Bool
  | writeProperty key _ => isNameKey key
  | _ => false

/-- Whether an operation does. -/
def Operation.renames : Operation → Bool
  | write key _ => isNameKey key
  | _ => false

/-- Whether a call is still to do so. -/
def Call.renames : Call → Bool
  | checking part | entering part => part.renames
  | _ => false

theorem Part.run_deals (kept : host.engine.backend.Notes notes) {part : Part}
    (plain : part.renames = false) : part.run.Deals notes host := by
  cases part with
  | readProperty key => exact deals_map (readProperty_deals kept key) _
  | writeProperty key value => exact deals_map (writeProperty_deals kept plain value) _
  | reshape info => exact deals_map (renegotiate_deals kept info) _
  | submit task timeout => exact submitTask_deals kept task timeout
  | fit task target =>
      intro outcome after h
      simp only [run, Act.desk_bind] at h
      split at h <;> cases h <;> exact .same
  | _ =>
      rintro outcome after ⟨⟩
      exact .same

/-- A call that takes the lock and names no tensors reports an answer that is of no use. -/
theorem Call.entering_terms (kept : host.engine.backend.Notes notes) {part : Part} {next : Call}
    (plain : part.renames = false) (h : (entering part).step host = some (next, after)) :
    ∃ report, (host.terms notes).Next report (after.terms notes)
      ∧ ∀ fault, report = some fault → next = .ended (.failed fault) part.target? := by
  have silent : ∀ fault, none = some fault → next = .ended (.failed fault) part.target? := nofun
  rcases entering_cases h with ⟨-, -, rfl⟩ | ⟨-, outcome, middle, ran, settled, ending⟩
  · exact ⟨none, .same, silent⟩
  have deals := Part.run_deals kept plain outcome middle ran
  rcases ending with ⟨calm, rfl⟩ | ⟨message, rfl, rfl⟩
  · cases outcome with
    | done call => exact ⟨none, deals, silent⟩
    | failed fault =>
        refine ⟨some fault, deals, ?_⟩
        rintro _ ⟨⟩
        exact settled
    | crashed message => exact absurd rfl (calm message)
  · exact ⟨none, deals, silent⟩

end

theorem Part.run_plain {part : Part} {host after : Host W} {call : Call}
    (h : part.run host = some (.done call, after)) : call.renames = false := by
  cases part with
  | readProperty key =>
      obtain ⟨value, rfl⟩ := done_of_map h
      rfl
  | writeProperty key value =>
      obtain ⟨⟨⟩, rfl⟩ := done_of_map h
      rfl
  | reshape info =>
      obtain ⟨⟨⟩, rfl⟩ := done_of_map h
      rfl
  | fit task target =>
      simp only [run, Act.desk_bind] at h
      split at h <;> cases h
      rfl
  | submit task timeout =>
      cases submitTask_submission h
      rfl
  | _ =>
      cases h
      rfl

namespace Call

theorem renames_receive (task : Task) (result : Except Fault Frame) :
    (receive task result).renames = false := by
  rcases receive_cases task result with ⟨_, _, _, same⟩ | ⟨_, _, same⟩ <;> rw [same] <;> rfl

theorem plain_of_goes {call next : Call} {host after : Host W} (plain : call.renames = false)
    (goes : call.Goes host next after) : next.renames = false := by
  cases call with
  | checking part =>
      have h := goes.step rfl
      simp only [step] at h
      split at h <;> cases h
      · exact plain
      · rfl
  | entering part =>
      rcases entering_cases (goes.step rfl) with ⟨-, rfl, -⟩ | ⟨-, outcome, middle, ran, rfl, -⟩
      · rfl
      · cases outcome with
        | done call => exact Part.run_plain ran
        | failed fault => rfl
        | crashed message => rfl
  | awaiting task timeout ticket =>
      cases goes.callStep with
      | received => exact renames_receive _ _
      | lockedOut => rfl
      | deserted => rfl
  | ended => cases goes.callStep
  | _ => cases goes.callStep <;> rfl

end Call

theorem Operation.renames_call {operation : Operation} (plain : operation.renames = false) :
    operation.call.renames = false := by
  cases operation with
  | write key value => exact plain
  | reshape info =>
      simp only [call, guarded]
      split <;> rfl
  | inferShaped frame info =>
      simp only [call, guarded]
      split <;> rfl
  | infer frame timeout => cases timeout <;> rfl
  | _ => rfl

/-! ### Every run -/

namespace Crowd

variable {notes : W → List Question} {started : Descriptor × Descriptor} {before : List Question}
  {crowd next later : Crowd W}

/-- An engine whose descriptors follow its backend, and that nobody wants to write names to. -/
structure Following (crowd : Crowd W) (notes : W → List Question)
    (started : Descriptor × Descriptor) (before : List Question) : Prop where
  orderly : crowd.Orderly
  kept : crowd.host.engine.backend.Notes notes
  plain : ∀ (caller : Nat) (call : Call), crowd.calls[caller]? = some call → call.renames = false
  follow : (crowd.host.terms notes).Follow started before

theorem Moved.backend {move : Move} (moved : crowd.Moved move next) :
    next.host.engine.backend = crowd.host.engine.backend := by
  cases moved with
  | began => rfl
  | called _ _ step => exact step.backend
  | worked step => exact step.backend
  | dropped _ drops => exact drops.beside.backend
  | gaveUp => rfl

/-- A move leaves the terms alone, unless it is the step of a call that holds the lock. -/
theorem Orderly.sameTerms_or_enters (h : crowd.Orderly) {move : Move}
    (made : crowd.after? move = some next) : crowd.host.SameTerms next.host
      ∨ ∃ caller part call host, move = .steps caller
        ∧ crowd.calls[caller]? = some (.entering part)
        ∧ (Call.entering part).step crowd.host = some (call, host)
        ∧ next = crowd.update caller (call, host) := by
  by_cases enters : ∃ caller part, move = .steps caller
    ∧ crowd.calls[caller]? = some (.entering part)
  · obtain ⟨caller, part, rfl, found⟩ := enters
    obtain ⟨call, found', stepped⟩ := Option.bind_eq_some_iff.1 made
    cases found.symm.trans found'
    obtain ⟨⟨after, host⟩, step, ⟨⟩⟩ := Option.bind_eq_some_iff.1 stepped
    exact .inr ⟨caller, part, after, host, rfl, found, step, rfl⟩
  · refine .inl ?_
    cases moved_of_after? made with
    | began => exact .refl _
    | @called _ caller call after host mover found step =>
        refine (step.sameTerms h.ordered).resolve_right ?_
        rintro ⟨-, part, rfl⟩
        -- A call that holds the lock does not run out of patience.
        cases move with
        | steps other =>
            cases mover
            exact enters ⟨caller, part, rfl, found⟩
        | expires other =>
            cases mover
            obtain ⟨call, found', expired⟩ := Option.bind_eq_some_iff.1 made
            cases found.symm.trans found'
            cases expired
        | _ => cases mover
    | worked step => exact step.sameTerms
    | dropped _ drops => exact drops.sameTerms
    | gaveUp => exact .refl _

namespace Following

/-- What a move does to the terms, and which call reports it. -/
theorem terms (h : crowd.Following notes started before) {move : Move}
    (made : crowd.after? move = some next) : ∃ report,
      (crowd.host.terms notes).Next report (next.host.terms notes)
        ∧ ∀ fault, report = some fault → ∃ caller target, move.caller? = some caller
          ∧ next.calls[caller]? = some (.ended (.failed fault) target) := by
  rcases h.orderly.sameTerms_or_enters made with
    same | ⟨caller, part, call, host, rfl, found, step, rfl⟩
  · refine ⟨none, ?_, nofun⟩
    rw [same.terms h.kept]
    exact .same
  · obtain ⟨report, deals, ends⟩ := Call.entering_terms h.kept (h.plain caller _ found) step
    refine ⟨report, deals, fun fault reported => ⟨caller, part.target?, rfl, ?_⟩⟩
    rw [getElem?_update found, if_pos rfl, ends fault reported]

/-- No move loses what the backend goes by. -/
theorem after (h : crowd.Following notes started before) {move : Move}
    (named : ∀ operation, move = .begins operation → operation.renames = false)
    (made : crowd.after? move = some next) : next.Following notes started before where
  orderly := h.orderly.moved (moved_of_after? made)
  kept := by
    rw [(moved_of_after? made).backend]
    exact h.kept
  plain := (turn_of_after? made).all (fun operation begins =>
    Operation.renames_call (named operation begins)) rfl Call.plain_of_goes h.plain
  follow := by
    obtain ⟨report, deals, -⟩ := h.terms made
    exact deals.follow h.follow

/-- Nor does a whole run. -/
theorem of_run {moves : List Move} (h : crowd.Following notes started before)
    (plain : ∀ operation, Move.begins operation ∈ moves → operation.renames = false)
    (run : crowd.afterAll? moves = some later) : later.Following notes started before := by
  induction moves generalizing crowd with
  | nil =>
      cases run
      exact h
  | cons move rest ih =>
      obtain ⟨next, made, run⟩ := Option.bind_eq_some_iff.1 run
      refine ih (h.after ?_ made) (fun operation member => ?_) run
      · rintro operation rfl
        exact plain operation List.mem_cons_self
      · exact plain operation (List.mem_cons_of_mem _ member)

end Following

end Crowd

/-! ### Opening -/

namespace Backend

variable {backend : Backend W} {notes : W → List Question}

theorem agreeInput_agree (kept : backend.Notes notes) {world after : W} (blank : notes world = [])
    {requested : Option Descriptor} {input produced : Descriptor}
    (h : backend.agreeInput requested world = (.done (input, produced), after)) :
    Terms.Agree ⟨input, produced, notes after⟩
      (configuration (fun _ => true)
        (backend.input world, backend.output world) (notes after)) := by
  obtain ⟨expected, rfl, rfl⟩ | ⟨-, -, adopted⟩ := agreeInput_cases h
  · rw [blank]
    refine ⟨?_, Descriptor.agrees_refl _⟩
    obtain ⟨-, rfl⟩ | ⟨-, agrees⟩ := expected
    · exact Descriptor.agrees_refl _
    · exact agrees
  · have noted := kept.adopt input world
    rw [adopted, blank, List.nil_append] at noted
    change notes after = _ at noted
    rw [noted]
    exact ⟨Descriptor.agrees_refl _, Descriptor.agrees_refl _⟩

theorem agrees_of_agreeOutput {produced output : Descriptor} {expected : Option Descriptor}
    (h : agreeOutput produced expected = .ok output) : output.agrees produced = true := by
  obtain ⟨-, rfl⟩ | ⟨-, agrees⟩ := agreeOutput_cases h
  · exact Descriptor.agrees_refl _
  · exact agrees

/-- An engine begins with what its backend goes by. -/
theorem Notes.opened (kept : backend.Notes notes) {id : Nat} {options : Options}
    {framework : Framework} {world : W} {live : List Nat} {host : Host W} (blank : notes world = [])
    (h : backend.openAs id options framework world live = .opened host) :
    (host.terms notes).Agree (configuration (fun _ => true)
      (backend.input world, backend.output world) (notes host.world)) := by
  obtain ⟨input, output, after, agreed, rfl⟩ := opened_cases h
  obtain ⟨produced, asked, stated, -⟩ := agreeShapes_done agreed
  have agree := agreeInput_agree kept blank asked
  exact ⟨agree.1, Descriptor.agrees_trans (agrees_of_agreeOutput stated) agree.2⟩

end Backend

namespace Crowd

/-- As long as nobody names tensors, the descriptors of an engine follow the inputs that its backend
has taken up with a usable output.  So they agree with what the backend goes by, if all its outputs
were usable.  When one is not, the call that asked reports a failed pass and the descriptors stay as
they are. -/
theorem descriptors_follow_usable_answers {backend : Backend W} {notes : W → List Question}
    (kept : backend.Notes notes) {id : Nat} {options : Options} {framework : Framework} {world : W}
    (blank : notes world = []) {live : List Nat} {host : Host W}
    (opened : backend.openAs id options framework world live = .opened host)
    {moves : List Move} {crowd : Crowd W} (run : Crowd.afterAll? { host } moves = some crowd)
    (plain : ∀ operation, Move.begins operation ∈ moves → operation.renames = false) :
    (∃ asked, notes crowd.host.world = notes host.world ++ asked
        ∧ (crowd.host.terms notes).Agree (configuration Descriptor.isValid
          (configuration (fun _ => true) (backend.input world, backend.output world)
            (notes host.world)) asked)
        ∧ ((∀ info output, .adopt info (.done output) ∈ asked → output.isValid = true) →
          (crowd.host.terms notes).Agree (configuration (fun _ => true)
            (backend.input world, backend.output world) (notes crowd.host.world))))
      ∧ ∀ move next info output, crowd.after? move = some next →
        notes next.host.world = notes crowd.host.world ++ [.adopt info (.done output)] →
        output.isValid = false →
          next.host.desk.input = crowd.host.desk.input
            ∧ next.host.desk.output = crowd.host.desk.output
            ∧ ∃ caller text target, move.caller? = some caller
              ∧ next.calls[caller]? = some (.ended (.failed (.passFailed text)) target) := by
  have fresh := Backend.fresh_of_opened opened
  have start : Following { host } notes (configuration (fun _ => true)
      (backend.input world, backend.output world) (notes host.world)) (notes host.world) := {
    orderly := .of_reachable fresh .refl
    kept := by
      rw [fresh.backend]
      exact kept
    plain := by
      intro caller call found
      simp at found
    follow := ⟨[], (List.append_nil _).symm, kept.opened blank opened⟩ }
  have following := start.of_run plain run
  constructor
  · obtain ⟨asked, noted, agree⟩ := following.follow
    refine ⟨asked, noted, agree, fun usable => ?_⟩
    change notes crowd.host.world = _ at noted
    rw [noted, configuration, List.foldl_append]
    rw [configuration_congr usable] at agree
    exact agree
  · intro move next info output made asked invalid
    obtain ⟨report, deals, ends⟩ := following.terms made
    obtain ⟨input, output, text, reported⟩ := deals.reported asked invalid
    obtain ⟨caller, target, mover, ended⟩ := ends _ reported
    exact ⟨input, output, caller, text, target, mover, ended⟩

end Crowd

namespace CustomModel

/-- A model that takes any input, but has no output to one of two bytes. -/
def vague : Backend (Unit × List Question) :=
  { echoByte.backend with
    adopt := fun info world => (.done (if info.sizes = [2] then {} else echoByte.output), world)
  }.noting

/-- An engine on that model. -/
def vagueEngine : Host (Unit × List Question) where
  engine := {
    id := 0, framework := .custom, accelerator := .any, backend := vague
    desk := { input := echoByte.input, output := echoByte.output, timeout := 0 } }
  world := ((), [])
  live := [0]

theorem vague_opened : vague.openAs 0 {} .custom ((), []) [] = .opened vagueEngine := rfl

/-- A caller gives an engine an input. -/
def reshapes (caller : Nat) (info : Descriptor) : List Move :=
  [.begins (.reshape info), .steps caller, .steps caller]

/-- An input of three bytes. -/
def threeBytes : Descriptor := { tensors := [{ type := .uint8, shape := Shape.ofList [3] }] }

end CustomModel

namespace Crowd

open CustomModel in
/-- The engine has taken over three bytes; the answer to two bytes is reported and changes
nothing. -/
theorem unusable_answer_reported : ∃ crowd next : Crowd (Unit × List Question),
    Crowd.afterAll? { host := vagueEngine } (reshapes 0 threeBytes
        ++ [.begins (.reshape twoBytes), .steps 1]) = some crowd
      ∧ (∃ asked, crowd.host.world.2 = [] ++ asked ∧ asked.length = 1
        ∧ (crowd.host.terms Prod.snd).Agree (configuration Descriptor.isValid
          (echoByte.input, echoByte.output) asked))
      ∧ crowd.after? (.steps 1) = some next ∧ next.host.desk.input = crowd.host.desk.input
      ∧ ∃ text target, next.calls[1]? = some (.ended (.failed (.passFailed text)) target) := by
  have run : (Crowd.afterAll? { host := vagueEngine } (reshapes 0 threeBytes
      ++ [.begins (.reshape twoBytes), .steps 1])).any (fun crowd =>
        decide (crowd.host.world.2.length = 1) && (crowd.after? (.steps 1)).any fun next =>
          decide (next.host.world.2 = crowd.host.world.2 ++ [.adopt twoBytes (.done {})]))
            = true := by
    decide +kernel
  obtain ⟨crowd, reached, seen⟩ := (Option.any_eq_true _ _).1 run
  obtain ⟨one, seen⟩ := (Bool.and_eq_true _ _).mp seen
  obtain ⟨next, made, asked⟩ := (Option.any_eq_true _ _).1 seen
  obtain ⟨⟨answers, noted, agree, -⟩, reports⟩ :=
    descriptors_follow_usable_answers (Backend.noting_notes _) rfl vague_opened reached (by
      intro operation member
      simp only [reshapes, List.cons_append, List.nil_append, List.mem_cons, Move.begins.injEq,
        reduceCtorEq, List.not_mem_nil, or_false, false_or] at member
      rcases member with rfl | rfl <;> rfl)
  obtain ⟨input, -, caller, text, target, mover, ended⟩ :=
    reports (.steps 1) next twoBytes {} made (of_decide_eq_true asked) (by decide)
  cases mover
  have all : crowd.host.world.2 = answers := noted
  refine ⟨crowd, next, reached, ⟨answers, noted, ?_, agree⟩, made, input, text, target, ended⟩
  rw [← all]
  exact of_decide_eq_true one

open CustomModel in
/-- After an answer that is of no use the engine and its backend go by different inputs. -/
theorem backend_reshaped_alone : vague.openAs 0 {} .custom ((), []) [] = .opened vagueEngine
    ∧ ∃ crowd : Crowd (Unit × List Question),
      Crowd.afterAll? { host := vagueEngine } (reshapes 0 twoBytes) = some crowd
        ∧ crowd.calls.all Call.isOver = true ∧ crowd.host.desk.mode = .idle
        ∧ ¬ (crowd.host.terms Prod.snd).Agree (configuration (fun _ => true)
          (echoByte.input, echoByte.output) crowd.host.world.2) := by
  refine ⟨vague_opened, ?_⟩
  have run : (Crowd.afterAll? { host := vagueEngine } (reshapes 0 twoBytes)).any (fun crowd =>
      crowd.calls.all Call.isOver && decide (crowd.host.desk.mode = .idle)
        && !crowd.host.desk.input.agrees (configuration (fun _ => true)
          (echoByte.input, echoByte.output) crowd.host.world.2).1) = true := by
    decide +kernel
  obtain ⟨crowd, reached, seen⟩ := (Option.any_eq_true _ _).1 run
  simp only [Bool.and_eq_true, decide_eq_true_eq, Bool.not_eq_true'] at seen
  obtain ⟨⟨ended, idle⟩, differ⟩ := seen
  refine ⟨crowd, reached, ended, idle, fun agree => ?_⟩
  cases differ.symm.trans agree.1

end Crowd

end Inference
