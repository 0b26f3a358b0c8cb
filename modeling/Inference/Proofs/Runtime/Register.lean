/-
The register of a process.

All that identifiers and the table of live handles depend on is where every attempt stands: it has
no identifier yet, has one that is not on the table yet, is open, was closed, or has failed.  A
register holds these standings together with the table and the counter, and every happening of a
process is one of six steps of its register.  What is to be proved of the table is proved of
registers, and carried over to processes by `register_step`.

Two things are kept besides, which nothing in the process reads: the identifiers in the order in
which they were drawn, each with the attempt that drew it, and the identifiers of the handles in
the order in which their closing began.
-/
import Inference.Engine.Runtime
import Inference.Proofs.Engine.Entry
import Mathlib.Data.List.Nodup

namespace Inference

variable {W : Type}

/-! ### Standings -/

/-- Where an attempt stands, as far as its identifier goes. -/
inductive Standing where
  | unnumbered
  /-- Has drawn an identifier that is not on the table. -/
  | unlisted (id : Nat)
  | live (id : Nat)
  | closed (id : Nat)
  | failed

namespace Standing

/-- The identifier that goes with a standing. -/
def id? : Standing → Option Nat
  | unlisted id | live id | closed id => some id
  | unnumbered | failed => none

/-- Whether the attempt can still fail. -/
def isYoung : Standing → Bool
  | unnumbered | unlisted _ => true
  | _ => false

/-- How often the handle has been closed. -/
def closings : Standing → Nat
  | closed _ => 1
  | _ => 0

end Standing

def Handle.standing (handle : Handle W) : Standing :=
  if handle.engine.isOpen then .live handle.engine.id else .closed handle.engine.id

def Attempt.standing : Attempt W → Standing
  | asked _ | found .. | loaded .. | agreed .. => .unnumbered
  | numbered engine | staffed engine => .unlisted engine.id
  | listed engine => .live engine.id
  | opened handle => handle.standing
  | refused _ | crashed _ => .failed

/-- Whether the attempt is about to draw an identifier. -/
def Attempt.isAgreed : Attempt W → Bool
  | agreed .. => true
  | _ => false

/-- What an attempt is like at any time: its engine is marked as open until the handle is handed
out, and nobody gives up an open handle without being about to close it. -/
def Attempt.Proper : Attempt W → Prop
  | numbered engine | staffed engine | listed engine => engine.isOpen = true
  | opened handle => ∀ commons, (handle.crowd commons).Parting
  | _ => True

/-! ### Steps of an attempt -/

namespace Attempt

/-- What a step of an attempt does to its standing and to what all engines share. -/
inductive Stepped (commons : Commons W) : Attempt W → Attempt W → Commons W → Prop where
  /-- Looks for a model, or agrees on shapes. -/
  | searched {attempt after : Attempt W} {world : W} (before : attempt.standing = .unnumbered)
      (undrawn : attempt.isAgreed = false) (still : after.standing = .unnumbered)
      (proper : after.Proper) : Stepped commons attempt after { commons with world }
  | failed {attempt after : Attempt W} {world : W} (young : attempt.standing.isYoung = true)
      (undrawn : attempt.isAgreed = false) (fails : after.hasFailed = true) :
      Stepped commons attempt after { commons with world }
  | drew {options : Options} {framework : Framework} {backend : Backend W}
      {input output : Descriptor} {engine : Engine W} (id : engine.id = commons.nextId)
      (isOpen : engine.isOpen = true) :
      Stepped commons (.agreed options framework backend input output) (.numbered engine)
        { commons with nextId := commons.nextId + 1 }
  | staffed (engine : Engine W) : Stepped commons (.numbered engine) (.staffed engine) commons
  | entered (engine : Engine W) :
      Stepped commons (.staffed engine) (.listed engine)
        { commons with live := commons.live ++ [engine.id] }
  | handed (engine : Engine W) : Stepped commons (.listed engine) (.opened { engine }) commons

variable {attempt after : Attempt W} {commons commons' : Commons W}

/-- Every step of an attempt is one of those listed. -/
theorem stepped_of_step (step : attempt.step commons = some (after, commons')) :
    attempt.Stepped commons after commons' := by
  cases attempt with
  | asked =>
      simp only [Attempt.step] at step
      split at step <;> cases step
      · exact .failed rfl rfl rfl
      · exact .searched rfl rfl rfl trivial
  | found =>
      simp only [Attempt.step] at step
      split at step <;> cases step
      · exact .failed rfl rfl rfl
      · exact .searched rfl rfl rfl trivial
  | loaded =>
      simp only [Attempt.step] at step
      split at step <;> cases step
      · exact .searched rfl rfl rfl trivial
      · exact .failed rfl rfl rfl
      · exact .failed rfl rfl rfl
  | agreed =>
      cases step
      exact .drew rfl rfl
  | numbered engine =>
      cases step
      exact .staffed engine
  | staffed engine =>
      cases step
      exact .entered engine
  | listed engine =>
      cases step
      exact .handed engine
  | opened => cases step
  | refused => cases step
  | crashed => cases step

theorem stepped_of_lackThread {reason : String}
    (lacks : attempt.lackThread reason commons = some (after, commons')) :
    attempt.Stepped commons after commons' := by
  cases attempt with
  | numbered =>
      cases lacks
      exact .failed rfl rfl rfl
  | _ => cases lacks

theorem standing_of_hasFailed (h : attempt.hasFailed = true) : attempt.standing = .failed := by
  cases attempt with
  | refused => rfl
  | crashed => rfl
  | _ => cases h

theorem Proper.stepped (proper : attempt.Proper)
    (stepped : attempt.Stepped commons after commons') :
    after.Proper := by
  cases stepped with
  | searched _ _ _ proper' => exact proper'
  | failed _ _ fails =>
      cases after with
      | refused => trivial
      | crashed => trivial
      | _ => cases fails
  | drew _ isOpen => exact isOpen
  | staffed => exact proper
  | entered => exact proper
  | handed => exact fun _ givenUp => nomatch givenUp

theorem Proper.act {move : Move} (proper : attempt.Proper)
    (acts : attempt.act move commons = some (after, commons')) : after.Proper := by
  cases attempt with
  | opened handle =>
      obtain ⟨crowd, made, ⟨⟩⟩ := Option.map_eq_some_iff.1 acts
      exact fun _ => (Crowd.moved_of_after? made).parting (proper commons)
  | _ => cases acts

end Attempt

/-! ### Annals -/

/-- What is kept of a run. -/
structure Annals where
  /-- The attempts that have drawn an identifier, each with the one it has drawn. -/
  drawn : List (Nat × Nat) := []
  /-- The identifiers of the handles whose closing has begun. -/
  closed : List Nat := []

/-- What is kept of two runs, one after the other. -/
def Annals.append (annals more : Annals) : Annals where
  drawn := annals.drawn ++ more.drawn
  closed := annals.closed ++ more.closed

theorem Annals.append_assoc (a b c : Annals) : (a.append b).append c = a.append (b.append c) := by
  unfold append
  rw [List.append_assoc, List.append_assoc]

namespace Runtime

/-- The identifier that is drawn: by an attempt that has agreed on shapes, with its next step. -/
def draws (runtime : Runtime W) : Happening W → List (Nat × Nat)
  | .advances index =>
    if runtime.attempts[index]?.any Attempt.isAgreed then [(index, runtime.commons.nextId)] else []
  | _ => []

/-- The identifier of the handle whose closing begins. -/
def closes (runtime : Runtime W) : Happening W → List Nat
  | .acts index move => match runtime.attempts[index]? with
    | some (.opened handle) =>
      let crowd := handle.crowd runtime.commons
      if (crowd.after? move).any (crowd.closedBy move) then [handle.engine.id] else []
    | _ => []
  | _ => []

/-- What is kept of a happening. -/
def note (runtime : Runtime W) (happening : Happening W) : Annals where
  drawn := runtime.draws happening
  closed := runtime.closes happening

/-- A run from one state of a process to another, with what is kept of it. -/
inductive Run (first : Runtime W) : Runtime W → Annals → Prop where
  | refl : Run first first {}
  | step {runtime next : Runtime W} {annals : Annals} (before : Run first runtime annals)
      (happening : Happening W) (made : runtime.after? happening = some next) :
      Run first next (annals.append (runtime.note happening))

theorem Run.trans {a b c : Runtime W} {annals more : Annals} (hab : Run a b annals)
    (hbc : Run b c more) : Run a c (annals.append more) := by
  induction hbc with
  | refl =>
      unfold Annals.append
      rw [List.append_nil, List.append_nil]
      exact hab
  | step _ happening made ih =>
      rw [← Annals.append_assoc]
      exact .step ih happening made

theorem exists_run_of_afterAll? {runtime last : Runtime W} {happenings : List (Happening W)}
    (h : runtime.afterAll? happenings = some last) : ∃ annals, Run runtime last annals := by
  induction happenings generalizing runtime with
  | nil =>
      cases h
      exact ⟨_, .refl⟩
  | cons happening rest ih =>
      obtain ⟨next, made, h⟩ := Option.bind_eq_some_iff.1 h
      obtain ⟨more, run⟩ := ih h
      exact ⟨_, (Run.step .refl happening made).trans run⟩

end Runtime

/-! ### Registers -/

/-- Where all attempts stand, with the table and the counter. -/
structure Register where
  standings : List Standing
  live : List Nat
  nextId : Nat

namespace Register

/-- What a happening can do to the register, and what is kept of it. -/
inductive Step (register : Register) : Annals → Register → Prop where
  | kept : Step register {} register
  /-- An attempt begins. -/
  | began : Step register {} { register with standings := register.standings ++ [.unnumbered] }
  /-- An attempt fails. -/
  | failed {index : Nat} {standing : Standing} (found : register.standings[index]? = some standing)
      (young : standing.isYoung = true) :
      Step register {} { register with standings := register.standings.set index .failed }
  /-- An attempt draws an identifier. -/
  | drew {index : Nat} (found : register.standings[index]? = some .unnumbered) :
      Step register { drawn := [(index, register.nextId)] } { register with
        standings := register.standings.set index (.unlisted register.nextId)
        nextId := register.nextId + 1 }
  /-- An engine enters the table. -/
  | listed {index id : Nat} (found : register.standings[index]? = some (.unlisted id)) :
      Step register {} { register with
        standings := register.standings.set index (.live id)
        live := register.live ++ [id] }
  /-- The closing of a handle begins. -/
  | closed {index id : Nat} (found : register.standings[index]? = some (.live id)) :
      Step register { closed := [id] } { register with
        standings := register.standings.set index (.closed id)
        live := register.live.filter (· != id) }

end Register

/-- The register of a process. -/
def Runtime.register (runtime : Runtime W) : Register where
  standings := runtime.attempts.map Attempt.standing
  live := runtime.commons.live
  nextId := runtime.commons.nextId

namespace Runtime

variable {runtime next : Runtime W}

theorem register_standing {index : Nat} {attempt : Attempt W}
    (found : runtime.attempts[index]? = some attempt) :
    runtime.register.standings[index]? = some attempt.standing := by
  unfold register
  rw [List.getElem?_map, found]
  rfl

theorem exists_attempt {index : Nat} {standing : Standing}
    (found : runtime.register.standings[index]? = some standing) :
    ∃ attempt, runtime.attempts[index]? = some attempt ∧ attempt.standing = standing := by
  unfold register at found
  rw [List.getElem?_map] at found
  exact Option.map_eq_some_iff.1 found

theorem register_set (attempts : List (Attempt W)) (commons : Commons W) (index : Nat)
    (attempt : Attempt W) : register { commons, attempts := attempts.set index attempt }
      = { standings := (attempts.map Attempt.standing).set index attempt.standing
          live := commons.live, nextId := commons.nextId } := by
  unfold register
  rw [List.map_set]

theorem register_kept {index : Nat} {attempt after : Attempt W} {commons : Commons W}
    (found : runtime.attempts[index]? = some attempt) (same : after.standing = attempt.standing)
    (live : commons.live = runtime.commons.live)
    (nextId : commons.nextId = runtime.commons.nextId) :
    runtime.register.Step {}
      (register { commons, attempts := runtime.attempts.set index after }) := by
  have here := register_standing found
  have put : (runtime.attempts.map Attempt.standing).set index attempt.standing
      = runtime.attempts.map Attempt.standing := by
    obtain ⟨inside, mine⟩ := List.getElem?_eq_some_iff.1 here
    rw [← mine]
    exact List.set_getElem_self inside
  rw [register_set, same, live, nextId, put]
  exact .kept

/-- The step of an attempt is one of the steps of the register. -/
theorem register_stepped {index : Nat} {attempt after : Attempt W} {commons : Commons W}
    (proper : attempt.Proper) (found : runtime.attempts[index]? = some attempt)
    (stepped : attempt.Stepped runtime.commons after commons) :
    runtime.register.Step
      (if attempt.isAgreed then { drawn := [(index, runtime.commons.nextId)] } else {})
      (register { commons, attempts := runtime.attempts.set index after }) := by
  have here := register_standing found
  cases stepped with
  | searched before undrawn still =>
      rw [if_neg (Bool.eq_false_iff.1 undrawn)]
      exact register_kept found (still.trans before.symm) rfl rfl
  | failed young undrawn fails =>
      rw [if_neg (Bool.eq_false_iff.1 undrawn), register_set, Attempt.standing_of_hasFailed fails]
      exact .failed here young
  | @drew _ _ _ _ _ engine id =>
      have numbered : (Attempt.numbered engine).standing = .unlisted runtime.commons.nextId :=
        congrArg Standing.unlisted id
      rw [register_set, numbered]
      exact .drew here
  | staffed =>
      exact register_kept found rfl rfl rfl
  | entered =>
      rw [register_set]
      exact .listed here
  | handed engine =>
      have same : (Attempt.opened { engine }).standing = (Attempt.listed engine).standing :=
        if_pos proper
      exact register_kept found same rfl rfl

theorem note_advances {index : Nat} {attempt : Attempt W}
    (found : runtime.attempts[index]? = some attempt) : runtime.note (.advances index)
      = if attempt.isAgreed then { drawn := [(index, runtime.commons.nextId)] } else {} := by
  simp only [note, draws, closes, found, Option.any_some]
  split <;> rfl

theorem not_agreed_of_lackThread {attempt : Attempt W} {reason : String} {commons : Commons W}
    {ending : Attempt W × Commons W} (lacks : attempt.lackThread reason commons = some ending) :
    attempt.isAgreed = false := by
  cases attempt with
  | numbered => rfl
  | _ => cases lacks

theorem note_acts {index : Nat} {move : Move} {handle : Handle W} {crowd : Crowd W}
    (found : runtime.attempts[index]? = some (.opened handle))
    (made : (handle.crowd runtime.commons).after? move = some crowd) :
    runtime.note (.acts index move)
      = if (handle.crowd runtime.commons).closedBy move crowd then { closed := [handle.engine.id] }
        else {} := by
  simp only [note, draws, closes, found, made, Option.any_some]
  split <;> rfl

theorem register_acts {index : Nat} {move : Move} {attempt after : Attempt W} {commons : Commons W}
    (found : runtime.attempts[index]? = some attempt)
    (acts : attempt.act move runtime.commons = some (after, commons)) :
    runtime.register.Step (runtime.note (.acts index move))
      (register { commons, attempts := runtime.attempts.set index after }) := by
  cases attempt with
  | opened handle =>
      obtain ⟨crowd, made, ⟨⟩⟩ := Option.map_eq_some_iff.1 acts
      have moved := Crowd.moved_of_after? made
      have here := register_standing found
      rw [note_acts found made]
      cases closes : (handle.crowd runtime.commons).closedBy move crowd with
      | true =>
          obtain ⟨isOpen, entry⟩ := moved.closing closes
          obtain ⟨id, entry⟩ := Prod.mk.inj entry
          obtain ⟨marker, live⟩ := Prod.mk.inj entry
          have was : (Attempt.opened handle).standing = .live handle.engine.id := if_pos isOpen
          have closed : (Attempt.opened crowd.handle).standing = .closed handle.engine.id := by
            show (if crowd.host.engine.isOpen then _ else Standing.closed crowd.host.engine.id) = _
            rw [marker, id]
            rfl
          rw [register_set, closed, live]
          exact .closed (here.trans (congrArg some was))
      | false =>
          obtain ⟨id, entry⟩ := Prod.mk.inj (moved.entry closes)
          obtain ⟨marker, live⟩ := Prod.mk.inj entry
          have same : (Attempt.opened crowd.handle).standing
            = (Attempt.opened handle).standing := by
            show (if crowd.host.engine.isOpen then Standing.live crowd.host.engine.id
              else .closed crowd.host.engine.id) = _
            rw [marker, id]
            rfl
          exact register_kept found same live rfl
  | _ => cases acts

theorem proceed_cases {index : Nat}
    {go : Attempt W → Commons W → Option (Attempt W × Commons W)}
    (h : runtime.proceed index go = some next) : ∃ attempt after commons,
      runtime.attempts[index]? = some attempt ∧ go attempt runtime.commons = some (after, commons)
        ∧ next = { commons, attempts := runtime.attempts.set index after } := by
  obtain ⟨attempt, found, h⟩ := Option.bind_eq_some_iff.1 h
  obtain ⟨⟨after, commons⟩, went, ⟨⟩⟩ := Option.bind_eq_some_iff.1 h
  exact ⟨attempt, after, commons, found, went, rfl⟩

/-- All attempts are as they should be. -/
def Proper (runtime : Runtime W) : Prop := ∀ attempt ∈ runtime.attempts, attempt.Proper

/-- Every happening is a step of the register. -/
theorem register_step {happening : Happening W} (proper : runtime.Proper)
    (made : runtime.after? happening = some next) :
    runtime.register.Step (runtime.note happening) next.register := by
  have began (attempt : Attempt W) (young : attempt.standing = .unnumbered) :
      runtime.register.Step {} (runtime.begin attempt).register := by
    unfold begin register
    rw [List.map_append, List.map_singleton, young]
    exact .began
  cases happening with
  | opens options =>
      cases made
      exact began (.asked options) rfl
  | wraps backend options =>
      cases made
      exact began (.loaded options options.framework backend) rfl
  | advances index =>
      obtain ⟨attempt, after, commons, found, step, rfl⟩ := proceed_cases made
      rw [note_advances found]
      exact register_stepped (proper attempt (List.mem_of_getElem? found)) found
        (Attempt.stepped_of_step step)
  | lacksThread index reason =>
      obtain ⟨attempt, after, commons, found, lacks, rfl⟩ := proceed_cases made
      have lacking := register_stepped (proper attempt (List.mem_of_getElem? found)) found
        (Attempt.stepped_of_lackThread lacks)
      rw [not_agreed_of_lackThread lacks] at lacking
      exact lacking
  | acts index move =>
      obtain ⟨attempt, after, commons, found, acts, rfl⟩ := proceed_cases made
      exact register_acts found acts
  | changes catalog world =>
      cases made
      exact .kept

end Runtime

namespace Runtime

variable {first runtime next : Runtime W}

theorem Proper.set (proper : runtime.Proper) {after : Attempt W} (new : after.Proper)
    (commons : Commons W) (index : Nat) :
    Proper { commons, attempts := runtime.attempts.set index after } := by
  intro attempt member
  rcases List.mem_or_eq_of_mem_set member with old | rfl
  · exact proper attempt old
  · exact new

theorem Proper.begin (proper : runtime.Proper) {attempt : Attempt W} (new : attempt.Proper) :
    (runtime.begin attempt).Proper := by
  intro other member
  rcases List.mem_append.1 member with old | last
  · exact proper other old
  · cases List.mem_singleton.1 last
    exact new

theorem Proper.after (proper : runtime.Proper) {happening : Happening W}
    (made : runtime.after? happening = some next) : next.Proper := by
  cases happening with
  | opens =>
      cases made
      exact proper.begin trivial
  | wraps =>
      cases made
      exact proper.begin trivial
  | advances =>
      obtain ⟨attempt, after, commons, found, step, rfl⟩ := proceed_cases made
      exact proper.set ((proper attempt (List.mem_of_getElem? found)).stepped
        (Attempt.stepped_of_step step)) commons _
  | lacksThread =>
      obtain ⟨attempt, after, commons, found, lacks, rfl⟩ := proceed_cases made
      exact proper.set ((proper attempt (List.mem_of_getElem? found)).stepped
        (Attempt.stepped_of_lackThread lacks)) commons _
  | acts =>
      obtain ⟨attempt, after, commons, found, acts, rfl⟩ := proceed_cases made
      exact proper.set ((proper attempt (List.mem_of_getElem? found)).act acts) commons _
  | changes =>
      cases made
      exact proper

theorem Run.proper {annals : Annals} (run : Run first runtime annals) (proper : first.Proper) :
    runtime.Proper := by
  induction run with
  | refl => exact proper
  | step _ _ made ih => exact ih.after made

end Runtime

end Inference
