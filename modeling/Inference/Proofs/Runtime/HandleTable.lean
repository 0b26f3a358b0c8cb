/-
The table of handles in a process with many engines.

Whether a handle is live is recorded twice: by the marker of its engine and by the table.  Over any
run, with any number of attempts to open engines and of users of those that were opened, both say
the same, and both agree with what has happened (`Runtime.isLive_iff`, `Runtime.isLive_handle`): an
identifier is live from the moment its engine enters the table until the closing of its handle
begins, and never again (`Runtime.Run.stays_dead`).
-/
import Inference.Proofs.Engine.Calm
import Inference.Proofs.Engine.Turn
import Inference.Proofs.Runtime.Bookkeeping

namespace Inference

variable {W : Type}

/-! ### How standings change -/

namespace Standing

/-- What can become of a standing in one step. -/
inductive Later : Standing → Standing → Prop where
  | same (standing : Standing) : Later standing standing
  | failed {standing : Standing} (young : standing.isYoung = true) : Later standing .failed
  | drew (id : Nat) : Later .unnumbered (.unlisted id)
  | listed (id : Nat) : Later (.unlisted id) (.live id)
  | closed (id : Nat) : Later (.live id) (.closed id)

/-- The standing of an attempt that has entered the table with this identifier. -/
def Entered (id : Nat) (standing : Standing) : Prop := standing = .live id ∨ standing = .closed id

theorem Entered.later {id : Nat} {standing next : Standing} (h : standing.Entered id)
    (later : standing.Later next) : next.Entered id := by
  cases later with
  | same => exact h
  | failed young => rcases h with rfl | rfl <;> cases young
  | drew => rcases h with h | h <;> cases h
  | listed => rcases h with h | h <;> cases h
  | closed =>
      rcases h with h | h <;> cases h
      exact .inr rfl

theorem Later.of_closed {id : Nat} {next : Standing} (later : Later (.closed id) next) :
    next = .closed id := by
  cases later with
  | same => rfl
  | failed young => cases young

end Standing

theorem Register.Step.later {register next : Register} {more : Annals}
    (step : register.Step more next) {index : Nat} {standing : Standing}
    (here : register.standings[index]? = some standing) :
    ∃ after, next.standings[index]? = some after ∧ standing.Later after := by
  have put {other : Nat} {old new : Standing} (found : register.standings[other]? = some old)
      (later : old.Later new) :
      ∃ after, (register.standings.set other new)[index]? = some after ∧ standing.Later after := by
    rw [Crowd.getElem?_set_of_some found]
    split
    · rename_i same
      subst same
      cases found.symm.trans here
      exact ⟨new, rfl, later⟩
    · exact ⟨standing, here, .same standing⟩
  cases step with
  | kept => exact ⟨standing, here, .same standing⟩
  | began => exact ⟨standing, Crowd.getElem?_append_of_some here, .same standing⟩
  | failed found young => exact put found (.failed young)
  | drew found => exact put found (.drew _)
  | listed found => exact put found (.listed _)
  | closed found => exact put found (.closed _)

/-- The handle once it is given up: the last call on it is about to close it. -/
def Handle.leaving (handle : Handle W) : Handle W :=
  { handle with calls := handle.calls ++ [Call.giveUp], givenUp := true }

namespace Runtime

variable {runtime next last : Runtime W} {annals more : Annals} {index id : Nat}

theorem Run.keeps {P : Standing → Prop} (run : Run runtime last more) (proper : runtime.Proper)
    (keep : ∀ {standing next : Standing}, P standing → standing.Later next → P next)
    {standing : Standing} (here : runtime.register.standings[index]? = some standing)
    (h : P standing) :
    ∃ after, last.register.standings[index]? = some after ∧ P after := by
  induction run with
  | refl => exact ⟨standing, here, h⟩
  | step before _ made ih =>
      obtain ⟨middle, found, holds⟩ := ih
      obtain ⟨after, found', later⟩ := (register_step (before.proper proper) made).later found
      exact ⟨after, found', keep holds later⟩

/-- A process in which nothing has happened. -/
def fresh (world : W) (catalog : Catalog W) : Runtime W := { commons := { world, catalog } }

theorem fresh_proper (world : W) (catalog : Catalog W) : (fresh world catalog).Proper :=
  fun _ absent => absurd absent List.not_mem_nil

theorem Run.sound {world : W} {catalog : Catalog W}
    (run : Run (fresh world catalog) runtime annals) :
    runtime.register.Sound annals := by
  induction run with
  | refl => exact .empty 1
  | step before _ made ih =>
      exact ih.step (register_step (before.proper (fresh_proper world catalog)) made)

/-! ### What is live -/

theorem isOpen_of_standing {handle : Handle W} (h : handle.standing = .live id) :
    handle.engine.isOpen = true ∧ handle.engine.id = id := by
  unfold Handle.standing at h
  split at h
  · rename_i isOpen
    exact ⟨isOpen, Standing.live.inj h⟩
  · cases h

theorem Proper.closed_of_gone (proper : runtime.Proper) {handle : Handle W}
    (found : runtime.attempts[index]? = some (.opened handle)) (gone : handle.isGone = true) :
    handle.engine.isOpen = false := by
  have parting := proper _ (List.mem_of_getElem? found) runtime.commons
  rw [Handle.isGone, Bool.and_eq_true, List.all_eq_true] at gone
  cases isOpen : handle.engine.isOpen with
  | false => rfl
  | true =>
      obtain ⟨caller, about⟩ := parting gone.1 isOpen
      cases gone.2 _ (List.mem_of_getElem? about)

theorem Proper.not_gone (proper : runtime.Proper) {handle : Handle W}
    (found : runtime.attempts[index]? = some (.opened handle))
    (isOpen : handle.engine.isOpen = true) : handle.isGone = false := by
  cases gone : handle.isGone with
  | false => rfl
  | true => cases (proper.closed_of_gone found gone).symm.trans isOpen

/-- An identifier is live if and only if it is that of an attempt which is open. -/
theorem isLive_iff (sound : runtime.register.Sound annals) (proper : runtime.Proper) :
    runtime.isLive id = true
      ↔ ∃ index : Nat, runtime.register.standings[index]? = some (.live id) := by
  unfold isLive
  rw [Bool.and_eq_true, List.contains_iff_mem]
  constructor
  · exact fun listed => (sound.table id).1 listed.1
  · rintro ⟨index, found⟩
    refine ⟨(sound.table id).2 ⟨index, found⟩, ?_⟩
    obtain ⟨attempt, here, stands⟩ := exists_attempt found
    refine List.any_eq_true.2 ⟨attempt, List.mem_of_getElem? here, ?_⟩
    cases attempt with
    | listed engine =>
        cases stands
        have isOpen : engine.isOpen = true := proper _ (List.mem_of_getElem? here)
        simp [Attempt.engine?, isOpen]
    | opened handle =>
        obtain ⟨isOpen, same⟩ := isOpen_of_standing stands
        simp [Attempt.engine?, proper.not_gone here isOpen, isOpen, same]
    | _ => cases stands

/-- For a handle that was handed out, the table tells what its marker does. -/
theorem isLive_handle (sound : runtime.register.Sound annals) (proper : runtime.Proper)
    {handle : Handle W} (found : runtime.attempts[index]? = some (.opened handle)) :
    runtime.isLive handle.engine.id = handle.engine.isOpen := by
  have here : runtime.register.standings[index]? = some handle.standing := register_standing found
  cases isOpen : handle.engine.isOpen with
  | true =>
      rw [Handle.standing, isOpen] at here
      exact (isLive_iff sound proper).2 ⟨index, here⟩
  | false =>
      rw [Handle.standing, isOpen] at here
      rw [← Bool.not_eq_true, isLive_iff sound proper]
      rintro ⟨other, live⟩
      cases sound.distinct here rfl live rfl
      cases here.symm.trans live

theorem count_handle (sound : runtime.register.Sound annals) {handle : Handle W}
    (found : runtime.attempts[index]? = some (.opened handle)) :
    annals.closed.count handle.engine.id = if handle.engine.isOpen then 0 else 1 := by
  have here : runtime.register.standings[index]? = some handle.standing := register_standing found
  cases isOpen : handle.engine.isOpen <;> rw [Handle.standing, isOpen] at here
  · exact sound.counted index _ handle.engine.id here rfl
  · exact sound.counted index _ handle.engine.id here rfl

/-- While nobody is opening an engine, an identifier is live if and only if it is that of a handle
that is still there and has not begun to close. -/
theorem isLive_iff_handle (sound : runtime.register.Sound annals) (proper : runtime.Proper)
    (ended : ∀ attempt ∈ runtime.attempts, attempt.isOver = true) :
    runtime.isLive id = true ↔ ∃ (index : Nat) (handle : Handle W),
      runtime.attempts[index]? = some (.opened handle) ∧ handle.engine.id = id
        ∧ handle.isGone = false ∧ id ∉ annals.closed := by
  constructor
  · intro live
    obtain ⟨index, found⟩ := (isLive_iff sound proper).1 live
    obtain ⟨attempt, here, stands⟩ := exists_attempt found
    cases attempt with
    | opened handle =>
        obtain ⟨isOpen, rfl⟩ := isOpen_of_standing stands
        refine ⟨index, handle, here, rfl, proper.not_gone here isOpen, ?_⟩
        rw [← List.count_eq_zero, count_handle sound here, if_pos isOpen]
    | listed => cases ended _ (List.mem_of_getElem? here)
    | _ => cases stands
  · rintro ⟨index, handle, here, rfl, -, unclosed⟩
    rw [isLive_handle sound proper here]
    have count := count_handle sound here
    rw [List.count_eq_zero.2 unclosed] at count
    cases isOpen : handle.engine.isOpen with
    | true => rfl
    | false => cases isOpen ▸ count

theorem drawn_handle (sound : runtime.register.Sound annals) {handle : Handle W}
    (found : runtime.attempts[index]? = some (.opened handle)) :
    (index, handle.engine.id) ∈ annals.drawn := by
  have own : handle.standing.id? = some handle.engine.id := by
    unfold Handle.standing
    split <;> rfl
  exact sound.owned index _ _ (register_standing found) own

/-! ### Attempts that fail -/

/-- The attempt that a happening is a step of. -/
def attempt? (runtime : Runtime W) : Happening W → Option Nat
  | .opens _ | .wraps .. => some runtime.attempts.length
  | .advances index | .lacksThread index _ => some index
  | .acts .. | .changes .. => none

/-- An attempt changes the table with one of its steps at most, by which it enters the table. -/
theorem live_of_attempt {happening : Happening W} (made : runtime.after? happening = some next)
    (mine : runtime.attempt? happening = some index) :
    next.commons.live = runtime.commons.live
      ∨ ∃ id, next.register.standings[index]? = some (.live id) := by
  have went {attempt after : Attempt W} {commons : Commons W}
      (found : runtime.attempts[index]? = some attempt)
      (stepped : attempt.Stepped runtime.commons after commons) :
      commons.live = runtime.commons.live
        ∨ ∃ id, (register
          { commons, attempts := runtime.attempts.set index after }).standings[index]?
          = some (.live id) := by
    cases stepped with
    | entered engine =>
        refine .inr ⟨engine.id, ?_⟩
        rw [register_set]
        exact (Crowd.getElem?_set_of_some (register_standing found) _ index).trans (if_pos rfl)
    | _ => exact .inl rfl
  cases happening with
  | opens =>
      cases made
      exact .inl rfl
  | wraps =>
      cases made
      exact .inl rfl
  | advances =>
      cases mine
      obtain ⟨attempt, after, commons, found, step, rfl⟩ := proceed_cases made
      exact went found (Attempt.stepped_of_step step)
  | lacksThread =>
      cases mine
      obtain ⟨attempt, after, commons, found, lacks, rfl⟩ := proceed_cases made
      exact went found (Attempt.stepped_of_lackThread lacks)
  | acts => cases mine
  | changes => cases mine

theorem live_of_failing (proper : runtime.Proper) {happening : Happening W}
    (made : runtime.after? happening = some next) (mine : runtime.attempt? happening = some index)
    (run : Run next last more) {attempt : Attempt W} (found : last.attempts[index]? = some attempt)
    (failed : attempt.hasFailed = true) : next.commons.live = runtime.commons.live := by
  rcases live_of_attempt made mine with same | ⟨id, entered⟩
  · exact same
  · obtain ⟨standing, here, still⟩ :=
      run.keeps (proper.after made) Standing.Entered.later entered (.inl rfl)
    cases (register_standing found).symm.trans here
    rw [Standing.Entered, Attempt.standing_of_hasFailed failed] at still
    rcases still with h | h <;> cases h

/-! ### What comes later -/

theorem Run.stays_closed (run : Run runtime last more) (proper : runtime.Proper)
    (here : runtime.register.standings[index]? = some (.closed id)) :
    last.register.standings[index]? = some (.closed id) := by
  have keep : ∀ {standing next : Standing}, standing = .closed id → standing.Later next →
      next = .closed id := by
    rintro standing next rfl later
    exact later.of_closed
  obtain ⟨after, there, rfl⟩ := run.keeps (P := (· = .closed id)) proper keep here rfl
  exact there

/-- An identifier that was live, and is not any more, is never live again. -/
theorem Run.stays_dead {world : W} {catalog : Catalog W} {middle : Runtime W} {between : Annals}
    (before : Run (fresh world catalog) runtime annals) (run : Run runtime middle between)
    (later : Run middle last more) (was : runtime.isLive id = true)
    (dead : middle.isLive id = false) : last.isLive id = false := by
  have proper := before.proper (fresh_proper world catalog)
  have proper' := run.proper proper
  have upTo := before.trans run
  obtain ⟨index, found⟩ := (isLive_iff before.sound proper).1 was
  -- The attempt has entered the table, so now its handle is closed.
  obtain ⟨standing, here, entered⟩ :=
    run.keeps proper Standing.Entered.later found (.inl rfl)
  have closed : standing = .closed id := by
    refine entered.resolve_left ?_
    rintro rfl
    cases dead.symm.trans ((isLive_iff upTo.sound proper').2 ⟨index, here⟩)
  subst closed
  have there := later.stays_closed proper' here
  have sound := (upTo.trans later).sound
  rw [← Bool.not_eq_true, isLive_iff sound (later.proper proper')]
  rintro ⟨other, live⟩
  cases sound.distinct there rfl live rfl
  cases there.symm.trans live

/-- Whoever begins after a handle was handed out draws a greater identifier. -/
theorem Run.id_lt {world : W} {catalog : Catalog W}
    (before : Run (fresh world catalog) runtime annals) (run : Run runtime last more) {other : Nat}
    {handle after : Handle W} (found : runtime.attempts[index]? = some (.opened handle))
    (found' : last.attempts[other]? = some (.opened after))
    (later : runtime.attempts.length ≤ other) : handle.engine.id < after.engine.id := by
  have sound := before.sound
  have sound' := (before.trans run).sound
  have mine := drawn_handle sound found
  have hers := drawn_handle sound' found'
  rcases List.mem_append.1 hers with old | new
  · have began := (sound.below _ old).1
    rw [show runtime.register.standings.length = runtime.attempts.length
      from List.length_map _] at began
    exact absurd began (Nat.not_lt.2 later)
  · exact ((List.pairwise_append.1 sound'.ordered).2.2 _ mine _ new).2

/-! ### Dropping a handle -/

theorem after?_acts {move : Move} {handle : Handle W} {crowd : Crowd W}
    (found : runtime.attempts[index]? = some (.opened handle))
    (made : (handle.crowd runtime.commons).after? move = some crowd) :
    runtime.after? (.acts index move) = some {
      commons := { runtime.commons with world := crowd.host.world, live := crowd.host.live }
      attempts := runtime.attempts.set index (.opened crowd.handle) } := by
  show (runtime.attempts[index]?.bind fun attempt => (attempt.act move runtime.commons).bind _) = _
  rw [found]
  show (((handle.crowd runtime.commons).after? move).map _).bind _ = _
  rw [made]
  rfl

theorem givesUp_cases {dropping : Runtime W} {handle : Handle W}
    (found : runtime.attempts[index]? = some (.opened handle))
    (made : runtime.after? (.acts index .givesUp) = some dropping) :
    dropping.attempts[index]? = some (.opened handle.leaving) := by
  obtain ⟨attempt, after, commons, found', acts, rfl⟩ := proceed_cases made
  cases found.symm.trans found'
  obtain ⟨crowd, gives, ⟨⟩⟩ := Option.map_eq_some_iff.1 acts
  simp only [Crowd.after?] at gives
  split at gives
  · cases gives
    exact (Crowd.getElem?_set_of_some found _ index).trans (if_pos rfl)
  · cases gives

/-- Whoever drops an open handle can go on at once, and closes it by that. -/
theorem drop_closes {dropping : Runtime W} {handle : Handle W}
    (found : runtime.attempts[index]? = some (.opened handle))
    (isOpen : handle.engine.isOpen = true)
    (made : runtime.after? (.acts index .givesUp) = some dropping) :
    ∃ closed, dropping.after? (.acts index (.steps handle.calls.length)) = some closed
      ∧ dropping.closes (.acts index (.steps handle.calls.length)) = [handle.engine.id] := by
  have here := givesUp_cases found made
  let crowd := handle.leaving.crowd dropping.commons
  have last : crowd.calls[handle.calls.length]? = some (.closing true) :=
    List.getElem?_concat_length
  let retired : Host W := { crowd.host with
    engine := { handle.engine with isOpen := false }
    live := dropping.commons.live.filter (· != handle.engine.id) }
  have step : (Call.closing true).step crowd.host = some (.dismissing true, retired) := by
    have marked : crowd.host.engine.isOpen = true := isOpen
    simp only [Call.step, Host.retire, marked, if_true]
    rfl
  have moves := Crowd.after?_steps last step
  refine ⟨_, after?_acts here moves, ?_⟩
  have closes : crowd.closedBy (.steps handle.calls.length)
      (crowd.update handle.calls.length (.dismissing true, retired)) = true :=
    Crowd.closedBy_update rfl last
  have noted := congrArg Annals.closed (note_acts here moves)
  rw [if_pos closes] at noted
  exact noted

/-- Giving up a handle that is open closes it, and nothing else will: when it is gone, its closing
has begun once since. -/
theorem Run.count_dropped {world : W} {catalog : Catalog W} {dropping : Runtime W}
    {handle after : Handle W} (before : Run (fresh world catalog) runtime annals)
    (found : runtime.attempts[index]? = some (.opened handle))
    (isOpen : handle.engine.isOpen = true)
    (made : runtime.after? (.acts index .givesUp) = some dropping) (run : Run dropping last more)
    (found' : last.attempts[index]? = some (.opened after)) (gone : after.isGone = true) :
    more.closed.count handle.engine.id = 1 := by
  have proper := before.proper (fresh_proper world catalog)
  have dropped := Run.step before _ made
  have whole := dropped.trans run
  have closed := (run.proper (proper.after made)).closed_of_gone found' gone
  have here := givesUp_cases found made
  -- The attempt still has the same identifier.
  have same : after.engine.id = handle.engine.id := by
    have live : dropping.register.standings[index]? = some (.live handle.engine.id) :=
      (register_standing here).trans (congrArg some (if_pos isOpen))
    obtain ⟨standing, there, entered⟩ :=
      run.keeps (proper.after made) Standing.Entered.later live (.inl rfl)
    cases (register_standing found').symm.trans there
    rcases entered with h | h
    · exact (isOpen_of_standing h).2
    · have shut : after.standing = .closed after.engine.id := by
        rw [Handle.standing, closed]
        rfl
      exact Standing.closed.inj (shut.symm.trans h)
  have none := count_handle dropped.sound here
  have once := count_handle whole.sound found'
  rw [same, closed] at once
  rw [show handle.leaving.engine = handle.engine from rfl, isOpen] at none
  have split : (annals.append (runtime.note (.acts index .givesUp))).closed.count handle.engine.id
      + more.closed.count handle.engine.id = 1 := List.count_append.symm.trans once
  rw [none] at split
  exact (Nat.zero_add _).symm.trans split

/-! ### The table and the markers -/

/-- In a process in which any number of engines are opened, or fail to be opened at any stage, and
are used, closed and dropped, in any order and overtaking each other in any way:

* identifiers are drawn in increasing order, one by each attempt, and every engine that was opened
  has the one that its attempt has drawn; it is greater than that of every engine whose handle had
  been handed out when the attempt began;
* while nobody is opening an engine, exactly those identifiers are live whose handles are still
  there and have not begun to close; for any handle, at any time, the table tells what the marker
  does;
* the closing of a handle begins once if the handle is closed, and never if it is open, and a handle
  that is gone is closed;
* an identifier that was live and is dead stays dead;
* an attempt that fails leaves the table as it is with every one of its steps;
* whoever gives up an open handle can go on and closes it by that, and when the handle is gone its
  closing has begun once since. -/
theorem table_agrees_with_markers {world : W} {catalog : Catalog W}
    (run : Run (fresh world catalog) runtime annals) :
    annals.drawn.Pairwise (fun early late => early.1 ≠ late.1 ∧ early.2 < late.2)
    ∧ (∀ (index : Nat) (handle : Handle W), runtime.attempts[index]? = some (.opened handle) →
      (index, handle.engine.id) ∈ annals.drawn
      ∧ ∀ last more, Run runtime last more → ∀ (other : Nat) (after : Handle W),
        last.attempts[other]? = some (.opened after) → runtime.attempts.length ≤ other →
          handle.engine.id < after.engine.id)
    ∧ ((∀ attempt ∈ runtime.attempts, attempt.isOver = true) →
      ∀ id, runtime.isLive id = true ↔ ∃ (index : Nat) (handle : Handle W),
        runtime.attempts[index]? = some (.opened handle) ∧ handle.engine.id = id
          ∧ handle.isGone = false ∧ id ∉ annals.closed)
    ∧ (∀ (index : Nat) (handle : Handle W), runtime.attempts[index]? = some (.opened handle) →
      runtime.isLive handle.engine.id = handle.engine.isOpen
      ∧ annals.closed.count handle.engine.id = (if handle.engine.isOpen then 0 else 1)
      ∧ (handle.isGone = true → handle.engine.isOpen = false))
    ∧ (∀ middle between last more, Run runtime middle between → Run middle last more →
      ∀ id, runtime.isLive id = true → middle.isLive id = false → last.isLive id = false)
    ∧ (∀ (happening : Happening W) next (index : Nat) last more,
      runtime.after? happening = some next → runtime.attempt? happening = some index →
        Run next last more → ∀ attempt, last.attempts[index]? = some attempt →
          attempt.hasFailed = true → next.commons.live = runtime.commons.live)
    ∧ (∀ (index : Nat) (handle : Handle W) dropping,
      runtime.attempts[index]? = some (.opened handle) → handle.engine.isOpen = true →
        runtime.after? (.acts index .givesUp) = some dropping →
          (∃ closed, dropping.after? (.acts index (.steps handle.calls.length)) = some closed
            ∧ dropping.closes (.acts index (.steps handle.calls.length)) = [handle.engine.id])
          ∧ ∀ last more, Run dropping last more → ∀ after : Handle W,
            last.attempts[index]? = some (.opened after) → after.isGone = true →
              more.closed.count handle.engine.id = 1) := by
  have sound := run.sound
  have proper := run.proper (fresh_proper world catalog)
  refine ⟨sound.ordered, ?_, ?_, ?_, ?_, ?_, ?_⟩
  · exact fun index handle found => ⟨drawn_handle sound found,
      fun last more later other after found' beyond => run.id_lt later found found' beyond⟩
  · exact fun ended id => isLive_iff_handle sound proper ended
  · exact fun index handle found => ⟨isLive_handle sound proper found, count_handle sound found,
      proper.closed_of_gone found⟩
  · exact fun middle between last more later after id was dead =>
      run.stays_dead later after was dead
  · intro happening next index last more made mine later attempt found failed
    exact live_of_failing proper made mine later found failed
  · intro index handle dropping found isOpen made
    exact ⟨drop_closes found isOpen made, fun last more later after found' gone =>
      run.count_dropped found isOpen made later found' gone⟩

/-! ### Four attempts -/

/-- The handle that an attempt has handed out. -/
def handle? (runtime : Runtime W) (index : Nat) : Option (Handle W) :=
  match runtime.attempts[index]? with
  | some (.opened handle) => some handle
  | _ => none

theorem opened_of_handle? {handle : Handle W} (h : runtime.handle? index = some handle) :
    runtime.attempts[index]? = some (.opened handle) := by
  unfold handle? at h
  split at h
  · rename_i found
    cases h
    exact found
  · cases h

/-- A process in which the model `a` is registered. -/
def echoing : Runtime Unit := fresh () { models := [("a", CustomModel.echoByte)] }

/-- Four attempts: the first opens the model `a`, the second gets no thread for its worker, the
third finds no model, and the fourth opens an engine again.  Then the first handle is closed. -/
def fourAttempts : List (Happening Unit) :=
  .opens { models := ["a"], framework := .custom } :: List.replicate 7 (.advances 0)
    ++ [.wraps CustomModel.echoByte.backend {}, .advances 1, .advances 1,
      .lacksThread 1 "no threads", .opens { models := ["b"], framework := .custom }, .advances 2,
      .advances 2]
    ++ .wraps CustomModel.echoByte.backend {} :: List.replicate 5 (.advances 3)
    ++ [.acts 0 (.begins .close), .acts 0 (.steps 0)]

/-- The drop of the fourth handle goes on until it is over. -/
def lastDrop : List (Happening Unit) :=
  [.acts 3 (.steps 0), .acts 3 (.steps 0), .acts 3 .works, .acts 3 (.steps 0), .acts 3 (.steps 0)]

theorem fourAttempts_reached : ∃ (runtime dropping last : Runtime Unit)
    (first fourth after : Handle Unit),
    echoing.afterAll? fourAttempts = some runtime
      ∧ (runtime.after? (.acts 3 .givesUp)) = some dropping
      ∧ dropping.afterAll? lastDrop = some last
      ∧ (∀ attempt ∈ runtime.attempts, attempt.isOver = true)
      ∧ runtime.handle? 0 = some first ∧ first.engine.id = 1 ∧ first.engine.isOpen = false
      ∧ runtime.handle? 3 = some fourth ∧ fourth.engine.id = 3 ∧ fourth.engine.isOpen = true
      ∧ last.handle? 3 = some after ∧ after.isGone = true := by
  have run : ((echoing.afterAll? fourAttempts).bind fun runtime =>
      (runtime.after? (.acts 3 .givesUp)).bind fun dropping => (dropping.afterAll? lastDrop).map
        fun last => (runtime.attempts.all Attempt.isOver,
          (runtime.handle? 0).map fun handle => (handle.engine.id, handle.engine.isOpen),
          (runtime.handle? 3).map fun handle => (handle.engine.id, handle.engine.isOpen),
          (last.handle? 3).map Handle.isGone))
      = some (true, some (1, false), some (3, true), some true) := by
    decide +kernel
  obtain ⟨runtime, reached, run⟩ := Option.bind_eq_some_iff.1 run
  obtain ⟨dropping, gives, run⟩ := Option.bind_eq_some_iff.1 run
  obtain ⟨last, drops, seen⟩ := Option.map_eq_some_iff.1 run
  obtain ⟨ended, seen⟩ := Prod.mk.inj seen
  obtain ⟨first, seen⟩ := Prod.mk.inj seen
  obtain ⟨fourth, gone⟩ := Prod.mk.inj seen
  obtain ⟨first, found, mine⟩ := Option.map_eq_some_iff.1 first
  obtain ⟨fourth, found', hers⟩ := Option.map_eq_some_iff.1 fourth
  obtain ⟨after, left, gone⟩ := Option.map_eq_some_iff.1 gone
  obtain ⟨id, closed⟩ := Prod.mk.inj mine
  obtain ⟨id', isOpen⟩ := Prod.mk.inj hers
  exact ⟨runtime, dropping, last, first, fourth, after, reached, gives, drops,
    List.all_eq_true.1 ended, found, id, closed, found', id', isOpen, left, gone⟩

/-- The first handle is dead and was closed once; the fourth is live, was never closed, and has been
closed once when its drop is over. -/
theorem fourth_handle_live_until_dropped : ∃ (runtime dropping last : Runtime Unit)
    (annals more : Annals), Run echoing runtime annals
      ∧ runtime.after? (.acts 3 .givesUp) = some dropping ∧ Run dropping last more
      ∧ (0, 1) ∈ annals.drawn ∧ (3, 3) ∈ annals.drawn
      ∧ runtime.isLive 1 = false ∧ annals.closed.count 1 = 1
      ∧ runtime.isLive 3 = true ∧ 3 ∉ annals.closed ∧ more.closed.count 3 = 1 := by
  obtain ⟨runtime, dropping, last, first, fourth, after, reached, gives, drops, ended, found, id,
    closed, found', id', isOpen, left, gone⟩ := fourAttempts_reached
  obtain ⟨annals, run⟩ := exists_run_of_afterAll? reached
  obtain ⟨more, later⟩ := exists_run_of_afterAll? drops
  obtain ⟨-, drawn, live, handles, -, -, dropped⟩ := table_agrees_with_markers run
  obtain ⟨mine, -⟩ := drawn 0 first (opened_of_handle? found)
  obtain ⟨hers, -⟩ := drawn 3 fourth (opened_of_handle? found')
  obtain ⟨dead, once, -⟩ := handles 0 first (opened_of_handle? found)
  obtain ⟨alive, -, -⟩ := handles 3 fourth (opened_of_handle? found')
  obtain ⟨-, finish⟩ := dropped 3 fourth dropping (opened_of_handle? found') isOpen gives
  have counted := finish last more later after (opened_of_handle? left) gone
  rw [id] at mine dead once
  rw [id'] at hers alive counted
  rw [closed] at dead once
  rw [isOpen] at alive
  obtain ⟨-, -, -, -, -, unclosed⟩ := (live ended 3).1 alive
  exact ⟨runtime, dropping, last, annals, more, run, gives, later, mine, hers, dead, once, alive,
    unclosed, counted⟩

end Runtime

end Inference
