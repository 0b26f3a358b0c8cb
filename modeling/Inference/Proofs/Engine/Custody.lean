/-
Who has the outputs.

The steps of calls and of the worker move outputs about without losing or doubling any.  Here this
is put together for a crowd: every output that a pass has allocated was given back, or is with the
worker, on the desk, or with one of the callers.  `Crowd.Conserved.of_lived` says so of every run,
and `Crowd.Conserved.existing_of_over` what is left of it at the end.
-/
import Mathlib.Data.List.Basic
import Inference.Proofs.Engine.Conservation
import Inference.Proofs.Engine.Twin

namespace Inference

variable {W : Type}

/-! ### One caller among many -/

namespace Crowd

/-- What is collected from everybody is what is collected from one and from the others. -/
theorem flatMap_range_split {α : Type} {count caller : Nat} (inside : caller < count)
    {f g : Nat → List α} (others : ∀ other, other ≠ caller → g other = f other) :
    ∃ rest, ((List.range count).flatMap f).Perm (f caller ++ rest)
      ∧ ((List.range count).flatMap g).Perm (g caller ++ rest) := by
  have order := List.perm_cons_erase (List.mem_range.2 inside)
  have same : ((List.range count).erase caller).flatMap g
      = ((List.range count).erase caller).flatMap f := by
    refine List.flatMap_congr fun other member => others other ?_
    exact (List.nodup_range.mem_erase_iff.1 member).1
  refine ⟨((List.range count).erase caller).flatMap f, order.flatMap_right f, ?_⟩
  rw [← same]
  exact order.flatMap_right g

variable {crowd : Crowd W} {caller : Nat}

theorem keptBy_of_found {call : Call} (found : crowd.calls[caller]? = some call)
    (keeps : crowd.dropped.contains caller = false) : crowd.keptBy caller = call.kept := by
  unfold keptBy
  rw [keeps, found]
  simp

theorem existing_update {call : Call} (found : crowd.calls[caller]? = some call)
    (keeps : crowd.dropped.contains caller = false) (next : Call) (host : Host W) :
    ∃ rest, crowd.existing.Perm (crowd.host.kept ++ call.kept ++ rest)
      ∧ (crowd.update caller (next, host)).existing.Perm (host.kept ++ next.kept ++ rest) := by
  have calls := getElem?_update found (next, host)
  have found' : (crowd.update caller (next, host)).calls[caller]? = some next := by
    rw [calls, if_pos rfl]
  have others : ∀ other, other ≠ caller →
      (crowd.update caller (next, host)).keptBy other = crowd.keptBy other := by
    intro other differ
    unfold keptBy
    rw [calls, if_neg (Ne.symm differ)]
    rfl
  obtain ⟨rest, before, after⟩ :=
    flatMap_range_split (List.getElem?_eq_some_iff.1 found).1 others
  rw [keptBy_of_found found keeps] at before
  rw [keptBy_of_found found' keeps] at after
  refine ⟨rest, ?_, ?_⟩
  · rw [List.append_assoc]
    exact before.append_left _
  · rw [List.append_assoc]
    have length : (crowd.update caller (next, host)).calls.length = crowd.calls.length :=
      List.length_set
    rw [existing, length]
    exact after.append_left _

theorem existing_append (crowd : Crowd W) {call : Call} (empty : call.kept = []) (givenUp : Bool) :
    ({ crowd with calls := crowd.calls ++ [call], givenUp } : Crowd W).existing
      = crowd.existing := by
  unfold existing
  rw [List.length_append, List.length_singleton, List.range_succ, List.flatMap_append]
  have last : ({ crowd with calls := crowd.calls ++ [call], givenUp } : Crowd W).keptBy
      crowd.calls.length = [] := by
    unfold keptBy
    split
    · rfl
    · simp [empty]
  have others : ∀ caller ∈ List.range crowd.calls.length,
      ({ crowd with calls := crowd.calls ++ [call], givenUp } : Crowd W).keptBy caller
        = crowd.keptBy caller := by
    intro caller member
    unfold keptBy
    rw [List.getElem?_append_left (List.mem_range.1 member)]
  rw [List.flatMap_congr others]
  simp [last]

/-- An output that is dropped is no longer with its caller. -/
theorem existing_dropped {output : Frame} (held : crowd.held? caller = some output)
    (host : Host W) :
    ∃ rest, crowd.existing.Perm (crowd.host.kept ++ output.onLease ++ rest)
      ∧ ({ crowd with host, dropped := caller :: crowd.dropped } : Crowd W).existing.Perm
        (host.kept ++ rest) := by
  unfold held? at held
  split at held
  · cases held
  rename_i keeps
  obtain ⟨call, found, given⟩ := Option.bind_eq_some_iff.1 held
  have others : ∀ other, other ≠ caller →
      ({ crowd with host, dropped := caller :: crowd.dropped } : Crowd W).keptBy other
        = crowd.keptBy other := by
    intro other differ
    unfold keptBy
    simp only [List.contains_cons, beq_eq_false_iff_ne.2 differ, Bool.false_or]
  have gone : ({ crowd with host, dropped := caller :: crowd.dropped } : Crowd W).keptBy caller
      = [] := by
    unfold keptBy
    simp
  obtain ⟨rest, before, after⟩ :=
    flatMap_range_split (List.getElem?_eq_some_iff.1 found).1 others
  rw [keptBy_of_found found (by simpa using keeps), Call.kept_of_output given] at before
  rw [gone, List.nil_append] at after
  refine ⟨rest, ?_, after.append_left _⟩
  rw [List.append_assoc]
  exact before.append_left _

end Crowd

/-! ### The balance -/

/-- Where a step balances, the whole balances after it if it did before. -/
theorem Balances.whole {log : W → Returns} {host after : Host W} {made returned back : List Receipt}
    {before remaining others existing existing' : List Frame} {lent : List Receipt}
    (balances : Balances log host after made before remaining back)
    (balance : lent.Perm (returned ++ existing.map Frame.receipt))
    (split : existing.Perm (before ++ others)) (split' : existing'.Perm (remaining ++ others)) :
    (lent ++ made).Perm (returned ++ back ++ existing'.map Frame.receipt) := by
  have split := split.map Frame.receipt
  have split' := split'.map Frame.receipt
  refine List.perm_iff_count.2 ?_
  intro receipt
  have whole := balance.count_eq receipt
  have step := balances.balance.count_eq receipt
  have here := split.count_eq receipt
  have there := split'.count_eq receipt
  simp only [List.map_append, List.count_append] at whole step here there ⊢
  omega

theorem Chronicle.lent_works (chronicle : Chronicle) (crowd next : Crowd W) :
    (chronicle.after crowd next .works).lent = chronicle.lent ++ crowd.host.makes := by
  show ((chronicle.ran ++ crowd.host.pass?.toList).filter _).map _ = _
  rw [List.filter_append, List.map_append]
  rfl

/-- Every output that was made was given back once, or exists once. -/
structure Crowd.Conserved (log : W → Returns) (chronicle : Chronicle) (crowd : Crowd W)
    (returned : List Receipt) : Prop where
  told : chronicle.Tells crowd
  logs : crowd.host.engine.backend.Logs log
  /-- What was given back is what is on the record. -/
  recorded : crowd.host.logged log = returned.map (·.regions)
  /-- Only callers that were given an output have dropped one. -/
  through : ∀ caller, crowd.dropped.contains caller = true → (crowd.given? caller).isSome = true
  balance : chronicle.lent.Perm (returned ++ crowd.existing.map Frame.receipt)

namespace Crowd

theorem given?_append {crowd : Crowd W} {caller : Nat} {call : Call} {givenUp : Bool}
    (given : (crowd.given? caller).isSome = true) :
    (({ crowd with calls := crowd.calls ++ [call], givenUp } : Crowd W).given? caller).isSome
      = true := by
  obtain ⟨output, given⟩ := Option.isSome_iff_exists.1 given
  obtain ⟨old, found, given⟩ := Option.bind_eq_some_iff.1 given
  unfold given?
  rw [getElem?_append_of_some found]
  exact Option.isSome_of_eq_some given

end Crowd

namespace Crowd.Conserved

variable {log : W → Returns} {chronicle : Chronicle} {crowd next : Crowd W}
  {returned : List Receipt}

theorem keeps (h : crowd.Conserved log chronicle returned) {caller : Nat} {call after : Call}
    {host : Host W} (found : crowd.calls[caller]? = some call)
    (step : CallStep call crowd.host after host) : crowd.dropped.contains caller = false := by
  by_cases dropped : crowd.dropped.contains caller = true
  · have given := h.through caller dropped
    rw [Crowd.given?, found] at given
    have active := step.not_over
    cases call with
    | ended => cases active
    | _ => cases given
  · simpa using dropped

theorem called {caller : Nat} {call after : Call} {host : Host W} {chronicle' : Chronicle}
    (h : crowd.Conserved log chronicle returned) (found : crowd.calls[caller]? = some call)
    (step : CallStep call crowd.host after host)
    (told : chronicle'.Tells (crowd.update caller (after, host)))
    (lent : chronicle'.lent = chronicle.lent) :
    ∃ back, (crowd.update caller (after, host)).Conserved log chronicle' (returned ++ back) := by
  have bare : ∀ output answer target, call = .dropping output answer target →
      (Call.ended answer (some target)).output? = none := by
    rintro output answer target rfl
    exact h.told.bare caller output answer target found
  have keeps := h.keeps found step
  obtain ⟨back, balances⟩ := step.balanced h.logs h.told.orderly.ordered bare
  obtain ⟨rest, split, split'⟩ := existing_update found keeps after host
  have whole := balances.whole h.balance split split'
  refine ⟨back, told, ?_, ?_, ?_, ?_⟩
  · show host.engine.backend.Logs log
    rw [step.backend]
    exact h.logs
  · show host.logged log = _
    rw [balances.logged, h.recorded, List.map_append]
  · intro other dropped
    have given := h.through other dropped
    have differ : caller ≠ other := by
      intro same
      rw [same] at keeps
      cases keeps.symm.trans dropped
    rw [Crowd.given?, getElem?_update found, if_neg differ]
    exact given
  · rw [lent]
    rwa [List.append_nil] at whole

theorem appended {call : Call} {givenUp : Bool} {chronicle' : Chronicle}
    (h : crowd.Conserved log chronicle returned) (empty : call.kept = [])
    (told : chronicle'.Tells { crowd with calls := crowd.calls ++ [call], givenUp })
    (lent : chronicle'.lent = chronicle.lent) :
    Conserved log chronicle' { crowd with calls := crowd.calls ++ [call], givenUp } returned := by
  refine ⟨told, h.logs, h.recorded, ?_, ?_⟩
  · intro caller dropped
    exact given?_append (h.through caller dropped)
  · rw [existing_append crowd empty, lent]
    exact h.balance

theorem dropped {caller : Nat} {output : Frame} {crash : Option String} {host : Host W}
    (h : crowd.Conserved log chronicle returned) (held : crowd.held? caller = some output)
    (drops : crowd.host.Drops [output] crash host)
    (told : chronicle.Tells { crowd with host, dropped := caller :: crowd.dropped }) :
    Conserved log chronicle { crowd with host, dropped := caller :: crowd.dropped }
      (returned ++ output.onLease.map Frame.receipt) := by
  have logged := drops.logged h.logs (Nat.le_refl 1)
  rw [List.flatMap_cons, List.flatMap_nil, List.append_nil] at logged
  have kept : host.kept = crowd.host.kept := drops.beside.kept
  have balances : Balances log crowd.host host [] (crowd.host.kept ++ output.onLease) host.kept _ :=
    .back logged (by rw [kept]; exact List.perm_append_comm)
  obtain ⟨rest, split, split'⟩ := existing_dropped held host
  have whole := balances.whole h.balance split split'
  refine ⟨told, ?_, ?_, ?_, ?_⟩
  · show host.engine.backend.Logs log
    rw [drops.beside.backend]
    exact h.logs
  · show host.logged log = _
    rw [balances.logged, h.recorded, List.map_append]
  · intro other gone
    change (caller :: crowd.dropped).contains other = true at gone
    rw [List.contains_cons, Bool.or_eq_true, beq_iff_eq] at gone
    rcases gone with rfl | gone
    · unfold held? at held
      split at held
      · cases held
      · exact Option.isSome_of_eq_some held
    · exact h.through other gone
  · rwa [List.append_nil] at whole

/-- No move loses an output, or gives one back twice. -/
theorem moved {move : Move} (h : crowd.Conserved log chronicle returned)
    (moved : crowd.Moved move next) :
    ∃ back, next.Conserved log (chronicle.after crowd next move) (returned ++ back) := by
  have told := h.told.moved moved
  cases moved with
  | began operation =>
      have empty : operation.call.kept = [] := by
        rcases operation.call_cases with ⟨_, same⟩ | ⟨_, same⟩ | same <;> rw [same] <;> rfl
      exact ⟨[], returned.append_nil.symm ▸ h.appended empty told rfl⟩
  | called mover found step =>
      refine h.called found step told ?_
      rw [Chronicle.after_called mover]
      rfl
  | @worked host step =>
      obtain ⟨back, balances⟩ := step.balanced h.logs h.told.orderly.ordered
      refine ⟨back, told, ?_, ?_, h.through, ?_⟩
      · show host.engine.backend.Logs log
        rw [step.backend]
        exact h.logs
      · show host.logged log = _
        rw [balances.logged, h.recorded, List.map_append]
      · rw [Chronicle.lent_works]
        exact balances.whole h.balance (.refl _) (.refl _)
  | dropped held drops => exact ⟨_, h.dropped held drops told⟩
  | gaveUp => exact ⟨[], returned.append_nil.symm ▸ h.appended rfl told rfl⟩

/-- All that was ever made was given back or exists, in every crowd that can be reached. -/
theorem of_lived {backend : Backend W} {id : Nat} {options : Options} {framework : Framework}
    {world : W} {live : List Nat} {host : Host W} (logs : backend.Logs log) (empty : log world = [])
    (opened : backend.openAs id options framework world live = .opened host)
    (lived : Lived { host } crowd chronicle) :
    ∃ returned, crowd.Conserved log chronicle returned := by
  have fresh := Backend.fresh_of_opened opened
  refine @Lived.keeps W _ _ _
    (fun crowd chronicle => ∃ returned, crowd.Conserved log chronicle returned)
    lived ?_ fun ⟨_, conserved⟩ moved => (conserved.moved moved).elim fun _ after => ⟨_, after⟩
  obtain ⟨_, _, _, desk⟩ := fresh.desk
  have nothing : host.kept = [] := by
    unfold Host.kept
    rw [fresh.worker, desk]
    rfl
  refine ⟨[], .of_fresh fresh, ?_, ?_, ?_, ?_⟩
  · show host.engine.backend.Logs log
    rw [fresh.backend]
    exact logs
  · exact (logs.opened opened).trans empty
  · intro caller dropped
    cases dropped
  · show [].Perm ((host.kept ++ []).map Frame.receipt)
    rw [nothing]
    exact .refl _

/-- When the handle is given up, all calls are over and their outputs are dropped, no output
exists. -/
theorem existing_of_over (winding : crowd.Winding) (givenUp : crowd.givenUp = true)
    (ended : ∀ call ∈ crowd.calls, call.isOver = true)
    (dropped : ∀ caller, crowd.held? caller = none) :
    crowd.existing = [] := by
  have kept : crowd.host.kept = [] := by
    rcases winding.ended givenUp with ⟨caller, call, found, last⟩ | ⟨-, gone, entries⟩
    · rw [Call.not_last_of_over (ended call (List.mem_of_getElem? found))] at last
      cases last
    · rw [Host.kept, Desk.lentOut_of_empty entries, List.append_nil]
      cases worker : crowd.host.engine.worker with
      | returning => rw [worker] at gone; cases gone
      | _ => rfl
  have nobody : ∀ caller ∈ List.range crowd.calls.length, crowd.keptBy caller = [] := by
    intro caller member
    have nothing := dropped caller
    unfold held? at nothing
    unfold keptBy
    split at nothing
    · rename_i drops
      rw [if_pos drops]
    · rename_i keeps
      rw [if_neg keeps]
      cases found : crowd.calls[caller]? with
      | none => rfl
      | some call =>
          rw [found] at nothing
          have done := ended call (List.mem_of_getElem? found)
          cases call with
          | ended answer target =>
              rw [Option.toList_some, List.flatMap_singleton]
              exact Call.kept_of_bare nothing
          | _ => cases done
  rw [existing, kept, List.flatMap_eq_nil_iff.2 nobody]
  rfl

end Crowd.Conserved

/-! ### Exactly once -/

theorem Chronicle.Tells.lent_tickets {chronicle : Chronicle} {crowd : Crowd W}
    (h : chronicle.Tells crowd) : (chronicle.lent.map (·.ticket)).Nodup := by
  have tickets : chronicle.lent.map (·.ticket)
      = (chronicle.ran.filter (·.lending)).map (·.ticket) := by
    unfold Chronicle.lent
    rw [List.map_map]
    rfl
  rw [tickets]
  exact h.follows.passes.sublist (List.filter_sublist.map _)

namespace Crowd

/-- Under every schedule, and whatever the backend does: the passes that have allocated their
outputs are as many as the calls by which the backend was given one back and the frames on lease
together.
Each such call gives back the whole output of one pass, no output is given back twice, and none of
which there is still a frame.  Once the handle is given up, all calls are over and all outputs that
were returned are dropped, every output has been given back exactly once. -/
theorem outputs_returned_once {backend : Backend W} {id : Nat} {options : Options}
    {framework : Framework} {world : W} {live : List Nat} {host : Host W}
    (opened : backend.openAs id options framework world live = .opened host) {crowd : Crowd W}
    {chronicle : Chronicle} (lived : Lived { host } crowd chronicle) :
    (∃ returns, crowd.Returned host chronicle returns)
      ∧ ∀ returns, crowd.Returned host chronicle returns →
        chronicle.lent.length = returns.length + crowd.existing.length
          ∧ ∃ returned : List Receipt, returned.map (·.regions) = returns
            ∧ chronicle.lent.Perm (returned ++ crowd.existing.map Frame.receipt)
            ∧ ((returned ++ crowd.existing.map Frame.receipt).map (·.ticket)).Nodup
            ∧ (crowd.givenUp = true → (∀ call ∈ crowd.calls, call.isOver = true) →
              (∀ caller, crowd.held? caller = none) → chronicle.lent.Perm returned) := by
  refine ⟨lived.returned, ?_⟩
  intro returns audited
  obtain ⟨returned, conserved⟩ := Conserved.of_lived backend.audited_logs rfl
    (Backend.openAs_audited backend world [] opened) audited
  have recorded : returns = returned.map (·.regions) := conserved.recorded
  have balance : chronicle.lent.Perm (returned ++ crowd.existing.map Frame.receipt) :=
    conserved.balance
  refine ⟨?_, returned, recorded.symm, balance, ?_, ?_⟩
  · rw [recorded, balance.length_eq, List.length_append, List.length_map, List.length_map]
  · exact (balance.map _).nodup_iff.1 conserved.told.lent_tickets
  · intro givenUp ended dropped
    have winding := Winding.of_reachable (Backend.fresh_of_opened opened) lived.reachable
    rw [Conserved.existing_of_over winding givenUp ended dropped, List.map_nil, List.append_nil]
      at balance
    exact balance

end Crowd

namespace CustomModel

/-- The model that answers with the byte it is given, in regions of its own. -/
def lendingByte : Backend Unit := { echoByte.backend with allocates := fun _ => true }

/-- An engine on that model. -/
def lendingEngine : Host Unit where
  engine := {
    id := 0, framework := .custom, accelerator := .any, backend := lendingByte
    desk := { input := echoByte.input, output := echoByte.output, timeout := 0 } }
  world := ()
  live := [0]

/-- After an impatient caller and a patient one that drops its output, the handle is given up. -/
def windingUp : List Move :=
  impatience ++ [.drops 1, .givesUp, .steps 2, .steps 2, .works, .steps 2, .steps 2]

/-- Whether all is over and nobody has an output any more. -/
def allThrough (crowd : Crowd Unit) : Bool :=
  crowd.givenUp && crowd.calls.all Call.isOver
    && (List.range crowd.calls.length).all fun caller => (crowd.held? caller).isNone

theorem windingUp_reached : ∃ (crowd : Crowd Unit) (chronicle : Chronicle), allThrough crowd = true
    ∧ Crowd.Lived { host := lendingEngine } crowd chronicle
    ∧ crowd.Returned lendingEngine chronicle [[[7]], [[9]]] := by
  have run : (Crowd.afterAll? { host := lendingEngine } windingUp).map allThrough = some true := by
    decide +kernel
  have audit : (Crowd.afterAll? (Crowd.withRecord { host := lendingEngine } []) windingUp).map
      (fun crowd => crowd.host.world.2) = some [[[7]], [[9]]] := by
    decide +kernel
  obtain ⟨crowd, reached, through⟩ := Option.map_eq_some_iff.1 run
  obtain ⟨chronicle, returns, lived, returned, audited⟩ :=
    Crowd.Lived.afterAll .start .start reached
  rw [audited] at audit
  cases audit
  exact ⟨crowd, chronicle, through, lived, returned⟩

/-- The byte of the impatient caller goes back as well as that of the patient one. -/
theorem both_bytes_returned : ∃ (crowd : Crowd Unit) (chronicle : Chronicle),
    Crowd.Lived { host := lendingEngine } crowd chronicle
      ∧ crowd.Returned lendingEngine chronicle [[[7]], [[9]]] ∧ chronicle.lent.length = 2
      ∧ (chronicle.lent.map (·.regions)).Perm [[[7]], [[9]]] := by
  obtain ⟨crowd, chronicle, through, lived, audited⟩ := windingUp_reached
  have opened : lendingByte.openAs 0 {} .custom () [] = .opened lendingEngine := rfl
  obtain ⟨-, every⟩ := Crowd.outputs_returned_once opened lived
  obtain ⟨-, returned, recorded, -, -, once⟩ := every _ audited
  unfold allThrough at through
  simp only [Bool.and_eq_true, List.all_eq_true, List.mem_range] at through
  obtain ⟨⟨givenUp, ended⟩, nobody⟩ := through
  have dropped : ∀ caller, crowd.held? caller = none := by
    intro caller
    by_cases inside : caller < crowd.calls.length
    · exact Option.isNone_iff_eq_none.1 (nobody caller inside)
    · unfold Crowd.held?
      rw [List.getElem?_eq_none (by omega)]
      simp
  have all := (once givenUp ended dropped).map (·.regions)
  rw [recorded] at all
  refine ⟨crowd, chronicle, lived, audited, ?_, all⟩
  simpa using all.length_eq

end CustomModel

end Inference
