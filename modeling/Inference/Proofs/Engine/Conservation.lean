/-
Outputs go back exactly once.

A backend that allocates its outputs wants every one of them back.  Between the pass that made it
and the moment it is given back an output is in one place at a time: the worker has it, it is
outstanding, or a caller holds it.  So the outputs that were made are those that were given back
and those that still exist, and each of them is counted once.  What a step does to the count is
`CallStep.balanced` and `WorkerStep.balanced`.

What is made is read off the chronicle, what is given back off the record of an audited
backend.  Outputs are told apart by the ticket of their pass.
-/
import Inference.Proofs.Engine.Audit
import Inference.Proofs.Engine.Closing
import Inference.Proofs.Engine.Handover

namespace Inference

variable {W : Type}

/-- An output of a backend: the ticket of the pass it comes from, and its regions. -/
structure Receipt where
  ticket : Nat
  regions : List Bytes
  deriving DecidableEq

/-- The receipt of a frame on lease. -/
def Frame.receipt (frame : Frame) : Receipt :=
  { ticket := (frame.lease.map (·.pass)).getD 0, regions := frame.present }

/-- The receipt of what a pass left behind. -/
def Ran.receipt (ran : Ran) : Receipt := { ticket := ran.ticket, regions := ran.pass.outputs }

/-- The outputs that the backend has allocated, of good passes and of failed ones. -/
def Chronicle.lent (chronicle : Chronicle) : List Receipt :=
  (chronicle.ran.filter (·.lending)).map Ran.receipt

/-! ### Frames that exist -/

/-- The output on lease that the worker has in its hands. -/
def Worker.kept : Worker → List Frame
  | returning _ produced => leasedIn produced
  | _ => []

/-- The outputs on lease that are not with a caller yet. -/
def Host.kept (host : Host W) : List Frame := host.engine.worker.kept ++ host.desk.lentOut

/-- The output on lease that a call holds, be it to copy it or because it has returned it. -/
def Call.kept : Call → List Frame
  | dropping output _ _ => output.onLease
  | call => call.output?.toList.flatMap Frame.onLease

namespace Crowd

/-- The output on lease that is with a caller, unless it has dropped it. -/
def keptBy (crowd : Crowd W) (caller : Nat) : List Frame :=
  if crowd.dropped.contains caller then [] else crowd.calls[caller]?.toList.flatMap Call.kept

/-- All frames on lease. -/
def existing (crowd : Crowd W) : List Frame :=
  crowd.host.kept ++ (List.range crowd.calls.length).flatMap crowd.keptBy

end Crowd

/-- A step moves frames on lease about: with the outputs that were made, they are those that are
given back and those that remain. -/
structure Balances (log : W → Returns) (host after : Host W) (made : List Receipt)
    (before remaining : List Frame) (returned : List Receipt) : Prop where
  logged : after.logged log = host.logged log ++ returned.map (·.regions)
  balance : (made ++ before.map Frame.receipt).Perm (returned ++ remaining.map Frame.receipt)

namespace Balances

variable {log : W → Returns} {host after : Host W} {before remaining : List Frame}

theorem still (logged : after.logged log = host.logged log)
    (same : before.map Frame.receipt = remaining.map Frame.receipt) :
    Balances log host after [] before remaining [] where
  logged := by simp [logged]
  balance := .of_eq same

theorem back {frames : List Frame}
    (logged : after.logged log = host.logged log ++ frames.map Frame.present)
    (balance : before.Perm (frames ++ remaining)) :
    Balances log host after [] before remaining (frames.map Frame.receipt) where
  logged := by
    rw [logged, List.map_map]
    rfl
  balance := by
    rw [← List.map_append]
    exact balance.map _

end Balances

namespace Host

variable {host after : Host W}

theorem Alike.kept (alike : host.Alike after) : after.kept = host.kept := by
  obtain ⟨_, _, _, _, desk⟩ := alike.desk
  unfold Host.kept Desk.lentOut
  rw [desk, alike.worker]

theorem Beside.kept (beside : host.Beside after) : after.kept = host.kept := beside.alike.kept

end Host

/-! ### Calls -/

namespace Call

theorem kept_of_bare {answer : Outcome Fault Reply} {target : Option Frame}
    (bare : (ended answer target).output? = none) : (ended answer target).kept = [] := by
  show (ended answer target).output?.toList.flatMap Frame.onLease = []
  rw [bare]
  rfl

theorem kept_onward {call : Call} {task : Option Task} (onward : call.Onward task) :
    call.kept = [] := by
  cases onward with
  | checking => rfl
  | entering => rfl
  | ended bare => exact kept_of_bare bare

theorem kept_of_output {call : Call} {output : Frame} (given : call.output? = some output) :
    call.kept = output.onLease := by
  cases call with
  | ended answer target =>
      show (ended answer target).output?.toList.flatMap Frame.onLease = output.onLease
      rw [given]
      simp
  | _ => cases given

/-- A caller that picks up an outcome has the output of it. -/
theorem kept_receive (task : Task) (result : Except Fault Frame) :
    (receive task result).kept.map Frame.receipt = (leasedIn result).map Frame.receipt := by
  cases result with
  | error fault => rfl
  | ok frame =>
      have same (owner : Owner) :
          ({ frame with owner } : Frame).onLease.map Frame.receipt
            = frame.onLease.map Frame.receipt := by
        unfold Frame.onLease
        split <;> rfl
      have handed :
          (if frame.owner = .engine then { frame with owner := .caller } else frame).onLease.map
            Frame.receipt = frame.onLease.map Frame.receipt := by
        split
        · exact same .caller
        · rfl
      simp only [receive, hand]
      split
      · exact handed
      · split
        · simpa [kept, output?, leasedIn] using handed
        · simpa [kept, output?, leasedIn] using handed

end Call

namespace Desk

theorem lentOut_of_tidy {desk : Desk} (tidy : desk.Tidy) :
    desk.lentOut.length ≤ 1 ∧ desk.lentOut.flatMap Frame.onLease = desk.lentOut := by
  obtain ⟨mode, request, ticket, deserted, response, ⟨entries, last⟩⟩ := desk
  cases tidy with
  | tracked leased =>
      refine ⟨Nat.le_refl 1, ?_⟩
      simp [lentOut, Frame.onLease_of_ne_none leased]
  | _ => exact ⟨Nat.zero_le 1, rfl⟩

theorem lentOut_of_empty {desk : Desk} (h : desk.outstanding.entries = []) : desk.lentOut = [] := by
  unfold lentOut
  rw [h]
  rfl

end Desk

namespace Host

variable {log : W → Returns} {host middle dropped after : Host W}

theorem dropped_logged (logs : host.engine.backend.Logs log) (tidy : host.desk.Tidy) {desk : Desk}
    {crash : Option String} (drops : (host.withDesk desk).Drops host.desk.lentOut crash dropped) :
    dropped.logged log = host.logged log ++ host.desk.lentOut.map Frame.present := by
  obtain ⟨few, leased⟩ := Desk.lentOut_of_tidy tidy
  have logs' : (host.withDesk desk).engine.backend.Logs log := logs
  have logged := drops.logged logs' few
  rw [leased] at logged
  exact logged

/-- What is left of the last request is given back before the next one is submitted. -/
theorem cleared_logged (logs : host.engine.backend.Logs log)
    (ordered : Ordered host.desk host.engine.worker) (tuned : host.Tuned middle)
    (idle : middle.desk.mode = .idle) {crash : Option String}
    (drops : middle.cleared.Drops middle.stale crash dropped) :
    dropped.logged log = host.logged log ++ host.kept.map Frame.present ∧ dropped.kept = [] := by
  obtain ⟨-, parked, desk⟩ := ordered.cleared tuned idle drops
  have before := ordered.alike tuned.alike
  have tidy : Desk.Tidy { middle.desk with mode := .running } := before.tidy
  have stale : middle.stale = middle.desk.lentOut := (Desk.forget_of_tidy tidy).1
  have kept : host.kept = middle.desk.lentOut := by
    rw [← tuned.alike.kept]
    unfold Host.kept
    rw [(before.idle idle).1]
    rfl
  constructor
  · rw [stale] at drops
    have logs' : middle.engine.backend.Logs log := by
      rw [tuned.alike.backend]
      exact logs
    rw [dropped_logged logs' before.tidy drops, tuned.logged logs, kept]
  · unfold Host.kept
    rw [parked, desk]
    rfl

end Host

namespace Balances

variable {log : W → Returns} {host middle dropped after : Host W}

theorem withCall {call next : Call} {made returned : List Receipt}
    (h : Balances log host after made host.kept after.kept returned) (own : call.kept = [])
    (others : next.kept = []) :
    Balances log host after made (host.kept ++ call.kept) (after.kept ++ next.kept) returned := by
  rw [own, others, List.append_nil, List.append_nil]
  exact h

/-- All that has waited for a caller is given back when the next request is submitted. -/
theorem forgotten (logs : host.engine.backend.Logs log)
    (ordered : Ordered host.desk host.engine.worker) (tuned : host.Tuned middle)
    (idle : middle.desk.mode = .idle) {crash : Option String}
    (drops : middle.cleared.Drops middle.stale crash dropped) :
    Balances log host dropped [] host.kept dropped.kept (host.kept.map Frame.receipt) := by
  obtain ⟨logged, empty⟩ := Host.cleared_logged logs ordered tuned idle drops
  refine .back logged ?_
  rw [empty, List.append_nil]

theorem handedBack (logs : host.engine.backend.Logs log) {output : Frame} {crash : Option String}
    (drops : host.Drops [output] crash after) :
    Balances log host after [] (host.kept ++ output.onLease) after.kept
      (output.onLease.map Frame.receipt) := by
  have logged := drops.logged logs (Nat.le_refl 1)
  rw [List.flatMap_cons, List.flatMap_nil, List.append_nil] at logged
  refine .back logged ?_
  rw [drops.beside.kept]
  exact List.perm_append_comm

/-- Whoever holds the engine last gives back what still waits for a caller, and nobody else gives
back anything. -/
theorem left (logs : host.engine.backend.Logs log) (tidy : host.desk.Tidy) {last : Bool}
    {crash : Option String}
    (drops : (host.withDesk (host.desk.clear last).2).Drops (host.desk.clear last).1 crash
      dropped) :
    ∃ returned, Balances log host (dropped.leftBy last crash) [] host.kept
      (dropped.leftBy last crash).kept returned := by
  have logs' : dropped.engine.backend.Logs log := by
    rw [drops.beside.backend]
    exact logs
  have logged := Host.leftBy_logged logs' last crash
  have kept : (dropped.leftBy last crash).kept
      = (host.withDesk (host.desk.clear last).2).kept := by
    rw [(Host.leftBy_alike dropped last crash).kept, drops.beside.kept]
  obtain ⟨-, clear⟩ | ⟨-, clear⟩ := Desk.clear_cases tidy last
  · rw [clear] at drops kept
    cases drops
    refine ⟨[], .still logged ?_⟩
    rw [kept]
    rfl
  · rw [clear] at drops kept
    refine ⟨_, .back (logged.trans (Host.dropped_logged logs tidy drops)) ?_⟩
    rw [kept]
    show (host.engine.worker.kept ++ host.desk.lentOut).Perm
      (host.desk.lentOut ++ (host.engine.worker.kept ++ []))
    rw [List.append_nil]
    exact List.perm_append_comm

end Balances

/-- A step of a call moves outputs about. -/
theorem CallStep.balanced {log : W → Returns} {call next : Call} {host after : Host W}
    (step : CallStep call host next after) (logs : host.engine.backend.Logs log)
    (ordered : Ordered host.desk host.engine.worker)
    (bare : ∀ output answer target, call = .dropping output answer target →
      (Call.ended answer (some target)).output? = none) :
    ∃ returned, Balances log host after [] (host.kept ++ call.kept) (after.kept ++ next.kept)
      returned := by
  have still {after : Host W} {call next : Call} (logged : after.logged log = host.logged log)
      (kept : after.kept = host.kept) (same : call.kept = next.kept) :
      ∃ returned, Balances log host after [] (host.kept ++ call.kept) (after.kept ++ next.kept)
        returned := by
    refine ⟨[], .still logged ?_⟩
    rw [kept, same]
  cases step with
  | checked onward => exact still rfl rfl (Call.kept_onward onward).symm
  | ran onward touched =>
      exact still (touched.logged logs) touched.alike.kept (Call.kept_onward onward).symm
  | submitted tuned _ idle _ _ drops =>
      obtain ⟨logged, balance⟩ := Balances.forgotten logs ordered tuned idle drops
      exact ⟨_, .withCall ⟨logged, balance⟩ rfl rfl⟩
  | faltered tuned idle drops =>
      obtain ⟨logged, balance⟩ := Balances.forgotten logs ordered tuned idle drops
      exact ⟨_, .withCall ⟨logged, balance⟩ rfl rfl⟩
  | lockedOut => exact still rfl rfl rfl
  | @received task _ _ _ _ result present collected =>
      obtain ⟨blank, lentOut⟩ := Desk.collect_of_tidy ordered.tidy collected
      refine ⟨[], .still rfl ?_⟩
      rw [List.map_append, List.map_append, Call.kept_receive, blank, Host.kept, lentOut]
      simp [Host.kept, Host.withDesk, Host.desk, Desk.lentOut, Desk.blank, Call.kept, Call.output?]
  | deserted => exact still rfl rfl rfl
  | copied drops =>
      rw [Call.kept_of_bare (bare _ _ _ rfl), List.append_nil]
      exact ⟨_, .handedBack logs drops⟩
  | spoilt drops =>
      have balances := Balances.handedBack logs drops
      rw [← List.append_nil after.kept] at balances
      exact ⟨_, balances⟩
  | retired => exact still rfl rfl rfl
  | refused => exact still rfl rfl rfl
  | inherited => exact still rfl rfl rfl
  | dismissed => exact still rfl rfl rfl
  | parted => exact still rfl rfl rfl
  | cleared drops empty =>
      obtain ⟨returned, balances⟩ := Balances.left logs ordered.tidy drops
      exact ⟨returned, balances.withCall rfl (Call.kept_of_bare empty)⟩

/-! ### The worker -/

/-- What the next step of the worker makes. -/
def Host.makes (host : Host W) : List Receipt :=
  (host.pass?.toList.filter (·.lending)).map Ran.receipt

theorem Frame.receipt_lent (info : Descriptor) (regions : List Bytes) (lease : Lease) :
    (Frame.lent info regions lease).receipt = { ticket := lease.pass, regions } := by
  simp [lent, receipt, present]

theorem leasedIn_produced (info : Descriptor) (regions : List Bytes) :
    leasedIn (Frame.produced info regions) = [] := by
  cases made : Frame.produced info regions with
  | error fault => rfl
  | ok frame =>
      rw [Frame.eq_of_produced made]
      rfl

/-- A pass that ends makes an output, which the worker has then, unless it was given back at
once. -/
theorem PassEnd.balanced {log : W → Returns} {host after : Host W} {request : Request} {pass : Pass}
    {lending : Bool} {inputs : List Bytes} (ended : PassEnd host request pass lending after)
    (logs : host.engine.backend.Logs log) :
    ∃ returned, Balances log host after
      (([{ ticket := request.ticket, inputs, lending, pass }] : List Ran).filter (·.lending)
        |>.map Ran.receipt) host.desk.lentOut after.kept returned := by
  -- A failed pass is given back whole.
  have failed {middle after : Host W} {crash : Option String}
      (back : host.release pass.outputs = (crash, middle))
      (logged : after.logged log = middle.logged log) (kept : after.kept = middle.desk.lentOut) :
      ∃ returned, Balances log host after
        ((([{ ticket := request.ticket, inputs, lending := true, pass }] : List Ran).filter
          (·.lending)).map Ran.receipt) host.desk.lentOut after.kept returned := by
    refine ⟨[{ ticket := request.ticket, regions := pass.outputs }], ?_, ?_⟩
    · rw [logged, Host.logged_of_release logs back]
      rfl
    · rw [kept, (Host.beside_of_release back).desk]
      exact .refl _
  cases ended with
  | failed => exact ⟨[], .still rfl rfl⟩
  | returned _ back => exact failed back rfl rfl
  | broke _ back => exact failed back rfl rfl
  | produced =>
      refine ⟨[], .still rfl ?_⟩
      rw [Host.kept]
      show _ = (leasedIn (Frame.produced request.output pass.outputs) ++ host.desk.lentOut).map _
      rw [leasedIn_produced]
      rfl
  | lent =>
      refine ⟨[], by rw [List.map_nil, List.append_nil]; rfl, .of_eq ?_⟩
      show _ = (Frame.lent request.output pass.outputs ⟨host.engine.id, request.ticket⟩
        :: host.desk.lentOut).map Frame.receipt
      rw [List.map_cons, Frame.receipt_lent]
      rfl

/-- The output of an outcome is left on the desk, or given back. -/
theorem Recorded.balanced {log : W → Returns} {host after : Host W} {request : Request}
    {produced : Except Fault Frame} (recorded : Recorded host request produced after)
    (logs : host.engine.backend.Logs log) (ordered : Ordered host.desk host.engine.worker)
    (returning : host.engine.worker = .returning request produced) :
    ∃ returned, Balances log host after [] (leasedIn produced) after.kept returned := by
  have inHand : host.engine.worker.request? = some request := by
    rw [returning]
    rfl
  have silent := (ordered.alone inHand).2.2
  have unmarked : host.unmarked.engine.backend.Logs log := logs
  have taken {frame : Frame} {middle after : Host W} {crash : Option String}
      (leased : frame.lease ≠ none) (back : host.unmarked.takeBack frame = (crash, middle))
      (logged : after.logged log = middle.logged log) (kept : after.kept = middle.desk.lentOut) :
      ∃ returned, Balances log host after [] frame.onLease after.kept returned := by
    have empty : middle.desk.lentOut = [] := by
      rw [(Host.beside_of_takeBack back).desk]
      exact Desk.lentOut_of_empty silent
    rw [kept, empty, Frame.onLease_of_ne_none leased]
    refine ⟨[frame].map Frame.receipt, .back ?_ (.refl _)⟩
    rw [logged, Host.logged_of_takeBack unmarked back]
    rfl
  cases recorded with
  | delivered =>
      obtain ⟨response, outstanding, desk, -, tidy, outcome⟩ := ordered.delivered returning
      have lentOut := (Desk.collect_of_tidy (desk ▸ tidy) (Prod.ext outcome rfl)).2
      refine ⟨[], .still ?_ ?_⟩
      · show (host.deliver request.ticket produced).logged log = _
        rw [Host.deliver_eq]
        rfl
      · show _ = (host.deliver request.ticket produced).desk.lentOut.map Frame.receipt
        rw [lentOut]
  | ignored deserted plain =>
      have empty : leasedIn produced = [] := by
        cases produced with
        | error fault => rfl
        | ok frame => exact Frame.onLease_of_none (plain frame rfl)
      refine ⟨[], .still rfl ?_⟩
      show _ = host.desk.lentOut.map Frame.receipt
      rw [empty, Desk.lentOut_of_empty silent]
  | returned _ leased back => exact taken leased back rfl rfl
  | broke _ leased back => exact taken leased back rfl rfl

/-- A step of the worker moves outputs about. -/
theorem WorkerStep.balanced {log : W → Returns} {host after : Host W} (step : WorkerStep host after)
    (logs : host.engine.backend.Logs log) (ordered : Ordered host.desk host.engine.worker) :
    ∃ returned, Balances log host after host.makes host.kept after.kept returned := by
  have free (free : host.engine.worker.busy = false) : host.makes = [] := by
    unfold Host.makes
    rw [Crowd.pass?_of_free free]
    rfl
  have still {after : Host W}
      (quiet : host.engine.worker.busy = false ∧ host.engine.worker.kept = [])
      (logged : after.logged log = host.logged log) (empty : after.engine.worker.kept = [])
      (same : after.desk.lentOut = host.desk.lentOut) :
      ∃ returned, Balances log host after host.makes host.kept after.kept returned := by
    refine ⟨[], ?_⟩
    rw [free quiet.1, Host.kept, Host.kept, quiet.2, empty, same]
    exact .still logged rfl
  cases step with
  | took parked => exact still (by rw [parked]; exact ⟨rfl, rfl⟩) rfl rfl rfl
  | left parked => exact still (by rw [parked]; exact ⟨rfl, rfl⟩) rfl rfl rfl
  | rested parked =>
      exact still (by rw [parked]; exact ⟨rfl, rfl⟩) rfl (congrArg Worker.kept parked) rfl
  | refused holding => exact still (by rw [holding]; exact ⟨rfl, rfl⟩) rfl rfl rfl
  | starved holding => exact still (by rw [holding]; exact ⟨rfl, rfl⟩) rfl rfl rfl
  | entered holding => exact still (by rw [holding]; exact ⟨rfl, rfl⟩) (logs.enter _ _ _ _) rfl rfl
  | @finished request inputs outputs lending pass world after inside bytes finish ended =>
      have logs' : ({ host with world } : Host W).engine.backend.Logs log := logs
      obtain ⟨returned, balances⟩ :=
        @PassEnd.balanced W log _ after request pass lending inputs ended logs'
      have logged : ({ host with world } : Host W).logged log = host.logged log :=
        logs.finish _ _ _ _ _ _ finish
      refine ⟨returned, balances.logged.trans (by rw [logged]), ?_⟩
      rw [Host.makes, Crowd.pass?_of_inPass inside bytes finish, Host.kept, inside]
      exact balances.balance
  | @recorded request produced after returning recorded =>
      have inHand : host.engine.worker.request? = some request := by
        rw [returning]
        rfl
      have silent := (ordered.alone inHand).2.2
      have kept : host.kept = leasedIn produced := by
        rw [Host.kept, returning, Desk.lentOut_of_empty silent, List.append_nil]
        rfl
      rw [free (by rw [returning]; rfl), kept]
      exact recorded.balanced logs ordered returning

end Inference
