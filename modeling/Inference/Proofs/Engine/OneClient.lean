/-
One client.

A client that does one thing after another, and never waits for a limited time, cannot tell an
engine from one without a worker.  Whatever it has done so far, there is one way for the engine to
go on (`Crowd.Stage.oneWay`), and that ends in the answers and with the world that `Client`
computes.  A call is one such way by `Brings.oneWay`, and `Crowd.Serves.stage` finds the client
again where its errands have brought it.
-/
import Inference.Proofs.Engine.Overtaking
import Inference.Proofs.Engine.Synchrony

namespace Inference

variable {W : Type}

/-- Whether it is a call in progress or the worker that moves. -/
def Move.GoesOn : Move → Prop
  | steps _ | expires _ | works => True
  | _ => False

namespace Crowd

/-- The crowds that one client can bring about, with its errands: it does one thing after another,
and never waits for a limited time.  Nothing is said about when the calls and the worker go on. -/
inductive Serves (first : Crowd W) : List Errand → Crowd W → Prop where
  | start : Serves first [] first
  | performs {errands : List Errand} {crowd next : Crowd W} (before : Serves first errands crowd)
      (settled : ∀ call ∈ crowd.calls, call.isOver = true) {operation : Operation}
      (quick : operation.Patient) (made : crowd.after? (.begins operation) = some next) :
      Serves first (errands ++ [.performs operation]) next
  | drops {errands : List Errand} {crowd next : Crowd W} (before : Serves first errands crowd)
      (settled : ∀ call ∈ crowd.calls, call.isOver = true) {index : Nat}
      (made : crowd.after? (.drops index) = some next) :
      Serves first (errands ++ [.drops index]) next
  /-- There may be no output to drop. -/
  | spares {errands : List Errand} {crowd : Crowd W} (before : Serves first errands crowd)
      (settled : ∀ call ∈ crowd.calls, call.isOver = true) {index : Nat}
      (nothing : crowd.held? index = none) : Serves first (errands ++ [.drops index]) crowd
  | goesOn {errands : List Errand} {crowd next : Crowd W} (before : Serves first errands crowd)
      {move : Move} (goes : move.GoesOn) (made : crowd.after? move = some next) :
      Serves first errands next

theorem Serves.reachable {first crowd : Crowd W} {errands : List Errand}
    (serves : Serves first errands crowd) : Reachable first crowd := by
  induction serves with
  | start => exact .refl
  | performs _ _ _ made ih => exact .step ih _ made
  | drops _ _ made ih => exact .step ih _ made
  | spares _ _ _ ih => exact ih
  | goesOn _ _ made ih => exact .step ih _ made

theorem Serves.goOn {first crowd last : Crowd W} {errands : List Errand} {moves : List Move}
    (serves : Serves first errands crowd) (goes : ∀ move ∈ moves, move.GoesOn)
    (leads : crowd.afterAll? moves = some last) : Serves first errands last := by
  induction moves generalizing crowd with
  | nil =>
      cases leads
      exact serves
  | cons move rest ih =>
      rw [List.forall_mem_cons] at goes
      obtain ⟨next, made, leads⟩ := Option.bind_eq_some_iff.1 leads
      exact ih (serves.goesOn goes.1 made) goes.2 leads

/-- Calls and the worker go on in one way only, and then nobody can go on. -/
structure OneWay (crowd : Crowd W) (moves : List Move) (last : Crowd W) : Prop where
  goes : ∀ move ∈ moves, move.GoesOn
  leads : crowd.afterAll? moves = some last
  ends : ∀ move, move.GoesOn → last.after? move = none
  only : ∀ other, (∀ move ∈ other, move.GoesOn) → (crowd.afterAll? other).isSome = true →
    other <+: moves

namespace OneWay

variable {crowd next last : Crowd W} {move : Move} {moves : List Move}

theorem nil (ends : ∀ move, move.GoesOn → crowd.after? move = none) : crowd.OneWay [] crowd where
  goes := nofun
  leads := rfl
  ends := ends
  only := by
    intro other goes run
    cases other with
    | nil => exact List.prefix_rfl
    | cons move rest =>
        rw [afterAll?, ends move (goes move List.mem_cons_self)] at run
        cases run

theorem cons (goes : move.GoesOn) (made : crowd.after? move = some next)
    (alone : ∀ other after, other.GoesOn → crowd.after? other = some after → other = move)
    (rest : next.OneWay moves last) : crowd.OneWay (move :: moves) last where
  goes := List.forall_mem_cons.2 ⟨goes, rest.goes⟩
  leads := by
    rw [afterAll?, made]
    exact rest.leads
  ends := rest.ends
  only := by
    intro other others run
    cases other with
    | nil => exact List.nil_prefix
    | cons first others' =>
        rw [List.forall_mem_cons] at others
        cases made' : crowd.after? first with
        | none =>
            rw [afterAll?, made'] at run
            cases run
        | some after =>
            have same := alone first after others.1 made'
            rw [afterAll?, made'] at run
            rw [same, made] at made'
            cases made'
            rw [same, List.prefix_cons_inj]
            exact rest.only others' others.2 run

end OneWay

end Crowd

/-! ### Where the client stands -/

namespace Client

/-- The crowd that the client makes up while it does nothing. -/
def crowd (client : Client W) (last : Nat) (live : List Nat) : Crowd W where
  host := client.engine.host last live
  calls := client.calls
  dropped := client.dropped

/-- The crowd that it makes up while one more call is in progress. -/
def calling (client : Client W) (call : Call) (host : Host W) : Crowd W where
  host
  calls := client.calls ++ [call]
  dropped := client.dropped

variable {client : Client W} {call : Call} {host : Host W} {next : Crowd W} {move : Move}
  {last : Nat} {live : List Nat}

theorem over_of_mem {call : Call} (member : call ∈ client.calls) : call.isOver = true := by
  obtain ⟨answer, -, rfl⟩ := List.mem_map.1 member
  rfl

theorem step_of_over {call : Call} (settled : call.isOver = true) (host : Host W) :
    call.step host = none ∧ call.expire host = none := by
  cases call with
  | ended => exact ⟨rfl, rfl⟩
  | _ => cases settled

theorem crowd_ends (client : Client W) (last : Nat) (live : List Nat) :
    ∀ move, move.GoesOn → (client.crowd last live).after? move = none := by
  have settled {caller : Nat} {call : Call}
      (found : (client.crowd last live).calls[caller]? = some call) :=
    step_of_over (over_of_mem (List.mem_of_getElem? found)) (client.crowd last live).host
  intro move goes
  cases move with
  | steps caller =>
      cases found : (client.crowd last live).calls[caller]? with
      | none => simp [Crowd.after?, found]
      | some call => simp [Crowd.after?, found, (settled found).1]
  | expires caller =>
      cases found : (client.crowd last live).calls[caller]? with
      | none => simp [Crowd.after?, found]
      | some call => simp [Crowd.after?, found, (settled found).2]
  | works =>
      show (Host.stepWorker (client.engine.host last live)).map _ = none
      rw [Direct.stepWorker_host]
      rfl
  | _ => exact goes.elim

theorem calling_moved (goes : move.GoesOn)
    (made : (client.calling call host).after? move = some next) :
    (∃ after middle, call.step host = some (after, middle) ∧ move = .steps client.calls.length
        ∧ next = client.calling after middle)
      ∨ call.expire host ≠ none
      ∨ ∃ middle, host.stepWorker = some middle ∧ move = .works
        ∧ next = client.calling call middle := by
  have mine {caller : Nat} {here : Call}
      (found : (client.calling call host).calls[caller]? = some here)
      (active : here.step host ≠ none ∨ here.expire host ≠ none) :
      caller = client.calls.length ∧ here = call := by
    rcases Crowd.getElem?_append_cases found with old | ⟨same, rfl⟩
    · obtain ⟨steps, expires⟩ := step_of_over (over_of_mem (List.mem_of_getElem? old)) host
      exact absurd (active.resolve_left (· steps)) (· expires)
    · exact ⟨same, rfl⟩
  cases move with
  | steps caller =>
      obtain ⟨here, found, made⟩ := Option.bind_eq_some_iff.1 made
      obtain ⟨⟨after, middle⟩, step, made⟩ := Option.bind_eq_some_iff.1 made
      obtain ⟨rfl, rfl⟩ := mine found (.inl (by rw [show here.step host = _ from step]; nofun))
      refine .inl ⟨after, middle, step, rfl, ?_⟩
      cases made
      simp [Crowd.update, calling]
  | expires caller =>
      obtain ⟨here, found, made⟩ := Option.bind_eq_some_iff.1 made
      obtain ⟨after, expired, -⟩ := Option.bind_eq_some_iff.1 made
      have expires : here.expire host ≠ none := by
        rw [show here.expire host = _ from expired]
        nofun
      obtain ⟨-, rfl⟩ := mine found (.inr expires)
      exact .inr (.inl expires)
  | works =>
      obtain ⟨middle, worked, made⟩ := Option.map_eq_some_iff.1 made
      exact .inr (.inr ⟨middle, worked, rfl, made.symm⟩)
  | _ => exact goes.elim

theorem calling_steps {after : Call} {middle : Host W}
    (step : call.step host = some (after, middle)) :
    (client.calling call host).after? (.steps client.calls.length)
      = some (client.calling after middle) := by
  simp [Crowd.after?, calling, Crowd.update, step]

theorem calling_works {middle : Host W} (worked : host.stepWorker = some middle) :
    (client.calling call host).after? .works = some (client.calling call middle) := by
  simp [Crowd.after?, calling, worked]

/-- The client with the answer to one more operation. -/
def told (client : Client W) (told : Answer × Direct W) : Client W :=
  { client with engine := told.2, answers := client.answers ++ [told.1] }

theorem after_performs (client : Client W) (operation : Operation) :
    client.after (.performs operation) = (client.engine.perform operation).map client.told := rfl

theorem calling_ended (client : Client W) (answer : Answer) (after : Direct W) (last : Nat)
    (live : List Nat) :
    client.calling (.ended answer.1 answer.2) (after.host last live)
      = (client.told (answer, after)).crowd last live := by
  simp [calling, crowd, told, calls]

end Client

/-! ### Where the client is led -/

/-- How things are when nobody can go on: the client has its answers, and the backend has been
through the same as without a worker; or the client waits without end for a pass that does not end
there either. -/
def Crowd.Shows (crowd : Crowd W) : Except W (Client W) → Prop
  | .ok client => crowd.calls = client.calls ∧ crowd.host.world = client.engine.world
    ∧ ∃ last live, crowd = client.crowd last live
  | .error world => crowd.host.world = world ∧ ∃ call ∈ crowd.calls, call.isOver = false

theorem Client.crowd_shows (client : Client W) (last : Nat) (live : List Nat) :
    (client.crowd last live).Shows (.ok client) :=
  ⟨rfl, Direct.world_host, last, live, rfl⟩

namespace Brings

variable {client : Client W} {result : Except W (Answer × Direct W)} {call : Call} {host : Host W}

/-- A call that is in progress goes on in one way only. -/
theorem oneWay (brings : Brings result call host) (client : Client W) : ∃ moves last,
    (client.calling call host).OneWay moves last ∧ last.Shows (result.map client.told) := by
  induction brings with
  | @ended answer after last live =>
      rw [Client.calling_ended]
      exact ⟨_, _, .nil (Client.crowd_ends _ _ _), Client.crowd_shows _ last live⟩
  | hangs active waits patient rests left =>
      refine ⟨_, _, .nil fun move goes => ?_, left, _, List.mem_append_right _ (.head _), active⟩
      rw [Option.eq_none_iff_forall_ne_some]
      intro next made
      rcases Client.calling_moved goes made with ⟨_, _, step, -, -⟩ | expires | ⟨_, worked, -, -⟩
      · cases waits.symm.trans step
      · exact expires patient
      · cases rests.symm.trans worked
  | steps stepped patient rests _ ih =>
      obtain ⟨moves, last, way, shows⟩ := ih
      refine ⟨_, _, .cons ?_ (Client.calling_steps stepped) (fun other after goes made => ?_) way,
        shows⟩
      · trivial
      rcases Client.calling_moved goes made with ⟨_, _, -, same, -⟩ | expires | ⟨_, worked, -, -⟩
      · exact same
      · exact absurd patient expires
      · cases rests.symm.trans worked
  | works active waits patient worked _ ih =>
      obtain ⟨moves, last, way, shows⟩ := ih
      refine ⟨_, _, .cons ?_ (Client.calling_works worked) (fun other after goes made => ?_) way,
        shows⟩
      · trivial
      rcases Client.calling_moved goes made with ⟨_, _, step, -, -⟩ | expires | ⟨_, -, same, -⟩
      · cases waits.symm.trans step
      · exact absurd patient expires
      · exact same

theorem moved {move : Move} {next : Crowd W} (brings : Brings result call host)
    (goes : move.GoesOn) (made : (client.calling call host).after? move = some next) :
    ∃ after middle, next = client.calling after middle ∧ Brings result after middle := by
  rcases Client.calling_moved goes made with ⟨after, middle, step, -, same⟩ | expires
    | ⟨middle, worked, -, same⟩
  · cases brings with
    | ended => cases step
    | hangs _ waits => cases waits.symm.trans step
    | steps stepped _ _ onward =>
        cases stepped.symm.trans step
        exact ⟨_, _, same, onward⟩
    | works _ waits => cases waits.symm.trans step
  · cases brings with
    | ended => exact absurd rfl expires
    | hangs _ _ patient => exact absurd patient expires
    | steps _ patient => exact absurd patient expires
    | works _ _ patient => exact absurd patient expires
  · cases brings with
    | ended => cases Direct.stepWorker_host.symm.trans worked
    | hangs _ _ _ rests => cases rests.symm.trans worked
    | steps _ _ rests => cases rests.symm.trans worked
    | works _ _ _ worked' onward =>
        cases worked'.symm.trans worked
        exact ⟨_, _, same, onward⟩

end Brings

namespace Crowd

/-- Where the client stands after its errands: it does nothing, or waits for the last one. -/
inductive Stage (first : Client W) : List Errand → Crowd W → Prop where
  | rests {errands : List Errand} {client : Client W} (done : first.afterAll errands = .ok client)
      (patient : client.engine.timeout = 0) (last : Nat) (live : List Nat) :
      Stage first errands (client.crowd last live)
  | calls {errands : List Errand} {client : Client W} (done : first.afterAll errands = .ok client)
      (patient : client.engine.timeout = 0) {operation : Operation} (quick : operation.Patient)
      {call : Call} {host : Host W}
      (onward : Brings (client.engine.perform operation) call host) :
      Stage first (errands ++ [.performs operation]) (client.calling call host)

end Crowd

namespace Client

theorem afterAll_of_done {first client : Client W} {errands : List Errand}
    (done : first.afterAll errands = .ok client) (errand : Errand) :
    first.afterAll (errands ++ [errand]) = client.after errand := by
  induction errands generalizing first with
  | nil =>
      cases done
      show (client.after errand).bind _ = client.after errand
      cases client.after errand <;> rfl
  | cons earlier rest ih =>
      rw [afterAll] at done
      rw [List.cons_append, afterAll]
      cases next : first.after earlier with
      | error world =>
          rw [next] at done
          cases done
      | ok middle =>
          rw [next] at done
          exact ih done

end Client

namespace Crowd

variable {first : Client W} {errands : List Errand} {crowd : Crowd W}

namespace Stage

/-- Once all calls are over the client does nothing. -/
theorem rests_of_over (stage : Stage first errands crowd)
    (settled : ∀ call ∈ crowd.calls, call.isOver = true) :
    ∃ client last live, first.afterAll errands = .ok client ∧ client.engine.timeout = 0
      ∧ crowd = client.crowd last live := by
  cases stage with
  | rests done patient last live => exact ⟨_, last, live, done, patient, rfl⟩
  | @calls errands client done patient operation quick call host onward =>
      have ended : call.isOver = true := settled call (List.mem_append_right _ (.head _))
      generalize performed : client.engine.perform operation = result at onward
      cases onward with
      | @ended answer after last live =>
          refine ⟨client.told (answer, after), last, live, ?_,
            Direct.timeout_of_perform patient quick performed, Client.calling_ended ..⟩
          rw [Client.afterAll_of_done done, Client.after_performs, performed]
          rfl
      | hangs active => cases ended.symm.trans active
      | steps stepped => cases (Client.step_of_over ended _).1.symm.trans stepped
      | works active => cases ended.symm.trans active

theorem oneWay (stage : Stage first errands crowd) : ∃ moves last,
    crowd.OneWay moves last ∧ last.Shows (first.afterAll errands) := by
  cases stage with
  | @rests errands client done _ last live =>
      rw [done]
      exact ⟨_, _, .nil (Client.crowd_ends _ _ _), client.crowd_shows last live⟩
  | calls done _ _ onward =>
      rw [Client.afterAll_of_done done, Client.after_performs]
      exact onward.oneWay _

end Stage

end Crowd

/-! ### The errands of a client -/

namespace Client

theorem calm_of_attended {client : Client W} {last : Nat} {live : List Nat}
    (attended : (client.crowd last live).Attended) :
    client.engine.backend.Calm ∧ client.engine.output.Fits := by
  have healthy : (client.engine.host last live).Healthy := attended.healthy
  exact ⟨Direct.backend_host ▸ healthy.calm, Direct.output_host ▸ healthy.output⟩

/-- The client after dropping an output. -/
def without (client : Client W) (index : Nat) (output : Frame) : Client W :=
  { client with engine := client.engine.drop output, dropped := index :: client.dropped }

theorem after_drops {client : Client W} {index : Nat} {output : Frame}
    (held : client.held? index = some output) :
    client.after (.drops index) = .ok (client.without index output) := by
  simp only [after, held, without]

theorem after_spares {client : Client W} {index : Nat} (nothing : client.held? index = none) :
    client.after (.drops index) = .ok client := by
  simp only [after, nothing]

/-- A client that does nothing drops an output as it does without a worker. -/
theorem crowd_drops {client : Client W} (calm : client.engine.backend.Calm) {last : Nat}
    {live : List Nat} {index : Nat} {output : Frame} (held : client.held? index = some output) :
    (client.crowd last live).after? (.drops index)
      = some ((client.without index output).crowd last live) := by
  have held : (client.crowd last live).held? index = some output := held
  have drops : Act.drop output (client.crowd last live).host
      = some (.done (), (client.engine.drop output).host last live) := Direct.drop_host calm output
  simp only [Crowd.after?, held, Option.bind_eq_bind, Option.bind_some, drops]
  rfl

theorem timeout_of_after {client after : Client W} {errand : Errand}
    (patient : client.engine.timeout = 0)
    (quick : ∀ operation, errand = .performs operation → operation.Patient)
    (done : client.after errand = .ok after) : after.engine.timeout = 0 := by
  cases errand with
  | performs operation =>
      obtain ⟨told, performed, rfl⟩ := Direct.exists_of_map_eq_ok done
      exact Direct.timeout_of_perform patient (quick operation rfl) performed
  | drops index =>
      cases held : client.held? index with
      | none =>
          cases (after_spares held).symm.trans done
          exact patient
      | some output =>
          cases (after_drops held).symm.trans done
          exact (Direct.Kin.drop output).timeout.trans patient

/-- An engine that was opened is one without a worker that was opened. -/
theorem crowd_of_opened {backend : Backend W} {id : Nat} {options : Options}
    {framework : Framework} {world : W} {live : List Nat} {host : Host W}
    (opened : backend.openAs id options framework world live = .opened host) :
    { host } = Client.crowd { engine := .ofHost host } 0 host.live
      ∧ (Direct.ofHost host).timeout = options.timeout := by
  obtain ⟨input, output, after, -, rfl⟩ := Backend.opened_cases opened
  exact ⟨rfl, rfl⟩

end Client

namespace Crowd

section

variable {backend : Backend W} {id : Nat} {options : Options} {framework : Framework} {world : W}
  {live : List Nat} {host : Host W} {errands : List Errand} {crowd : Crowd W}
    {client after : Client W}

theorem Serves.calm (calm : backend.Calm)
    (opened : backend.openAs id options framework world live = .opened host) {last : Nat}
    {live : List Nat} (serves : Serves { host } errands (client.crowd last live)) :
    client.engine.backend.Calm ∧ client.engine.output.Fits :=
  Client.calm_of_attended (.of_reachable calm opened serves.reachable)

/-- The client stands where its errands have brought it. -/
theorem Serves.stage (calm : backend.Calm) (patient : options.timeout = 0)
    (opened : backend.openAs id options framework world live = .opened host)
    (serves : Serves { host } errands crowd) : Stage { engine := .ofHost host } errands crowd := by
  induction serves with
  | start =>
      obtain ⟨same, timeout⟩ := Client.crowd_of_opened opened
      rw [same]
      exact .rests rfl (timeout.trans patient) 0 host.live
  | performs before settled quick made ih =>
      obtain ⟨client, last, live, done, patient, rfl⟩ := ih.rests_of_over settled
      obtain ⟨calm, fits⟩ := before.calm calm opened
      cases made
      exact .calls done patient quick (brings_perform calm fits patient quick)
  | drops before settled made ih =>
      obtain ⟨client, last, live, done, patient, rfl⟩ := ih.rests_of_over settled
      obtain ⟨output, held, -⟩ := Option.bind_eq_some_iff.1 made
      have held : client.held? _ = some output := held
      cases (Client.crowd_drops (before.calm calm opened).1 held).symm.trans made
      exact .rests ((Client.afterAll_of_done done _).trans (Client.after_drops held))
        ((Direct.Kin.drop output).timeout.trans patient) last live
  | spares before settled nothing ih =>
      obtain ⟨client, last, live, done, patient, rfl⟩ := ih.rests_of_over settled
      have nothing : client.held? _ = none := nothing
      exact .rests ((Client.afterAll_of_done done _).trans (Client.after_spares nothing)) patient
        last live
  | goesOn _ goes made ih =>
      cases ih with
      | @rests errands client done patient last live =>
          rw [Client.crowd_ends client last live _ goes] at made
          cases made
      | calls done patient quick onward =>
          obtain ⟨call, host, rfl, onward⟩ := onward.moved goes made
          exact .calls done patient quick onward

/-- A client can do whatever it could do without a worker. -/
theorem Serves.performs_errand (calm : backend.Calm)
    (opened : backend.openAs id options framework world live = .opened host) {last : Nat}
    {live : List Nat} (serves : Serves { host } errands (client.crowd last live))
    (patient : client.engine.timeout = 0) {errand : Errand}
    (quick : ∀ operation, errand = .performs operation → operation.Patient)
    (done : client.after errand = .ok after) :
    ∃ last live, Serves { host } (errands ++ [errand]) (after.crowd last live) := by
  obtain ⟨calm, fits⟩ := serves.calm calm opened
  have settled : ∀ call ∈ (client.crowd last live).calls, call.isOver = true :=
    fun _ member => Client.over_of_mem member
  cases errand with
  | performs operation =>
      have quick := quick operation rfl
      have begins : (client.crowd last live).after? (.begins operation)
          = some (client.calling operation.call (client.engine.host last live)) := rfl
      have brings : Brings (client.engine.perform operation) operation.call
          (client.engine.host last live) := brings_perform calm fits patient quick
      obtain ⟨moves, final, way, shows⟩ := brings.oneWay client
      rw [← Client.after_performs, done] at shows
      obtain ⟨-, -, last, live, rfl⟩ := shows
      exact ⟨last, live, (serves.performs settled quick begins).goOn way.goes way.leads⟩
  | drops index =>
      cases held : client.held? index with
      | some output =>
          cases (Client.after_drops held).symm.trans done
          exact ⟨last, live, serves.drops settled (Client.crowd_drops calm held)⟩
      | none =>
          cases (Client.after_spares held).symm.trans done
          exact ⟨last, live, serves.spares settled held⟩

theorem Serves.performs_errands (calm : backend.Calm)
    (opened : backend.openAs id options framework world live = .opened host) {last : Nat}
    {live : List Nat} (serves : Serves { host } errands (client.crowd last live))
    (patient : client.engine.timeout = 0) {others : List Errand}
    (quick : ∀ operation, .performs operation ∈ others → operation.Patient)
    (done : client.afterAll others = .ok after) :
    ∃ last live, Serves { host } (errands ++ others) (after.crowd last live) := by
  induction others generalizing client errands last live with
  | nil =>
      cases done
      rw [List.append_nil]
      exact ⟨last, live, serves⟩
  | cons errand rest ih =>
      rw [Client.afterAll] at done
      cases next : client.after errand with
      | error world =>
          rw [next] at done
          cases done
      | ok middle =>
          rw [next] at done
          have now : ∀ operation, errand = .performs operation → operation.Patient :=
            fun operation same => quick operation (same ▸ List.mem_cons_self)
          obtain ⟨last, live, serves⟩ := serves.performs_errand calm opened patient now next
          rw [List.append_cons]
          exact ih serves (Client.timeout_of_after patient now next)
            (fun operation member => quick operation (List.mem_cons_of_mem _ member)) done

end

/-- **For one client an engine is a function call.**  With a calm backend and no timeout, whatever a
client has done one after another, there is one way for the calls and the worker to go on.  It ends
with the answers and with the world that the engine without a worker comes to, or else that engine,
too, runs a pass without end.  And whatever can be done without a worker can be done.

The backend may be any calm one, in particular one that writes down what it is asked to do in its
world, such as `Backend.traced`. -/
theorem served_directly {backend : Backend W} (calm : backend.Calm) {id : Nat} {options : Options}
    (patient : options.timeout = 0) {framework : Framework} {world : W} {live : List Nat}
    {host : Host W} (opened : backend.openAs id options framework world live = .opened host)
    (errands : List Errand) :
    (∀ crowd, Serves { host } errands crowd → ∃ moves last, crowd.OneWay moves last
      ∧ last.Shows (Client.afterAll { engine := .ofHost host } errands))
    ∧ ∀ client, (∀ operation, .performs operation ∈ errands → operation.Patient) →
      Client.afterAll { engine := .ofHost host } errands = .ok client →
        ∃ last live, Serves { host } errands (client.crowd last live) := by
  refine ⟨fun crowd serves => (serves.stage calm patient opened).oneWay,
    fun client quick done => ?_⟩
  obtain ⟨same, timeout⟩ := Client.crowd_of_opened opened
  have opening : Serves { host } [] (Client.crowd { engine := .ofHost host } 0 host.live) :=
    same ▸ .start
  exact opening.performs_errands calm opened (timeout.trans patient) quick done

end Crowd

/-! ### What a backend has been through -/

namespace Backend

/-- What a backend can be asked to do. -/
inductive Event where
  | adopts (info : Descriptor)
  | runs (inputs outputs : List Bytes) (lending : Bool)
  | takesBack (regions : List Bytes)
  | reads (key : String)
  | writes (key value : String)
  | goes
  deriving DecidableEq

/-- The same backend with a list of what it was asked to do, which it does not see. -/
def traced {W : Type} (backend : Backend W) : Backend (W × List Event) where
  input world := backend.input world.1
  output world := backend.output world.1
  allocates world := backend.allocates world.1
  adopt info world :=
    let (answer, after) := backend.adopt info world.1
    (answer, after, world.2 ++ [.adopts info])
  enter inputs outputs lending world :=
    (backend.enter inputs outputs lending world.1, world.2 ++ [.runs inputs outputs lending])
  finish inputs outputs lending world :=
    (backend.finish inputs outputs lending world.1).map fun (pass, after) => (pass, after, world.2)
  release regions world :=
    let (crash, after) := backend.release regions world.1
    (crash, after, world.2 ++ [.takesBack regions])
  readProperty key world :=
    let (answer, after) := backend.readProperty key world.1
    (answer, after, world.2 ++ [.reads key])
  writeProperty key value world :=
    let (answer, after) := backend.writeProperty key value world.1
    (answer, after, world.2 ++ [.writes key value])
  dropped world := (backend.dropped world.1, world.2 ++ [.goes])

theorem Calm.traced {backend : Backend W} (calm : backend.Calm) : backend.traced.Calm where
  adopts info world := calm.adopts info world.1
  reads key world := calm.reads key world.1
  writes key value world := calm.writes key value world.1
  releases regions world := calm.releases regions world.1
  room world := calm.room world.1
  adopted info world := calm.adopted info world.1

end Backend

namespace CustomModel

open Backend (Event)

/-- A model that answers with the byte it is given, in regions of its own, unless that is zero. -/
def pickyByte : Backend Unit :=
  { echoByte.backend with
    allocates := fun _ => true
    finish := fun inputs _ _ world =>
      some ({ ending := if inputs = [[0]] then .failed ["zero"] else .done, outputs := inputs },
        world) }

/-- An engine on that model, with a list of what the model was asked to do. -/
def pickyEngine : Host (Unit × List Event) where
  engine := {
    id := 0, framework := .custom, accelerator := .any, backend := pickyByte.traced
    desk := { input := echoByte.input, output := echoByte.output, timeout := 0 } }
  world := ((), [])
  live := [0]

/-- A good pass, a bad one, and a property that nobody knows.  The output is dropped after the
engine was closed. -/
def pickyErrands : List Errand :=
  [.performs (.infer (byteTask 7).input none), .performs (.infer (byteTask 0).input none),
    .performs (.read "mood"), .performs .close, .drops 0,
    .performs (.infer (byteTask 7).input none)]

/-- The bad output goes back at once, the good one when it is dropped, and then the backend goes. -/
theorem picky_byte_served_directly : ∃ crowd : Crowd (Unit × List Event),
    Crowd.Serves { host := pickyEngine } pickyErrands crowd
      ∧ crowd.host.world.2 = [.runs [[7]] [[]] true, .runs [[0]] [[]] true, .takesBack [[0]],
        .reads "mood", .takesBack [[7]], .goes]
      ∧ crowd.calls.map (fun call => call.output?.map (·.regions))
        = [some [some [7]], none, none, none, none] := by
  have calm : pickyByte.Calm :=
    ⟨⟨nofun, nofun, nofun, fun _ _ => rfl⟩, fun _ => echoByte_fits, nofun⟩
  have opened : pickyByte.traced.openAs 0 {} .custom ((), []) [] = .opened pickyEngine := rfl
  have quick : ∀ operation, .performs operation ∈ pickyErrands → operation.Patient := by
    intro operation member
    simp only [pickyErrands, List.mem_cons, List.not_mem_nil, or_false, Errand.performs.injEq,
      reduceCtorEq, false_or] at member
    rcases member with rfl | rfl | rfl | rfl | rfl <;> trivial
  obtain ⟨client, done, world, answers⟩ : ∃ client,
      Client.afterAll { engine := .ofHost pickyEngine } pickyErrands = .ok client
        ∧ client.engine.world.2 = [.runs [[7]] [[]] true, .runs [[0]] [[]] true,
          .takesBack [[0]], .reads "mood", .takesBack [[7]], .goes]
        ∧ client.calls.map (fun call => call.output?.map (·.regions))
          = [some [some [7]], none, none, none, none] := ⟨_, rfl, rfl, rfl⟩
  obtain ⟨-, exists_served⟩ := Crowd.served_directly calm.traced rfl opened pickyErrands
  obtain ⟨last, live, serves⟩ := exists_served client quick done
  exact ⟨_, serves, (congrArg Prod.snd Direct.world_host).trans world, answers⟩

end CustomModel

end Inference
