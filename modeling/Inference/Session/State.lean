/-
The state of a session, and who moves when.

Besides its registers a session has a set of chores: the step at hand, the threads that
were spawned, and the closing of engines that nobody uses any more.  After every step
everything that can move does so until all is quiet.  Time only passes when it has to: if
the session waits for a chore and nothing can move, the waiting call with the earliest
deadline runs out of patience.
-/
import Inference.Engine.Alone
import Inference.Catalog
import Inference.Session.Step

namespace Inference.Session

/-- What a chore is doing. -/
inductive Activity where
  /-- Is in a call on an engine, which may have a deadline. -/
  | calling (engine : Nat) (call : Call) (deadline : Option Nat)
  /-- Is about to drop a frame and then answer. -/
  | releasing (frame : Frame) (answer : Answer)
  /-- Is done, with a frame that is left over. -/
  | over (answer : Answer) (output : Option Frame)
  deriving Inhabited

/-- Whose chore it is. -/
inductive Party where
  /-- The step at hand. -/
  | step
  | thread (name : String)
  /-- A thread whose name another one has taken. -/
  | stray (number : Nat)
  /-- Nobody's but the engine's own: its register was given up while a thread still used it. -/
  | engine (id : Nat)
  deriving DecidableEq

/-- A chore; `keep` is the register its output goes to.  Without one the output is dropped. -/
structure Chore where
  activity : Activity
  keep : Option String := none
  deriving Inhabited

/-- A chore whose output nobody is going to receive. -/
def Chore.disowned (chore : Chore) : Chore :=
  { activity := match chore.activity with
      | .over answer (some output) => .releasing output answer
      | activity => activity }

/-- Everything a session remembers. -/
structure State where
  descriptors : Registers Descriptor := []
  frames : Registers Frame := []
  /-- Identifiers of the engines in the engine registers. -/
  handles : Registers Nat := []
  /-- The identifier opened last under each name. -/
  lastIds : Registers Nat := []
  engines : List (Nat × Engine Stage) := []
  stage : Stage := {}
  live : List Nat := []
  catalog : Catalog Stage := {}
  nextId : Nat := 1
  /-- Engines without a register that some thread still uses. -/
  deserted : List Nat := []
  chores : List (Party × Chore) := []
  clock : Nat := 0

/-! ### Answers of calls -/

/-- What a reply is worth. -/
def valueOf : Reply → Value
  | .none => .none
  | .descriptor info => .shape info
  | .number value => .number value
  | .text value => .text value
  | .frame output => .frame output
  | .shaped output info => .shaped output info

/-- The answer a call stands for. -/
def answerOf : Outcome Fault Reply → Answer
  | .done reply => .ok (valueOf reply)
  | .failed fault => .fault fault
  | .crashed message => .crashed message

/-- An output is kept, or dropped before the answer is given. -/
def handOver (keeps : Bool) (output : Frame) (value : Value) : Activity :=
  if keeps then .over (.ok value) (some output) else .releasing output (.ok value)

/-- What a chore does once its call has ended. -/
def conclude (keeps : Bool) (outcome : Outcome Fault Reply) (target : Option Frame) : Activity :=
  match outcome, target with
  | .done (.frame output), _ => handOver keeps output (.frame output)
  | .done (.shaped output info), _ => handOver keeps output (.shaped output info)
  | .done .none, some target => .over (.ok (.frame target)) (some target)
  | outcome, target => .over (answerOf outcome) target

/-- What a chore does next, given the call it is in. -/
def inCall (keeps : Bool) (engine : Nat) (call : Call) (clock : Nat) : Activity :=
  match call with
  | .ended outcome target => conclude keeps outcome target
  | .awaiting _ timeout _ =>
    .calling engine call (if timeout = 0 then none else some (clock + timeout))
  | call => .calling engine call none

namespace State

/-! ### Engines -/

/-- An engine with its surroundings. -/
def host? (s : State) (id : Nat) : Option (Host Stage) :=
  (s.engines.find? fun entry => entry.1 == id).map fun entry =>
    { engine := entry.2, world := s.stage, live := s.live }

/-- Takes over what happened to an engine and around it. -/
def withHost (s : State) (host : Host Stage) : State :=
  { s with
    engines := s.engines.map fun entry =>
      if entry.1 == host.engine.id then (entry.1, host.engine) else entry
    stage := host.world
    live := host.live }

/-! ### Moves -/

/-- Drops a frame, unless its backend is in a pass; a text is that of a crash. -/
def dropFrame (s : State) (frame : Frame) : Option (Option String × State) :=
  match frame.lease.bind fun lease => s.host? lease.engine with
  | none => some (none, s)
  | some host =>
    match Act.drop frame host with
    | none => none
    | some (.crashed message, host) => some (some message, s.withHost host)
    | some (_, host) => some (none, s.withHost host)

/-- One move of a chore, if it can make one. -/
def stepChore (s : State) (chore : Chore) : Option (Chore × State) :=
  match chore.activity with
  | .over .. => none
  | .releasing frame answer =>
    (s.dropFrame frame).map fun (crash, s) =>
      ({ chore with activity := .over (match crash with
        | some message => .crashed message
        | none => answer) none }, s)
  | .calling id call _ => do
    let host ← s.host? id
    let (call, host) ← call.step host
    return ({ chore with activity := inCall chore.keep.isSome id call s.clock }, s.withHost host)

/-- The first worker that can move does. -/
def moveWorker (s : State) : Option State :=
  s.engines.findSome? fun entry =>
    (s.host? entry.1).bind fun host => host.stepWorker.map s.withHost

/-- Puts a chore in place of the one its party has. -/
def setChore (s : State) (party : Party) (chore : Chore) : State :=
  { s with chores := s.chores.map fun entry => if entry.1 == party then (party, chore) else entry }

/-- Gives a party a chore, behind those of all others. -/
def addChore (s : State) (party : Party) (chore : Chore) : State :=
  { s with chores := s.chores ++ [(party, chore)] }

/-- Takes its name from a thread, which goes on without it. -/
def loseThread (s : State) (name : String) : State :=
  let number := (s.chores.filter fun entry => match entry.1 with
    | .stray _ => true
    | _ => false).length
  { s with chores := s.chores.map fun (party, chore) =>
      if party == .thread name then (.stray number, chore.disowned) else (party, chore) }

/-- The first chore that can move does. -/
def moveChore (s : State) : Option State :=
  s.chores.findSome? fun (party, chore) =>
    (s.stepChore chore).map fun (chore, s) => s.setChore party chore

/-- Whether a chore is in a call on an engine. -/
def inUse (s : State) (id : Nat) : Bool :=
  s.chores.any fun entry => match entry.2.activity with
    | .calling engine _ _ => engine == id
    | _ => false

/-- The first deserted engine that is no longer in use is given up. -/
def moveDeserted (s : State) : Option State :=
  (s.deserted.find? fun id => !s.inUse id).map fun id =>
    { s with deserted := s.deserted.filter (· != id) }.addChore (.engine id)
      { activity := .calling id .giveUp none }

/-- Anything moves. -/
def move (s : State) : Option State :=
  match s.moveChore with
  | some s => some s
  | none => match s.moveWorker with
    | some s => some s
    | none => s.moveDeserted

/-- Moves that are enough until all is quiet: a chore makes at most a dozen, and so does a worker
for the one request of each chore, and a deserted engine is given up by one chore more. -/
def patience (s : State) : Nat := 32 * (s.chores.length + s.engines.length + s.deserted.length + 1)

/-- Lets everything move until all is quiet. -/
def quiesce : Nat → State → State
  | 0, s => s
  | fuel + 1, s => match s.move with
    | some s => quiesce fuel s
    | none => s

/-! ### Waiting -/

/-- The deadline of a chore that waits for an outcome. -/
def deadline? (chore : Chore) : Option Nat :=
  match chore.activity with
  | .calling _ _ deadline => deadline
  | _ => none

/-- The earliest deadline, with the chore it belongs to. -/
def earliest? (s : State) : Option (Nat × Party × Chore) :=
  s.chores.foldl (fun found (party, chore) =>
    match deadline? chore, found with
    | none, _ => found
    | some deadline, none => some (deadline, party, chore)
    | some deadline, some (other, _) =>
      if deadline < other then some (deadline, party, chore) else found) none

/-- The patience of a chore's call ends. -/
def expireChore (s : State) (chore : Chore) : Option (Chore × State) :=
  match chore.activity with
  | .calling id call _ => do
    let host ← s.host? id
    let (call, host) ← call.expire host
    return ({ chore with activity := inCall chore.keep.isSome id call s.clock }, s.withHost host)
  | _ => none

/-- Time passes until the earliest deadline. -/
def expire (s : State) : Option State := do
  let (deadline, party, chore) ← s.earliest?
  let s := { s with clock := deadline }
  let (chore, s) ← s.expireChore chore
  return s.setChore party chore

/-- The chore of a party. -/
def chore? (s : State) (party : Party) : Option Chore :=
  (s.chores.find? fun entry => entry.1 == party).map (·.2)

/-- Takes the chore of a party off the list. -/
def removeChore (s : State) (party : Party) : State :=
  { s with chores := s.chores.filter fun entry => entry.1 != party }

/-- Waits for a chore to be over and takes it off the list.  A chore that can never be over counts
as crashed. -/
def await (party : Party) : Nat → State → (Answer × Option Frame) × State
  | 0, s => ((.crashed Host.stuck, none), s.removeChore party)
  | fuel + 1, s =>
    match s.chore? party with
    | none => ((.crashed Host.stuck, none), s)
    | some chore =>
      match chore.activity with
      | .over answer output => ((answer, output), s.removeChore party)
      | _ => match s.move with
        | some s => await party fuel s
        | none => match s.expire with
          | some s => await party fuel s
          | none => ((.crashed Host.stuck, none), s.removeChore party)

/-- Does something as the step at hand and waits for its end. -/
def carryOut (s : State) (chore : Chore) : (Answer × Option Frame) × State :=
  let s := { s with chores := (.step, chore) :: s.chores }
  await .step (2 * s.patience) s

end State

end Inference.Session
