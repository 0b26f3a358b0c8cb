/-
The desk: what the callers of an engine and its worker share.

There is one request at a time.  A caller puts it on the desk under a fresh ticket, the
worker takes it away, and the outcome comes back under the same ticket.  A caller that
stops waiting leaves its ticket in `deserted`, so that the worker knows to drop the
output.
-/
import Inference.Fault
import Inference.Engine.Outstanding

namespace Inference

/-- What the worker is to do. -/
inductive Mode where
  | idle
  /-- A request has been submitted and its outcome not yet recorded. -/
  | running
  /-- The worker is to finish the request at hand, if any, and exit.  There is no way back. -/
  | leaving
  deriving DecidableEq, Repr, Inhabited

namespace Mode

/-- Accepts a request, of which there is at most one in flight. -/
def accept : Mode → Except Fault Mode
  | idle => .ok running
  | running => .error .busy
  | leaving => .error .closedHandle

/-- The request is done.  A worker that is to leave still leaves. -/
def finish : Mode → Mode
  | running => idle
  | mode => mode

end Mode

/-- One submitted pass. -/
structure Request where
  ticket : Nat
  /-- The engine's own copy of the caller's input. -/
  input : Frame
  /-- The output that was agreed when the request was submitted. -/
  output : Descriptor
  deriving DecidableEq, Inhabited

/-- A good output between the worker and its caller. -/
inductive Parcel where
  /-- Memory on lease, tracked under a number. -/
  | tracked (number : Nat)
  /-- Memory of the engine. -/
  | owned (frame : Frame)
  deriving DecidableEq, Inhabited

/-- The recorded outcome of a request. -/
structure Response where
  ticket : Nat
  result : Except Fault Parcel

/-- The number under which the outcome's output is tracked, if it is on lease. -/
def Response.awaited? (response : Response) : Option Nat :=
  match response.result with
  | .ok (.tracked number) => some number
  | _ => none

/-- What callers and worker share. -/
structure Desk where
  mode : Mode := .idle
  request : Option Request := none
  /-- The last ticket given out. -/
  ticket : Nat := 0
  /-- The ticket of a caller that stopped waiting. -/
  deserted : Option Nat := none
  response : Option Response := none
  outstanding : Outstanding := {}
  input : Descriptor
  output : Descriptor
  /-- How long a caller waits unless it says otherwise, in milliseconds; zero waits without end. -/
  timeout : Nat
  /-- Whether the engine still holds its backend. -/
  attached : Bool := true

namespace Desk

/-- Whether the outcome for a ticket is recorded. -/
def hasResponse (desk : Desk) (ticket : Nat) : Bool :=
  match desk.response with
  | some response => response.ticket == ticket
  | none => false

/-- The output some caller may still be waiting for. -/
def awaited? (desk : Desk) : Option Nat := desk.response.bind Response.awaited?

/-- What is said when an output went back before its caller received it. -/
def releasedEarly (number : Nat) : Fault :=
  .unknown ("buffer#" ++ Text.showNat number ++ " was released before delivery")

/-- Takes the recorded outcome off the desk; an output on lease is no longer outstanding. -/
def collect (desk : Desk) : Option (Except Fault Frame) × Desk :=
  match desk.response with
  | none => (none, desk)
  | some response =>
    let desk := { desk with response := none }
    match response.result with
    | .error fault => (some (.error fault), desk)
    | .ok (.owned frame) => (some (.ok frame), desk)
    | .ok (.tracked number) =>
      let (frame, outstanding) := desk.outstanding.take number
      (some (match frame with | some frame => .ok frame | none => .error (releasedEarly number)),
        { desk with outstanding })

/-- Forgets a recorded outcome; answers with the frame that has to be dropped. -/
def forget (desk : Desk) : Option Frame × Desk :=
  match desk.awaited? with
  | some number =>
    let (frame, outstanding) := desk.outstanding.remove number
    (frame, { desk with response := none, outstanding })
  | none => (none, { desk with response := none })

/-- Takes out every outstanding output that nobody may be waiting for. -/
def sweep (desk : Desk) : List Frame × Desk :=
  let (frames, outstanding) := desk.outstanding.keepOnly desk.awaited?
  (frames, { desk with outstanding })

/-- Takes out every outstanding output, and forgets whatever else is on its way. -/
def empty (desk : Desk) : List Frame × Desk :=
  let (frames, outstanding) := desk.outstanding.keepOnly none
  (frames, { desk with outstanding, request := none, response := none })

end Desk

end Inference
