import Courier.Amqp.Properties
import Courier.Confirm.Gate
import Courier.Confirm.Tracker
import Courier.Log

/-!
# Lanes

The publishes of one channel. A publish takes a place in the window of outstanding confirmations,
waits for its turn to write, and is numbered as it is written. Its place stays taken until its own
confirmation has been dealt with. A token ends a publish that still waits; a frame that is being
written is never interrupted.

Publishes move by single steps, in any order; `settle` is the order in which each goes as far as it
can.
-/

namespace Courier.Confirm
set_option autoImplicit false
open Amqp

/-- What is to be published. -/
structure Frame where
  exchange : String
  routingKey : String
  payload : Octets
  properties : Properties

/-- A frame with its number on it. -/
def Frame.numbered (frame : Frame) (sequence : Nat) : Frame :=
  { frame with properties := frame.properties.withSequence sequence }

/-- A message that no queue took and the broker sent back. -/
structure Returned where
  exchange : String
  routingKey : String
  reply : String
  properties : Properties

/-- How the broker answers a written frame. -/
inductive Confirmation where
  | ack (returned : Option Returned)
  | nack (returned : Option Returned)
  /-- The channel is not one on which frames are confirmed. -/
  | notRequested
  /-- The answer will never come. -/
  | lost (error : BrokerError)

/-- How far a publish has come. -/
inductive Phase where
  | arriving
  | awaitingPlace
  /-- A place in the window is taken. -/
  | placed
  | awaitingTurn
  | writing (sequence : Nat)
  | finished (result : Except BrokerError Nat)

/-- How many steps are left to a publish at most. -/
def Phase.stepsLeft : Phase → Nat
  | .arriving => 5
  | .awaitingPlace => 4
  | .placed => 3
  | .awaitingTurn => 2
  | .writing _ => 1
  | .finished _ => 0

/-- A publish. -/
structure Call where
  frame : Frame
  cancelled : Bool
  phase : Phase

/-- A written frame whose confirmation has not been dealt with. -/
structure Watch where
  sequence : Nat
  answer : Option Confirmation

/-- The publishes of one channel, by their order of arrival. -/
structure Lane where
  key : String
  next : Nat
  window : Gate
  turn : Gate
  calls : List Call
  watches : List Watch

/-- A lane that nothing was published on; the window has one place at least. -/
def Lane.new (key : String) (window : Nat) : Lane where
  key
  next := 1
  window := .ofPlaces (max window 1)
  turn := .ofPlaces 1
  calls := []
  watches := []

/-- Makes a lane that nothing was published on, as far as there is a gate for its window. -/
def Lane.make (key : String) (window : Nat) : Option Lane :=
  (Gate.make (max window 1)).map fun places => { Lane.new key window with window := places }

theorem Lane.make_eq (key : String) (window : Nat) :
    Lane.make key window = if max window 1 ≤ Gate.maxPlaces then some (.new key window) else none := by
  unfold Lane.make Gate.make
  split <;> rfl

/-- Whether every publish of a lane has its result. -/
def Lane.isIdle (l : Lane) : Bool :=
  l.calls.all fun c =>
    match c.phase with
    | .finished _ => true
    | _ => false

/-- A frame as it was handed to the wire. -/
structure Sent where
  call : Nat
  sequence : Nat
  frame : Frame
  /-- Whether the number was outstanding by then. -/
  outstanding : Bool

/-- A wire: what becomes of a frame at once, if anything does. -/
abbrev Wire (ω : Type) : Type := Frame → StateM ω (Option (Except BrokerError Unit))

/-- A lane at work: the tracker it shares with others, what it has handed to the wire and what it
has reported. -/
structure Desk where
  lane : Lane
  tracker : Tracker
  sent : List Sent
  log : List Log.Event

namespace Desk

/-- Moves a publish to a phase. -/
def setPhase (d : Desk) (i : Nat) (phase : Phase) : Desk :=
  { d with lane := { d.lane with calls := d.lane.calls.modify i fun c => { c with phase } } }

/-- Changes the window. -/
def onWindow (d : Desk) (f : Gate → Gate) : Desk :=
  { d with lane := { d.lane with window := f d.lane.window } }

/-- Changes the line of those who wait to write. -/
def onTurn (d : Desk) (f : Gate → Gate) : Desk :=
  { d with lane := { d.lane with turn := f d.lane.turn } }

/-- Starts a publish. -/
def call (d : Desk) (frame : Frame) (cancelled : Bool) : Desk :=
  { d with lane := { d.lane with calls := d.lane.calls ++ [⟨frame, cancelled, .arriving⟩] } }

/-- Fires the token of a publish. -/
def cancel (d : Desk) (i : Nat) : Desk :=
  { d with lane := { d.lane with
      calls := d.lane.calls.modify i fun c => { c with cancelled := true } } }

/-- Hands the frame of a publish to the wire: its number is outstanding first. -/
def write (d : Desk) (i : Nat) (frame : Frame) : Desk :=
  let sequence := d.lane.next
  let tracker := d.tracker.track d.lane.key sequence
  let sent : Sent :=
    ⟨i, sequence, frame.numbered sequence, tracker.contains d.lane.key sequence⟩
  { d.setPhase i (.writing sequence) with tracker, sent := d.sent ++ [sent] }

/-- The result of a publish that has one. -/
def result? (d : Desk) (i : Nat) : Option (Except BrokerError Nat) := do
  match (← d.lane.calls[i]?).phase with
  | .finished result => some result
  | _ => none

/-- Whether a publish can take a step of its own. -/
def canAdvance (d : Desk) (i : Nat) : Bool :=
  match d.lane.calls[i]? with
  | none => false
  | some c =>
    match c.phase with
    | .arriving | .placed => true
    | .awaitingPlace => c.cancelled || d.lane.window.isReady i
    | .awaitingTurn => c.cancelled || d.lane.turn.isReady i
    | .writing _ | .finished _ => false

/-- Lets a publish take a step of its own. At every wait a fired token comes first. -/
def advance (d : Desk) (i : Nat) : Desk :=
  match d.lane.calls[i]? with
  | none => d
  | some c =>
    match c.phase with
    | .arriving =>
      if c.cancelled then d.setPhase i (.finished (.error .cancelled))
      else (d.onWindow (·.arrive i)).setPhase i .awaitingPlace
    | .awaitingPlace =>
      if c.cancelled then (d.onWindow (·.leave i)).setPhase i (.finished (.error .cancelled))
      else if d.lane.window.isReady i then (d.onWindow (·.take i)).setPhase i .placed
      else d
    | .placed =>
      if c.cancelled then (d.onWindow (·.release)).setPhase i (.finished (.error .cancelled))
      else (d.onTurn (·.arrive i)).setPhase i .awaitingTurn
    | .awaitingTurn =>
      if c.cancelled then
        ((d.onTurn (·.leave i)).onWindow (·.release)).setPhase i (.finished (.error .cancelled))
      else if d.lane.turn.isReady i then (d.onTurn (·.take i)).write i c.frame
      else d
    | .writing _ | .finished _ => d

/-- Ends the write of a publish. A written frame uses up its number and is watched; the number of a
failed one is dropped, and the next write uses it. -/
def written (d : Desk) (i : Nat) (result : Except BrokerError Unit) : Desk :=
  match d.lane.calls[i]? with
  | some ⟨frame, _, .writing sequence⟩ =>
    match result with
    | .ok () =>
      let d := (d.onTurn (·.release)).setPhase i (.finished (.ok sequence))
      { d with lane := { d.lane with
          next := d.lane.next + 1
          watches := d.lane.watches ++ [⟨sequence, none⟩] } }
    | .error error =>
      let d := ((d.onTurn (·.release)).onWindow (·.release)).setPhase i (.finished (.error error))
      { d with
        tracker := d.tracker.forget d.lane.key sequence
        log := d.log ++ [.publishFailed error frame.exchange frame.routingKey sequence] }
  | _ => d

/-- Brings the confirmation of a number. One that was answered before, or that nobody waits for, is
ignored. -/
def confirm (d : Desk) (sequence : Nat) (answer : Confirmation) : Desk :=
  { d with lane := { d.lane with watches := d.lane.watches.map fun w =>
      if w.sequence = sequence ∧ w.answer.isNone then { w with answer := some answer } else w } }

/-- Every confirmation still to come will not come. -/
def loseAll (d : Desk) (error : BrokerError) : Desk :=
  { d with lane := { d.lane with watches := d.lane.watches.map fun w =>
      if w.answer.isNone then { w with answer := some (.lost error) } else w } }

/-- What is reported of a returned message. -/
def returnEvents : Option Returned → List Log.Event
  | none => []
  | some r => [.returned r.exchange r.routingKey r.reply r.properties.returnedSequence]

/-- Deals with a confirmation on the tracker, and reports what has to be reported. -/
def resolve (d : Desk) (sequence : Nat) : Confirmation → Desk
  | .ack returned =>
    { d with
      tracker := (d.tracker.ack d.lane.key sequence false).1
      log := d.log ++ returnEvents returned }
  | .nack returned =>
    { d with
      tracker := (d.tracker.nack d.lane.key sequence false).1
      log := d.log ++ returnEvents returned ++ [.nacked d.lane.key sequence] }
  | .notRequested => { d with tracker := (d.tracker.ack d.lane.key sequence false).1 }
  | .lost error =>
    { d with
      tracker := (d.tracker.nack d.lane.key sequence false).1
      log := d.log ++ [.confirmationLost error d.lane.key sequence] }

/-- Deals with an answered watch, whose place comes free. -/
def unwatch (d : Desk) (j : Nat) : Desk :=
  match d.lane.watches[j]? with
  | some ⟨sequence, some answer⟩ =>
    let d := (d.resolve sequence answer).onWindow (·.release)
    { d with lane := { d.lane with watches := d.lane.watches.eraseIdx j } }
  | _ => d

/-- Something that can happen on a desk without anybody's help. -/
inductive Task where
  | advance (call : Nat)
  | unwatch (watch : Nat)

/-- The first task there is. -/
def nextTask (d : Desk) : Option Task :=
  match (List.range d.lane.calls.length).find? d.canAdvance with
  | some i => some (.advance i)
  | none => (d.lane.watches.findIdx? fun w => w.answer.isSome).map .unwatch

/-- Does a task; a frame that it hands to the wire may be written at once. -/
def perform {ω : Type} (wire : Wire ω) (d : Desk) : Task → StateM ω Desk
  | .unwatch j => return d.unwatch j
  | .advance i => do
    let next := d.advance i
    match next.lane.calls[i]? with
    | some ⟨frame, _, .writing sequence⟩ =>
      match ← wire (frame.numbered sequence) with
      | some result => return next.written i result
      | none => return next
    | _ => return next

/-- A bound on the tasks a desk can do by itself: each takes a step from a publish or an answered
watch from the list. -/
def tasksLeft (d : Desk) : Nat :=
  d.lane.calls.foldl (fun n c => n + c.phase.stepsLeft) 0
    + d.lane.watches.countP fun w => w.answer.isSome

/-- Does up to `n` tasks. -/
def work {ω : Type} (wire : Wire ω) : Nat → Desk → StateM ω Desk
  | 0, d => return d
  | n + 1, d => do
    match d.nextTask with
    | none => return d
    | some task => work wire n (← d.perform wire task)

/-- Lets everything happen that can. -/
def settle {ω : Type} (wire : Wire ω) (d : Desk) : StateM ω Desk := work wire d.tasksLeft d

end Desk

end Courier.Confirm
