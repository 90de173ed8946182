import Courier.Confirm.Lane

/-!
# Runs of a lane

Everything that can happen to a lane, one step at a time and in any order: what its publishes, its
wire and its watchers do, and what others do to the tracker they share with it under keys of their
own. A run keeps beside the desk which confirmations the lane's watchers have dealt with, and what
the others have counted on the tracker.
-/

namespace Courier.Confirm
set_option autoImplicit false

/-- What can be done to a tracker. -/
inductive Tracker.Op where
  | track (channel : String) (n : Nat)
  | ack (channel : String) (tag : Nat) (multiple : Bool)
  | nack (channel : String) (tag : Nat) (multiple : Bool)
  | forget (channel : String) (n : Nat)

namespace Tracker

/-- The channel that is concerned. -/
def Op.channel : Op → String
  | track channel _ | ack channel _ _ | nack channel _ _ | forget channel _ => channel

/-- Does something to a tracker. -/
def act (t : Tracker) : Op → Tracker
  | .track channel n => t.track channel n
  | .ack channel tag multiple => (t.ack channel tag multiple).1
  | .nack channel tag multiple => (t.nack channel tag multiple).1
  | .forget channel n => t.forget channel n

end Tracker

/-- A step of a lane's own. -/
inductive Move where
  /-- A publish starts. -/
  | call (frame : Frame) (cancelled : Bool)
  /-- The token of a publish fires. -/
  | cancel (i : Nat)
  /-- A publish goes on. -/
  | advance (i : Nat)
  /-- The write of a publish ends. -/
  | written (i : Nat) (result : Except BrokerError Unit)
  /-- A confirmation arrives. -/
  | confirm (sequence : Nat) (answer : Confirmation)
  /-- Every confirmation still to come is lost. -/
  | loseAll (error : BrokerError)
  /-- A watcher deals with its confirmation. -/
  | unwatch (j : Nat)

namespace Desk

/-- Makes a move. -/
def act (d : Desk) : Move → Desk
  | .call frame cancelled => d.call frame cancelled
  | .cancel i => d.cancel i
  | .advance i => d.advance i
  | .written i result => d.written i result
  | .confirm sequence answer => d.confirm sequence answer
  | .loseAll error => d.loseAll error
  | .unwatch j => d.unwatch j

/-- The confirmation that a move deals with, under its number. -/
def dealing (d : Desk) : Move → List (Nat × Confirmation)
  | .unwatch j =>
    match d.lane.watches[j]? with
    | some ⟨sequence, some answer⟩ => [(sequence, answer)]
    | _ => []
  | _ => []

end Desk

/-- A desk, the confirmations its watchers have dealt with, and the counts that others have added to
the tracker. -/
structure Run where
  desk : Desk
  dealt : List (Nat × Confirmation)
  ackedElsewhere : Nat
  nackedElsewhere : Nat

namespace Run

/-- A lane that nothing was published on, on a tracker that nothing was recorded in. -/
def start (key : String) (window : Nat) : Run where
  desk := ⟨.new key window, .empty, [], []⟩
  dealt := []
  ackedElsewhere := 0
  nackedElsewhere := 0

/-- The lane makes a move. -/
def own (r : Run) (m : Move) : Run :=
  { r with desk := r.desk.act m, dealt := r.dealt ++ r.desk.dealing m }

/-- Somebody else does something to the tracker. -/
def elsewhere (r : Run) (op : Tracker.Op) : Run :=
  let tracker := r.desk.tracker.act op
  { r with
    desk := { r.desk with tracker }
    ackedElsewhere := r.ackedElsewhere + (tracker.acked - r.desk.tracker.acked)
    nackedElsewhere := r.nackedElsewhere + (tracker.nacked - r.desk.tracker.nacked) }

/-- The runs of a lane with a key and a window, the others keeping to other keys. -/
inductive Reachable (key : String) (window : Nat) : Run → Prop where
  | start : Reachable key window (start key window)
  | own {r : Run} (reached : Reachable key window r) (m : Move) : Reachable key window (r.own m)
  | elsewhere {r : Run} (reached : Reachable key window r) (op : Tracker.Op)
    (apart : op.channel ≠ key) : Reachable key window (r.elsewhere op)

end Run

end Courier.Confirm
