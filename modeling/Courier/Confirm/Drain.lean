import Courier.Confirm.Run

/-!
# Waiting for the last confirmation

Those who wait until nothing is outstanding. A waiter listens before it looks at the tracker. If it
finds something outstanding it sleeps until it has heard that nothing was, and begins again, since
something may have been published in between. Whatever takes numbers out of the tracker and leaves
it empty is heard by all who listen.

Waiters go by single steps, with anything done to the tracker between them (`Drain.act`); `wait` and
`poll` let one go as far as it can.
-/

namespace Courier.Confirm
set_option autoImplicit false

/-- Where a waiter is in its loop. One that listens or sleeps may have heard that nothing was
outstanding. -/
inductive Waiter where
  | starting
  | listening (heard : Bool)
  | asleep (heard : Bool)
  | done
  deriving DecidableEq

namespace Waiter

/-- A waiter when it is told that nothing is outstanding. -/
def hear : Waiter → Waiter
  | .listening _ => .listening true
  | .asleep _ => .asleep true
  | w => w

/-- A waiter after its next step. -/
def step (t : Tracker) : Waiter → Waiter
  | .starting => .listening false
  | .listening heard => if t.isEmpty then .done else .asleep heard
  | .asleep true => .starting
  | .asleep false => .asleep false
  | .done => .done

end Waiter

/-- A tracker and its waiters. -/
structure Drain (ι : Type) where
  tracker : Tracker
  waiters : List (ι × Waiter)

namespace Drain
variable {ι : Type}

/-- An empty tracker without waiters. -/
def empty : Drain ι := ⟨.empty, []⟩

/-- Tells those who listen if nothing is outstanding. -/
def notify (d : Drain ι) : Drain ι :=
  if d.tracker.isEmpty then { d with waiters := d.waiters.map fun (i, w) => (i, w.hear) }
  else d

/-- Records a number as outstanding. -/
def track (d : Drain ι) (channel : String) (n : Nat) : Drain ι :=
  { d with tracker := d.tracker.track channel n }

/-- Takes a confirmation. -/
def ack (d : Drain ι) (channel : String) (tag : Nat) (multiple : Bool) : Drain ι × Nat :=
  let (tracker, count) := d.tracker.ack channel tag multiple
  ({ d with tracker }.notify, count)

/-- Takes a refusal. -/
def nack (d : Drain ι) (channel : String) (tag : Nat) (multiple : Bool) : Drain ι × Nat :=
  let (tracker, count) := d.tracker.nack channel tag multiple
  ({ d with tracker }.notify, count)

/-- Drops a number that was never written. -/
def forget (d : Drain ι) (channel : String) (n : Nat) : Drain ι :=
  { d with tracker := d.tracker.forget channel n }.notify

/-- Does something to the tracker. -/
def perform (d : Drain ι) : Tracker.Op → Drain ι
  | .track channel n => d.track channel n
  | .ack channel tag multiple => (d.ack channel tag multiple).1
  | .nack channel tag multiple => (d.nack channel tag multiple).1
  | .forget channel n => d.forget channel n

variable [DecidableEq ι]

/-- Adds a waiter, in the place of an older one of its name. -/
def join (d : Drain ι) (i : ι) : Drain ι :=
  { d with waiters := d.waiters.filter (fun (j, _) => j ≠ i) ++ [(i, .starting)] }

/-- Lets a waiter take a step. -/
def advance (d : Drain ι) (i : ι) : Drain ι :=
  { d with waiters := d.waiters.map fun (j, w) => (j, if j = i then w.step d.tracker else w) }

/-- Starts to wait: the new waiter listens, and looks. -/
def wait (d : Drain ι) (i : ι) : Drain ι := ((d.join i).advance i).advance i

/-- Lets a waiter go on: one that has heard begins again, listens, and looks; others stay as they
are. -/
def poll (d : Drain ι) (i : ι) : Drain ι := ((d.advance i).advance i).advance i

/-- Where a waiter is. -/
def waiter? (d : Drain ι) (i : ι) : Option Waiter := d.waiters.lookup i

/-- Whether a waiter is still there. -/
def isWaiting (d : Drain ι) (i : ι) : Bool := (d.waiter? i).any (· ≠ .done)

/-- Something that can happen. -/
inductive Act (ι : Type) where
  /-- A waiter is added. -/
  | join (i : ι)
  /-- A waiter takes a step. -/
  | advance (i : ι)
  /-- Something is done to the tracker. -/
  | perform (op : Tracker.Op)

/-- A tracker and its waiters after something has happened. -/
def act (d : Drain ι) : Act ι → Drain ι
  | .join i => d.join i
  | .advance i => d.advance i
  | .perform op => d.perform op

/-- A tracker and its waiters after some things have happened. -/
def after (acts : List (Act ι)) : Drain ι := acts.foldl act empty

end Drain

end Courier.Confirm
