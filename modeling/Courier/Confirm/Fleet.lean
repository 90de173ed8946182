import Courier.Confirm.Lane

/-!
# Lanes by name

Several lanes on one tracker. What happens on one lane moves no publish of another; all they share
is the tracker. A lane gives way to a newer one of its name: it is closed as soon as no publish of
it is under way, and the confirmations it still waits for are lost.
-/

namespace Courier.Confirm
set_option autoImplicit false

/-- Lanes, the newest of a name being the one it stands for, and the tracker they share. -/
structure Fleet where
  lanes : List (String × Lane) := []
  tracker : Tracker := .empty
  /-- What was handed to the wire, with the lane it came from. -/
  sent : List (Nat × Sent) := []
  log : List Log.Event := []

namespace Fleet

/-- The newest lane of a name, by its place. -/
def find? (f : Fleet) (name : String) : Option Nat :=
  (f.lanes.reverse.findIdx? fun l => l.1 = name).map fun behind => f.lanes.length - 1 - behind

/-- The desk of a lane. -/
def desk? (f : Fleet) (i : Nat) : Option Desk :=
  f.lanes[i]?.map fun l => ⟨l.2, f.tracker, [], []⟩

/-- Whether a lane has given way to a newer one of its name. -/
def isReplaced (f : Fleet) (i : Nat) : Bool :=
  match f.lanes[i]? with
  | some (name, _) => f.find? name != some i
  | none => false

/-- The keys of the lanes that have not given way. -/
def keys (f : Fleet) : List String :=
  (f.lanes.zipIdx.filter fun (_, i) => !f.isReplaced i).map fun ((_, lane), _) => lane.key

/-- Does something to a lane, and lets everything happen on it that follows. -/
def perform {ω : Type} (wire : Wire ω) (f : Fleet) (i : Nat) (change : Desk → Desk) :
    StateM ω Fleet := do
  match f.desk? i with
  | none => return f
  | some d =>
    let d ← (change d).settle wire
    return {
      lanes := f.lanes.modify i fun l => (l.1, d.lane)
      tracker := d.tracker
      sent := f.sent ++ d.sent.map fun s => (i, s)
      log := f.log ++ d.log }

/-- Closes a lane. Nothing is under way on it, so nothing is written either. -/
def close (f : Fleet) (i : Nat) : Fleet :=
  let silent : Wire Unit := fun _ => return none
  ((f.perform silent i fun d => d.loseAll (.channel "closed")).run ()).1

/-- Closes every lane that has given way and is idle. -/
def closeReplaced (f : Fleet) : Fleet :=
  (List.range f.lanes.length).foldl (fun f i =>
    match f.desk? i with
    | some d => if f.isReplaced i && d.lane.isIdle then f.close i else f
    | none => f) f

/-- Adds a lane. -/
def launch (f : Fleet) (name key : String) (window : Nat) : Fleet :=
  closeReplaced { f with lanes := f.lanes ++ [(name, .new key window)] }

/-- Does something to a lane, and lets everything happen that follows from it. -/
def act {ω : Type} (wire : Wire ω) (f : Fleet) (i : Nat) (change : Desk → Desk) :
    StateM ω Fleet :=
  closeReplaced <$> f.perform wire i change

/-- The result of a publish on a lane, once it has one. -/
def result? (f : Fleet) (i call : Nat) : Option (Except BrokerError Nat) := do
  (← f.desk? i).result? call

/-- The publish whose frame a lane is writing. -/
def writing? (f : Fleet) (i : Nat) : Option Nat := do
  (← f.desk? i).lane.calls.findIdx? fun c =>
    match c.phase with
    | .writing _ => true
    | _ => false

end Fleet

end Courier.Confirm
