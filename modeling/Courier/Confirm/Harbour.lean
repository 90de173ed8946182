import Courier.Confirm.Run

/-!
# Harbours

Lanes that publish side by side and share one tracker. A step adds a lane or makes a move on one of
them, so that a run is any interleaving of what happens on the lanes.
-/

namespace Courier.Confirm
set_option autoImplicit false

/-- A lane and what it has handed to the wire. -/
structure Berth where
  lane : Lane
  sent : List Sent

/-- Lanes, the tracker they share, and what they have reported. -/
structure Harbour where
  berths : List Berth
  tracker : Tracker
  log : List Log.Event

namespace Harbour

/-- A harbour without lanes. -/
def empty : Harbour := ⟨[], .empty, []⟩

/-- A lane at work. -/
def desk? (h : Harbour) (k : Nat) : Option Desk :=
  h.berths[k]?.map fun b => ⟨b.lane, h.tracker, b.sent, h.log⟩

/-- Puts a lane back after work. -/
def put (h : Harbour) (k : Nat) (d : Desk) : Harbour where
  berths := h.berths.set k ⟨d.lane, d.sent⟩
  tracker := d.tracker
  log := d.log

/-- What can happen. -/
inductive Step where
  /-- A lane is added. -/
  | launch (key : String) (window : Nat)
  /-- A move is made on a lane. -/
  | move (lane : Nat) (move : Move)

/-- Takes a step. -/
def act (h : Harbour) : Step → Harbour
  | .launch key window => { h with berths := h.berths ++ [⟨.new key window, []⟩] }
  | .move k m =>
    match h.desk? k with
    | none => h
    | some d => h.put k (d.act m)

/-- The harbour after some steps. -/
def after (steps : List Step) : Harbour := steps.foldl act empty

end Harbour

end Courier.Confirm
