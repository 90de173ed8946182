/-!
# Gates

A number of places that are given out first come, first served. Whoever finds none free waits; a
place that comes back goes to the first in line, who holds it from then on even before noticing.
-/

namespace Courier.Confirm
set_option autoImplicit false

/-- Free places, those in line, and those whose place is ready but not yet taken up. -/
structure Gate where
  free : Nat
  waiting : List Nat
  ready : List Nat
  deriving DecidableEq

namespace Gate

/-- A gate of `n` free places. -/
def ofPlaces (n : Nat) : Gate := ⟨n, [], []⟩

/-- The most places that a gate can be made with. -/
def maxPlaces : Nat := Nat.pow 2 61 - 1

/-- Makes a gate of `n` free places. There is none of more places than a gate can be made with: who
asks for one is aborted. -/
def make (n : Nat) : Option Gate := if n ≤ maxPlaces then some (ofPlaces n) else none

/-- Joins the line; a free place is ready at once. -/
def arrive (g : Gate) (i : Nat) : Gate :=
  if 0 < g.free then { g with free := g.free - 1, ready := g.ready ++ [i] }
  else { g with waiting := g.waiting ++ [i] }

/-- Gives a place back, to the first in line if there is one. -/
def release (g : Gate) : Gate :=
  match g.waiting with
  | [] => { g with free := g.free + 1 }
  | i :: rest => { g with waiting := rest, ready := g.ready ++ [i] }

/-- Whether a place is ready for `i`. -/
def isReady (g : Gate) (i : Nat) : Bool := g.ready.contains i

/-- Takes up a place that is ready. -/
def take (g : Gate) (i : Nat) : Gate := { g with ready := g.ready.erase i }

/-- Leaves the line; a place that was ready goes back. -/
def leave (g : Gate) (i : Nat) : Gate :=
  if g.isReady i then (g.take i).release else { g with waiting := g.waiting.erase i }

end Gate

end Courier.Confirm
