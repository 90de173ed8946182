import Courier.Instant
import Courier.Uuid

/-!
# Fresh identifiers and the time

What a program takes from outside without asking for it by name: identifiers that nobody used
before, and readings of the clock. Both are sequences, read from the front.
-/

namespace Courier
set_option autoImplicit false

/-- Identifiers and clock readings still to come, with the number of each already taken. -/
structure Supply where
  ids : Nat → Uuid
  clock : Nat → Instant
  drawn : Nat
  read : Nat

namespace Supply

/-- A supply of which nothing has been taken. -/
def fresh (ids : Nat → Uuid) (clock : Nat → Instant) : Supply := ⟨ids, clock, 0, 0⟩

/-- The next identifier. -/
def drawId (s : Supply) : Uuid × Supply := (s.ids s.drawn, { s with drawn := s.drawn + 1 })

/-- The time. -/
def readClock (s : Supply) : Instant × Supply := (s.clock s.read, { s with read := s.read + 1 })

end Supply

end Courier
