import Courier.Log

/-!
# Work

What a piece of work runs in: the world it acts on, the token that tells it to stop, and the log it
adds to. The world is left open; a broker, handlers or a test's stand-ins live there.
-/

namespace Courier
set_option autoImplicit false

/-- A world, a token that may have fired, and the log so far. -/
structure Surroundings (σ : Type) where
  world : σ
  cancelled : Bool := false
  log : List Log.Event := []

/-- Work in surroundings. -/
abbrev Work (σ α : Type) : Type := StateM (Surroundings σ) α

namespace Work
variable {σ α : Type}

/-- Adds an event to the log. -/
def report (event : Log.Event) : Work σ Unit :=
  modify fun s => { s with log := s.log ++ [event] }

/-- Whether the token has fired. -/
def isCancelled : Work σ Bool := return (← get).cancelled

/-- Fires the token. -/
def fire : Work σ Unit := modify fun s => { s with cancelled := true }

/-- Acts on the world. -/
def inWorld (act : StateM σ α) : Work σ α := fun s =>
  let (result, world) := act s.world
  (result, { s with world })

end Work

end Courier
