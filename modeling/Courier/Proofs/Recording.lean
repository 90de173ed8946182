import Courier.Publication.Terminal
import Courier.Reception

/-!
# Recording what is handed over

Any broker and any scope can be watched: the world they act on is put beside a list of what was
handed to them, and they do what they did before.
-/

namespace Courier
set_option autoImplicit false

variable {σ τ α : Type}

/-- Work in a world that has something beside it, which the work leaves alone. -/
def Work.beside (act : Work σ α) : Work (σ × τ) α := fun s =>
  let (result, t) := act ⟨s.world.1, s.cancelled, s.log⟩
  (result, ⟨(t.world, s.world.2), t.cancelled, t.log⟩)

/-- Adds to the list beside the world. -/
def Work.record (x : τ) : Work (σ × List τ) Unit :=
  modify fun s => { s with world := (s.world.1, s.world.2 ++ [x]) }

/-- A broker that records the frames it is given. -/
def Broker.recorded (broker : Broker σ) : Broker (σ × List Confirm.Frame) where
  declare queue exchange routingKey := (broker.declare queue exchange routingKey).beside
  publish frame := do
    Work.record frame
    (broker.publish frame).beside

/-- A handler's turn: the type it is there for, and what it was given. -/
structure Turn where
  contract : Contract
  message : Message
  context : MessageContext

/-- The handler of a type, recording its turns. -/
def Handler.recorded (c : Contract) (handler : Handler σ) : Handler (σ × List Turn) :=
  fun m context => do
    Work.record ⟨c, m, context⟩
    (handler m context).beside

/-- A scope whose handlers record their turns. -/
def Scope.recorded (s : Scope σ) : Scope (σ × List Turn) where
  handlers c := (s.handlers c).map (Handler.recorded c)
  flow := s.flow

/-- Opens a scope whose handlers record their turns. -/
def Scope.openRecorded (opening : Work σ (Scope σ)) : Work (σ × List Turn) (Scope (σ × List Turn)) :=
  return (← opening.beside).recorded

/-- A recording broker records a frame once, whatever it answers. -/
theorem Broker.record_publish (broker : Broker σ) (frame : Confirm.Frame)
    (s : Surroundings (σ × List Confirm.Frame)) :
    (broker.recorded.publish frame s).2.world.2 = s.world.2 ++ [frame] := rfl

/-- A scope with a handler for the type of a message records one turn when it is invoked. -/
theorem Scope.record_invoke {scope : Scope σ} {m : Message}
    (handled : (scope.handlers m.contract).isSome) (context : MessageContext)
    (s : Surroundings (σ × List Turn)) :
    (scope.recorded.invoke m context s).2.world.2 = s.world.2 ++ [⟨m.contract, m, context⟩] := by
  obtain ⟨handler, found⟩ := Option.isSome_iff_exists.1 handled
  have recorded : scope.recorded.handlers m.contract = some (handler.recorded m.contract) :=
    congrArg (Option.map (Handler.recorded m.contract)) found
  unfold invoke
  rw [recorded]
  rfl

end Courier
