import Courier.Dispatch.Service

/-!
# What the loops of a service draw on

Every loop of a service has a feed, the items that the stream of its queue brings one after the
other, and polls it while it waits. It looks at its token before it polls. The token may fire while
the feed is polled as well, and is looked at again only if the feed turns out to have ended.
-/

namespace Courier
set_option autoImplicit false

variable {σ : Type}

/-- An item of a stream. -/
inductive Item where
  | delivery (delivery : Delivery)
  | failure (reason : String)

/-- The items of a stream by their positions; from its end on there is none. -/
abbrev Feed := Nat → Option Item

namespace Worker

/-- Polls a feed at a position, while which the token may fire. With the loop and what it did comes
the position that it is at then. -/
def poll (w : Worker σ) (feed : Feed) (n : Nat) (fires : Bool) :
    Work (Link σ) (Worker σ × List Deed × Nat) := do
  if ← Work.isCancelled then
    return (w.setState (.stopped .cancelled), [], n)
  if fires then
    Work.fire
  match feed n with
  | some (.delivery d) => return ({ w with stage := .taken d }, [.took d], n + 1)
  | some (.failure reason) =>
    Work.report (.streamFailed reason w.consumer.queue.name)
    return (w, [], n + 1)
  | none =>
    if ← Work.isCancelled then
      return (w.setState (.stopped .cancelled), [], n)
    Work.report (.streamEnded w.consumer.queue.name)
    return (w.setState (.stopped .streamEnded), [], n)

/-- A way for a loop to go on other than with an item. -/
inductive Turn where
  /-- It waits, and nothing comes but perhaps the token. -/
  | notice
  | handle
  | settle
  | abort

/-- The step that is taken. -/
def Turn.step : Turn → Step
  | notice => .notice
  | handle => .handle
  | settle => .settle
  | abort => .abort

/-- Whether the loop can poll. -/
def isIdle (w : Worker σ) : Bool :=
  w.isRunning && match w.stage with
    | .waiting => true
    | _ => false

end Worker

/-- A service, and how many items its loops have drawn from their feeds. -/
structure Intake (σ : Type) where
  service : Service σ
  drawn : Nat → Nat

namespace Intake

/-- A service that begins, with nothing drawn. -/
def start (registry : Registry) (around : Surroundings (Link σ)) : Intake σ :=
  ⟨.start registry around, fun _ => 0⟩

/-- Something that can happen. -/
inductive Move (σ : Type) where
  /-- A loop polls its feed, and the token may fire meanwhile. -/
  | poll (k : Nat) (fires : Bool)
  /-- A loop goes on otherwise. -/
  | turn (k : Nat) (turn : Worker.Turn)
  /-- The next queue is set up, and its loop is started. -/
  | setUp
  /-- The dispatch returns, if it waits for its loops and they have stopped. -/
  | join
  /-- The token fires. -/
  | cancel
  /-- Something happens to the link. -/
  | elsewhere (change : Link σ → Link σ)

/-- Lets a loop poll its feed, if it waits. -/
def poll (feeds : Nat → Feed) (s : Intake σ) (k : Nat) (fires : Bool) : Intake σ :=
  match s.service.workers[k]? with
  | none => s
  | some w =>
    if w.isIdle then
      let ((w, deeds, n), around) := (w.poll (feeds k) (s.drawn k) fires).run s.service.around
      { service := s.service.put k w deeds around
        drawn := fun j => if j = k then n else s.drawn j }
    else s

/-- Makes a move. -/
def act (server : Server σ) (routing : String → Route)
    (receive : Octets → Work (Link σ) (Except MessagingError Unit)) (feeds : Nat → Feed)
    (s : Intake σ) (m : Move σ) : Intake σ :=
  let ofService (m : Service.Move σ) := { s with service := s.service.act server routing receive m }
  match m with
  | .poll k fires => s.poll feeds k fires
  | .turn k turn => ofService (.loop k turn.step)
  | .setUp => ofService .setUp
  | .join => ofService .join
  | .cancel => ofService .cancel
  | .elsewhere change => ofService (.elsewhere change)

/-- The service after some moves. -/
def after (server : Server σ) (routing : String → Route)
    (receive : Octets → Work (Link σ) (Except MessagingError Unit)) (feeds : Nat → Feed)
    (moves : List (Move σ)) (s : Intake σ) : Intake σ :=
  moves.foldl (act server routing receive feeds) s

end Intake

end Courier
