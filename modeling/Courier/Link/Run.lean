import Courier.Confirm.Run
import Courier.Link

/-!
# Runs of a link

Everything that can happen to a link, one step at a time and in any order: channels are asked for,
their lanes move, the connection is opened or given up, and the server does what it likes by itself.
Whoever asks for a channel has the cache alone until it is found or made, so that this is one step.
-/

namespace Courier.Link
set_option autoImplicit false
open Confirm

variable {σ : Type}

/-- Makes a move on the lane of a channel instance. -/
def move (i : Nat) (m : Move) : Step σ Unit := do
  let link ← current
  if let some c := link.instances[i]? then
    putDesk i ((link.desk c).act m)

/-- Begins a publish on the channel of its exchange, with the window of the settings. -/
def begin (server : Server σ) (frame : Frame) (cancelled : Bool) : Step σ Unit := do
  let i ← channel server frame.exchange
    (.publishing (← current).settings.maxOutstandingConfirms)
  move i (.call frame cancelled)

/-- Something that can happen. -/
inductive Act (σ : Type) where
  /-- A channel is asked for. -/
  | channel (key : String) (options : ChannelOptions)
  /-- A publish begins. -/
  | begin (frame : Frame) (cancelled : Bool)
  /-- A queue is declared. -/
  | declare (queue exchange routingKey : String)
  /-- The lane of an instance moves. -/
  | move (i : Nat) (m : Move)
  /-- The connection is asked for. -/
  | connect
  /-- The cache is emptied, as a shutdown begins. -/
  | forget
  /-- The connection is given up, as a shutdown ends. -/
  | disconnect
  /-- The server acts, by itself or because it was asked to. -/
  | server (change : σ → σ)
  /-- Something is reported. -/
  | report (event : Log.Event)

/-- What a link does when something happens. -/
def Act.step (server : Server σ) : Act σ → Step σ Unit
  | .channel key options => do
    let _ ← Link.channel server key options
    return
  | .begin frame cancelled => Link.begin server frame cancelled
  | .declare queue exchange routingKey => Link.declare server queue exchange routingKey
  | .move i m => Link.move i m
  | .connect => do
    let _ ← Link.connect server
    return
  | .forget => change fun link => { link with cache := [] }
  | .disconnect => change fun link => { link with connection := none }
  | .server f => change fun link => { link with server := f link.server }
  | .report event => Link.report event

/-- The surroundings after something has happened, whether it failed or not. -/
def act (server : Server σ) (s : Surroundings (Link σ)) (a : Act σ) : Surroundings (Link σ) :=
  ((a.step server).run s).2

/-- The surroundings after some things have happened. -/
def after (server : Server σ) (acts : List (Act σ)) (s : Surroundings (Link σ)) :
    Surroundings (Link σ) :=
  acts.foldl (act server) s

/-- A link that has not been used. -/
def fresh (settings : Settings) (policy : RetryPolicy) (world : σ) : Surroundings (Link σ) :=
  { world := { settings, policy, server := world } }

end Courier.Link
