import Courier.Link.Server
import Courier.Publication.Terminal
import Courier.Retry
import Courier.Settings

/-!
# Links

A service's connection to the broker and the channels it keeps on it, by the name of what they are
for. Connection and channels are opened when they are first needed and again when they were lost.
Every channel instance has a generation of its own, under which its confirmations are tracked.
-/

namespace Courier
set_option autoImplicit false
open Amqp Confirm

/-- How a channel is set up. -/
structure ChannelOptions where
  confirms : Bool
  /-- How many publishes may wait for their confirmation. -/
  window : Nat
  deriving DecidableEq

namespace ChannelOptions

/-- A channel to publish on, with a window of one publish at least. -/
def publishing (window : Nat) : ChannelOptions := ⟨true, max window 1⟩

/-- A channel with the usual window. -/
def default : ChannelOptions := publishing defaultMaxOutstandingConfirms

end ChannelOptions

/-- The name that confirmations of a channel instance are tracked under. -/
def confirmKey (key : String) (generation : Nat) : String := key ++ "#" ++ toString generation

/-- A channel instance. -/
structure Channel where
  key : String
  generation : Nat
  /-- The server's number of the channel. -/
  handle : Nat
  lane : Lane

/-- A link and the server's world. The instances are all that were ever made; the cache holds the
one of each key that was made last, by its place among them. -/
structure Link (σ : Type) where
  settings : Settings
  policy : RetryPolicy := .requeue
  connection : Option Nat := none
  instances : List Channel := []
  cache : List (String × Nat) := []
  generations : Nat := 0
  tracker : Tracker := .empty
  server : σ

namespace Link
variable {σ : Type}

/-- Work on a link, which may fail. -/
abbrev Step (σ α : Type) : Type := ExceptT BrokerError (StateM (Surroundings (Link σ))) α

/-- The link. -/
def current : Step σ (Link σ) := return (← get).world

/-- Changes the link. -/
def change (f : Link σ → Link σ) : Step σ Unit := modify fun s => { s with world := f s.world }

/-- Adds an event to the log. -/
def report (event : Log.Event) : Step σ Unit := modify fun s => { s with log := s.log ++ [event] }

/-- Lets the server act. -/
def onServer {α : Type} (act : StateM σ α) : Step σ α := do
  let link ← current
  let (result, server) := act link.server
  change fun link => { link with server }
  return result

/-- Puts a request; a refusal is reported and becomes a failure. -/
def demand (server : Server σ) (request : Request) (event : String → Log.Event)
    (error : BrokerError) : Step σ Unit := do
  if let .error reason ← onServer (server.request request) then
    report (event reason)
    throw error

/-- Opens a connection. -/
def reconnect (server : Server σ) : Step σ Nat := do
  let link ← current
  match ← onServer (server.connect link.settings.uri link.settings.appName) with
  | .ok connection =>
    change fun link => { link with connection := some connection }
    return connection
  | .error reason =>
    report (.connectFailed reason)
    throw (.connection reason)

/-- The open connection, made anew where there is none or it was lost. -/
def connect (server : Server σ) : Step σ Nat := do
  let link ← current
  if let some connection := link.connection then
    if server.isConnected link.server connection then
      return connection
    report .reconnecting
  reconnect server

/-- The instance that is cached for a key, with its place. -/
def cached? (link : Link σ) (key : String) : Option (Nat × Channel) := do
  let i ← link.cache.lookup key
  return (i, ← link.instances[i]?)

/-- Uses up a generation. -/
def nextGeneration (link : Link σ) : Link σ := { link with generations := link.generations + 1 }

/-- Adds an instance and caches it for its key. -/
def addChannel (link : Link σ) (c : Channel) : Link σ :=
  { link with
    instances := link.instances ++ [c]
    cache := (c.key, link.instances.length) :: link.cache.filter fun entry => entry.1 ≠ c.key }

/-- Makes an instance of the next generation and caches it, by its place. Where there is no gate for
the window, whoever asks is aborted, which is an internal failure to those who wait for it: the
generation is used up and nothing is made. -/
def makeChannel (key : String) (handle : Nat) (options : ChannelOptions) : Step σ Nat := do
  change nextGeneration
  let link ← current
  match Lane.make (confirmKey key link.generations) options.window with
  | none => throw .internal
  | some lane =>
    change (·.addChannel ⟨key, link.generations, handle, lane⟩)
    return link.instances.length

/-- Opens a channel, with confirmations where they are wanted, and makes an instance of it. -/
def openChannel (server : Server σ) (key : String) (options : ChannelOptions) : Step σ Nat := do
  let connection ← connect server
  match ← onServer (server.openChannel connection) with
  | .error reason =>
    report (.channelFailed reason key)
    throw (.channel key)
  | .ok handle =>
    if options.confirms then
      demand server (.confirmSelect handle) (.confirmSelectFailed · key) (.confirmSelect key)
    makeChannel key handle options

/-- The open channel of a key, by its place, made anew where there is none or it was lost. An open
one is taken as it is, whatever the options. -/
def channel (server : Server σ) (key : String) (options : ChannelOptions) : Step σ Nat := do
  let link ← current
  if let some (i, c) := link.cached? key then
    if server.isOpen link.server c.handle then
      return i
  openChannel server key options

/-- Puts declarations on a channel. -/
def declarer (server : Server σ) (handle : Nat) : Declarer (Surroundings (Link σ)) :=
  fun declaration =>
    demand server (.declare handle declaration) (declaration.refusal ·) declaration.refused

/-- The server's number of a channel. -/
def handle (link : Link σ) (i : Nat) : Nat := (link.instances[i]?.map (·.handle)).getD 0

/-- Declares a queue, its side queues, a durable exchange, and what the queue takes from it. -/
def declareQueue (server : Server σ) (queue : Queue) (exchange routingKey : String) :
    Step σ Unit := do
  let i ← channel server queue.name .default
  (Topology.single queue exchange routingKey).install (declarer server ((← current).handle i))

/-- Declares the queue of a name under the link's policy. -/
def declare (server : Server σ) (queue exchange routingKey : String) : Step σ Unit := do
  declareQueue server ((← current).policy.queue queue) exchange routingKey

/-- Bounds the deliveries that may be under way on a channel. -/
def limit (server : Server σ) (i : Nat) (prefetch : Nat) : Step σ Unit := do
  let link ← current
  let key := (link.instances[i]?.map (·.key)).getD ""
  demand server (.limit (link.handle i) prefetch) .prefetchFailed (.prefetch key)

/-- The desk of a channel. -/
def desk (link : Link σ) (c : Channel) : Desk := ⟨c.lane, link.tracker, [], []⟩

/-- Puts a desk back to its channel and keeps what it reported. -/
def putDesk (i : Nat) (d : Desk) : Step σ Unit := do
  change fun link =>
    { link with
      tracker := d.tracker
      instances := link.instances.modify i fun c => { c with lane := d.lane } }
  modify fun s => { s with log := s.log ++ d.log }

/-- The wire of a channel. -/
def wire (server : Server σ) (handle : Nat) : Wire σ := fun frame => do
  match ← server.request (.publish handle frame true) with
  | .ok () => return some (.ok ())
  | .error reason => return some (.error (.publish reason))

/-- Publishes a frame on a channel instance. A publish for which the window has no place ends by its
token, as nothing else could end it. -/
def publishOn (server : Server σ) (i : Nat) (frame : Frame) (cancelled : Bool) : Step σ Nat := do
  let link ← current
  match link.instances[i]? with
  | none => throw .internal
  | some c =>
    let call := c.lane.calls.length
    let d ← onServer ((link.desk c |>.call frame cancelled).settle (wire server c.handle))
    let d ← onServer ((d.cancel call).settle (wire server c.handle))
    putDesk i d
    match d.result? call with
    | some result => MonadExcept.ofExcept result
    | none => throw .cancelled

/-- Publishes a frame on the channel of its exchange, with the window of the settings. -/
def publish (server : Server σ) (frame : Frame) : Step σ Nat := do
  let cancelled := (← get).cancelled
  if cancelled then
    throw .cancelled
  let i ← channel server frame.exchange
    (.publishing (← current).settings.maxOutstandingConfirms)
  publishOn server i frame cancelled

/-- A broker for publishers, over a link. -/
def broker (server : Server σ) : Broker (Link σ) where
  declare queue exchange routingKey := some <$> (declare server queue exchange routingKey).run
  publish frame := (publish server frame).run

/-- Takes the broker's confirmation of a number on a channel instance. -/
def confirm (server : Server σ) (i : Nat) (sequence : Nat) (answer : Confirmation) :
    Step σ Unit := do
  let link ← current
  if let some c := link.instances[i]? then
    putDesk i (← onServer (((link.desk c).confirm sequence answer).settle (wire server c.handle)))

/-- Takes it that no confirmation will come any more on a channel instance. -/
def loseAll (server : Server σ) (i : Nat) (error : BrokerError) : Step σ Unit := do
  let link ← current
  if let some c := link.instances[i]? then
    putDesk i (← onServer (((link.desk c).loseAll error).settle (wire server c.handle)))

/-- Closes a cached channel if it is open; that this fails is reported only. -/
def closeChannel (server : Server σ) (key : String) (i : Nat) : Step σ Unit := do
  let link ← current
  if let some c := link.instances[i]? then
    if server.isOpen link.server c.handle then
      if let .error reason ← onServer (server.request (.closeChannel c.handle)) then
        report (.closeChannelFailed reason key)

/-- Closes the channels, then the connection. Nothing is kept, whatever fails. -/
def shutdown (server : Server σ) : Step σ Unit := do
  let cache := (← current).cache
  change fun link => { link with cache := [] }
  cache.forM fun (key, i) => closeChannel server key i
  let link ← current
  change fun link => { link with connection := none }
  if let some connection := link.connection then
    if server.isConnected link.server connection then
      demand server (.closeConnection connection) .closeConnectionFailed (.close "connection")

end Link

end Courier
