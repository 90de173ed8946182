import Courier.Dispatch

/-!
# Services

A dispatch as it runs. The queues of its registry are set up one after the other, and the loops that
have been started take deliveries meanwhile, each at its own pace. Loops do not look at whether the
dispatch has returned.
-/

namespace Courier
set_option autoImplicit false

variable {σ : Type}

/-! ## Loops -/

/-- Where a loop is with its deliveries. -/
inductive Worker.Stage where
  /-- It waits for the next one. -/
  | waiting
  | taken (delivery : Delivery)
  | handled (delivery : Delivery) (outcome : Except MessagingError Unit)

/-- A loop that was started, and the consumer it works for. -/
structure Worker (σ : Type) where
  loop : ConsumerLoop
  consumer : Consumer (Link σ)
  stage : Worker.Stage := .waiting

namespace Worker

/-- What a loop did with a delivery. -/
inductive Deed where
  | took (delivery : Delivery)
  | handled (delivery : Delivery) (outcome : Except MessagingError Unit)
  | settled (delivery : Delivery) (outcome : Except MessagingError Unit)

/-- A way for a loop to go on. -/
inductive Step where
  /-- It waits and comes upon something. -/
  | encounter (happening : Happening)
  /-- It waits and sees whether the token has fired. -/
  | notice
  /-- Its handler is done with the delivery that it took. -/
  | handle
  /-- It settles the delivery that was handled. -/
  | settle
  /-- It is brought down. -/
  | abort

/-- Whether the loop goes on. -/
def isRunning (w : Worker σ) : Bool := w.loop.state = .running

/-- The loop in another state. -/
def setState (w : Worker σ) (state : LoopState) : Worker σ :=
  { w with loop := { w.loop with state } }

/-- A loop that waits comes upon something; a token that has fired comes first. -/
def encounter (w : Worker σ) (happening : Happening) : Work (Link σ) (Worker σ × List Deed) := do
  if ← Work.isCancelled then
    return (w.setState (.stopped .cancelled), [])
  match happening with
  | .delivery d => return ({ w with stage := .taken d }, [.took d])
  | .streamError reason =>
    Work.report (.streamFailed reason w.consumer.queue.name)
    return (w, [])
  | .streamEnd =>
    Work.report (.streamEnded w.consumer.queue.name)
    return (w.setState (.stopped .streamEnded), [])
  | .cancellation =>
    Work.fire
    return (w, [])

/-- Lets a loop that is running go on, if it is where it can go on in this way. -/
def goOn (w : Worker σ) : Stage → Step → Work (Link σ) (Worker σ × List Deed)
  | .waiting, .encounter happening => w.encounter happening
  | .waiting, .notice => do
    if ← Work.isCancelled then
      return (w.setState (.stopped .cancelled), [])
    return (w, [])
  | .taken d, .handle => do
    let outcome ← w.consumer.attend d
    return ({ w with stage := .handled d outcome }, [.handled d outcome])
  | .handled d outcome, .settle => do
    w.consumer.conclude d outcome
    return ({ w with stage := .waiting }, [.settled d outcome])
  | _, .abort => return (w.setState .aborted, [])
  | _, _ => return (w, [])

/-- Lets a loop go on. -/
def step (w : Worker σ) (step : Step) : Work (Link σ) (Worker σ × List Deed) :=
  if w.isRunning then w.goOn w.stage step else return (w, [])

end Worker

/-! ## All of them -/

/-- A dispatch as it runs: the types that are not set up yet, the loops that were started, what they
did, by their place, and the result of the dispatch once it has returned. -/
structure Service (σ : Type) where
  around : Surroundings (Link σ)
  pending : List String
  workers : List (Worker σ) := []
  deeds : List (Nat × Worker.Deed) := []
  result : Option (Except MessagingError Unit) := none

namespace Service

/-- A dispatch that begins to consume every type of a registry. -/
def start (registry : Registry) (around : Surroundings (Link σ)) : Service σ :=
  { around, pending := registry.names }

/-- The dispatch without what its loops are at. -/
def dispatch (s : Service σ) : Dispatch := ⟨s.workers.map (·.loop), s.result⟩

/-- The queues that loops were started for. -/
def queues (s : Service σ) : List String := s.workers.map (·.loop.subscription.queue.name)

/-- Something that can happen. -/
inductive Move (σ : Type) where
  /-- The next queue is set up, and its loop is started. -/
  | setUp
  /-- A loop goes on. -/
  | loop (k : Nat) (step : Worker.Step)
  /-- The dispatch returns, if it waits for its loops and they have stopped. -/
  | join
  /-- The token fires. -/
  | cancel
  /-- Something happens to the link. -/
  | elsewhere (change : Link σ → Link σ)

/-- Sets up the next queue and starts its loop; where that fails, the dispatch returns. -/
def setUp (server : Server σ) (routing : String → Route)
    (receive : Octets → Work (Link σ) (Except MessagingError Unit)) (s : Service σ) : Service σ :=
  match s.pending, s.result with
  | name :: pending, none =>
    match (Dispatch.subscribe server routing name).run s.around with
    | (.ok subscription, around) =>
      let consumer := Dispatch.consumer server around.world.policy subscription
        (around.world.handle subscription.channel) receive
      let worker : Worker σ := { loop := ⟨subscription, .running⟩, consumer }
      { s with around, pending, workers := s.workers ++ [worker] }
    | (.error e, around) => { s with around, result := some (.error (.ofBroker e)) }
  | _, _ => s

/-- Puts a loop back that went on, and notes what it did. -/
def put (s : Service σ) (k : Nat) (w : Worker σ) (deeds : List Worker.Deed)
    (around : Surroundings (Link σ)) : Service σ :=
  { s with around, workers := s.workers.set k w, deeds := s.deeds ++ deeds.map (k, ·) }

/-- Lets a loop go on. -/
def advance (s : Service σ) (k : Nat) (step : Worker.Step) : Service σ :=
  match s.workers[k]? with
  | none => s
  | some w =>
    let ((w, deeds), around) := (w.step step).run s.around
    s.put k w deeds around

/-- Waits for the loops, once every queue was set up. -/
def join (s : Service σ) : Service σ :=
  match s.pending with
  | [] =>
    let (d, around) := (Dispatch.join s.dispatch).run s.around
    { s with around, result := d.result }
  | _ :: _ => s

/-- Makes a move. -/
def act (server : Server σ) (routing : String → Route)
    (receive : Octets → Work (Link σ) (Except MessagingError Unit)) (s : Service σ) :
    Move σ → Service σ
  | .setUp => s.setUp server routing receive
  | .loop k step => s.advance k step
  | .join => s.join
  | .cancel => { s with around := { s.around with cancelled := true } }
  | .elsewhere change => { s with around := { s.around with world := change s.around.world } }

/-- The dispatch after some moves. -/
def after (server : Server σ) (routing : String → Route)
    (receive : Octets → Work (Link σ) (Except MessagingError Unit)) (moves : List (Move σ))
    (s : Service σ) : Service σ :=
  moves.foldl (act server routing receive) s

end Service

end Courier
