import Courier.Proofs.Settlement
import Courier.Retry

/-!
# Depots

A server that keeps letters in queues and does with them only what it is asked for and what the
arguments of its queues say: a letter that a consumer refused, or that has waited as long as its
queue allows, is passed on to the queue that the arguments name (`Depot.passOn`), and one that comes
back to a consumed queue has one death more noted in its headers (`Properties.raised`).
-/

namespace Courier
set_option autoImplicit false
open Amqp Confirm

variable {τ : Type}

/-! ## Counting deaths -/

namespace Amqp

/-- The count that a table of the list of deaths gives as an integer of 64 bits, zero where it gives
none. -/
def Table.tally (death : Table) : Int :=
  match death.get? "count" with
  | some (.longLongInt count) => count
  | _ => 0

/-- The list of deaths with the count at its head raised by one. -/
def raiseDeaths : List Value → List Value
  | .fieldTable death :: earlier =>
    .fieldTable (Table.insert death "count" (.longLongInt (Table.tally death + 1))) :: earlier
  | others => .fieldTable [("count", .longLongInt 1)] :: others

namespace Properties

/-- The properties with one death more noted in the headers. -/
def raised (p : Properties) : Properties :=
  let deaths := ((p.headerTable.get? "x-death").bind Value.asArray?).getD []
  p.withHeader "x-death" (.fieldArray (raiseDeaths deaths))

/-- The headers tell of a number of deaths in the way of a depot: of none by saying nothing, and of
more by an integer of 64 bits. -/
def Tallied (p : Properties) : Nat → Prop
  | 0 => p.headerTable.get? "x-death" = none
  | count => ∃ death earlier,
      p.headerTable.get? "x-death" = some (.fieldArray (.fieldTable death :: earlier)) ∧
        Table.get? death "count" = some (.longLongInt count)

variable {p : Properties} {count : Nat}

theorem Tallied.deathCount (tallied : p.Tallied count) : p.deathCount = count := by
  cases count with
  | zero =>
    have silent : p.headerTable.get? "x-death" = none := tallied
    unfold Properties.deathCount
    rw [silent]
    rfl
  | succ count =>
    obtain ⟨death, earlier, header, counted⟩ := tallied
    exact deathCount_of_notes ⟨death, earlier, _, header, counted, rfl⟩

theorem Tallied.raised (tallied : p.Tallied count) : p.raised.Tallied (count + 1) := by
  have header : p.raised.headerTable.get? "x-death" = some (.fieldArray (raiseDeaths
      (((p.headerTable.get? "x-death").bind Value.asArray?).getD []))) :=
    Table.get?_insert_self p.headerTable "x-death" _
  cases count with
  | zero =>
    have silent : p.headerTable.get? "x-death" = none := tallied
    rw [silent] at header
    exact ⟨_, [], header, rfl⟩
  | succ count =>
    obtain ⟨death, earlier, noted, counted⟩ := tallied
    have tally : Table.tally death = (count + 1 : Nat) := by
      unfold Table.tally
      rw [counted]
    rw [noted] at header
    refine ⟨_, earlier, header, ?_⟩
    rw [Table.get?_insert_self, tally]
    rfl

end Properties
end Amqp

/-! ## Letters and queues -/

/-- A message in a queue. -/
structure Letter where
  queue : String
  body : Octets
  properties : Properties

/-- The delivery of a letter under a tag. -/
def Letter.delivery (letter : Letter) (tag : Nat) : Delivery :=
  ⟨tag, letter.body, letter.properties⟩

/-- Letters in queues, the deliveries under way, and the requests so far. -/
structure Depot where
  /-- The arguments of each queue that was declared. -/
  queues : List (String × Table) := []
  /-- The queues that have a consumer. -/
  consumed : List String := []
  waiting : List Letter := []
  /-- The letters that were brought to a consumer and are not settled, by their tags. -/
  taken : List (Nat × Letter) := []
  deliveries : Nat := 0
  journal : List Request := []

namespace Depot

/-- Where the arguments of a queue send what it does not keep: to a queue by its name, through the
default exchange. -/
def target? (depot : Depot) (queue : String) : Option String := do
  let arguments ← depot.queues.lookup queue
  let exchange ← (← Table.get? arguments "x-dead-letter-exchange").asLongString?
  let key ← (← Table.get? arguments "x-dead-letter-routing-key").asLongString?
  if exchange = [] then Utf8.decode? key else none

/-- Whether the arguments of a queue bound the time that a letter waits there. -/
def limits (depot : Depot) (queue : String) : Bool :=
  ((depot.queues.lookup queue).bind (Table.get? · "x-message-ttl")).isSome

/-- Puts a letter into its queue; it is lost where there is no such queue. -/
def put (depot : Depot) (letter : Letter) : Depot :=
  if (depot.queues.lookup letter.queue).isSome then
    { depot with waiting := depot.waiting ++ [letter] }
  else
    depot

/-- Passes a letter on to the queue that its own queue's arguments name, with one death more if that
one is consumed; it is lost where they name none. -/
def passOn (depot : Depot) (letter : Letter) : Depot :=
  match depot.target? letter.queue with
  | none => depot
  | some queue =>
    let properties :=
      if queue ∈ depot.consumed then letter.properties.raised else letter.properties
    depot.put { letter with queue, properties }

section PassOn
variable {depot : Depot} {letter : Letter} {queue : String} {arguments : Table}

/-- A letter is passed on as it is to a queue that is not consumed. -/
theorem passOn_elsewhere (target : depot.target? letter.queue = some queue)
    (declared : depot.queues.lookup queue = some arguments) (idle : queue ∉ depot.consumed) :
    depot.passOn letter =
      { depot with waiting := depot.waiting ++ [{ letter with queue }] } := by
  unfold passOn put
  rw [target]
  dsimp only
  rw [declared, if_neg idle]
  rfl

/-- A letter is passed on with one death more to a queue that is consumed. -/
theorem passOn_back (target : depot.target? letter.queue = some queue)
    (declared : depot.queues.lookup queue = some arguments) (consumed : queue ∈ depot.consumed) :
    depot.passOn letter =
      { depot with
        waiting := depot.waiting ++
          [{ letter with queue, properties := letter.properties.raised }] } := by
  unfold passOn put
  rw [target]
  dsimp only
  rw [declared, if_pos consumed]
  rfl

end PassOn

/-- Takes what is settled out of the deliveries under way. -/
def release (depot : Depot) (tag : Nat) : Depot :=
  { depot with taken := depot.taken.filter fun entry => entry.1 ≠ tag }

/-- Does as a request says. -/
def obey (depot : Depot) : Request → Depot
  | .declare _ (.queue name _ arguments) =>
    { depot with queues := depot.queues ++ [(name, arguments)] }
  | .subscribe _ queue _ => { depot with consumed := depot.consumed ++ [queue] }
  | .publish _ frame _ =>
    if frame.exchange = "" then depot.put ⟨frame.routingKey, frame.payload, frame.properties⟩
    else depot
  | .ack _ tag => depot.release tag
  | .nack _ tag requeue =>
    match depot.taken.lookup tag with
    | none => depot
    | some letter =>
      if requeue then (depot.release tag).put letter else (depot.release tag).passOn letter
  | _ => depot

/-- Does as a request says, and notes it. -/
def serve (depot : Depot) (request : Request) : Depot :=
  { depot.obey request with journal := depot.journal ++ [request] }

/-- A depot as a server; it refuses nothing. Something else may live beside it. -/
def server : Server (τ × Depot) where
  connect _ _ := return .ok 0
  openChannel _ := return .ok 0
  request request := fun (world, depot) => (.ok (), (world, depot.serve request))
  isConnected _ _ := true
  isOpen _ _ := true

theorem server_afterAll (requests : List Request) (world : τ) (depot : Depot) :
    server.afterAll requests (world, depot) = (world, requests.foldl serve depot) := by
  induction requests generalizing depot with
  | nil => rfl
  | cons request requests ih => exact ih (depot.serve request)

/-- Brings a letter of those waiting to a consumer. -/
def bring (depot : Depot) (i : Nat) (letter : Letter) : Depot :=
  { depot with
    waiting := depot.waiting.eraseIdx i
    taken := depot.taken ++ [(depot.deliveries + 1, letter)]
    deliveries := depot.deliveries + 1 }

/-- Ends the waiting of a letter of those waiting. -/
def expire (depot : Depot) (i : Nat) (letter : Letter) : Depot :=
  { depot with waiting := depot.waiting.eraseIdx i }.passOn letter

end Depot

/-- The depot at a link's other end. -/
def Surroundings.depot (s : Surroundings (Link (τ × Depot))) : Depot := s.world.server.2

/-- The surroundings with the depot changed. -/
def Surroundings.onDepot (s : Surroundings (Link (τ × Depot))) (f : Depot → Depot) :
    Surroundings (Link (τ × Depot)) :=
  { s with world := { s.world with server := (s.world.server.1, f s.depot) } }

namespace Depot

/-! ## Histories -/

/-- What befalls a letter. -/
inductive Event where
  /-- It was brought from a queue to the consumer, whose handling ended. -/
  | processed (queue : String) (outcome : Except MessagingError Unit)
  /-- It had waited in a queue as long as that allows. -/
  | expired (queue : String)

/-- How the handlings ended, in order. -/
def outcomes (events : List Event) : List (Except MessagingError Unit) :=
  events.filterMap fun
    | .processed _ outcome => some outcome
    | .expired _ => none

/-- What may happen next: the consumer processes any letter of a queue that is consumed, or any
letter's time in a queue that bounds it is over. -/
inductive Step (consumer : Consumer (Link (τ × Depot))) :
    Event → Surroundings (Link (τ × Depot)) → Surroundings (Link (τ × Depot)) → Prop where
  | processed {s : Surroundings (Link (τ × Depot))} {i : Nat} {letter : Letter}
      (lies : s.depot.waiting[i]? = some letter) (consumed : letter.queue ∈ s.depot.consumed) :
      Step consumer
        (.processed letter.queue (consumer.handle letter.body (s.onDepot (·.bring i letter))).1) s
        (consumer.process (letter.delivery (s.depot.deliveries + 1))
          (s.onDepot (·.bring i letter))).2
  | expired {s : Surroundings (Link (τ × Depot))} {i : Nat} {letter : Letter}
      (lies : s.depot.waiting[i]? = some letter) (limited : s.depot.limits letter.queue) :
      Step consumer (.expired letter.queue) s (s.onDepot (·.expire i letter))

/-- What has happened from a start on. -/
inductive History (consumer : Consumer (Link (τ × Depot)))
    (start : Surroundings (Link (τ × Depot))) :
    List Event → Surroundings (Link (τ × Depot)) → Prop where
  | start : History consumer start [] start
  | step {events : List Event} {event : Event} {s t : Surroundings (Link (τ × Depot))}
      (before : History consumer start events s) (step : Step consumer event s t) :
      History consumer start (events ++ [event]) t

end Depot

end Courier
