import Courier.Proofs.Link.Channel

/-!
# How a delivery is settled

What a consumer asks of its server for one delivery is known from the outcome of the handling, the
policy and the deaths that the delivery's headers tell of, and from nothing else
(`Delivery.settlement`, `Dispatch.process_settled`): one acknowledgement, or one refusal, or a copy
to the dead-letter queue with an acknowledgement after it if the copy was taken
(`Dispatch.process_settles`).
-/

namespace Courier
set_option autoImplicit false
open Amqp Confirm

variable {σ τ α : Type}

theorem Work.bind_apply {β : Type} (act : Work σ α) (f : α → Work σ β) (s : Surroundings σ) :
    (act >>= f) s = f (act s).1 (act s).2 := rfl

/-- A consumer runs its handler on the body; that it failed is reported. -/
theorem Consumer.attend_eq (c : Consumer σ) {d : Delivery} {s received : Surroundings σ}
    {outcome : Except MessagingError Unit} (handled : c.handle d.body s = (outcome, received)) :
    ∃ log, c.attend d s = (outcome, { received with log }) := by
  have attended : c.attend d s = _ := Work.bind_apply (c.handle d.body) _ s
  rw [attended, handled]
  cases outcome with
  | ok _ => exact ⟨received.log, rfl⟩
  | error e =>
    exact ⟨received.log ++ [Log.Event.deliveryFailed e d.properties.declaredType], rfl⟩

/-! ## Beside a server's world -/

/-- The link without what stands beside its server's world. -/
def Link.alone (link : Link (σ × τ)) : Link σ := { link with server := link.server.1 }

/-- The link with something beside its server's world. -/
def Link.with (link : Link σ) (x : τ) : Link (σ × τ) := { link with server := (link.server, x) }

/-- Work on a link, leaving alone what stands beside the server's world. -/
def Work.aside (act : Work (Link σ) α) : Work (Link (σ × τ)) α := fun s =>
  let (result, t) := act ⟨s.world.alone, s.cancelled, s.log⟩
  (result, ⟨t.world.with s.world.server.2, t.cancelled, t.log⟩)

theorem Work.server_aside (act : Work (Link σ) α) (s : Surroundings (Link (σ × τ))) :
    (act.aside s).2.world.server.2 = s.world.server.2 := rfl

/-- An action on a world that has something beside it. -/
def Server.beside (act : StateM σ α) : StateM (σ × τ) α := fun (world, x) =>
  let (answer, world) := act world
  (answer, (world, x))

/-- The server, recording the requests that are put to it. -/
def Server.recorded (server : Server σ) : Server (σ × List Request) where
  connect uri name := beside (server.connect uri name)
  openChannel connection := beside (server.openChannel connection)
  request request := fun (world, requests) =>
    let (answer, world) := server.request request world
    (answer, (world, requests ++ [request]))
  isConnected world connection := server.isConnected world.1 connection
  isOpen world channel := server.isOpen world.1 channel

/-- The world of a server after requests. -/
def Server.afterAll (server : Server σ) (requests : List Request) (world : σ) : σ :=
  requests.foldl (fun world request => (server.request request world).2) world

/-- A recorded server does what it did before, and the requests are all that is recorded. -/
theorem Server.recorded_afterAll (server : Server σ) (requests : List Request)
    (world : σ × List Request) :
    server.recorded.afterAll requests world =
      (server.afterAll requests world.1, world.2 ++ requests) := by
  induction requests generalizing world with
  | nil => exact Prod.ext rfl (List.append_nil world.2).symm
  | cons request requests ih =>
    have rest := ih (server.recorded.request request world).2
    exact rest.trans (Prod.ext rfl (List.append_assoc world.2 [request] requests))

/-! ## The deaths that headers tell of -/

theorem Amqp.Value.eq_of_asArray? {value : Value} {values : List Value}
    (array : value.asArray? = some values) : value = .fieldArray values := by
  cases value <;> cases array
  rfl

theorem Amqp.Value.eq_of_asTable? {value : Value} {members : Table}
    (table : value.asTable? = some members) : value = .fieldTable members := by
  cases value <;> cases table
  rfl

namespace Amqp.Properties

/-- The list of deaths begins with a table that gives a count. -/
def NotesDeaths (p : Properties) (count : Int) : Prop :=
  ∃ death earlier value,
    p.headerTable.get? "x-death" = some (.fieldArray (.fieldTable death :: earlier)) ∧
      Table.get? death "count" = some value ∧ value.asInteger? = some count

/-- The deaths that are told of: those noted, and none where none are noted. -/
def TellsDeaths (p : Properties) (count : Int) : Prop :=
  p.NotesDeaths count ∨ count = 0 ∧ ∀ noted, ¬p.NotesDeaths noted

variable {p : Properties}

theorem deathCount_of_notes {count : Int} (notes : p.NotesDeaths count) : p.deathCount = count := by
  obtain ⟨death, earlier, value, header, counted, read⟩ := notes
  unfold deathCount
  rw [header]
  simp only [Option.bind_eq_bind, Option.bind_some, Value.asArray?, List.head?_cons, Value.asTable?,
    counted, read, Option.getD_some]

theorem notes_or_deathCount_eq_zero (p : Properties) :
    (∃ count, p.NotesDeaths count) ∨ p.deathCount = 0 := by
  unfold deathCount
  simp only [Option.bind_eq_bind]
  generalize found : Option.bind _ _ = count
  cases count with
  | none => exact .inr rfl
  | some count =>
    simp only [Option.bind_eq_some_iff] at found
    obtain ⟨array, header, deaths, isArray, first, isFirst, death, isTable, value, counted, read⟩ :=
      found
    obtain ⟨earlier, rfl⟩ := List.head?_eq_some_iff.mp isFirst
    rw [Value.eq_of_asArray? isArray, Value.eq_of_asTable? isTable] at header
    exact .inl ⟨count, death, earlier, value, header, counted, read⟩

theorem tells_deathCount (p : Properties) : p.TellsDeaths p.deathCount := by
  by_cases noted : ∃ count, p.NotesDeaths count
  · obtain ⟨count, notes⟩ := noted
    rw [deathCount_of_notes notes]
    exact .inl notes
  · exact .inr ⟨(notes_or_deathCount_eq_zero p).resolve_left noted, fun count notes =>
      noted ⟨count, notes⟩⟩

end Amqp.Properties

/-! ## The requests of a settlement -/

/-- Whether a request settles a delivery. -/
def Request.settles : Request → Bool
  | .ack _ _ | .nack _ _ _ => true
  | _ => false

/-- The request that copies a delivery to a queue: through the default exchange, as it is. -/
def Delivery.copyTo (d : Delivery) (channel : Nat) (queue : String) : Request :=
  .publish channel ⟨"", queue, d.body, d.properties⟩ false

/-- The requests that settle a delivery of a queue after a number of deaths, by how its handling
ended and how the server answered the copy to the dead-letter queue if there was one. -/
def Delivery.settlement (d : Delivery) (policy : RetryPolicy) (queue : String) (channel : Nat)
    (deaths : Int) (outcome : Except MessagingError Unit) (copied : Except String Unit) :
    List Request :=
  match outcome, policy with
  | .ok (), _ => [.ack channel d.tag]
  | .error _, .requeue => [.nack channel d.tag true]
  | .error _, .deadLetter retries _ =>
    if deaths < retries then [.nack channel d.tag false]
    else
      match copied with
      | .ok () => [d.copyTo channel (queue ++ "-dlq"), .ack channel d.tag]
      | .error _ => [d.copyTo channel (queue ++ "-dlq")]

namespace Dispatch

/-- The requests were put to the server and nothing else was done but to report, and the way of
settling was never asked to give a delivery up by itself, which it answers by `internal`. -/
def Settled (server : Server σ) (requests : List Request) (s : Surroundings (Link σ))
    (ended : Except BrokerError Unit × Surroundings (Link σ)) : Prop :=
  (∃ log, ended.2 =
    { s with world := { s.world with server := server.afterAll requests s.world.server }, log }) ∧
  ended.1 ≠ .error .internal

section Demands
variable (server : Server σ) (s : Surroundings (Link σ))

/-- A demand settles by its request; it fails with its own error or not at all. -/
theorem demand_settled (request : Request) (event : String → Log.Event) {error : BrokerError}
    (named : error ≠ .internal) :
    Settled server [request] s ((Link.demand server request event error).run s) := by
  have world : server.afterAll [request] s.world.server
      = (server.request request s.world.server).2 := rfl
  unfold Settled
  rw [Link.demand_eq, world]
  cases server.request request s.world.server with
  | mk answer world' =>
    cases answer with
    | ok _ => exact ⟨⟨_, rfl⟩, nofun⟩
    | error reason => exact ⟨⟨_, rfl⟩, fun internal => named (Except.error.inj internal)⟩

variable (handle tag : Nat)

theorem settle_ack :
    Settled server [.ack handle tag] s ((settling server handle).settle tag .ack s) :=
  demand_settled server s _ _ nofun

theorem settle_requeue :
    Settled server [.nack handle tag true] s ((settling server handle).settle tag .requeue s) :=
  demand_settled server { s with log := s.log ++ [.requeuing] } _ _ nofun

theorem settle_retry :
    Settled server [.nack handle tag false] s ((settling server handle).settle tag .retry s) :=
  demand_settled server { s with log := s.log ++ [.retrying] } _ _ nofun

end Demands

variable {server : Server σ} {policy : RetryPolicy} {name : String} {channel handle : Nat}
  {receive : Octets → Work (Link σ) (Except MessagingError Unit)} {d : Delivery}
  {s received : Surroundings (Link σ)}

/-- A delivery is given up by a copy and, where that was taken, an acknowledgement. -/
theorem giveUp_settled (retries ttl : Int) :
    Settled server
      (match (server.request (d.copyTo handle (name ++ "-dlq")) s.world.server).1 with
        | .ok () => [d.copyTo handle (name ++ "-dlq"), .ack handle d.tag]
        | .error _ => [d.copyTo handle (name ++ "-dlq")])
      s
      ((settling server handle).giveUp (copyTo server handle)
        ((RetryPolicy.deadLetter retries ttl).queue name) d s) := by
  let t : Surroundings (Link σ) :=
    { s with
      world := { s.world with
        server := (server.request (d.copyTo handle (name ++ "-dlq")) s.world.server).2 }
      log := s.log ++ [.deadLettering name] }
  have copied : (settling server handle).giveUp (copyTo server handle)
      ((RetryPolicy.deadLetter retries ttl).queue name) d s =
        (match (server.request (d.copyTo handle (name ++ "-dlq")) s.world.server).1 with
        | .ok () => (settling server handle).settle d.tag .ack
        | .error reason => do
          Work.report (.deadLetterFailed reason)
          return .error .deadLetter) t := rfl
  rw [copied]
  cases (server.request (d.copyTo handle (name ++ "-dlq")) s.world.server).1 with
  | ok _ => exact settle_ack server t handle d.tag
  | error reason => exact ⟨⟨_, rfl⟩, nofun⟩

/-! ## One delivery -/

/-- A delivery that was handled is settled by the requests of its settlement, and by no others. -/
theorem settle_settled (outcome : Except MessagingError Unit) :
    Settled server
      (d.settlement policy name handle d.properties.deathCount outcome
        (server.request (d.copyTo handle (name ++ "-dlq")) s.world.server).1)
      s
      ((consumer server policy ⟨policy.queue name, channel⟩ handle receive).settle d outcome
        s) := by
  cases outcome with
  | ok _ => exact settle_ack server s handle d.tag
  | error e =>
    unfold Delivery.settlement Consumer.settle
    cases policy with
    | requeue => exact settle_requeue server s handle d.tag
    | deadLetter retries ttl =>
      dsimp only [consumer, RetryPolicy.disposition]
      split
      · exact settle_retry server s handle d.tag
      · exact giveUp_settled retries ttl

/-- A delivery that is processed is handled, and settled by the requests of its settlement. -/
theorem process_settled {outcome : Except MessagingError Unit}
    (handled : receive d.body s = (outcome, received)) :
    Settled server
      (d.settlement policy name handle d.properties.deathCount outcome
        (server.request (d.copyTo handle (name ++ "-dlq")) received.world.server).1)
      received
      ((consumer server policy ⟨policy.queue name, channel⟩ handle receive).process d s) := by
  let c := consumer server policy ⟨policy.queue name, channel⟩ handle receive
  obtain ⟨log, attended⟩ := c.attend_eq (d := d) handled
  have processed : c.process d s = c.settle d outcome { received with log } := by
    refine (Work.bind_apply (c.attend d) _ s).trans ?_
    rw [attended]
  rw [processed]
  exact settle_settled (s := { received with log }) outcome

end Dispatch

/-! ## Safety -/

section Safety
variable (d : Delivery) (policy : RetryPolicy) (queue : String) (channel : Nat) (deaths : Int)
  (outcome : Except MessagingError Unit) (copied : Except String Unit)

/-- No delivery is settled twice. -/
theorem Delivery.settlement_once :
    (d.settlement policy queue channel deaths outcome copied).countP Request.settles ≤ 1 := by
  unfold Delivery.settlement
  split
  · exact Nat.le_refl 1
  · exact Nat.le_refl 1
  · split
    · exact Nat.le_refl 1
    · split
      · exact Nat.le_refl 1
      · exact Nat.zero_le 1

/-- An acknowledgement stands only where the handling succeeded or a copy was taken before it. -/
theorem Delivery.settlement_ack {front rest : List Request} {channel' tag : Nat}
    (settled : d.settlement policy queue channel deaths outcome copied =
      front ++ .ack channel' tag :: rest) :
    outcome = .ok () ∨ d.copyTo channel (queue ++ "-dlq") ∈ front ∧ copied = .ok () := by
  have acks : Request.ack channel' tag ∈ front ++ .ack channel' tag :: rest :=
    List.mem_append_right front List.mem_cons_self
  unfold Delivery.settlement at settled
  split at settled
  · exact .inl rfl
  · cases List.mem_singleton.mp (settled ▸ acks)
  · split at settled
    · cases List.mem_singleton.mp (settled ▸ acks)
    · split at settled
      · -- the copy is the first of two requests, so the acknowledgement is not
        cases front with
        | nil => cases (List.cons.inj settled).1
        | cons first others =>
          rw [(List.cons.inj settled).1]
          exact .inr ⟨List.mem_cons_self, rfl⟩
      · cases List.mem_singleton.mp (settled ▸ acks)

end Safety

/-- Whatever a delivery holds, whatever its handling does and however the server answers: a consumer
puts to the server the requests of the delivery's settlement and no others. At most one of them
settles it, and no acknowledgement stands among them unless the handling succeeded or a copy was
taken before it. -/
theorem Dispatch.process_settles (server : Server σ) (policy : RetryPolicy) (name : String)
    (channel handle : Nat) (registry : Registry) (opening : Work (Link σ) (Scope (Link σ)))
    (d : Delivery) (s : Surroundings (Link (σ × List Request))) :
    let receive := fun body =>
      (Reception.receive (Reception.standard registry opening) Reception.dispatch body).aside
    let consumer := Dispatch.consumer server.recorded policy ⟨policy.queue name, channel⟩ handle
      receive
    let copy := d.copyTo handle (name ++ "-dlq")
    let (outcome, received) := receive d.body s
    let copied := (server.request copy received.world.server.1).1
    let (result, settled) := consumer.process d s
    ∃ deaths, d.properties.TellsDeaths deaths ∧
      ∃ requests, requests = d.settlement policy name handle deaths outcome copied ∧
        settled.world.server.2 = s.world.server.2 ++ requests ∧
        settled.world.server.1 = server.afterAll requests received.world.server.1 ∧
        requests.countP Request.settles ≤ 1 ∧
        (∀ front rest channel tag, requests = front ++ .ack channel tag :: rest →
          outcome = .ok () ∨ copy ∈ front ∧ copied = .ok ()) ∧
        result ≠ .error .internal := by
  intro receive consumer copy
  have untouched : (receive d.body s).2.world.server.2 = s.world.server.2 :=
    Work.server_aside _ s
  rcases handled : receive d.body s with ⟨outcome, received⟩
  rw [handled] at untouched
  have ended : Dispatch.Settled _ _ _ (consumer.process d s) := Dispatch.process_settled handled
  rcases processed : consumer.process d s with ⟨result, settled⟩
  rw [processed] at ended
  obtain ⟨⟨log, after⟩, unfailing⟩ := ended
  have world := congrArg (·.world.server) after
  dsimp only at untouched world unfailing ⊢
  refine ⟨_, d.properties.tells_deathCount, _, rfl, ?_, ?_, d.settlement_once .., ?_, unfailing⟩
  · rw [← untouched, world, server.recorded_afterAll]
    rfl
  · rw [world, server.recorded_afterAll]
    rfl
  · exact fun front rest channel tag acks => d.settlement_ack _ _ _ _ _ _ acks

end Courier
