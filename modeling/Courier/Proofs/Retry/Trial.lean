import Courier.Proofs.Retry.Depot

/-!
# Trials

A body that is put to a consumer under a policy of retries, on a depot with the queues of that
policy (`Trial.start`), and what the depot makes of each way to settle it: an acknowledgement
removes it, a refusal parks it, the end of its wait brings it back with one death more, and giving
it up leaves it in the dead-letter queue.
-/

namespace Courier.Depot
set_option autoImplicit false
open Amqp Confirm

variable {τ : Type}

/-- A body that is put to a consumer of a queue under a policy of retries. -/
structure Trial where
  retries : Int
  ttl : Int
  /-- The name of the queue. -/
  name : String
  /-- The tag of the subscription. -/
  tag : String
  /-- The server's number of the channel. -/
  handle : Nat
  body : Octets

namespace Trial

/-! ## A depot with the queues of a policy -/

section Opening
variable (trial : Trial)

def policy : RetryPolicy := .deadLetter trial.retries trial.ttl

def queue : Queue := trial.policy.queue trial.name

/-- The consumer of the queue, by a way to handle bodies. -/
def consumer (channel : Nat) (handling : Octets → Work (Link τ) (Except MessagingError Unit)) :
    Consumer (Link (τ × Depot)) :=
  Dispatch.consumer server trial.policy ⟨trial.queue, channel⟩ trial.handle
    fun body => (handling body).aside

/-- Declares the queues of the policy and subscribes to the one that is consumed. -/
def opening : Link.Step (τ × Depot) Unit := do
  trial.queue.install (Link.declarer server trial.handle)
  Link.demand server (.subscribe trial.handle trial.name trial.tag) (.consumerFailed · trial.name)
    (.consume trial.name)

/-- The body in its queue, on a depot that has the queues of the policy and nothing else. -/
def start (properties : Properties) (s : Surroundings (Link τ)) :
    Surroundings (Link (τ × Depot)) :=
  (trial.opening.run ⟨s.world.with {}, s.cancelled, s.log⟩).2.onDepot
    (·.put ⟨trial.name, trial.body, properties⟩)

/-- The queues of the policy, with their arguments. -/
def stock : List (String × Table) :=
  [(trial.name ++ "-retry", trial.queue.retryArguments), (trial.name ++ "-dlq", []),
    (trial.name, trial.queue.arguments)]

/-- The depot with the queues of the policy. -/
def opened : Depot where
  queues := trial.stock
  consumed := [trial.name]
  journal := trial.stock.map (fun (queue, arguments) =>
      .declare trial.handle (.queue queue true arguments)) ++
    [.subscribe trial.handle trial.name trial.tag]

theorem depot_opening (s : Surroundings (Link τ)) :
    (trial.opening.run ⟨s.world.with ({} : Depot), s.cancelled, s.log⟩).2.depot = trial.opened :=
  rfl

end Opening

section Stock
variable {trial : Trial} {depot : Depot}

theorem retry_ne (name : String) : name ++ "-retry" ≠ name := by simp

theorem deadLetter_ne (name : String) : name ++ "-dlq" ≠ name := by simp

theorem deadLetter_ne_retry (name : String) : name ++ "-dlq" ≠ name ++ "-retry" := by simp

theorem lookup_retry (stocked : depot.queues = trial.stock) :
    depot.queues.lookup (trial.name ++ "-retry") = some trial.queue.retryArguments := by
  rw [stocked]
  exact List.lookup_cons_self

theorem lookup_deadLetter (stocked : depot.queues = trial.stock) :
    depot.queues.lookup (trial.name ++ "-dlq") = some [] := by
  rw [stocked]
  unfold stock
  rw [List.lookup_cons, beq_false_of_ne (deadLetter_ne_retry trial.name)]
  exact List.lookup_cons_self

theorem lookup_main (stocked : depot.queues = trial.stock) :
    depot.queues.lookup trial.name = some trial.queue.arguments := by
  rw [stocked]
  unfold stock
  rw [List.lookup_cons, beq_false_of_ne (retry_ne trial.name).symm, List.lookup_cons,
    beq_false_of_ne (deadLetter_ne trial.name).symm]
  exact List.lookup_cons_self

theorem target_main (stocked : depot.queues = trial.stock) :
    depot.target? trial.name = some (trial.name ++ "-retry") := by
  unfold target?
  rw [lookup_main stocked]
  exact Utf8.decode?_encode (trial.name ++ "-retry")

theorem target_retry (stocked : depot.queues = trial.stock) :
    depot.target? (trial.name ++ "-retry") = some trial.name := by
  unfold target?
  rw [lookup_retry stocked]
  exact Utf8.decode?_encode trial.name

theorem limits_main (stocked : depot.queues = trial.stock) : depot.limits trial.name = false := by
  unfold limits
  rw [lookup_main stocked]
  rfl

theorem limits_retry (stocked : depot.queues = trial.stock) :
    depot.limits (trial.name ++ "-retry") = true := by
  unfold limits
  rw [lookup_retry stocked]
  rfl

theorem limits_deadLetter (stocked : depot.queues = trial.stock) :
    depot.limits (trial.name ++ "-dlq") = false := by
  unfold limits
  rw [lookup_deadLetter stocked]
  rfl

end Stock

/-! ## What a settlement does to the letter -/

/-- The refusals of the first deliveries. -/
def refusals (handle count : Nat) : List Request :=
  (List.range count).map fun k => .nack handle (k + 1) false

theorem refusals_succ (handle count : Nat) :
    refusals handle (count + 1) = refusals handle count ++ [.nack handle (count + 1) false] := by
  unfold refusals
  rw [List.range_succ, List.map_append]
  rfl

section Transitions
variable (trial : Trial) (deliveries : Nat)

/-- The letter in a queue. -/
def letter (queue : String) (properties : Properties) : Letter := ⟨queue, trial.body, properties⟩

/-- The depot after deliveries, with letters and requests since it was opened. -/
def holding (waiting : List Letter) (requests : List Request) : Depot :=
  { trial.opened with deliveries, waiting, journal := trial.opened.journal ++ requests }

/-- The depot while the consumer has the letter. -/
def lending (properties : Properties) (requests : List Request) : Depot :=
  (trial.holding deliveries [trial.letter trial.name properties] requests).bring 0
    (trial.letter trial.name properties)

variable (p : Properties) (requests : List Request)

/-- At the start the letter waits in its queue. -/
theorem depot_start (s : Surroundings (Link τ)) :
    (trial.start p s).depot = trial.holding 0 [trial.letter trial.name p] [] := by
  have put : (trial.start p s).depot = trial.opened.put (trial.letter trial.name p) :=
    congrArg (Depot.put · (trial.letter trial.name p)) (depot_opening trial s)
  have declared : (trial.opened.queues.lookup trial.name).isSome = true := by
    rw [lookup_main rfl]
    rfl
  exact put.trans (if_pos declared)

/-- A letter that is acknowledged is gone. -/
theorem serve_ack :
    (trial.lending deliveries p requests).serve (.ack trial.handle (deliveries + 1)) =
      trial.holding (deliveries + 1) [] (requests ++ [.ack trial.handle (deliveries + 1)]) := by
  simp [serve, obey, release, lending, bring, holding, opened]

/-- A letter that is refused goes to the retry queue as it is. -/
theorem serve_nack :
    (trial.lending deliveries p requests).serve (.nack trial.handle (deliveries + 1) false) =
      trial.holding (deliveries + 1) [trial.letter (trial.name ++ "-retry") p]
        (requests ++ [.nack trial.handle (deliveries + 1) false]) := by
  have lent : (trial.lending deliveries p requests).taken.lookup (deliveries + 1) =
      some (trial.letter trial.name p) := List.lookup_cons_self
  have released : (trial.lending deliveries p requests).release (deliveries + 1) =
      trial.holding (deliveries + 1) [] requests := by
    simp [release, lending, bring, holding, opened]
  have passed : (trial.holding (deliveries + 1) [] requests).passOn (trial.letter trial.name p) =
      trial.holding (deliveries + 1) [trial.letter (trial.name ++ "-retry") p] requests :=
    passOn_elsewhere (target_main rfl) (lookup_retry rfl) fun consumed =>
      retry_ne trial.name (List.mem_singleton.mp consumed)
  unfold serve obey
  dsimp only
  rw [lent]
  dsimp only
  rw [if_neg Bool.false_ne_true, released, passed]
  simp [holding, lending, bring]

/-- A letter that is given up lies in the dead-letter queue as it is. -/
theorem serve_giveUp :
    let d := (trial.letter trial.name p).delivery (deliveries + 1)
    let settlement := [d.copyTo trial.handle (trial.name ++ "-dlq"), .ack trial.handle d.tag]
    settlement.foldl serve (trial.lending deliveries p requests) =
      trial.holding (deliveries + 1) [trial.letter (trial.name ++ "-dlq") p]
        (requests ++ settlement) := by
  intro d settlement
  have declared : (trial.lending deliveries p requests).queues.lookup (trial.name ++ "-dlq") =
      some [] := lookup_deadLetter rfl
  have copied : (trial.lending deliveries p requests).obey
      (d.copyTo trial.handle (trial.name ++ "-dlq")) =
        { trial.lending deliveries p requests with
          waiting := [trial.letter (trial.name ++ "-dlq") p] } := by
    unfold Delivery.copyTo obey put
    dsimp only
    rw [declared]
    rfl
  rw [List.foldl_cons, List.foldl_cons, List.foldl_nil]
  unfold serve
  rw [copied]
  simp [obey, release, lending, bring, holding, opened, settlement, d, Letter.delivery]

/-- A letter of the retry queue goes back to the main queue with one death more. -/
theorem expire_parked :
    (trial.holding deliveries [trial.letter (trial.name ++ "-retry") p] requests).expire 0
      (trial.letter (trial.name ++ "-retry") p) =
        trial.holding deliveries [trial.letter trial.name p.raised] requests :=
  passOn_back (target_retry rfl) (lookup_main rfl) List.mem_cons_self

end Transitions

/-- What a consumer does for a delivery, as the depot sees it. -/
theorem depot_process (trial : Trial) (channel : Nat)
    (handling : Octets → Work (Link τ) (Except MessagingError Unit)) (d : Delivery)
    (s : Surroundings (Link (τ × Depot))) :
    ((trial.consumer channel handling).process d s).2.depot =
      (d.settlement trial.policy trial.name trial.handle d.properties.deathCount
        ((trial.consumer channel handling).handle d.body s).1 (.ok ())).foldl serve s.depot := by
  have settled : Dispatch.Settled server _ _ ((trial.consumer channel handling).process d s) :=
    Dispatch.process_settled rfl
  obtain ⟨⟨log, after⟩, -⟩ := settled
  have world := congrArg (·.world.server) after
  exact congrArg Prod.snd (world.trans (server_afterAll _ _ _))

section Settlement
variable {trial : Trial} {d : Delivery} (e : MessagingError)

theorem settlement_retry (left : d.properties.deathCount < trial.retries) :
    d.settlement trial.policy trial.name trial.handle d.properties.deathCount (.error e) (.ok ()) =
      [.nack trial.handle d.tag false] := if_pos left

theorem settlement_giveUp (spent : ¬d.properties.deathCount < trial.retries) :
    d.settlement trial.policy trial.name trial.handle d.properties.deathCount (.error e) (.ok ()) =
      [d.copyTo trial.handle (trial.name ++ "-dlq"), .ack trial.handle d.tag] := if_neg spent

end Settlement

end Trial

end Courier.Depot
