import Courier.Link.Run
import Courier.Proofs.Acting
import Courier.Proofs.Lists
import Courier.Proofs.Settlement

/-!
# Installing a topology

A topology consists of parts, each of which is declared by one call: its exchanges, for every queue
the retry queue, the dead-letter queue and the queue itself, and its bindings (`Topology.parts`).
Installing it declares them in this order (`Topology.install_eq`), up to the first that is refused,
whose name the failure tells. So the queue that another sends its failed messages to is there before
it, and everything is there before a binding (`Topology.installed_in_order`).
-/

namespace Courier
set_option autoImplicit false
open Amqp Acting

variable {σ β : Type}

/-- A part of a topology. -/
inductive Part where
  | exchange (e : Exchange)
  /-- The retry queue of a queue. -/
  | retry (q : Queue) (name : String)
  /-- The dead-letter queue of a queue. -/
  | deadLetter (q : Queue) (name : String)
  | queue (q : Queue)
  | binding (b : Binding)

namespace Part

/-- How a part is declared. A side queue lives as long as its queue. -/
def declaration : Part → Declaration
  | exchange e => .exchange e
  | retry q name => .queue name q.durable q.retryArguments
  | deadLetter q name => .queue name q.durable []
  | queue q => .queue q.name q.durable q.arguments
  | binding b => .binding b

/-- The failure to declare a part, which names the part. -/
def failure : Part → BrokerError
  | exchange e => .declareExchange e.name
  | retry _ name => .declareQueue name
  | deadLetter _ name => .declareQueue name
  | queue q => .declareQueue q.name
  | binding b => .bind b.exchange b.queue

theorem refused_declaration (p : Part) : p.declaration.refused = p.failure := by
  cases p <;> rfl

/-- Declares a part. -/
def put (declare : Declarer β) (p : Part) : ExceptT BrokerError (StateM β) Unit :=
  ExceptT.mk (declare p.declaration)

/-- A call that was granted. -/
def granted (p : Part) : Part × Except String Unit := (p, .ok ())

end Part

/-- The side queues of a queue: its retry queue and its dead-letter queue, if it has them. -/
def Queue.sides (q : Queue) : List Part :=
  (q.retryName.map (.retry q)).toList ++ (q.deadLetterName.map (.deadLetter q)).toList

/-- The parts of a queue: its side queues, and itself. -/
def Queue.parts (q : Queue) : List Part := q.sides ++ [.queue q]

/-- The parts of a topology: exchanges, then the parts of each queue, then bindings. -/
def Topology.parts (t : Topology) : List Part :=
  t.exchanges.map .exchange ++ t.queues.flatMap Queue.parts ++ t.bindings.map .binding

/-! ## Parts in their order -/

theorem Queue.install_eq (declare : Declarer β) (q : Queue) :
    q.install declare = forM q.parts (Part.put declare) := by
  unfold install parts sides
  cases q.retryName with
  | none =>
    cases q.deadLetterName <;> simp [Part.put, Part.declaration]
  | some name =>
    cases q.deadLetterName <;> simp [Part.put, Part.declaration]

theorem forM_flatMap {α : Type} (f : α → List Part) (declare : Declarer β) (as : List α) :
    forM (as.flatMap f) (Part.put declare) = forM as fun a => forM (f a) (Part.put declare) := by
  induction as with
  | nil => rfl
  | cons a as ih => rw [List.flatMap_cons, List.forM_append, List.forM_cons, ih]

/-- Installing a topology declares its parts in their order. -/
theorem Topology.install_eq (declare : Declarer β) (t : Topology) :
    t.install declare = forM t.parts (Part.put declare) := by
  have queues : (Queue.install declare) = fun q => forM q.parts (Part.put declare) :=
    funext fun q => q.install_eq declare
  unfold install parts
  rw [List.forM_append, List.forM_append, List.forM_map, List.forM_map, forM_flatMap, queues,
    bind_assoc]
  rfl

/-! ## Calls and their answers -/

/-- The server, recording the requests that are put to it with its answers. -/
def Server.overheard (server : Server σ) : Server (σ × List (Request × Except String Unit)) where
  connect uri name := beside (server.connect uri name)
  openChannel connection := beside (server.openChannel connection)
  request request := fun (world, heard) =>
    let (answer, world) := server.request request world
    (answer, (world, heard ++ [(request, answer)]))
  isConnected world connection := server.isConnected world.1 connection
  isOpen world channel := server.isOpen world.1 channel

/-- Surroundings with a record of what the server heard and answered. -/
abbrev Overheard (σ : Type) : Type := Surroundings (Link (σ × List (Request × Except String Unit)))

/-- A call as the server hears and answers it. -/
def heard (handle : Nat) (call : Part × Except String Unit) : Request × Except String Unit :=
  (.declare handle call.1.declaration, call.2)

/-- How it comes out that parts are declared in turn: all calls are granted, or the first that is
refused is the last that is made, and its failure is the result. -/
def InTurn (parts : List Part) (calls : List (Part × Except String Unit))
    (result : Except BrokerError Unit) : Prop :=
  (calls = parts.map Part.granted ∧ result = .ok ()) ∨
    ∃ before p after reason, parts = before ++ p :: after ∧
      calls = before.map Part.granted ++ [(p, .error reason)] ∧ result = .error p.failure

namespace Overheard

/-- After a call and its answer. -/
def after (s : Overheard σ) (handle : Nat) (call : Part × Except String Unit) (world : σ)
    (log : List Log.Event) : Overheard σ :=
  let server := (world, s.world.server.2 ++ [heard handle call])
  { s with world := { s.world with server }, log }

theorem put_run (server : Server σ) (handle : Nat) (p : Part) (s : Overheard σ) :
    (p.put (Link.declarer server.overheard handle)).run s =
      match server.request (.declare handle p.declaration) s.world.server.1 with
      | (.ok (), world) => (.ok (), s.after handle p.granted world s.log)
      | (.error reason, world) => (.error p.failure,
          s.after handle (p, .error reason) world (s.log ++ [p.declaration.refusal reason])) := by
  rw [← p.refused_declaration]
  show (Link.demand _ _ _ _).run s = _
  rw [Link.demand_eq]
  simp only [Server.overheard]
  cases server.request (.declare handle p.declaration) s.world.server.1 with
  | mk answer world => cases answer <;> rfl

/-- Parts are declared in turn, by these calls and no others. -/
theorem forM_run (server : Server σ) (handle : Nat) (parts : List Part) (s : Overheard σ) :
    let (result, s') := (forM parts (Part.put (Link.declarer server.overheard handle))).run s
    ∃ calls, s'.world.server.2 = s.world.server.2 ++ calls.map (heard handle) ∧
      InTurn parts calls result := by
  induction parts generalizing s with
  | nil => exact ⟨[], (List.append_nil _).symm, .inl ⟨rfl, rfl⟩⟩
  | cons p parts ih =>
    rw [List.forM_cons]
    have first := put_run server handle p s
    split at first
    · next world _ =>
      rw [bind_ok first]
      obtain ⟨calls, heardAfter, outcome⟩ := ih (s.after handle p.granted world s.log)
      refine ⟨p.granted :: calls, ?_, ?_⟩
      · rw [heardAfter]
        exact List.append_assoc _ _ _
      · obtain ⟨rfl, ok⟩ | ⟨before, q, later, reason, rfl, rfl, failed⟩ := outcome
        · exact .inl ⟨rfl, ok⟩
        · exact .inr ⟨p :: before, q, later, reason, rfl, rfl, failed⟩
    · next reason world _ =>
      rw [bind_error first]
      exact ⟨[(p, .error reason)], rfl, .inr ⟨[], p, parts, reason, rfl, rfl, rfl⟩⟩

end Overheard

namespace InTurn

variable {parts : List Part} {calls earlier later : List (Part × Except String Unit)} {p : Part}
  {answer : Except String Unit} {result : Except BrokerError Unit}

/-- What is declared are the first parts. -/
theorem prefix_parts (h : InTurn parts calls result) : calls.map Prod.fst <+: parts := by
  have firsts (ps : List Part) : (ps.map Part.granted).map Prod.fst = ps := by
    rw [List.map_map]
    exact List.map_id ps
  obtain ⟨rfl, -⟩ | ⟨before, p, after, reason, rfl, rfl, -⟩ := h
  · exact ⟨[], (List.append_nil _).trans (firsts parts)⟩
  · rw [List.map_append, firsts]
    exact ⟨after, List.append_assoc _ _ _⟩

/-- All calls but the last were granted. -/
theorem granted_of_mem_dropLast (h : InTurn parts calls result)
    {call : Part × Except String Unit} (mem : call ∈ calls.dropLast) : call.2 = .ok () := by
  have granted (ps : List Part) (mem : call ∈ ps.map Part.granted) : call.2 = .ok () := by
    obtain ⟨p, -, rfl⟩ := List.mem_map.1 mem
    rfl
  obtain ⟨rfl, -⟩ | ⟨before, p, after, reason, -, rfl, -⟩ := h
  · exact granted parts ((List.dropLast_sublist _).subset mem)
  · rw [List.dropLast_concat] at mem
    exact granted before mem

/-- What was called before a part was granted, and is what stands before it. -/
theorem before_call (h : InTurn parts calls result)
    (split : calls = earlier ++ (p, answer) :: later) :
    ∃ before after, parts = before ++ p :: after ∧ ∀ r ∈ before, r.granted ∈ earlier := by
  obtain ⟨rest, whole⟩ := h.prefix_parts
  subst split
  refine ⟨earlier.map Prod.fst, later.map Prod.fst ++ rest, ?_, ?_⟩
  · rw [← whole, List.map_append, List.append_assoc]
    rfl
  · intro r mem
    obtain ⟨call, there, rfl⟩ := List.mem_map.1 mem
    have front : call ∈ (earlier ++ (p, answer) :: later).dropLast := by
      rw [List.dropLast_append_of_ne_nil (List.cons_ne_nil _ _)]
      exact List.mem_append_left _ there
    have ok := h.granted_of_mem_dropLast front
    obtain ⟨r, answer⟩ := call
    cases ok
    exact there

end InTurn

/-! ## What stands before a part -/

/-- Before a queue stand its side queues. -/
def SidesFirst (parts : List Part) : Prop :=
  ∀ before q after, parts = before ++ .queue q :: after → ∀ p ∈ q.sides, p ∈ before

namespace SidesFirst

variable {ps ps' : List Part}

theorem append (h : SidesFirst ps) (h' : SidesFirst ps') : SidesFirst (ps ++ ps') := by
  intro before q after split p side
  obtain ⟨more, front⟩ | ⟨more, rfl, back⟩ := split_append split
  · exact h before q more front p side
  · exact List.mem_append_right ps (h' more q after back p side)

theorem of_no_queue (none : ∀ q, Part.queue q ∉ ps) : SidesFirst ps := by
  rintro before q after rfl
  exact absurd (List.mem_append_right before List.mem_cons_self) (none q)

/-- A queue's parts begin with its side queues. -/
theorem parts (q : Queue) : SidesFirst q.parts := by
  have sides : SidesFirst q.sides := by
    refine of_no_queue fun q' mem => ?_
    unfold Queue.sides at mem
    simp at mem
  intro before q' after split p side
  obtain ⟨more, front⟩ | ⟨more, rfl, back⟩ := split_append split
  · exact sides before q' more front p side
  · cases more with
    | nil =>
      cases back
      exact List.mem_append_left _ side
    | cons r more => cases more <;> cases back

theorem topology (t : Topology) : SidesFirst t.parts := by
  have exchanges : SidesFirst (t.exchanges.map .exchange) := of_no_queue fun q mem => by simp at mem
  have bindings : SidesFirst (t.bindings.map .binding) := of_no_queue fun q mem => by simp at mem
  have queues : SidesFirst (t.queues.flatMap Queue.parts) := by
    induction t.queues with
    | nil => exact of_no_queue fun q mem => by cases mem
    | cons q qs ih =>
      rw [List.flatMap_cons]
      exact (parts q).append ih
  exact (exchanges.append queues).append bindings

end SidesFirst

/-- Before a binding stand all exchanges and the parts of all queues. -/
theorem Topology.before_binding {t : Topology} {before after : List Part} {b : Binding}
    (split : t.parts = before ++ .binding b :: after) :
    (∀ e ∈ t.exchanges, .exchange e ∈ before) ∧ ∀ q ∈ t.queues, ∀ p ∈ q.parts, p ∈ before := by
  have noBinding : Part.binding b ∉ t.exchanges.map .exchange ++ t.queues.flatMap Queue.parts := by
    simp [Queue.parts, Queue.sides]
  have front : t.exchanges.map .exchange ++ t.queues.flatMap Queue.parts ⊆ before := by
    obtain ⟨more, whole⟩ | ⟨more, rfl, -⟩ := split_append split
    · rw [whole] at noBinding
      exact absurd (List.mem_append_right before List.mem_cons_self) noBinding
    · exact List.subset_append_left _ _
  constructor
  · intro e mem
    exact front (List.mem_append_left _ (List.mem_map_of_mem mem))
  · intro q mem p part
    exact front (List.mem_append_right _ (List.mem_flatMap.2 ⟨q, mem, part⟩))

theorem Amqp.Value.ofText_injective {s s' : String} (h : Value.ofText s = Value.ofText s') :
    s = s' := by
  have octets : Utf8.encode s = Utf8.encode s' := Value.longString.inj h
  have decoded := congrArg Utf8.decode? octets
  rwa [Utf8.decode?_encode, Utf8.decode?_encode, Option.some_inj] at decoded

/-- The queue that a queue sends its failed messages to is one of its side queues. -/
theorem Queue.target_mem_sides {q : Queue} {target : String}
    (sends : q.arguments.get? "x-dead-letter-routing-key" = some (.ofText target)) :
    .retry q target ∈ q.sides ∨ .deadLetter q target ∈ q.sides := by
  have named (name : String) (arguments : q.arguments = deadLetterTo name) : target = name := by
    rw [arguments] at sends
    exact Value.ofText_injective (Option.some.inj sends).symm
  unfold sides
  cases retry : q.retryName with
  | some name =>
    left
    rw [named name (by simp [arguments, retry])]
    simp
  | none =>
    cases deadLetter : q.deadLetterName with
    | some name =>
      right
      rw [named name (by simp [arguments, retry, deadLetter])]
      simp
    | none =>
      have none : q.arguments = [] := by simp [arguments, retry, deadLetter]
      rw [none] at sends
      cases sends

/-- A topology is installed in order. Whatever the server answers, the calls that are made are those
for the exchanges, then for the retry queue, the dead-letter queue and the queue itself of every
queue, then for the bindings: all of them and with success, or up to the first that is refused, with
the failure that names what was refused. Hence

* when a queue is declared that sends its failed messages to another, that one has been declared;
* when a binding is asked for, every exchange and every part of a queue has been declared. -/
theorem Topology.installed_in_order (server : Server σ) (handle : Nat) (t : Topology)
    (s : Overheard σ) :
    let (result, s') := (t.install (Link.declarer server.overheard handle)).run s
    ∃ calls : List (Part × Except String Unit),
      s'.world.server.2 = s.world.server.2 ++ calls.map (heard handle) ∧
      InTurn t.parts calls result ∧
      (∀ earlier q answer later target, calls = earlier ++ (.queue q, answer) :: later →
        q.arguments.get? "x-dead-letter-routing-key" = some (.ofText target) →
          (Part.retry q target).granted ∈ earlier ∨ (Part.deadLetter q target).granted ∈ earlier) ∧
      (∀ earlier b answer later, calls = earlier ++ (.binding b, answer) :: later →
        (∀ e ∈ t.exchanges, (Part.exchange e).granted ∈ earlier) ∧
          ∀ q ∈ t.queues, ∀ p ∈ q.parts, p.granted ∈ earlier) := by
  rw [t.install_eq]
  obtain ⟨calls, made, outcome⟩ := Overheard.forM_run server handle t.parts s
  refine ⟨calls, made, outcome, ?queues, ?bindings⟩
  case queues =>
    intro earlier q answer later target split sends
    obtain ⟨before, after, whole, granted⟩ := outcome.before_call split
    have first := SidesFirst.topology t before q after whole
    exact (Queue.target_mem_sides sends).imp (fun side => granted _ (first _ side))
      fun side => granted _ (first _ side)
  case bindings =>
    intro earlier b answer later split
    obtain ⟨before, after, whole, granted⟩ := outcome.before_call split
    obtain ⟨exchanges, queues⟩ := before_binding whole
    exact ⟨fun e mem => granted _ (exchanges e mem),
      fun q mem p part => granted _ (queues q mem p part)⟩

/-- A refused side queue is named itself, and its queue is not declared any more. -/
example (settings : Settings) (policy : RetryPolicy) :
    let refusing : Server Unit := { Server.granting with
      request := fun request => return match request with
        | .declare _ (.queue name _ _) => if name = "orders-dlq" then .error "in use" else .ok ()
        | _ => .ok () }
    let q : Queue := ({ name := "orders" : Queue }.withRetry 5000 3).withDeadLetter
    let (result, s) := ((Topology.single q "bus" "orders").install
      (Link.declarer refusing.overheard 1)).run (Link.fresh settings policy ((), []))
    result = .error (.declareQueue "orders-dlq") ∧
      s.world.server.2 = [(.exchange ⟨"bus", true⟩, .ok ()), (.retry q "orders-retry", .ok ()),
        (.deadLetter q "orders-dlq", .error "in use")].map (heard 1) := ⟨rfl, rfl⟩

end Courier
