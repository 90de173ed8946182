import Courier.Link.Run
import Courier.Proofs.Link.Channel
import Courier.Proofs.Publication
import Courier.Proofs.Route
import Courier.Proofs.Settlement

/-!
# What publishers and consumers provide

Which queues are declared, bound and consumed for the messages of a type, seen by the requests that
are put to the server. A step provides something (`Link.Provides`) if it puts the requests for it in
order, all of them where it succeeds. Publisher and consumer provide the same queue for a type
exactly if its name has no separator (`Dispatch.meets_publisher`): the one names the queue after the
key of the route, the other after the type.
-/

namespace Courier
set_option autoImplicit false
open Amqp Confirm Acting

variable {σ α β : Type}

/-- What a request does for the messages of a type. -/
inductive Provision where
  | declared (declaration : Declaration)
  | consumed (queue : String)
  | published (exchange routingKey : String)

/-- What a request provides, if anything. -/
def Request.provision? : Request → Option Provision
  | .declare _ declaration => some (.declared declaration)
  | .subscribe _ queue _ => some (.consumed queue)
  | .publish _ frame _ => some (.published frame.exchange frame.routingKey)
  | _ => none

/-- What some requests provide. -/
def provisions (requests : List Request) : List Provision := requests.filterMap Request.provision?

namespace Link

/-- A step on a link with a recorded server that puts the requests for some provisions: for all of
them in their order if it succeeds, for the first of them if not. -/
def Provides (ps : List Provision) (x : Step (σ × List Request) α) : Prop :=
  ∀ s, ∃ requests, (x.run s).2.world.server.2 = s.world.server.2 ++ requests ∧
    provisions requests <+: ps ∧ ∀ a, (x.run s).1 = .ok a → provisions requests = ps

namespace Provides

variable {ps qs : List Provision}

/-- A step that puts no requests. -/
theorem silent {x : Step (σ × List Request) α}
    (same : ∀ s, (x.run s).2.world.server.2 = s.world.server.2) : Provides [] x := by
  intro s
  refine ⟨[], ?_, List.prefix_rfl, fun _ _ => rfl⟩
  rw [same, List.append_nil]

theorem throw (ps : List Provision) (e : BrokerError) :
    Provides ps (MonadExcept.throw e : Step (σ × List Request) α) := by
  intro s
  exact ⟨[], (List.append_nil _).symm, List.nil_prefix, nofun⟩

theorem bind {x : Step (σ × List Request) α} {f : α → Step (σ × List Request) β}
    (hx : Provides ps x) (hf : ∀ a, Provides qs (f a)) : Provides (ps ++ qs) (x >>= f) := by
  intro s
  obtain ⟨requests, asked, front, all⟩ := hx s
  cases ran : x.run s with
  | mk result t =>
    rw [ran] at asked all
    cases result with
    | error e =>
      rw [bind_error ran]
      exact ⟨requests, asked, front.trans (List.prefix_append ps qs), nofun⟩
    | ok a =>
      obtain ⟨more, asked', front', all'⟩ := hf a t
      rw [bind_ok ran]
      have split : provisions (requests ++ more) = ps ++ provisions more := by
        rw [← all a rfl]
        exact List.filterMap_append
      refine ⟨requests ++ more, ?_, ?_, fun b ok => ?_⟩
      · rw [asked', asked, List.append_assoc]
      · rw [split, List.prefix_append_right_inj]
        exact front'
      · rw [split, all' b ok]

/-- What comes before provides nothing. -/
theorem before {x : Step (σ × List Request) α} {f : α → Step (σ × List Request) β}
    (hx : Provides [] x) (hf : ∀ a, Provides qs (f a)) : Provides qs (x >>= f) :=
  hx.bind hf

theorem compositional :
    Compositional (fun {α} (x : Step (σ × List Request) α) => Provides [] x) where
  pure _ := silent fun _ => rfl
  throw := throw []
  bind hx hf := hx.bind hf
  current := silent fun _ => rfl
  report _ := silent fun _ => rfl

theorem request (server : Server σ) (request : Request) :
    Provides (provisions [request]) (onServer (server.recorded.request request)) := by
  intro s
  exact ⟨[request], rfl, List.prefix_rfl, fun _ _ => rfl⟩

theorem demand (server : Server σ) (request : Request) (event : String → Log.Event)
    (error : BrokerError) :
    Provides (provisions [request]) (Link.demand server.recorded request event error) := by
  unfold Link.demand
  rw [← List.append_nil (provisions _)]
  refine (Provides.request server request).bind fun answer => ?_
  cases answer with
  | ok _ => exact compositional.pure _
  | error reason => exact compositional.bind (compositional.report _) fun _ => throw [] error

theorem connect (server : Server σ) : Provides [] (Link.connect server.recorded) :=
  compositional.connect (fun _ _ => silent fun _ => rfl) fun _ => silent fun _ => rfl

theorem channel (server : Server σ) (key : String) (options : ChannelOptions) :
    Provides [] (Link.channel server.recorded key options) :=
  compositional.channel (connect server) (fun _ => silent fun _ => rfl)
    (fun handle => request server (.confirmSelect handle)) (silent fun _ => rfl)
    (fun _ => silent fun _ => rfl) key options

theorem forM {f : α → Step (σ × List Request) PUnit} {g : α → List Provision}
    (each : ∀ a, Provides (g a) (f a)) (as : List α) : Provides (as.flatMap g) (as.forM f) := by
  induction as with
  | nil => exact compositional.pure _
  | cons a as ih =>
    rw [List.flatMap_cons]
    exact (each a).bind fun _ => ih

theorem install (server : Server σ) (handle : Nat) (t : Topology) :
    Provides (t.declarations.map .declared) (t.install (declarer server.recorded handle)) := by
  have declared (declaration : Declaration) : Provides [.declared declaration]
      (ExceptT.mk (declarer server.recorded handle declaration) :
        Step (σ × List Request) Unit) :=
    demand server (.declare handle declaration) _ _
  have queue (q : Queue) : Provides (q.declarations.map .declared)
      (q.install (declarer server.recorded handle) : Step (σ × List Request) Unit) := by
    unfold Queue.install Queue.declarations
    cases q.retryName with
    | none =>
      cases q.deadLetterName with
      | none => exact declared _
      | some name => exact (declared _).bind fun _ => declared _
    | some name =>
      cases q.deadLetterName with
      | none => exact (declared _).bind fun _ => declared _
      | some name => exact (declared _).bind fun _ => (declared _).bind fun _ => declared _
  have provided : Provides
      (t.exchanges.flatMap (fun e => [.declared (.exchange e)])
        ++ (t.queues.flatMap (fun q => q.declarations.map .declared)
          ++ t.bindings.flatMap fun b => [.declared (.binding b)]))
      (t.install (declarer server.recorded handle)) := by
    unfold Topology.install
    refine (forM (fun e => declared (.exchange e)) t.exchanges).bind fun _ => ?_
    refine (forM queue t.queues).bind fun _ => ?_
    exact forM (fun b => declared (.binding b)) t.bindings
  unfold Topology.declarations
  rw [List.map_append, List.map_append, List.map_map, List.map_map, List.map_flatMap,
    List.map_eq_flatMap, List.map_eq_flatMap, List.append_assoc]
  exact provided

theorem limit (server : Server σ) (i prefetch : Nat) :
    Provides [] (Link.limit server.recorded i prefetch) := by
  unfold Link.limit
  exact compositional.current.bind fun link => demand server (.limit (link.handle i) prefetch) _ _

/-- Declaring a queue puts its declarations. -/
theorem declareQueue (server : Server σ) (queue : Queue) (exchange routingKey : String) :
    Provides ((Topology.single queue exchange routingKey).declarations.map .declared)
      (Link.declareQueue server.recorded queue exchange routingKey) := by
  unfold Link.declareQueue
  refine (channel server queue.name .default).bind fun i => ?_
  exact compositional.current.bind fun link => install server (link.handle i) _

end Provides

/-! ## Publishing -/

/-- Nothing but publishes has been asked for in between. -/
def OnlyPublished (asked asked' : List Request) : Prop :=
  ∃ requests, asked' = asked ++ requests ∧
    ∀ p ∈ provisions requests, ∃ exchange routingKey, p = .published exchange routingKey

namespace OnlyPublished

variable {asked asked' asked'' : List Request}

theorem refl (asked : List Request) : OnlyPublished asked asked :=
  ⟨[], (List.append_nil asked).symm, nofun⟩

theorem trans (first : OnlyPublished asked asked') (rest : OnlyPublished asked' asked'') :
    OnlyPublished asked asked'' := by
  obtain ⟨requests, rfl, published⟩ := first
  obtain ⟨more, rfl, published'⟩ := rest
  refine ⟨requests ++ more, List.append_assoc asked requests more, ?_⟩
  intro p mem
  unfold provisions at mem
  rw [List.filterMap_append, List.mem_append] at mem
  exact mem.elim (published p) (published' p)

theorem publish (asked : List Request) (handle : Nat) (frame : Frame) (mandatory : Bool) :
    OnlyPublished asked (asked ++ [.publish handle frame mandatory]) := by
  refine ⟨[.publish handle frame mandatory], rfl, ?_⟩
  intro p mem
  exact ⟨frame.exchange, frame.routingKey, List.mem_singleton.1 mem⟩

end OnlyPublished

/-- What a channel hands to the wire is published. -/
theorem wire_publishes (server : Server σ) (handle : Nat) (frame : Frame)
    (w : σ × List Request) :
    OnlyPublished w.2 ((wire server.recorded handle frame).run w).2.2 := by
  have asked : (server.recorded.request (.publish handle frame true)).run w
      = ((server.request (.publish handle frame true) w.1).1,
        (server.request (.publish handle frame true) w.1).2,
        w.2 ++ [.publish handle frame true]) := rfl
  have ran : ((wire server.recorded handle frame).run w).2.2
      = w.2 ++ [.publish handle frame true] := by
    unfold wire
    rw [StateT.run_bind, asked]
    cases (server.request (.publish handle frame true) w.1).1 <;> rfl
  rw [ran]
  exact .publish w.2 handle frame true

section Settling

variable {ω : Type} {wire : Wire ω} {P : ω → ω → Prop}

/-- What holds of a world and what the wire makes of it, again and again, holds of a world and what
a desk that is let alone makes of it. -/
theorem settle_keeps (refl : ∀ w, P w w) (trans : ∀ {w w' w''}, P w w' → P w' w'' → P w w'')
    (wired : ∀ frame w, P w ((wire frame).run w).2) (d : Desk) (w : ω) :
    P w ((d.settle wire).run w).2 := by
  have perform (d : Desk) (task : Desk.Task) (w : ω) : P w ((d.perform wire task).run w).2 := by
    cases task with
    | unwatch j => exact refl w
    | advance i =>
      unfold Desk.perform
      dsimp only
      split
      · next frame _ sequence _ =>
        rw [StateT.run_bind]
        have handed := wired (frame.numbered sequence) w
        generalize (wire (frame.numbered sequence)).run w = ran at handed
        obtain ⟨answer, w'⟩ := ran
        cases answer with
        | none => exact handed
        | some result => exact handed
      · exact refl w
  have work (n : Nat) : ∀ (d : Desk) (w : ω), P w ((d.work wire n).run w).2 := by
    induction n with
    | zero => exact fun _ w => refl w
    | succ n ih =>
      intro d w
      unfold Desk.work
      cases d.nextTask with
      | none => exact refl w
      | some task => exact trans (perform d task w) (ih _ _)
  exact work d.tasksLeft d w

end Settling

/-- A step on a link with a recorded server that asks for nothing but publishes. -/
def Publishes (x : Step (σ × List Request) α) : Prop :=
  ∀ s, OnlyPublished s.world.server.2 (x.run s).2.world.server.2

namespace Publishes

theorem compositional : Compositional (@Publishes σ) := by
  let further (s t : Surroundings (Link (σ × List Request))) : Prop :=
    OnlyPublished s.world.server.2 t.world.server.2
  exact .of_preorder (R := further) (fun _ => .refl _) .trans fun _ _ => .refl _

theorem of_provides {x : Step (σ × List Request) α} (none : Provides [] x) : Publishes x := by
  intro s
  obtain ⟨requests, asked, front, _⟩ := none s
  refine ⟨requests, asked, ?_⟩
  rw [List.prefix_nil.1 front]
  nofun

theorem settle (server : Server σ) (handle : Nat) (d : Desk) :
    Publishes (onServer (d.settle (wire server.recorded handle))) := by
  intro s
  exact settle_keeps (P := fun w w' => OnlyPublished w.2 w'.2) (fun w => .refl w.2) .trans
    (wire_publishes server handle) d s.world.server

theorem publishOn (server : Server σ) (i : Nat) (frame : Frame) (cancelled : Bool) :
    Publishes (Link.publishOn server.recorded i frame cancelled) := by
  unfold Link.publishOn
  refine compositional.bind compositional.current fun link => ?_
  cases link.instances[i]? with
  | none => exact compositional.throw _
  | some c =>
    dsimp only
    refine compositional.bind (settle server c.handle _) fun d => ?_
    refine compositional.bind (settle server c.handle _) fun d => ?_
    have put : Publishes (putDesk i d : Step (σ × List Request) Unit) := fun s => .refl _
    refine compositional.bind put fun _ => ?_
    split
    · next result _ =>
      cases result with
      | ok n => exact compositional.pure n
      | error e => exact compositional.throw e
    · exact compositional.throw _

theorem publish (server : Server σ) (frame : Frame) :
    Publishes (Link.publish server.recorded frame) := by
  have sent (cancelled : Bool) : Publishes (do
      let i ← Link.channel server.recorded frame.exchange
        (.publishing (← Link.current).settings.maxOutstandingConfirms)
      Link.publishOn server.recorded i frame cancelled) := by
    refine compositional.bind compositional.current fun link => ?_
    exact compositional.bind (of_provides (Provides.channel server _ _)) fun i =>
      publishOn server i frame cancelled
  intro s
  unfold Link.publish
  rw [get_bind]
  cases s.cancelled with
  | true => exact .refl _
  | false => exact sent false s

end Publishes

end Link

/-! ## The two sides -/

namespace Topology

/-- What declares a queue tells its name. -/
theorem single_declarations_inj {q q' : Queue} {exchange routingKey : String}
    (same : (single q exchange routingKey).declarations
      = (single q' exchange routingKey).declarations) : q.name = q'.name := by
  have last (q : Queue) : (single q exchange routingKey).declarations.getLast?
      = some (.binding ⟨q.name, exchange, routingKey⟩) := by
    unfold declarations
    exact List.getLast?_concat
  have bindings := congrArg List.getLast? same
  rw [last, last, Option.some_inj] at bindings
  exact congrArg Binding.queue (Declaration.binding.inj bindings)

end Topology

namespace Publication

theorem send_publishes (server : Server σ) (trace : List (String × String)) (parcel : Parcel)
    (p : Publication (Link (σ × List Request))) :
    Link.OnlyPublished p.around.world.server.2
      ((send (Link.broker server.recorded) trace parcel).run p).2.around.world.server.2 := by
  have published := Link.Publishes.publish server (parcel.frame trace) p.around
  have answered : (Link.broker server.recorded).publish (parcel.frame trace) p.around
      = (Link.publish server.recorded (parcel.frame trace)).run p.around := rfl
  unfold send
  rw [work_bind, answered]
  generalize (Link.publish server.recorded (parcel.frame trace)).run p.around = ran at published
  obtain ⟨answer, s⟩ := ran
  cases answer with
  | ok n => exact published
  | error e => exact published

/-- A publisher declares what its parcel's route says before it publishes anything. -/
theorem declareAndSend_provides (server : Server σ) (trace : List (String × String))
    (parcel : Parcel) (p : Publication (Link (σ × List Request))) :
    let declared := (Topology.single (p.around.world.policy.queue parcel.route.routingKey)
      parcel.route.exchange parcel.route.routingKey).declarations.map Provision.declared
    let (result, q) := (declareAndSend (Link.broker server.recorded) trace parcel).run p
    ∃ before after,
      q.around.world.server.2 = p.around.world.server.2 ++ before ++ after ∧
        provisions before <+: declared ∧
        (result = .ok () ∨ after ≠ [] → provisions before = declared) ∧
        ∀ x ∈ provisions after, ∃ exchange routingKey, x = .published exchange routingKey := by
  intro declared
  have provided := Link.Provides.declareQueue server
    (p.around.world.policy.queue parcel.route.routingKey) parcel.route.exchange
    parcel.route.routingKey p.around
  have answered : (Link.broker server.recorded).declare parcel.route.routingKey
      parcel.route.exchange parcel.route.routingKey p.around =
        (Prod.map some id ((Link.declareQueue server.recorded
          (p.around.world.policy.queue parcel.route.routingKey) parcel.route.exchange
          parcel.route.routingKey).run p.around)) := rfl
  generalize (Link.declareQueue server.recorded _ _ _).run p.around = ran at provided answered
  obtain ⟨answer, s⟩ := ran
  obtain ⟨before, asked, front, all⟩ := provided
  unfold declareAndSend
  rw [work_bind, answered, get_bind]
  dsimp only
  rw [modify_bind]
  cases answer with
  | error e =>
    refine ⟨before, [], asked.trans (List.append_nil _).symm, front, ?_, nofun⟩
    rintro (done | more)
    · cases done
    · exact absurd rfl more
  | ok _ =>
    obtain ⟨after, sent, published⟩ := send_publishes server trace parcel
      { p with around := s, declared := (parcel.atDeclared p.declared (some (.ok ()))).2 }
    refine ⟨before, after, ?_, front, fun _ => all () rfl, published⟩
    rw [← asked]
    exact sent

end Publication

namespace Dispatch

/-- A consumer declares a queue of the type's name before it consumes it. -/
theorem subscribe_provides (server : Server σ) (routing : String → Route) (name : String)
    (s : Surroundings (Link (σ × List Request))) :
    let provided := (Topology.single (s.world.policy.queue name) (routing name).exchange
      (routing name).routingKey).declarations.map Provision.declared ++ [.consumed name]
    let (result, t) := (subscribe server.recorded routing name).run s
    ∃ requests,
      t.world.server.2 = s.world.server.2 ++ requests ∧ provisions requests <+: provided ∧
        ∀ subscription, result = .ok subscription → provisions requests = provided := by
  intro provided
  have rest : Link.Provides provided (do
      Link.declareQueue server.recorded (s.world.policy.queue name) (routing name).exchange
        (routing name).routingKey
      let i ← Link.channel server.recorded name .default
      let link ← Link.current
      Link.limit server.recorded i link.settings.prefetch
      Link.demand server.recorded
        (.subscribe (link.handle i) name (tag link.settings.appName name))
        (.consumerFailed · name) (.consume name)
      return ⟨s.world.policy.queue name, i⟩ : Link.Step (σ × List Request) Subscription) := by
    refine (Link.Provides.declareQueue server _ _ _).bind fun _ => ?_
    refine (Link.Provides.channel server name .default).before fun i => ?_
    refine Link.Provides.compositional.current.before fun link => ?_
    refine (Link.Provides.limit server i link.settings.prefetch).before fun _ => ?_
    exact (Link.Provides.demand server (.subscribe _ name _) _ _).bind fun _ =>
      Link.Provides.compositional.pure _
  exact rest s

/-- Publisher and consumer of a type agree on its queue exactly if the type's name has no separator.
Before it publishes anything, a publisher puts the declarations of a queue that is named after the
key of the type's route; before it consumes anything, a consumer puts those of a queue that is named
after the type, and it consumes that queue. Both bind their queue to the exchange by the key of the
route, and give it what the policy says. -/
theorem meets_publisher (server : Server σ) (exchange name : String)
    (trace : List (String × String)) (envelope : Envelope)
    (p : Publication (Link (σ × List Request))) (s : Surroundings (Link (σ × List Request))) :
    let route := Route.of exchange name
    let queues (policy : RetryPolicy) (queue : String) : List Declaration :=
      (Topology.single (policy.queue queue) exchange route.routingKey).declarations
    (let declared := (queues p.around.world.policy route.routingKey).map Provision.declared
      let (result, q) :=
        (Publication.declareAndSend (Link.broker server.recorded) trace ⟨route, envelope⟩).run p
      ∃ before after,
        q.around.world.server.2 = p.around.world.server.2 ++ before ++ after ∧
          provisions before <+: declared ∧
          (result = .ok () ∨ after ≠ [] → provisions before = declared) ∧
          ∀ x ∈ provisions after, ∃ exchange routingKey, x = .published exchange routingKey) ∧
    (let provided := (queues s.world.policy name).map Provision.declared ++ [.consumed name]
      let (result, t) := (subscribe server.recorded (Route.of exchange) name).run s
      ∃ requests,
        t.world.server.2 = s.world.server.2 ++ requests ∧ provisions requests <+: provided ∧
          ∀ subscription, result = .ok subscription → provisions requests = provided) ∧
    (∀ policy, queues policy route.routingKey = queues policy name ↔ ¬Qualified name) ∧
    (route.routingKey = name ↔ ¬Qualified name) := by
  intro route queues
  have key : route.routingKey = name ↔ ¬Qualified name := simpleName_eq_self_iff
  refine ⟨Publication.declareAndSend_provides server trace ⟨route, envelope⟩ p,
    subscribe_provides server (Route.of exchange) name s, fun policy => ?_, key⟩
  rw [← key]
  constructor
  · intro same
    have names := Topology.single_declarations_inj same
    rwa [RetryPolicy.name_queue, RetryPolicy.name_queue] at names
  · intro same
    rw [same]

/-- What a publisher declares for a type with a qualified name, and what a consumer of it
provides. -/
theorem misses_publisher :
    let s : Surroundings (Link (Unit × List Request)) :=
      Link.fresh Settings.default .requeue ((), [])
    let route := Route.of "client-manager" "contracts::CreateClient"
    let declared := ((Link.broker Server.granting.recorded).declare route.routingKey route.exchange
      route.routingKey s).2.world.server.2
    let provided := ((subscribe Server.granting.recorded (Route.of "client-manager")
      "contracts::CreateClient").run s).2.world.server.2
    provisions declared =
      [.declared (.exchange ⟨"client-manager", true⟩), .declared (.queue "CreateClient" true []),
        .declared (.binding ⟨"CreateClient", "client-manager", "CreateClient"⟩)] ∧
    provisions provided =
      [.declared (.exchange ⟨"client-manager", true⟩),
        .declared (.queue "contracts::CreateClient" true []),
        .declared (.binding ⟨"contracts::CreateClient", "client-manager", "CreateClient"⟩),
        .consumed "contracts::CreateClient"] := by
  exact ⟨rfl, rfl⟩

end Dispatch

end Courier
