import Courier.Dispatch
import Courier.Link.Run
import Courier.Proofs.Acting

/-!
# How a channel is found

Most steps of a link leave its channels alone: they ask the server for something, report, or see to
the connection (`Link.Quiet`). Asking for a channel gives the cached instance if it is open, makes
an instance of the next generation, or fails and leaves the channels alone (`Link.channel_found`).
What the server grants, there is (`Link.channel_granted`), as far as there is a gate for the window
(`ChannelOptions.Fits`).
-/

namespace Courier
set_option autoImplicit false
open Confirm Acting

/-- There is a gate for the window of some options. -/
def ChannelOptions.Fits (options : ChannelOptions) : Prop := max options.window 1 ≤ Gate.maxPlaces

instance (options : ChannelOptions) : Decidable options.Fits :=
  inferInstanceAs (Decidable (_ ≤ _))

/-- The usual window is one that there is a gate for. -/
theorem ChannelOptions.fits_default : ChannelOptions.default.Fits := by decide

namespace Link

variable {σ α β : Type}

/-! ## Steps on the server -/

theorem onServer_bind (act : StateM σ α) (f : α → Step σ β) (s : Surroundings (Link σ)) :
    (onServer act >>= f).run s =
      (f (act s.world.server).1).run
        { s with world := { s.world with server := (act s.world.server).2 } } := rfl

/-- A demand is one request; a refusal is reported and is its failure. -/
theorem demand_eq (server : Server σ) (request : Request) (event : String → Log.Event)
    (error : BrokerError) (s : Surroundings (Link σ)) :
    (demand server request event error).run s =
      match server.request request s.world.server with
      | (.ok (), world) => (.ok (), { s with world := { s.world with server := world } })
      | (.error reason, world) => (.error error, { s with
          world := { s.world with server := world }
          log := s.log ++ [event reason] }) := by
  unfold demand
  rw [onServer_bind]
  cases server.request request s.world.server with
  | mk answer world => cases answer <;> rfl

/-! ## Judgements on steps -/

/-- A judgement that holds of a sequence of steps where it holds of each of them, and of the steps
that do nothing to a link. -/
structure Compositional (P : ∀ {α : Type}, Step σ α → Prop) : Prop where
  pure : ∀ {α : Type} (a : α), P (Pure.pure a : Step σ α)
  throw : ∀ {α : Type} (e : BrokerError), P (MonadExcept.throw e : Step σ α)
  bind : ∀ {α β : Type} {x : Step σ α} {f : α → Step σ β}, P x → (∀ a, P (f a)) → P (x >>= f)
  current : P (Link.current : Step σ (Link σ))
  report : ∀ event, P (Link.report event : Step σ Unit)

namespace Compositional

/-- What every step does to its surroundings may be said by a preorder that reports respect. -/
theorem of_preorder {R : Surroundings (Link σ) → Surroundings (Link σ) → Prop}
    (refl : ∀ s, R s s) (trans : ∀ {s t u}, R s t → R t u → R s u)
    (reported : ∀ s event, R s { s with log := s.log ++ [event] }) :
    Compositional (fun {α} (x : Step σ α) => ∀ s, R s (x.run s).2) where
  pure _ := refl
  throw _ := refl
  bind {_ _ x f} hx hf s := by
    have first := hx s
    cases ran : x.run s with
    | mk result t =>
      rw [ran] at first
      cases result with
      | ok a =>
        rw [bind_ok ran]
        exact trans first (hf a t)
      | error e =>
        rw [bind_error ran]
        exact first
  current := refl
  report event s := reported s event

variable {P : ∀ {α : Type}, Step σ α → Prop} {server : Server σ}

theorem demand (h : Compositional P) {request : Request} (event : String → Log.Event)
    (error : BrokerError) (answered : P (onServer (server.request request))) :
    P (Link.demand server request event error) := by
  unfold Link.demand
  refine h.bind answered fun answer => ?_
  cases answer with
  | ok _ => exact h.pure _
  | error reason => exact h.bind (h.report _) fun _ => h.throw error

theorem connect (h : Compositional P)
    (connected : ∀ uri name, P (onServer (server.connect uri name)))
    (kept : ∀ connection : Nat, P (change fun link : Link σ => { link with connection })) :
    P (Link.connect server) := by
  have anew : P (Link.reconnect server) := by
    unfold Link.reconnect
    refine h.bind h.current fun link => h.bind (connected _ _) fun answer => ?_
    cases answer with
    | ok connection => exact h.bind (kept connection) fun _ => h.pure _
    | error reason => exact h.bind (h.report _) fun _ => h.throw _
  unfold Link.connect
  refine h.bind h.current fun link => ?_
  cases link.connection with
  | none => exact anew
  | some connection =>
    dsimp only
    split
    · exact h.pure connection
    · exact h.bind (h.report _) fun _ => anew

theorem makeChannel (h : Compositional P)
    (numbered : P (change nextGeneration : Step σ Unit))
    (added : ∀ c : Channel, P (change (·.addChannel c) : Step σ Unit))
    (key : String) (handle : Nat) (options : ChannelOptions) :
    P (Link.makeChannel key handle options : Step σ Nat) := by
  unfold Link.makeChannel
  refine h.bind numbered fun _ => h.bind h.current fun link => ?_
  cases Lane.make (confirmKey key link.generations) options.window with
  | none => exact h.throw _
  | some lane => exact h.bind (added _) fun _ => h.pure _

theorem channel (h : Compositional P) (connected : P (Link.connect server))
    (opened : ∀ connection, P (onServer (server.openChannel connection)))
    (selected : ∀ handle, P (onServer (server.request (.confirmSelect handle))))
    (numbered : P (change nextGeneration : Step σ Unit))
    (added : ∀ c : Channel, P (change (·.addChannel c) : Step σ Unit))
    (key : String) (options : ChannelOptions) : P (Link.channel server key options) := by
  have anew : P (Link.openChannel server key options) := by
    unfold Link.openChannel
    refine h.bind connected fun connection => h.bind (opened connection) fun answer => ?_
    have last (handle : Nat) := h.makeChannel numbered added key handle options
    cases answer with
    | error reason => exact h.bind (h.report _) fun _ => h.throw _
    | ok handle =>
      dsimp only
      split
      · exact h.bind (h.demand _ _ (selected handle)) fun _ => last handle
      · exact last handle
  unfold Link.channel
  refine h.bind h.current fun link => ?_
  cases link.cached? key with
  | none => exact anew
  | some known =>
    obtain ⟨i, c⟩ := known
    dsimp only
    split
    · exact h.pure i
    · exact anew

theorem forM {α : Type} (h : Compositional P) {f : α → Step σ PUnit} (each : ∀ a, P (f a))
    (as : List α) : P (as.forM f) := by
  induction as with
  | nil => exact h.pure _
  | cons a as ih => exact h.bind (each a) fun _ => ih

theorem install (h : Compositional P) {declare : Declarer (Surroundings (Link σ))}
    (declared : ∀ declaration, P (ExceptT.mk (declare declaration) : Step σ Unit)) (t : Topology) :
    P (t.install declare : Step σ Unit) := by
  have queue (q : Queue) : P (q.install declare : Step σ Unit) := by
    unfold Queue.install
    cases q.retryName with
    | none =>
      cases q.deadLetterName with
      | none => exact declared _
      | some name => exact h.bind (declared _) fun _ => declared _
    | some name =>
      refine h.bind (declared _) fun _ => ?_
      cases q.deadLetterName with
      | none => exact declared _
      | some name => exact h.bind (declared _) fun _ => declared _
  unfold Topology.install
  refine h.bind (h.forM (fun e => declared (.exchange e)) t.exchanges) fun _ => ?_
  refine h.bind (h.forM queue t.queues) fun _ => ?_
  exact h.forM (fun b => declared (.binding b)) t.bindings

theorem declareQueue (h : Compositional P) {queue : Queue}
    (channel : P (Link.channel server queue.name .default))
    (demanded : ∀ request event error, P (Link.demand server request event error))
    (exchange routingKey : String) : P (Link.declareQueue server queue exchange routingKey) := by
  unfold Link.declareQueue
  refine h.bind channel fun i => h.bind h.current fun link => ?_
  exact h.install (fun declaration => demanded _ _ _) _

/-- A consumer asks for one channel, under the name of its queue. -/
theorem subscribe (h : Compositional P) {name : String}
    (channel : P (Link.channel server name .default))
    (demanded : ∀ request event error, P (Link.demand server request event error))
    (routing : String → Route) : P (Dispatch.subscribe server routing name) := by
  have declared (policy : RetryPolicy) (exchange routingKey : String) :
      P (Link.declareQueue server (policy.queue name) exchange routingKey) := by
    refine h.declareQueue ?_ demanded exchange routingKey
    rw [policy.name_queue]
    exact channel
  unfold Dispatch.subscribe Link.limit
  refine h.bind h.current fun link => h.bind (declared _ _ _) fun _ => ?_
  refine h.bind channel fun i => h.bind h.current fun link => ?_
  refine h.bind (h.bind h.current fun link => demanded _ _ _) fun _ => ?_
  exact h.bind (demanded _ _ _) fun _ => h.pure _

end Compositional

/-! ## Steps that leave the channels alone -/

/-- Nothing has happened to the channels: the connection, the server and the log may be others. -/
def Idle (s t : Surroundings (Link σ)) : Prop :=
  ∃ connection server log, t = ⟨{ s.world with connection, server }, s.cancelled, log⟩

theorem Idle.refl (s : Surroundings (Link σ)) : Idle s s := ⟨_, _, _, rfl⟩

theorem Idle.trans {s t u : Surroundings (Link σ)} (h : Idle s t) (h' : Idle t u) : Idle s u := by
  obtain ⟨_, _, _, rfl⟩ := h
  obtain ⟨connection, server, log, rfl⟩ := h'
  exact ⟨connection, server, log, rfl⟩

/-- A step that does nothing to the channels. -/
def Quiet (x : Step σ α) : Prop := ∀ s, Idle s (x.run s).2

/-- After a step that does nothing to the channels, the rest goes on or the failure is the
result. -/
theorem Quiet.run_bind {x : Step σ α} {f : α → Step σ β} {s t : Surroundings (Link σ)}
    {P : Except BrokerError β × Surroundings (Link σ) → Prop} (hx : Quiet x) (idle : Idle s t)
    (ok : ∀ a u, Idle s u → P ((f a).run u)) (error : ∀ e u, Idle s u → P (.error e, u)) :
    P ((x >>= f).run t) := by
  have after := idle.trans (hx t)
  cases ran : x.run t with
  | mk result u =>
    rw [ran] at after
    cases result with
    | ok a =>
      rw [bind_ok ran]
      exact ok a u after
    | error e =>
      rw [bind_error ran]
      exact error e u after

theorem quiet_compositional : Compositional (@Quiet σ) :=
  .of_preorder Idle.refl Idle.trans fun _ _ => ⟨_, _, _, rfl⟩

namespace Quiet

theorem onServer (act : StateM σ α) : Quiet (Link.onServer act) := fun _ => ⟨_, _, _, rfl⟩

theorem report (event : Log.Event) : Quiet (Link.report event : Step σ Unit) :=
  quiet_compositional.report event

theorem demand (server : Server σ) (request : Request) (event : String → Log.Event)
    (error : BrokerError) : Quiet (Link.demand server request event error) :=
  quiet_compositional.demand event error (onServer _)

theorem connect (server : Server σ) : Quiet (Link.connect server) :=
  quiet_compositional.connect (fun _ _ => onServer _) fun _ _ => ⟨_, _, _, rfl⟩

theorem install (server : Server σ) (handle : Nat) (t : Topology) :
    Quiet (t.install (declarer server handle)) :=
  quiet_compositional.install (fun _ => demand server _ _ _) t

end Quiet

/-! ## How a channel is made -/

/-- A link with a new instance of the next generation. -/
def grown (link : Link σ) (key : String) (handle : Nat) (options : ChannelOptions) : Link σ :=
  let generation := link.generations + 1
  link.nextGeneration.addChannel
    ⟨key, generation, handle, .new (confirmKey key generation) options.window⟩

theorem makeChannel_run (key : String) (handle : Nat) (options : ChannelOptions)
    (s : Surroundings (Link σ)) :
    (makeChannel key handle options).run s =
      if options.Fits then
        (.ok s.world.instances.length, { s with world := s.world.grown key handle options })
      else (.error .internal, { s with world := s.world.nextGeneration }) := by
  have lane (name : String) : Lane.make name options.window =
      if options.Fits then some (.new name options.window) else none :=
    Lane.make_eq name options.window
  let s' : Surroundings (Link σ) := { s with world := s.world.nextGeneration }
  unfold makeChannel
  rw [bind_ok (x := change nextGeneration) (a := ()) (t := s') rfl,
    bind_ok (x := Link.current) (a := s'.world) (t := s') rfl, lane]
  by_cases fits : options.Fits
  · rw [if_pos fits, if_pos fits]
    rfl
  · rw [if_neg fits, if_neg fits]
    rfl

/-! ## How a channel is found -/

/-- No open instance is cached for a key. -/
def Lost (server : Server σ) (link : Link σ) (key : String) : Prop :=
  ∀ i c, link.cached? key = some (i, c) → server.isOpen link.server c.handle = false

/-- How a call for a channel can end. -/
inductive Found (server : Server σ) (key : String) (options : ChannelOptions)
    (s : Surroundings (Link σ)) : Except BrokerError Nat × Surroundings (Link σ) → Prop where
  | cached {i : Nat} {c : Channel} (known : s.world.cached? key = some (i, c))
    (isOpen : server.isOpen s.world.server c.handle = true) : Found server key options s (.ok i, s)
  | made {t : Surroundings (Link σ)} (lost : Lost server s.world key) (idle : Idle s t)
    (fits : options.Fits) (handle : Nat) :
    Found server key options s (.ok s.world.instances.length,
      { t with world := t.world.grown key handle options })
  | aborted {t : Surroundings (Link σ)} (lost : Lost server s.world key) (idle : Idle s t)
    (beyond : ¬options.Fits) :
    Found server key options s (.error .internal, { t with world := t.world.nextGeneration })
  | failed {t : Surroundings (Link σ)} (lost : Lost server s.world key) (idle : Idle s t)
    (error : BrokerError) : Found server key options s (.error error, t)

theorem found_makeChannel {server : Server σ} {key : String} {options : ChannelOptions}
    {s t : Surroundings (Link σ)} (lost : Lost server s.world key) (idle : Idle s t)
    (handle : Nat) :
    Found server key options s ((makeChannel key handle options).run t) := by
  have same : s.world.instances.length = t.world.instances.length := by
    obtain ⟨_, _, _, rfl⟩ := idle
    rfl
  rw [makeChannel_run]
  split
  · next fits =>
    rw [← same]
    exact .made lost idle fits handle
  · next beyond => exact .aborted lost idle beyond

theorem found_openChannel {server : Server σ} {key : String} {s : Surroundings (Link σ)}
    (lost : Lost server s.world key) (options : ChannelOptions) :
    Found server key options s ((openChannel server key options).run s) := by
  have failed (e : BrokerError) (t : Surroundings (Link σ)) (idle : Idle s t) :
      Found server key options s (.error e, t) := .failed lost idle e
  unfold openChannel
  refine (Quiet.connect server).run_bind (.refl s) (fun connection t idle => ?_) failed
  refine (Quiet.onServer _).run_bind idle (fun answer t idle => ?_) failed
  cases answer with
  | error reason => exact (Quiet.report _).run_bind idle (fun _ t idle => failed _ t idle) failed
  | ok handle =>
    dsimp only
    split
    · exact (Quiet.demand server _ _ _).run_bind idle
        (fun _ t idle => found_makeChannel lost idle handle) failed
    · exact found_makeChannel lost idle handle

/-- An open channel is taken from the cache, and any other is opened. -/
theorem channel_cases (server : Server σ) (key : String) (options : ChannelOptions)
    (s : Surroundings (Link σ)) :
    (∃ i c, s.world.cached? key = some (i, c) ∧ server.isOpen s.world.server c.handle = true ∧
      (channel server key options).run s = (.ok i, s)) ∨
    Lost server s.world key ∧
      (channel server key options).run s = (openChannel server key options).run s := by
  unfold channel
  rw [bind_ok (x := Link.current) (a := s.world) (t := s) rfl]
  cases known : s.world.cached? key with
  | none => exact .inr ⟨fun _ _ known' => (by cases known.symm.trans known'), rfl⟩
  | some entry =>
    obtain ⟨i, c⟩ := entry
    dsimp only
    cases isOpen : server.isOpen s.world.server c.handle with
    | true => exact .inl ⟨i, c, rfl, isOpen, rfl⟩
    | false =>
      refine .inr ⟨fun i' c' known' => ?_, rfl⟩
      cases known.symm.trans known'
      exact isOpen

theorem channel_of_lost {server : Server σ} {key : String} {s : Surroundings (Link σ)}
    (lost : Lost server s.world key) (options : ChannelOptions) :
    (channel server key options).run s = (openChannel server key options).run s := by
  obtain ⟨i, c, known, isOpen, _⟩ | ⟨_, same⟩ := channel_cases server key options s
  · rw [lost i c known] at isOpen
    cases isOpen
  · exact same

theorem channel_found (server : Server σ) (key : String) (options : ChannelOptions)
    (s : Surroundings (Link σ)) :
    Found server key options s ((channel server key options).run s) := by
  obtain ⟨i, c, known, isOpen, same⟩ | ⟨lost, same⟩ := channel_cases server key options s
  · rw [same]
    exact .cached known isOpen
  · rw [same]
    exact found_openChannel lost options

/-! ## What is granted -/

/-- The connection that a link has or gets, and the server's world then: the open one as it is, or
one made anew. -/
inductive Connects (server : Server σ) (link : Link σ) (connection : Nat) : σ → Prop where
  | held (has : link.connection = some connection)
    (isConnected : server.isConnected link.server connection = true) :
    Connects server link connection link.server
  | anew {world : σ}
    (lost : ∀ old, link.connection = some old → server.isConnected link.server old = false)
    (connected : server.connect link.settings.uri link.settings.appName link.server
      = (.ok connection, world)) : Connects server link connection world

/-- The server grants all that a new channel takes: the connection, the channel, and its
confirmations where they are wanted. -/
inductive Grants (server : Server σ) (link : Link σ) (options : ChannelOptions)
    (connection handle : Nat) : Prop where
  | intro {world world' : σ} (connects : Connects server link connection world)
    (opened : server.openChannel connection world = (.ok handle, world'))
    (confirmed : options.confirms = true →
      (server.request (.confirmSelect handle) world').1 = .ok ())

section Granted
variable {server : Server σ} {s : Surroundings (Link σ)} {connection handle : Nat} {world : σ}
  {key : String} {options : ChannelOptions}

theorem connect_of_connects (connects : Connects server s.world connection world) :
    ∃ log, (connect server).run s = (.ok connection, ⟨{ s.world with
      connection := some connection, server := world }, s.cancelled, log⟩) := by
  unfold connect
  rw [bind_ok (x := Link.current) (a := s.world) (t := s) rfl]
  cases connects with
  | held has isConnected =>
    refine ⟨s.log, ?_⟩
    rw [has]
    dsimp only
    rw [if_pos isConnected, ← has]
    rfl
  | anew lost connected =>
    have anew (log : List Log.Event) : (reconnect server).run { s with log } =
        (.ok connection, ⟨{ s.world with connection := some connection, server := world },
          s.cancelled, log⟩) := by
      unfold reconnect
      rw [bind_ok (x := Link.current) (a := s.world) (t := { s with log }) rfl, onServer_bind]
      dsimp only
      rw [connected]
      rfl
    cases has : s.world.connection with
    | none => exact ⟨s.log, anew s.log⟩
    | some old =>
      let log := s.log ++ [.reconnecting]
      dsimp only
      rw [lost old has, if_neg Bool.false_ne_true,
        bind_ok (x := Link.report .reconnecting) (a := ()) (t := { s with log }) rfl]
      exact ⟨log, anew log⟩

theorem openChannel_granted (key : String)
    (grants : Grants server s.world options connection handle) :
    ∃ t, Idle s t ∧ t.world.connection = some connection ∧
      (openChannel server key options).run s = (makeChannel key handle options).run t := by
  obtain @⟨world, world', connects, opened, confirmed⟩ := grants
  obtain ⟨log, connected⟩ := connect_of_connects connects
  unfold openChannel
  rw [bind_ok connected, onServer_bind]
  dsimp only
  rw [opened]
  dsimp only
  split
  · next confirms =>
    have granted := confirmed confirms
    cases answered : server.request (.confirmSelect handle) world' with
    | mk answer world'' =>
      rw [answered] at granted
      cases granted
      rw [bind_ok (a := ()) (by rw [demand_eq, answered])]
      exact ⟨_, ⟨_, _, _, rfl⟩, rfl, rfl⟩
  · exact ⟨_, ⟨_, _, _, rfl⟩, rfl, rfl⟩

/-- Who asks for a channel that is not open and is granted all that it takes has a new instance if
there is a gate for its window, and is aborted if there is none. A generation is used up either
way. -/
theorem channel_granted (lost : Lost server s.world key)
    (grants : Grants server s.world options connection handle) :
    ∃ t, (channel server key options).run s =
        (if options.Fits then .ok s.world.instances.length else .error .internal, t) ∧
      t.world.connection = some connection ∧ t.world.generations = s.world.generations + 1 := by
  obtain ⟨t, idle, held, same⟩ := openChannel_granted key grants
  obtain ⟨_, _, _, rfl⟩ := idle
  rw [channel_of_lost lost, same, makeChannel_run]
  split
  · exact ⟨_, rfl, held, rfl⟩
  · exact ⟨_, rfl, held, rfl⟩

end Granted

end Link

end Courier
