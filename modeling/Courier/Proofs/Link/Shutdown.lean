import Courier.Proofs.Link.Generation

/-!
# Shutting a link down

A shutdown asks every open channel of the cache to close, one after the other and whatever the
others answered, and then the connection (`Server.ClosesInTurn`). However it ends, neither a channel
nor the connection is kept: another shutdown asks for nothing, and whoever wants a channel next
connects anew (`Link.shutdown_leaves_nothing`). Everything that is asked of the server is on record
here, the connections and channels that are opened too (`Server.transcribed`).
-/

namespace Courier
set_option autoImplicit false
open Acting

variable {σ α : Type}

/-! ## What is asked of a server -/

/-- Something that is asked of a server. -/
inductive Contact where
  | connect (uri name : String)
  | openChannel (connection : Nat)
  | request (request : Request)

namespace Server

/-- An action on a server's world that is noted beside it. -/
def noting (contact : Contact) (act : StateM σ α) : StateM (σ × List Contact) α :=
  fun (world, contacts) =>
    let (answer, world) := act world
    (answer, (world, contacts ++ [contact]))

/-- The server, with everything that is asked of it on record. -/
def transcribed (server : Server σ) : Server (σ × List Contact) where
  connect uri name := noting (.connect uri name) (server.connect uri name)
  openChannel connection := noting (.openChannel connection) (server.openChannel connection)
  request request := noting (.request request) (server.request request)
  isConnected world connection := server.isConnected world.1 connection
  isOpen world channel := server.isOpen world.1 channel

theorem transcribed_openChannel (server : Server σ) (connection : Nat) :
    server.transcribed.openChannel connection
      = noting (.openChannel connection) (server.openChannel connection) := rfl

/-- Channels are asked to close one after the other, each that is open when its turn comes, whatever
it answers, and none that is not. -/
inductive ClosesInTurn (server : Server σ) : List Nat → σ → List Request → σ → Prop where
  | done {world : σ} : ClosesInTurn server [] world [] world
  | closed {handle : Nat} {handles : List Nat} {world world' : σ} {requests : List Request}
    (isOpen : server.isOpen world handle = true)
    (others : ClosesInTurn server handles (server.request (.closeChannel handle) world).2 requests
      world') :
    ClosesInTurn server (handle :: handles) world (.closeChannel handle :: requests) world'
  | passed {handle : Nat} {handles : List Nat} {world world' : σ} {requests : List Request}
    (shut : server.isOpen world handle = false)
    (others : ClosesInTurn server handles world requests world') :
    ClosesInTurn server (handle :: handles) world requests world'

/-- Closing a channel, or failing at it, makes no difference to other channels and connections. -/
structure Separate (server : Server σ) : Prop where
  channels : ∀ world handle other, other ≠ handle →
    server.isOpen (server.request (.closeChannel handle) world).2 other = server.isOpen world other
  connections : ∀ world handle connection,
    server.isConnected (server.request (.closeChannel handle) world).2 connection
      = server.isConnected world connection

variable {server : Server σ} {handles handles' : List Nat} {requests requests' : List Request}
  {world world' world'' : σ}

theorem ClosesInTurn.append (h : server.ClosesInTurn handles world requests world')
    (h' : server.ClosesInTurn handles' world' requests' world'') :
    server.ClosesInTurn (handles ++ handles') world (requests ++ requests') world'' := by
  induction h with
  | done => exact h'
  | closed isOpen others ih => exact .closed isOpen (ih h')
  | passed shut others ih => exact .passed shut (ih h')

/-- Where channels are separate, those are asked to close that were open at first. -/
theorem ClosesInTurn.of_separate (h : server.ClosesInTurn handles world requests world')
    (separate : server.Separate) (apart : handles.Nodup) :
    requests = (handles.filter fun handle => server.isOpen world handle).map .closeChannel ∧
      ∀ connection, server.isConnected world' connection = server.isConnected world connection := by
  induction h with
  | done => exact ⟨rfl, fun _ => rfl⟩
  | @closed handle handles world world' requests isOpen others ih =>
    obtain ⟨new, apart⟩ := List.nodup_cons.1 apart
    obtain ⟨rest, connections⟩ := ih apart
    have same : ∀ other ∈ handles,
        server.isOpen (server.request (.closeChannel handle) world).2 other
          = server.isOpen world other := by
      intro other mem
      apply separate.channels
      rintro rfl
      exact new mem
    refine ⟨?_, fun connection => (connections connection).trans (separate.connections ..)⟩
    rw [List.filter_cons_of_pos isOpen, List.map_cons, rest, List.filter_congr same]
  | passed shut others ih =>
    obtain ⟨rest, connections⟩ := ih (List.nodup_cons.1 apart).2
    refine ⟨?_, connections⟩
    rw [List.filter_cons_of_neg (by simp [shut]), rest]

end Server

namespace Link

variable {server : Server σ}

/-- Surroundings with a record of what is asked of the server. -/
abbrev Watched (σ : Type) : Type := Surroundings (Link (σ × List Contact))

/-- The server's numbers of the cached channels. -/
def cachedHandles (link : Link σ) : List Nat :=
  link.cache.filterMap fun entry => link.instances[entry.2]?.map (·.handle)

/-! ## Closing channels -/

/-- The surroundings after requests that changed nothing of the link itself. -/
def asked (s : Watched σ) (requests : List Request) (world : σ) (log : List Log.Event) :
    Watched σ :=
  let server := (world, s.world.server.2 ++ requests.map .request)
  { s with world := { s.world with server }, log }

theorem closeChannel_run (server : Server σ) (s : Watched σ) (key : String) (i : Nat) :
    ∃ requests world log,
      (closeChannel server.transcribed key i).run s = (.ok (), asked s requests world log) ∧
      server.ClosesInTurn (s.world.instances[i]?.map (·.handle)).toList s.world.server.1 requests
        world := by
  have none : s = asked s [] s.world.server.1 s.log := by simp [asked]
  unfold closeChannel
  rw [bind_ok (x := Link.current) (a := s.world) (t := s) rfl]
  cases s.world.instances[i]? with
  | none => exact ⟨[], _, s.log, congrArg (Prod.mk _) none, .done⟩
  | some c =>
    dsimp only
    split
    · next isOpen =>
      rw [onServer_bind]
      split
      · next reason _ =>
        exact ⟨[.closeChannel c.handle], _, s.log ++ [.closeChannelFailed reason key], rfl,
          .closed isOpen .done⟩
      · exact ⟨[.closeChannel c.handle], _, s.log, rfl, .closed isOpen .done⟩
    · next shut =>
      exact ⟨[], _, s.log, congrArg (Prod.mk _) none, .passed (Bool.eq_false_iff.2 shut) .done⟩

theorem asked_asked (s : Watched σ) (requests requests' : List Request)
    (world world' : σ) (log log' : List Log.Event) :
    asked (asked s requests world log) requests' world' log'
      = asked s (requests ++ requests') world' log' := by
  simp [asked, List.append_assoc]

theorem demand_run (server : Server σ) (request : Request) (event : String → Log.Event)
    (error : BrokerError) (s : Watched σ) :
    (demand server.transcribed request event error).run s =
      match server.request request s.world.server.1 with
      | (.ok (), world) => (.ok (), asked s [request] world s.log)
      | (.error reason, world) =>
        (.error error, asked s [request] world (s.log ++ [event reason])) := by
  rw [demand_eq]
  simp only [Server.transcribed, Server.noting]
  cases server.request request s.world.server.1 with
  | mk answer world => cases answer <;> rfl

theorem demand_bind (server : Server σ) (request : Request) (event : String → Log.Event)
    (error : BrokerError) (next : Unit → Step (σ × List Contact) α) (s : Watched σ) :
    (demand server.transcribed request event error >>= next).run s =
      match server.request request s.world.server.1 with
      | (.ok (), world) => (next ()).run (asked s [request] world s.log)
      | (.error reason, world) =>
        (.error error, asked s [request] world (s.log ++ [event reason])) := by
  have ran := demand_run server request event error s
  split at ran
  · exact bind_ok ran
  · exact bind_error ran

/-- All entries of a cache, in any order. -/
theorem closeAll_run (server : Server σ) (entries : List (String × Nat)) (s : Watched σ) :
    ∃ requests world log,
      (entries.forM fun (key, i) => closeChannel server.transcribed key i).run s
        = (.ok (), asked s requests world log) ∧
      server.ClosesInTurn
        (entries.filterMap fun entry => s.world.instances[entry.2]?.map (·.handle))
        s.world.server.1 requests world := by
  induction entries generalizing s with
  | nil => exact ⟨[], _, s.log, by simp [asked]; rfl, .done⟩
  | cons entry entries ih =>
    obtain ⟨key, i⟩ := entry
    obtain ⟨requests, world, log, ran, first⟩ := closeChannel_run server s key i
    obtain ⟨requests', world', log', ran', others⟩ := ih (asked s requests world log)
    refine ⟨requests ++ requests', world', log', ?_, ?_⟩
    · change (closeChannel server.transcribed key i >>= fun _ => _).run s = _
      rw [bind_ok ran, ← asked_asked]
      exact ran'
    · have entries : ((key, i) :: entries).filterMap
          (fun entry => s.world.instances[entry.2]?.map (·.handle))
        = (s.world.instances[i]?.map (·.handle)).toList
          ++ entries.filterMap fun entry => s.world.instances[entry.2]?.map (·.handle) := by
        rw [List.filterMap_cons]
        cases s.world.instances[i]? <;> rfl
      rw [entries]
      exact first.append others

/-- The connections among one or none that are open. -/
def openConnections (server : Server σ) (world : σ) (connection : Option Nat) : List Nat :=
  connection.toList.filter (server.isConnected world)

/-- What is asked to close the connections that are open, one or none. -/
def closings (server : Server σ) (world : σ) (connection : Option Nat) : List Request :=
  (openConnections server world connection).map .closeConnection

/-- A link that keeps neither channels nor a connection. -/
def emptied (s : Watched σ) : Watched σ :=
  { s with world := { s.world with cache := [], connection := none } }

/-- A shutdown: the channels are closed, then the connection is, and nothing is kept. -/
theorem shutdown_run (server : Server σ) (s : Watched σ) :
    ∃ requests world log world' result,
      server.ClosesInTurn s.world.cachedHandles s.world.server.1 requests world ∧
      (shutdown server.transcribed).run s = (result, asked (emptied s)
        (requests ++ closings server world s.world.connection) world' log) ∧
      (result = .ok () ∨ result = .error (.close "connection")) ∧
      (result = .ok () ↔ ∀ connection ∈ openConnections server world s.world.connection,
        (server.request (.closeConnection connection) world).1 = .ok ()) := by
  unfold shutdown
  rw [bind_ok (x := Link.current) (a := s.world) (t := s) rfl]
  let s' : Watched σ := { s with world := { s.world with cache := [] } }
  rw [bind_ok (x := change fun link => { link with cache := [] }) (a := ()) (t := s') rfl]
  obtain ⟨requests, world, log, ran, turns⟩ := closeAll_run server s.world.cache s'
  rw [bind_ok ran, bind_ok (x := Link.current) (a := (asked s' requests world log).world)
    (t := asked s' requests world log) rfl]
  rw [bind_ok (x := change fun link => { link with connection := none }) (a := ())
    (t := asked (emptied s) requests world log) rfl]
  have held : (asked s' requests world log).world.connection = s.world.connection := rfl
  have isConnected (connection : Nat) :
      server.transcribed.isConnected (asked s' requests world log).world.server connection
        = server.isConnected world connection := rfl
  simp only [held, isConnected]
  refine ⟨requests, world, ?_⟩
  have nothing : asked (emptied s) (requests ++ []) world log
      = asked (emptied s) requests world log := by
    rw [List.append_nil]
  cases s.world.connection with
  | none => exact ⟨log, world, .ok (), turns, congrArg (Prod.mk _) nothing.symm, .inl rfl,
      by simp [openConnections]⟩
  | some connection =>
    dsimp only
    cases isOpen : server.isConnected world connection with
    | false =>
      have none : openConnections server world (some connection) = [] := by
        simp [openConnections, isOpen]
      rw [closings, none]
      exact ⟨log, world, .ok (), turns, congrArg (Prod.mk _) nothing.symm, .inl rfl, by simp⟩
    | true =>
      have one : openConnections server world (some connection) = [connection] := by
        simp [openConnections, isOpen]
      rw [if_pos rfl, demand_run, closings, one]
      simp only [List.forall_mem_singleton]
      have answered : (asked (emptied s) requests world log).world.server.1 = world := rfl
      rw [answered]
      cases server.request (.closeConnection connection) world with
      | mk answer world' =>
        cases answer with
        | ok _ => exact ⟨_, world', .ok (), turns, congrArg (Prod.mk _) (asked_asked ..), .inl rfl,
            by simp⟩
        | error reason =>
          exact ⟨_, world', _, turns, congrArg (Prod.mk _) (asked_asked ..), .inr rfl, by simp⟩

/-! ## What comes after -/

section Anew
variable {s t : Watched σ} {result : Except BrokerError Nat}
  {key : String} {options : ChannelOptions}

theorem connect_anew (server : Server σ) (gone : s.world.connection = none) :
    (connect server.transcribed).run s =
      match server.connect s.world.settings.uri s.world.settings.appName s.world.server.1 with
      | (.ok connection, world) =>
        (.ok connection, { s with
          world := { s.world with
            connection := some connection
            server := (world, s.world.server.2
              ++ [.connect s.world.settings.uri s.world.settings.appName]) } })
      | (.error reason, world) =>
        (.error (.connection reason), { s with
          world := { s.world with
            server := (world, s.world.server.2
              ++ [.connect s.world.settings.uri s.world.settings.appName]) }
          log := s.log ++ [.connectFailed reason] }) := by
  unfold connect
  rw [bind_ok (x := Link.current) (a := s.world) (t := s) rfl, gone]
  dsimp only
  unfold reconnect
  rw [bind_ok (x := Link.current) (a := s.world) (t := s) rfl, onServer_bind]
  simp only [Server.transcribed, Server.noting]
  cases server.connect s.world.settings.uri s.world.settings.appName s.world.server.1 with
  | mk answer world => cases answer <;> rfl

theorem lost_of_empty (server : Server σ) {link : Link σ} (empty : link.cache = [])
    (key : String) : Lost server link key := by
  intro i c known
  unfold cached? at known
  rw [empty] at known
  cases known

/-- With nothing kept, whoever wants a channel asks for a connection first. -/
theorem channel_connects (server : Server σ) (empty : s.world.cache = [])
    (gone : s.world.connection = none) (key : String) (options : ChannelOptions) :
    ∃ more, ((channel server.transcribed key options).run s).2.world.server.2 = s.world.server.2
      ++ .connect s.world.settings.uri s.world.settings.appName :: more := by
  have first := connect_anew server gone
  have last (key : String) (handle : Nat) (u : Watched σ) :
      ((makeChannel key handle options).run u).2.world.server = u.world.server := by
    rw [makeChannel_run]
    split <;> rfl
  rw [channel_of_lost (lost_of_empty _ empty key)]
  unfold openChannel
  split at first
  · next connection world _ =>
    rw [bind_ok first, onServer_bind]
    simp only [Server.transcribed_openChannel, Server.noting]
    split
    · exact ⟨[.openChannel connection], List.append_assoc ..⟩
    · next handle _ =>
      split
      · rw [demand_bind]
        refine ⟨[.openChannel connection, .request (.confirmSelect handle)], ?_⟩
        have contacts : s.world.server.2
              ++ [.connect s.world.settings.uri s.world.settings.appName]
              ++ [.openChannel connection] ++ [.request (.confirmSelect handle)]
            = s.world.server.2 ++ [.connect s.world.settings.uri s.world.settings.appName,
              .openChannel connection, .request (.confirmSelect handle)] := by simp
        split
        · rw [last]
          exact contacts
        · exact contacts
      · refine ⟨[.openChannel connection], ?_⟩
        rw [last]
        exact List.append_assoc ..
  · rw [bind_error first]
    exact ⟨[], rfl⟩

/-- With nothing kept, a channel takes that a connection and a channel on it are granted, and its
confirmations where they are wanted. -/
theorem grants_of_gone (gone : s.world.connection = none) {connection handle : Nat}
    {world world' : σ}
    (connected : server.connect s.world.settings.uri s.world.settings.appName s.world.server.1
      = (.ok connection, world))
    (opened : server.openChannel connection world = (.ok handle, world'))
    (confirmed : options.confirms = true →
      (server.request (.confirmSelect handle) world').1 = .ok ()) :
    Grants server.transcribed s.world options connection handle := by
  let contacts := s.world.server.2 ++ [.connect s.world.settings.uri s.world.settings.appName]
  have connects : Connects server.transcribed s.world connection (world, contacts) := by
    refine .anew (by rw [gone]; exact nofun) ?_
    simp only [Server.transcribed, Server.noting, connected]
    rfl
  have opens : server.transcribed.openChannel connection (world, contacts) =
      (.ok handle, (world', contacts ++ [.openChannel connection])) := by
    simp only [Server.transcribed, Server.noting, opened]
  exact .intro connects opens confirmed

/-- With nothing kept, a channel that is had is a new one. -/
theorem channel_new (empty : s.world.cache = [])
    (ran : (channel server.transcribed key options).run s = (result, t)) {i : Nat}
    (had : result = .ok i) :
    i = s.world.instances.length ∧ ∃ c, t.world.instances = s.world.instances ++ [c] ∧
      c.key = key ∧ c.generation = s.world.generations + 1 ∧ t.world.cached? key = some (i, c) := by
  subst had
  have found := channel_found server.transcribed key options s
  rw [ran] at found
  cases found with
  | cached known isOpen => cases isOpen.symm.trans (lost_of_empty _ empty key _ _ known)
  | made lost idle fits handle =>
    obtain ⟨connection, world, _, rfl⟩ := idle
    exact ⟨rfl, cached?_grown { s.world with connection, server := world } key handle options⟩

end Anew

/-- With nothing kept, a shutdown does nothing. -/
theorem shutdown_of_nothing (server : Server σ) {s : Surroundings (Link σ)}
    (empty : s.world.cache = []) (gone : s.world.connection = none) :
    (shutdown server).run s = (.ok (), s) := by
  obtain ⟨⟨settings, policy, connection, instances, cache, generations, tracker, world⟩, _, _⟩ := s
  cases empty
  cases gone
  rfl

/-- A shutdown leaves nothing behind, whatever is cached, connected and open, and whatever fails to
close.

* The cached channels are asked to close one after the other, each that is open once and none that
  is closed. Only then the connection is, if there is one and it is open. Nothing else is asked for.
* Where to close a channel makes no difference to others and to connections, these are the channels
  and the connection that were open at first.
* A shutdown fails exactly if the connection fails to close, and only with that.
* However it ends, it leaves the link as it was but for the server's world, without the cached
  channels and the connection. Another shutdown succeeds and asks for nothing.
* Whoever wants a channel next, of any key, asks for a connection first. A channel that is had is a
  new instance of the next generation. One is had if all it takes is granted and there is a gate for
  its window; whoever asks for a window without a gate is aborted then. -/
theorem shutdown_leaves_nothing (server : Server σ)
    (s : Watched σ) :
    let link := s.world
    let (result, t) := (shutdown server.transcribed).run s
    (∃ requests world,
      server.ClosesInTurn link.cachedHandles link.server.1 requests world ∧
      t.world.server.2 = link.server.2
        ++ (requests ++ closings server world link.connection).map .request ∧
      (server.Separate → link.cachedHandles.Nodup →
        requests = (link.cachedHandles.filter (server.isOpen link.server.1)).map .closeChannel ∧
        openConnections server world link.connection
          = openConnections server link.server.1 link.connection) ∧
      (result = .ok () ∨ result = .error (.close "connection")) ∧
      (result = .ok () ↔ ∀ connection ∈ openConnections server world link.connection,
        (server.request (.closeConnection connection) world).1 = .ok ())) ∧
    t.world = { link with cache := [], connection := none, server := t.world.server } ∧
    (shutdown server.transcribed).run t = (.ok (), t) ∧
    ∀ key options,
      let (result', t') := (channel server.transcribed key options).run t
      (∃ more, t'.world.server.2 = t.world.server.2
        ++ .connect link.settings.uri link.settings.appName :: more) ∧
      (∀ i, result' = .ok i → i = link.instances.length ∧
        ∃ c, t'.world.instances = link.instances ++ [c] ∧ c.key = key ∧
          c.generation = link.generations + 1 ∧ t'.world.cached? key = some (i, c)) ∧
      ∀ connection handle world world',
        server.connect link.settings.uri link.settings.appName t.world.server.1
          = (.ok connection, world) →
        server.openChannel connection world = (.ok handle, world') →
        (options.confirms = true → (server.request (.confirmSelect handle) world').1 = .ok ()) →
        result' = (if options.Fits then .ok link.instances.length else .error .internal) ∧
          t'.world.connection = some connection := by
  intro link
  obtain ⟨requests, world, log, world', result, turns, ran, ends, succeeds⟩ :=
    shutdown_run server s
  rw [ran]
  refine ⟨⟨requests, world, turns, rfl, fun separate apart => ?first, ends, succeeds⟩, rfl,
    shutdown_of_nothing _ rfl rfl, fun key options => ?next⟩
  case first =>
    obtain ⟨asked, connections⟩ := turns.of_separate separate apart
    refine ⟨asked, List.filter_congr fun connection _ => connections connection⟩
  case next =>
    generalize left : asked (emptied s) _ world' log = t
    have empty : t.world.cache = [] := by rw [← left]; rfl
    have gone : t.world.connection = none := by rw [← left]; rfl
    have kept : t.world.settings = link.settings ∧ t.world.instances = link.instances ∧
        t.world.generations = link.generations := by rw [← left]; exact ⟨rfl, rfl, rfl⟩
    obtain ⟨settings, instances, generations⟩ := kept
    rw [← settings, ← instances, ← generations]
    have connects := channel_connects server empty gone key options
    generalize ran' : (channel server.transcribed key options).run t = answer at connects
    obtain ⟨result', t'⟩ := answer
    refine ⟨connects, fun i had => channel_new empty ran' had, ?_⟩
    intro connection handle world world' connected opened confirmed
    obtain ⟨t'', granted, held, -⟩ := channel_granted (lost_of_empty _ empty key)
      (grants_of_gone gone connected opened confirmed)
    cases ran'.symm.trans granted
    exact ⟨rfl, held⟩

/-- A server on which one channel is busy and does not close, and neither does the connection. -/
def busyServer : Server (List Nat) where
  connect _ _ := return .ok 2
  openChannel _ := fun channels => (.ok 8, 8 :: channels)
  request
    | .closeChannel 5 => return .error "busy"
    | .closeChannel channel => fun channels => (.ok (), channels.erase channel)
    | .closeConnection _ => return .error "unreachable"
    | _ => return .ok ()
  isConnected _ connection := connection = 1
  isOpen channels channel := channel ∈ channels

/-- A link with three channels on it, of which one was closed. -/
def busyLink : Surroundings (Link (List Nat × List Contact)) :=
  let channel (key : String) (generation handle : Nat) : Channel :=
    ⟨key, generation, handle, .new (confirmKey key generation) 1⟩
  { world := {
      settings := .default
      connection := some 1
      instances := [channel "a" 1 5, channel "b" 2 6, channel "c" 3 7]
      cache := [("a", 0), ("b", 1), ("c", 2)]
      generations := 3
      server := ([5, 7], []) } }

theorem separate_busyServer : busyServer.Separate where
  channels world handle other apart := by
    by_cases busy : handle = 5
    · subst busy
      rfl
    · have closed : busyServer.request (.closeChannel handle) world
          = (.ok (), world.erase handle) := by
        simp [busyServer]
      rw [closed]
      exact decide_eq_decide.2 (List.mem_erase_of_ne apart)
  connections _ _ _ := rfl

theorem shutdown_leaves_nothing_busy :
    let (result, t) := (shutdown busyServer.transcribed).run busyLink
    let (result', t') := (channel busyServer.transcribed "b" .default).run t
    t.world.server.2 = [.request (.closeChannel 5), .request (.closeChannel 7),
      .request (.closeConnection 1)] ∧
    result = .error (.close "connection") ∧ t.world.cache = [] ∧ t.world.connection = none ∧
    result' = .ok 3 ∧ t'.world.connection = some 2 := by
  have left := shutdown_leaves_nothing busyServer busyLink
  generalize (shutdown busyServer.transcribed).run busyLink = answer at left ⊢
  obtain ⟨result, t⟩ := answer
  obtain ⟨⟨requests, world, turns, contacts, first, ends, succeeds⟩, kept, again, next⟩ := left
  obtain ⟨rfl, connections⟩ := first separate_busyServer (by decide)
  have one : openConnections busyServer world busyLink.world.connection = [1] := connections
  have failed : result ≠ .ok () := by
    intro ok
    have closed := succeeds.1 ok 1 (by rw [one]; exact List.mem_singleton_self 1)
    cases closed
  obtain ⟨_, _, granted⟩ := next "b" .default
  obtain ⟨had, held⟩ := granted 2 8 _ _ rfl rfl fun _ => rfl
  rw [closings, one] at contacts
  refine ⟨contacts, ends.resolve_left failed, ?_, ?_, had, held⟩ <;> rw [kept]

end Link

end Courier
