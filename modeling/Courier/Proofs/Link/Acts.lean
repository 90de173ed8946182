import Courier.Proofs.Confirm.Sharing
import Courier.Proofs.Link.Channel

/-!
# What the functions of a link do

Whatever is done with a link is a run of acts (`Link.Makes`), so what holds along every run holds of
it: queues are declared and subscribed to, publishes are made and settled, confirmations come or are
lost, and the link is shut down.
-/

namespace Courier.Link
set_option autoImplicit false
open Confirm Acting

variable {σ α β : Type}

/-- A step that is a run of acts of some kind. -/
def Makes (P : Act σ → Prop) (server : Server σ) (x : Step σ α) : Prop :=
  ∀ s, ∃ acts, (∀ a ∈ acts, P a) ∧ (x.run s).2 = after server acts s

/-- A kind of acts that has those of the server in it, what is reported, and whatever lanes do but
for the beginning of publishes. -/
structure Common (P : Act σ → Prop) : Prop where
  server : ∀ f, P (.server f)
  report : ∀ event, P (.report event)
  move : ∀ i m, (∀ frame cancelled, m ≠ .call frame cancelled) → P (.move i m)

variable {P : Act σ → Prop} {server : Server σ} {s : Surroundings (Link σ)} {i : Nat} {c : Channel}

theorem after_append (server : Server σ) (acts more : List (Act σ)) (s : Surroundings (Link σ)) :
    after server (acts ++ more) s = after server more (after server acts s) :=
  List.foldl_append

namespace Makes

theorem one {x : Step σ α} {a : Act σ} (allowed : P a) (same : ∀ s, (x.run s).2 = act server s a) :
    Makes P server x :=
  fun s => ⟨[a], List.forall_mem_singleton.2 allowed, same s⟩

theorem onServer (h : Common P) (act : StateM σ α) : Makes P server (Link.onServer act) := fun s =>
  ⟨[.server fun _ => (act.run s.world.server).2], List.forall_mem_singleton.2 (h.server _), rfl⟩

theorem compositional (server : Server σ) (h : Common P) :
    Compositional (fun {α} (x : Step σ α) => Makes P server x) := by
  let reaches (s t : Surroundings (Link σ)) : Prop :=
    ∃ acts, (∀ a ∈ acts, P a) ∧ t = after server acts s
  refine .of_preorder (R := reaches) (fun s => ⟨[], List.forall_mem_nil _, rfl⟩) ?_ fun s event =>
    ⟨[.report event], List.forall_mem_singleton.2 (h.report event), rfl⟩
  rintro s t u ⟨acts, allowed, rfl⟩ ⟨more, allowed', rfl⟩
  exact ⟨acts ++ more, List.forall_mem_append.2 ⟨allowed, allowed'⟩, (after_append ..).symm⟩

/-- The answer of a step makes no difference to what it does. -/
theorem run_discard (x : Step σ α) (s : Surroundings (Link σ)) :
    ((do let _ ← x; return : Step σ Unit).run s).2 = (x.run s).2 := by
  cases ran : x.run s with
  | mk result t =>
    cases result with
    | ok a => rw [bind_ok ran]; rfl
    | error e => rw [bind_error ran]

theorem channel {key : String} {options : ChannelOptions} (allowed : P (.channel key options)) :
    Makes P server (Link.channel server key options) :=
  one allowed fun s => (run_discard _ s).symm

theorem declare {queue exchange routingKey : String}
    (allowed : P (.declare queue exchange routingKey)) :
    Makes P server (Link.declare server queue exchange routingKey) :=
  one allowed fun _ => rfl

theorem demand (h : Common P) (request : Request) (event : String → Log.Event)
    (error : BrokerError) : Makes P server (Link.demand server request event error) :=
  (compositional server h).demand event error (onServer h _)

theorem declareQueue (h : Common P) (queue : Queue) (allowed : P (.channel queue.name .default))
    (exchange routingKey : String) :
    Makes P server (Link.declareQueue server queue exchange routingKey) :=
  (compositional server h).declareQueue (channel allowed) (demand h) exchange routingKey

/-- A consumer asks for one channel, under the name of its queue. -/
theorem subscribe (h : Common P) {name : String} (allowed : P (.channel name .default))
    (routing : String → Route) : Makes P server (Dispatch.subscribe server routing name) :=
  (compositional server h).subscribe (channel allowed) (demand h) routing

end Makes

/-! ## Lanes -/

theorem putDesk_run (i : Nat) (d : Desk) (s : Surroundings (Link σ)) :
    (putDesk i d).run s =
      (.ok (), ⟨{ s.world with
        tracker := d.tracker
        instances := s.world.instances.modify i fun c => { c with lane := d.lane } },
        s.cancelled, s.log ++ d.log⟩) := rfl

/-- To put a desk back after a move is to make the move on its lane. -/
theorem putDesk_act (server : Server σ) (found : s.world.instances[i]? = some c) (d : Desk)
    (m : Move) :
    ((putDesk i (d.act m)).run s).2 = act server ((putDesk i d).run s).2 (.move i m) := by
  have found' : ((putDesk i d).run s).2.world.instances[i]? = some { c with lane := d.lane } := by
    rw [putDesk_run, List.getElem?_modify, found]
    simp
  change _ = ((move i m).run ((putDesk i d).run s).2).2
  unfold move
  rw [bind_ok (x := Link.current) (t := ((putDesk i d).run s).2) rfl, found', d.act_bare m]
  simp only [putDesk_run, List.modify_modify_eq, List.append_assoc]
  rfl

theorem putDesk_moves (server : Server σ) (found : s.world.instances[i]? = some c)
    (moves : List Move) (d : Desk) :
    ((putDesk i (moves.foldl Desk.act d)).run s).2 =
      after server (moves.map (.move i)) ((putDesk i d).run s).2 := by
  induction moves generalizing d with
  | nil => rfl
  | cons m moves ih =>
    rw [List.foldl_cons, ih, putDesk_act server found]
    rfl

/-- A desk that is put back as it was changes nothing. -/
theorem putDesk_desk (found : s.world.instances[i]? = some c) :
    ((putDesk i (s.world.desk c)).run s).2 = s := by
  have same : s.world.instances.modify i (fun c' => { c' with lane := c.lane })
      = s.world.instances := by
    apply List.ext_getElem?
    intro j
    rw [List.getElem?_modify]
    split
    · next at_i =>
      rw [← at_i, found]
      rfl
    · exact Option.map_id'
  rw [putDesk_run]
  unfold desk
  rw [same, List.append_nil]

/-- A desk that is put back after some moves, while the server acts. -/
theorem moved_acts (server : Server σ) (h : Common P) (found : s.world.instances[i]? = some c)
    (d : Desk) {moves : List Move}
    (others : ∀ m ∈ moves, ∀ frame cancelled, m ≠ .call frame cancelled) (world : σ) :
    ∃ acts, (∀ a ∈ acts, P a) ∧
      ((putDesk i (moves.foldl Desk.act d)).run
        { s with world := { s.world with server := world } }).2 =
          after server acts ((putDesk i d).run s).2 := by
  refine ⟨.server (fun _ => world) :: moves.map (.move i), ?_, ?_⟩
  · rw [List.forall_mem_cons, List.forall_mem_map]
    exact ⟨h.server _, fun m mem => h.move i m (others m mem)⟩
  · rw [putDesk_moves server (s := { s with world := { s.world with server := world } }) found]
    rfl

theorem ne_call_of_isOwn {m : Move} (own : Desk.IsOwn m) (frame : Frame) (cancelled : Bool) :
    m ≠ .call frame cancelled := by
  rintro rfl
  exact own

namespace Makes

/-- A lane is told something and let alone. -/
theorem told (h : Common P) (i : Nat) (tell : Desk → Desk) {m : Move} (told : ∀ d, tell d = d.act m)
    (other : ∀ frame cancelled, m ≠ .call frame cancelled) :
    Makes P server (do
      let link ← Link.current
      if let some c := link.instances[i]? then
        putDesk i (← Link.onServer ((tell (link.desk c)).settle (wire server c.handle)))) := by
  obtain rfl : tell = fun d => d.act m := funext told
  intro s
  rw [bind_ok (x := Link.current) (a := s.world) (t := s) rfl]
  cases found : s.world.instances[i]? with
  | none => exact ⟨[], List.forall_mem_nil _, rfl⟩
  | some c =>
    obtain ⟨moves, own, settled⟩ :=
      Desk.settle_moves (wire server c.handle) ((s.world.desk c).act m) s.world.server
    have others : ∀ m' ∈ m :: moves, ∀ frame cancelled, m' ≠ .call frame cancelled :=
      List.forall_mem_cons.2 ⟨other, fun m' mem => ne_call_of_isOwn (own m' mem)⟩
    have made := moved_acts server h found (s.world.desk c) others
      ((((s.world.desk c).act m).settle (wire server c.handle)).run s.world.server).2
    rw [List.foldl_cons, ← settled, putDesk_desk found] at made
    exact made

theorem confirm (h : Common P) (i sequence : Nat) (answer : Confirmation) :
    Makes P server (Link.confirm server i sequence answer) :=
  told h i (·.confirm sequence answer) (m := .confirm sequence answer) (fun _ => rfl) (by simp)

theorem loseAll (h : Common P) (i : Nat) (error : BrokerError) :
    Makes P server (Link.loseAll server i error) :=
  told h i (·.loseAll error) (m := .loseAll error) (fun _ => rfl) (by simp)

theorem publishOn_acts (server : Server σ) (h : Common P)
    (found : s.world.instances[i]? = some c) (frame : Frame) (cancelled : Bool) :
    ∃ acts, (∀ a ∈ acts, P a) ∧
      ((publishOn server i frame cancelled).run s).2 =
        after server acts ((move i (.call frame cancelled)).run s).2 := by
  let wire := wire server c.handle
  let called := (s.world.desk c).call frame cancelled
  let first := (called.settle wire).run s.world.server
  let told := first.1.cancel c.lane.calls.length
  let second := (told.settle wire).run first.2
  obtain ⟨moves, own, settled⟩ := Desk.settle_moves wire called s.world.server
  obtain ⟨more, own', settled'⟩ := Desk.settle_moves wire told first.2
  have others : ∀ m ∈ moves ++ .cancel c.lane.calls.length :: more,
      ∀ frame cancelled, m ≠ .call frame cancelled := by
    simp only [List.forall_mem_append, List.forall_mem_cons]
    exact ⟨fun m mem => ne_call_of_isOwn (own m mem), by simp,
      fun m mem => ne_call_of_isOwn (own' m mem)⟩
  have done : second.1 = (moves ++ .cancel c.lane.calls.length :: more).foldl Desk.act called := by
    rw [List.foldl_append, List.foldl_cons, ← settled]
    exact settled'
  obtain ⟨acts, allowed, made⟩ := moved_acts server h found called others second.2
  refine ⟨acts, allowed, ?_⟩
  have begun : ((move i (.call frame cancelled)).run s).2 = ((putDesk i called).run s).2 := by
    unfold move
    rw [bind_ok (x := Link.current) (a := s.world) (t := s) rfl, found]
    rfl
  rw [begun, ← made, ← done]
  unfold publishOn
  rw [bind_ok (x := Link.current) (a := s.world) (t := s) rfl, found]
  dsimp only
  rw [onServer_bind, onServer_bind, bind_ok (putDesk_run i _ _)]
  split
  · rw [run_ofExcept]
    rfl
  · rfl

theorem publishOn_none (server : Server σ) (none : s.world.instances[i]? = none) (frame : Frame)
    (cancelled : Bool) :
    ((publishOn server i frame cancelled).run s).2 = s ∧
      ((move i (.call frame cancelled) : Step σ Unit).run s).2 = s := by
  unfold publishOn move
  rw [bind_ok (x := Link.current) (a := s.world) (t := s) rfl,
    bind_ok (x := Link.current) (a := s.world) (t := s) rfl, none]
  exact ⟨rfl, rfl⟩

/-- A publish begins on the channel of its exchange and goes as far as it can. -/
theorem publish (h : Common P) {frame : Frame} (begins : P (.begin frame false)) :
    Makes P server (Link.publish server frame) := by
  intro s
  unfold Link.publish
  rw [get_bind]
  cases s.cancelled with
  | true => exact ⟨[], List.forall_mem_nil _, rfl⟩
  | false =>
    simp only [Bool.false_eq_true, if_false]
    rw [bind_ok (x := Link.current) (a := s.world) (t := s) rfl]
    have begun : act server s (.begin frame false) = ((do
        let i ← Link.channel server frame.exchange
          (.publishing s.world.settings.maxOutstandingConfirms)
        move i (.call frame false)).run s).2 := by
      change ((begin server frame false).run s).2 = _
      unfold begin
      rw [bind_ok (x := Link.current) (a := s.world) (t := s) rfl]
    cases ran : (Link.channel server frame.exchange
        (.publishing s.world.settings.maxOutstandingConfirms)).run s with
    | mk answer t =>
      cases answer with
      | error e =>
        refine ⟨[.begin frame false], List.forall_mem_singleton.2 begins, ?_⟩
        change _ = act server s (.begin frame false)
        rw [begun, bind_error ran, bind_error ran]
      | ok i =>
        rw [bind_ok ran] at begun ⊢
        cases found : t.world.instances[i]? with
        | none =>
          obtain ⟨published, moved⟩ := publishOn_none server found frame false
          refine ⟨[.begin frame false], List.forall_mem_singleton.2 begins, ?_⟩
          change _ = act server s (.begin frame false)
          rw [begun, published, moved]
        | some c =>
          obtain ⟨acts, allowed, made⟩ :=
            publishOn_acts server h found frame false
          refine ⟨.begin frame false :: acts, List.forall_mem_cons.2 ⟨begins, allowed⟩, ?_⟩
          change _ = after server acts (act server s (.begin frame false))
          rw [begun]
          exact made

theorem closeChannel (h : Common P) (key : String) (i : Nat) :
    Makes P server (Link.closeChannel server key i) := by
  have step := compositional server h
  unfold Link.closeChannel
  refine step.bind step.current fun link => ?_
  cases link.instances[i]? with
  | none => exact step.pure _
  | some c =>
    dsimp only
    split
    · refine step.bind (onServer h _) fun answer => ?_
      cases answer with
      | ok _ => exact step.pure _
      | error reason => exact step.report _
    · exact step.pure _

theorem shutdown (h : Common P) (forget : P .forget) (disconnect : P .disconnect) :
    Makes P server (Link.shutdown server) := by
  have step := compositional server h
  unfold Link.shutdown
  refine step.bind step.current fun link => ?_
  refine step.bind (one forget fun _ => rfl) fun _ => ?_
  refine step.bind (step.forM (fun (key, i) => closeChannel h key i) _) fun _ => ?_
  refine step.bind step.current fun link => ?_
  refine step.bind (one disconnect fun _ => rfl) fun _ => ?_
  cases link.connection with
  | none => exact step.pure _
  | some connection =>
    dsimp only
    split
    · exact demand h _ _ _
    · exact step.pure _

end Makes

end Courier.Link
