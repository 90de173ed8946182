import Courier.Proofs.Confirm.Harbour
import Courier.Proofs.Link.Acts
import Courier.Proofs.Link.Lane

/-!
# The window of a link's publishes

How many frames may wait for their confirmation on a channel instance is settled when it is made, by
what its first user asks for (`Link.unconfirmed_le_asked`). Channels to publish on are cached by
their exchange and channels to declare on by their queue, under one kind of key: the window of the
settings holds where no declared queue bears the name of the exchange
(`Link.unconfirmed_le_configured`), and does not where one does (`Link.unconfirmed_exceeds`).
-/

namespace Courier
set_option autoImplicit false
open Confirm

variable {σ : Type}

namespace Confirm

/-- The number of a publish that succeeded. -/
def Phase.number? : Phase → Option Nat
  | .finished (.ok n) => some n
  | _ => none

/-- Whether a frame is being written, or has been and waits for its confirmation. -/
def Lane.awaits (l : Lane) (p : Phase) : Bool :=
  p.isWriting || (p.number?.map l.watched.contains).getD false

/-- How many frames to an exchange have not been confirmed. -/
def Lane.unconfirmed (l : Lane) (exchange : String) : Nat :=
  l.calls.countP fun c => c.frame.exchange = exchange && l.awaits c.phase

namespace Desk

variable {d : Desk} {window : Nat}

/-- No two publishes succeed under one number. -/
theorem Numbered.once_number (h : d.Numbered) : (d.phases.filterMap Phase.number?).Nodup := by
  have known {i n : Nat} (bound : i < d.phases.length)
      (number : d.phases[i].number? = some n) : d.phase i = some (.finished (.ok n)) := by
    unfold phase
    rw [List.getElem?_eq_getElem bound, Option.some_inj]
    revert number
    generalize d.phases[i] = p
    intro number
    unfold Phase.number? at number
    split at number
    · cases number
      rfl
    · cases number
  have written {i n : Nat} (phase : d.phase i = some (.finished (.ok n))) :
      ∃ s ∈ d.sent.filter d.succeeded, s.call = i ∧ s.sequence = n := by
    obtain ⟨s, mem, rfl, rfl⟩ := h.own i n (.inr phase)
    refine ⟨s, List.mem_filter.2 ⟨mem, ?_⟩, rfl, rfl⟩
    unfold succeeded
    rw [phase]
    rfl
  have once : ((d.sent.filter d.succeeded).map (·.sequence)).Nodup := by
    rw [h.map_sequence]
    exact List.nodup_range'
  unfold List.Nodup
  rw [List.pairwise_filterMap, List.pairwise_iff_getElem]
  intro i j bound bound' before n number n' number' same
  subst same
  obtain ⟨s, mem, call, sequence⟩ := written (known bound number)
  obtain ⟨s', mem', call', sequence'⟩ := written (known bound' number')
  have equal := List.inj_on_of_nodup_map once mem mem' (sequence.trans sequence'.symm)
  subst equal
  omega

theorem Balanced.unconfirmed_le (balanced : d.Balanced window) (numbered : d.Numbered)
    (exchange : String) : d.lane.unconfirmed exchange ≤ max window 1 := by
  have waiting : d.phases.countP (fun p => (p.number?.map d.lane.watched.contains).getD false)
      ≤ d.lane.watches.length := by
    rw [← List.countP_filterMap, List.countP_eq_length_filter]
    have once := numbered.once_number.filter fun n => d.lane.watched.contains n
    have within : List.Subperm _ d.lane.watched :=
      once.subperm fun n mem => List.contains_iff_mem.1 (List.mem_filter.1 mem).2
    have length := within.length_le
    rwa [Lane.watched, List.length_map] at length
  have parts : d.phases.countP d.lane.awaits
      = d.count Phase.isWriting
        + d.phases.countP fun p => (p.number?.map d.lane.watched.contains).getD false := by
    apply countP_or_of_disjoint
    intro p _ writes
    cases p with
    | writing n => rfl
    | _ => cases writes
  have fewer : d.lane.unconfirmed exchange ≤ d.phases.countP d.lane.awaits := by
    unfold Lane.unconfirmed phases
    rw [List.countP_map]
    apply List.countP_mono_left
    intro c _ both
    exact (Bool.and_eq_true_iff.1 both).2
  have writers := d.count_isWriting_le
  have places := balanced.places
  omega

/-- A move adds no frame but that of the publish it makes. -/
theorem mem_frames_act {f : Frame} {m : Move} (mem : f ∈ (d.act m).frames) :
    f ∈ d.frames ∨ ∃ cancelled, m = .call f cancelled := by
  obtain kept | ⟨frame, cancelled, rfl, _⟩ := d.length_calls_act m
  · obtain ⟨k, found⟩ := List.mem_iff_getElem?.1 mem
    obtain ⟨bound, _⟩ := List.getElem?_eq_some_iff.1 found
    unfold frames at bound
    rw [List.length_map, kept, ← List.length_map (f := Call.frame)] at bound
    have stays : (d.act m).frames[k]? = some d.frames[k] :=
      frames_act (List.getElem?_eq_getElem bound) m
    cases found.symm.trans stays
    exact .inl (List.getElem_mem bound)
  · have frames : (d.act (.call frame cancelled)).frames = d.frames ++ [frame] := List.map_append
    rw [frames, List.mem_append, List.mem_singleton] at mem
    obtain old | rfl := mem
    · exact .inl old
    · exact .inr ⟨cancelled, rfl⟩

end Desk

theorem Run.Reaches.unconfirmed_le {key : String} {window : Nat} {d : Desk}
    (reaches : Run.Reaches key window d) (exchange : String) :
    d.lane.unconfirmed exchange ≤ max window 1 := by
  obtain ⟨r, reached, rfl⟩ := reaches
  exact reached.sound.1.unconfirmed_le reached.numbered exchange

end Confirm

namespace Link

variable {asks : String → ChannelOptions → Prop} {moves : String → Move → Prop}
  {settings : Settings} {link link' : Link σ}

/-! ## Where frames go -/

/-- Publishes are made on the channel of their exchange only. -/
def toOwnExchange (key : String) : Move → Prop
  | .call frame _ => frame.exchange = key
  | _ => True

/-- Every frame of an instance goes to the exchange that it is cached by. -/
def Addressed (link : Link σ) : Prop :=
  ∀ (i : Nat) (c : Channel), link.instances[i]? = some c →
    ∀ frame ∈ (link.desk c).frames, frame.exchange = c.key

theorem Effect.addressed (effect : Effect asks toOwnExchange link link')
    (addressed : link.Addressed) : link'.Addressed := by
  intro j c' found' frame mem
  cases effect with
  | idle | forgot | aborted => exact addressed j c' found' frame mem
  | made allowed fits handle =>
    obtain found | ⟨_, rfl⟩ := getElem?_grown found'
    · exact addressed j c' found frame mem
    · cases mem
  | @moved i c m found allowed =>
    rw [getElem?_moved] at found'
    obtain ⟨c₀, known, rfl⟩ := Option.map_eq_some_iff.1 found'
    split at mem
    · next same =>
      subst same
      cases found.symm.trans known
      rw [if_pos rfl]
      obtain old | ⟨cancelled, rfl⟩ := Desk.mem_frames_act (d := link.desk c) (m := m) mem
      · exact addressed i c found frame old
      · exact allowed
    · next other =>
      rw [if_neg other]
      exact addressed j c₀ known frame mem

/-! ## The window -/

/-- No more frames of an instance are unconfirmed than its first user allowed for. -/
theorem unconfirmed_le_asked (server : Server σ) (settings : Settings) (policy : RetryPolicy)
    (world : σ) {acts : List (Act σ)} (within : ∀ a ∈ acts, a.Within settings asks moves) {i : Nat}
    {c : Channel}
    (found : (after server acts (fresh settings policy world)).world.instances[i]? = some c) :
    ∃ options, asks c.key options ∧
      ∀ exchange, c.lane.unconfirmed exchange ≤ max options.window 1 := by
  obtain ⟨options, asked, reaches⟩ :=
    (lanes_after server settings policy world within).lanes i c found
  exact ⟨options, asked, reaches.unconfirmed_le⟩

/-- What can happen to a link that messages are published over: queues are declared and publishes
begin as the routes of message types say, and publishes, connection and server go on as they like.
What is confirmed may be so late or never. -/
def Act.OfPublisher (settings : Settings) : Act σ → Prop
  | .channel _ _ => False
  | .begin frame _ =>
    ∃ name, Route.of settings.exchange name = ⟨frame.exchange, frame.routingKey⟩
  | .declare queue exchange routingKey =>
    ∃ name, Route.of settings.exchange name = ⟨exchange, routingKey⟩ ∧ queue = routingKey
  | .move _ (.call _ _) => False
  | _ => True

theorem common_ofPublisher (settings : Settings) :
    Common (Act.OfPublisher settings : Act σ → Prop) where
  server _ := trivial
  report _ := trivial
  move i m other := by
    cases m with
    | call frame cancelled => exact other frame cancelled rfl
    | _ => trivial

/-- A publisher that declares the queue of a message type and publishes by its route makes such
acts. -/
theorem publisher_makes (server : Server σ) (settings : Settings) (name : String)
    (envelope : Envelope) (trace : List (String × String)) :
    let route := Route.of settings.exchange name
    let frame := Parcel.frame ⟨route, envelope⟩ trace
    Makes (Act.OfPublisher settings) server
        (declare server route.routingKey route.exchange route.routingKey) ∧
      Makes (Act.OfPublisher settings) server (publish server frame) :=
  ⟨.declare ⟨name, rfl, rfl⟩, .publish (common_ofPublisher settings) ⟨name, rfl⟩⟩

/-- The configured window bounds what is published to the configured exchange, whatever happens, as
long as no queue is declared that bears the name of the exchange: on no channel instance are more
frames to it unconfirmed than the window has places. -/
theorem unconfirmed_le_configured (server : Server σ) (settings : Settings) (policy : RetryPolicy)
    (world : σ) (acts : List (Act σ)) (publisher : ∀ a ∈ acts, a.OfPublisher settings)
    (apart : ∀ queue exchange routingKey, Act.declare queue exchange routingKey ∈ acts →
      queue ≠ settings.exchange) :
    ∀ (i : Nat) (c : Channel),
      (after server acts (fresh settings policy world)).world.instances[i]? = some c →
        c.lane.unconfirmed settings.exchange ≤ max 1 settings.maxOutstandingConfirms := by
  intro i c found
  -- what is asked for under the name of the exchange, only publishes ask for
  let asks (key : String) (options : ChannelOptions) : Prop :=
    key = settings.exchange → options = .publishing settings.maxOutstandingConfirms
  have within (a : Act σ) (mem : a ∈ acts) : a.Within settings asks toOwnExchange := by
    have own := publisher a mem
    cases a with
    | channel => exact own.elim
    | begin frame cancelled => exact ⟨fun _ => rfl, rfl⟩
    | declare queue exchange routingKey =>
      exact fun same => absurd same (apart queue exchange routingKey mem)
    | move j m =>
      intro key
      cases m with
      | call => exact own.elim
      | _ => trivial
    | _ => trivial
  obtain ⟨options, asked, bounded⟩ := unconfirmed_le_asked server settings policy world within found
  by_cases named : c.key = settings.exchange
  · rw [asked named] at bounded
    have window : (ChannelOptions.publishing settings.maxOutstandingConfirms).window
        = max settings.maxOutstandingConfirms 1 := rfl
    have bound := bounded settings.exchange
    omega
  · have effects := effects_after server settings policy world within
    have start : (fresh settings policy world).world.Addressed := nofun
    have addressed := effects.keep start Effect.addressed
    have none : c.lane.unconfirmed settings.exchange = 0 := by
      unfold Lane.unconfirmed
      rw [List.countP_eq_zero]
      intro call mem both
      have goes := of_decide_eq_true (Bool.and_eq_true_iff.1 both).1
      exact named ((addressed i c found call.frame (List.mem_map_of_mem mem)).symm.trans goes)
    omega

/-- The steps of a publish that finds a place. -/
def written (i : Nat) : List Move :=
  [.advance i, .advance i, .advance i, .advance i, .written i (.ok ())]

/-- A queue is declared and two messages are published over an instance; no confirmation comes. -/
def twoPublishes (exchange : String) (place : Nat) : List (Act Unit) :=
  let frame : Frame := ⟨exchange, "CreateClient", [], {}⟩
  [.declare "CreateClient" exchange "CreateClient", .begin frame false, .begin frame false]
    ++ (written 0 ++ written 1).map (.move place)

/-- Settings under which one frame at a time may be unconfirmed. -/
def oneAtATime (exchange : String) : Settings :=
  { Settings.default with exchange, maxOutstandingConfirms := 1 }

theorem ofPublisher_twoPublishes (exchange : String) (place : Nat) :
    ∀ a ∈ twoPublishes exchange place, a.OfPublisher (oneAtATime exchange) := by
  have route : Route.of exchange "CreateClient" = ⟨exchange, "CreateClient"⟩ := by
    have name : simpleName "CreateClient" = "CreateClient" := by decide
    exact congrArg (Route.mk exchange) name
  intro a mem
  obtain starts | moves := List.mem_append.1 mem
  · simp only [List.mem_cons, List.not_mem_nil, or_false] at starts
    rcases starts with rfl | rfl | rfl
    · exact ⟨_, route, rfl⟩
    · exact ⟨_, route⟩
    · exact ⟨_, route⟩
  · obtain ⟨m, made, rfl⟩ := List.mem_map.1 moves
    cases m with
    | call => simp [written] at made
    | _ => trivial

/-- Where no queue bears the name of the exchange, one is written and the other waits. -/
theorem unconfirmed_le_apart :
    ∃ c, (after .granting (twoPublishes "client-manager" 1)
        (fresh (oneAtATime "client-manager") .requeue ())).world.instances[1]? = some c ∧
      c.lane.unconfirmed "client-manager" = 1 ∧
      c.lane.unconfirmed "client-manager"
        ≤ max 1 (oneAtATime "client-manager").maxOutstandingConfirms := by
  refine ⟨_, rfl, by decide, ?_⟩
  apply unconfirmed_le_configured .granting (oneAtATime "client-manager") .requeue ()
    (twoPublishes "client-manager" 1) (ofPublisher_twoPublishes _ _) ?_ 1 _ rfl
  intro queue exchange routingKey mem
  simp [twoPublishes] at mem
  obtain ⟨rfl, _⟩ := mem
  decide

/-- Where one does, both are written: the channel is the one that the queue was declared on, with
the usual window. -/
theorem unconfirmed_exceeds :
    (∀ a ∈ twoPublishes "CreateClient" 0, a.OfPublisher (oneAtATime "CreateClient")) ∧
    ∃ c, (after .granting (twoPublishes "CreateClient" 0)
        (fresh (oneAtATime "CreateClient") .requeue ())).world.instances[0]? = some c ∧
      max 1 (oneAtATime "CreateClient").maxOutstandingConfirms
        < c.lane.unconfirmed (oneAtATime "CreateClient").exchange := by
  refine ⟨ofPublisher_twoPublishes _ _, _, rfl, ?_⟩
  decide

end Link

end Courier
