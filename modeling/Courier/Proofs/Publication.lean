import Courier.Proofs.Acting
import Courier.Proofs.Envelope
import Courier.Proofs.Recording

/-!
# From a message to its frame

What a publish that succeeded has done: it gave the message an identifier if it had none, and handed
one frame to the broker, with an envelope around the message in the context of the flow
(`Publication.publish_ok`).
-/

namespace Courier
set_option autoImplicit false
open Acting Confirm

/-- How a message leaves the stages before the last one: as it was, or with a fresh identifier in
place of the nil one. -/
inductive Message.Identified (m : Message) : Message → Prop where
  | kept (known : m.id.isNil = false) : Identified m m
  | assigned (unknown : m.id.isNil = true) (id : Uuid) (fresh : id.isNil = false) :
    Identified m (m.withId id)

/-- A message keeps its type. -/
theorem Message.Identified.contract {m m' : Message} (h : m.Identified m') :
    m'.contract = m.contract := by
  cases h with
  | kept => rfl
  | assigned _ id => exact Message.contract_withId m id

/-- A message that went on has an identifier. -/
theorem Message.Identified.isNil_id {m m' : Message} (h : m.Identified m') : m'.id.isNil = false := by
  cases h with
  | kept known => exact known
  | assigned _ id fresh => rw [Message.id_withId, fresh]

/-- A message differs in its identifier only, and only where it had none. -/
theorem Message.Identified.eq_or_withId {m m' : Message} (h : m.Identified m') :
    m' = m ∨ m.id.isNil = true ∧ ∃ id, m' = m.withId id := by
  cases h with
  | kept => exact .inl rfl
  | assigned unknown id => exact .inr ⟨unknown, id, rfl⟩

namespace Publication

variable {σ : Type} {p p' : Publication (σ × List Frame)} {rest : Step (σ × List Frame) Unit}

/-- Steps that leave message and flow alone and hand frames to the broker. -/
structure Handed (frames : List Frame) (p p' : Publication (σ × List Frame)) : Prop where
  message : p'.message = p.message
  flow : p'.flow = p.flow
  frames : p'.around.world.2 = p.around.world.2 ++ frames

theorem work_bind {τ α β : Type} (act : Work τ α) (f : α → Step τ β) {p : Publication τ} :
    (work act >>= f).run p = (f (act p.around).1).run { p with around := (act p.around).2 } := rfl

/-! The stages. -/

theorem validation_ok (h : (validation rest).run p = (.ok (), p')) : rest.run p = (.ok (), p') := by
  unfold validation at h
  rw [get_bind] at h
  dsimp only at h
  split at h
  · exact h
  · rw [work_bind] at h
    cases h

/-- The flow takes an identifier as a cause only if it is not nil. -/
theorem setCause_ok {f f' : Flow} {id : Uuid} {c : MessageContext}
    (h : f.setCause id = .ok (c, f')) : id.isNil = false := by
  unfold Flow.setCause at h
  split at h
  · cases h
  · next fresh => exact Bool.eq_false_iff.2 fresh

theorem enrichment_ok (h : (enrichment rest).run p = (.ok (), p')) :
    ∃ q, rest.run q = (.ok (), p') ∧ p.message.Identified q.message ∧ q.around = p.around := by
  unfold enrichment at h
  rw [get_bind] at h
  split at h
  · next unknown =>
    obtain ⟨id, q, drawn, h⟩ := bind_eq_ok h
    cases drawn
    rw [modify_bind, get_bind] at h
    obtain ⟨⟨c, flow⟩, q, ran, h⟩ := bind_eq_ok h
    obtain ⟨caused, rfl⟩ := ofExcept_eq_ok ran
    exact ⟨_, h, .assigned unknown _ (setCause_ok caused), rfl⟩
  · next known =>
    exact ⟨p, h, .kept (Bool.eq_false_iff.2 known), rfl⟩

/-! The end of publishing. -/

variable {q : Publication (σ × List Frame)} {broker : Broker σ} {trace : List (String × String)}
  {parcel : Parcel}

theorem parcel_ok {routing : String → Route}
    (h : (Publication.parcel routing).run p = (.ok parcel, q)) :
    ∃ c, p.flow.current = some c ∧ parcel.envelope = .around p.message c p.supply ∧
      Handed [] p q := by
  unfold Publication.parcel at h
  rw [get_bind, set_bind] at h
  obtain ⟨envelope, q, ran, h⟩ := bind_eq_ok h
  obtain ⟨wrapped, rfl⟩ := ofExcept_eq_ok ran
  cases h
  cases current : p.flow.current with
  | none =>
    unfold Envelope.wrap at wrapped
    rw [current] at wrapped
    cases wrapped
  | some c =>
    rw [Envelope.wrap_of_current p.message p.supply current] at wrapped
    cases wrapped
    exact ⟨c, rfl, rfl, rfl, rfl, (List.append_nil _).symm⟩

theorem send_ok (h : (send broker.recorded trace parcel).run p = (.ok (), p')) :
    Handed [parcel.frame trace] p p' := by
  unfold send at h
  rw [work_bind] at h
  split at h
  · cases h
    exact ⟨rfl, rfl, Broker.record_publish broker _ p.around⟩
  · cases h

theorem declareAndSend_ok (h : (declareAndSend broker.recorded trace parcel).run p = (.ok (), p')) :
    Handed [parcel.frame trace] p p' := by
  unfold declareAndSend at h
  rw [work_bind, get_bind] at h
  dsimp only at h
  rw [modify_bind] at h
  split at h
  · cases h
  · have handed := send_ok h
    exact ⟨handed.message, handed.flow, handed.frames⟩

/-- The end of publishing hands over one frame: its envelope is around the message in the context of
the flow. -/
theorem terminal_ok {routing : String → Route}
    (h : (terminal broker.recorded routing trace).run p = (.ok (), p')) :
    ∃ (c : MessageContext) (parcel : Parcel), p.flow.current = some c ∧
      parcel.envelope = .around p.message c p.supply ∧ Handed [parcel.frame trace] p p' := by
  unfold terminal at h
  obtain ⟨parcel, q, made, h⟩ := bind_eq_ok h
  obtain ⟨c, current, envelope, kept⟩ := parcel_ok made
  rw [work_bind, get_bind] at h
  have handed : Handed [parcel.frame trace] q p' := by
    split at h
    · cases h
    · have sent := send_ok h
      exact ⟨sent.message, sent.flow, sent.frames⟩
    · have sent := declareAndSend_ok h
      exact ⟨sent.message, sent.flow, sent.frames⟩
  refine ⟨c, parcel, current, envelope, handed.message.trans kept.message,
    handed.flow.trans kept.flow, ?_⟩
  rw [handed.frames, kept.frames, List.append_nil]

/-- Starting a chain changes neither the message nor the surroundings. -/
theorem establish_ok (h : establish.run p = (.ok (), q)) :
    q.message = p.message ∧ q.around = p.around := by
  unfold establish at h
  rw [get_bind] at h
  cases h
  exact ⟨rfl, rfl⟩

/-- A publish that succeeded has handed over one frame, with an envelope around the message as it is
now, in the context that the flow has now. -/
theorem publish_ok {routing : String → Route} {receipt : Receipt}
    (h : (publish standard (terminal broker.recorded routing trace)).run p = (.ok receipt, p')) :
    ∃ (c : MessageContext) (s : Supply) (frame : Frame), p'.flow.current = some c ∧
      frame.payload = (Envelope.around p'.message c s).body ∧
      p'.around.world.2 = p.around.world.2 ++ [frame] ∧ p.message.Identified p'.message := by
  unfold publish at h
  obtain ⟨_, p₁, started, h⟩ := bind_eq_ok h
  obtain ⟨message, world⟩ := establish_ok started
  obtain ⟨_, p₃, ran, h⟩ := bind_eq_ok h
  obtain ⟨p₂, last, identified, around⟩ := enrichment_ok (validation_ok ran)
  obtain ⟨c, parcel, current, envelope, handed⟩ := terminal_ok last
  rw [get_bind] at h
  have same : p₃ = p' := by
    split at h
    · cases h
      rfl
    · cases h
  subst same
  refine ⟨c, p₂.supply, parcel.frame trace, handed.flow ▸ current, ?_, ?_, ?_⟩
  · unfold Parcel.frame
    dsimp only
    rw [handed.message, ← envelope]
  · rw [handed.frames, around, world]
  · rw [handed.message, ← message]
    exact identified

end Publication

end Courier
