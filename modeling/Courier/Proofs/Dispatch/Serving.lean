import Courier.Proofs.Dispatch.Service
import Courier.Proofs.Link.Channel

/-!
# What the loops of a service work by

A loop works by the handler of its service, and by the policy and the channel that there were when
it was started (`Worker.Serves`). Whatever happens, it keeps to them (`Service.Serving.after`).
-/

namespace Courier
set_option autoImplicit false

variable {σ : Type}

/-! ## The policy of a link -/

namespace Link

/-- Work on a link that leaves its policy as it is. -/
def Principled {α : Type} (x : Step σ α) : Prop :=
  ∀ s, (x.run s).2.world.policy = s.world.policy

theorem principled_compositional : Compositional (@Principled σ) :=
  .of_preorder (R := fun s t => t.world.policy = s.world.policy) (fun _ => rfl)
    (fun first rest => rest.trans first) fun _ _ => rfl

theorem principled_channel (server : Server σ) (key : String) (options : ChannelOptions) :
    Principled (Link.channel server key options) := by
  refine principled_compositional.channel ?_ (fun _ _ => rfl) (fun _ _ => rfl) (fun _ => rfl)
    (fun _ _ => rfl) key options
  exact principled_compositional.connect (fun _ _ _ => rfl) fun _ _ => rfl

end Link

theorem Dispatch.principled_subscribe (server : Server σ) (routing : String → Route)
    (name : String) : Link.Principled (Dispatch.subscribe server routing name) :=
  Link.principled_compositional.subscribe (Link.principled_channel server name .default)
    (fun _ event error => Link.principled_compositional.demand event error fun _ => rfl) routing

/-! ## Loops -/

/-- The loop consumes the queue of a name under a policy and on a channel, by the handler of its
service. -/
structure Worker.Serves (server : Server σ)
    (receive : Octets → Work (Link σ) (Except MessagingError Unit)) (w : Worker σ) (name : String)
    (policy : RetryPolicy) (channel : Nat) : Prop where
  queue : w.loop.subscription.queue = policy.queue name
  consumer : w.consumer = Dispatch.consumer server policy w.loop.subscription channel receive

theorem Worker.Serves.consumer_eq {server : Server σ}
    {receive : Octets → Work (Link σ) (Except MessagingError Unit)} {w : Worker σ} {name : String}
    {policy : RetryPolicy} {channel : Nat} (h : w.Serves server receive name policy channel) :
    w.consumer = Dispatch.consumer server policy ⟨policy.queue name, w.loop.subscription.channel⟩
      channel receive := by
  rw [← h.queue]
  exact h.consumer

namespace Service

variable {server : Server σ} {routing : String → Route}
  {receive : Octets → Work (Link σ) (Except MessagingError Unit)} {s : Service σ}

/-- All of its loops work by its handler. -/
def Serving (server : Server σ) (receive : Octets → Work (Link σ) (Except MessagingError Unit))
    (s : Service σ) : Prop :=
  ∀ w ∈ s.workers, ∃ name policy channel, w.Serves server receive name policy channel

theorem serving_start (server : Server σ)
    (receive : Octets → Work (Link σ) (Except MessagingError Unit)) (registry : Registry)
    (around : Surroundings (Link σ)) : (start registry around).Serving server receive :=
  List.forall_mem_nil _

namespace Serving

theorem act (h : s.Serving server receive) (m : Move σ) :
    (s.act server routing receive m).Serving server receive := by
  cases m with
  | setUp =>
    change (s.setUp server routing receive).Serving server receive
    have came := s.setUp_cases server routing receive
    generalize s.setUp server routing receive = t at came ⊢
    cases came with
    | nothing | failed => exact h
    | @started name _ t subscription _ _ ran =>
      -- The queue is of the policy before, and the consumer of the policy after it was set up.
      have kept : t.world.policy = s.around.world.policy := by
        have principled := Dispatch.principled_subscribe server routing name s.around
        rw [ran] at principled
        exact principled
      refine List.forall_mem_append.2 ⟨h, List.forall_mem_singleton.2 ?_⟩
      refine ⟨name, t.world.policy, _, ?_, rfl⟩
      rw [kept]
      exact Dispatch.subscribe_queue ran
  | loop k step =>
    change (s.advance k step).Serving server receive
    cases here : s.workers[k]? with
    | none =>
      rw [advance_none here]
      exact h
    | some w =>
      obtain ⟨state, stage, kept⟩ := w.step_kept step s.around
      generalize ran : (w.step step).run s.around = went at kept
      rw [advance_eq here ran]
      intro w' mem
      rcases List.mem_or_eq_of_mem_set mem with old | rfl
      · exact h w' old
      · obtain ⟨name, policy, channel, queue, consumer⟩ := h w (List.mem_of_getElem? here)
        rw [kept]
        exact ⟨name, policy, channel, queue, consumer⟩
  | join =>
    change s.join.Serving server receive
    have came := s.join_cases
    generalize s.join = t at came ⊢
    cases came <;> exact h
  | cancel | elsewhere change => exact h

theorem after (h : s.Serving server receive) (moves : List (Move σ)) :
    (s.after server routing receive moves).Serving server receive := by
  induction moves generalizing s with
  | nil => exact h
  | cons m moves ih => exact ih (h.act m)

end Serving

end Service

end Courier
