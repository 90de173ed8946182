import Courier.Proofs.Dispatch.Serving

/-!
# Fired tokens

Nothing that a service does unfires its token, unless one of its handlers does
(`Service.fired_after`).
-/

namespace Courier
set_option autoImplicit false
open Acting

variable {σ τ α β : Type}

/-- Work after which a token that has fired is a token that has fired. -/
def Work.Lasting (act : Work τ α) : Prop :=
  ∀ s, s.cancelled = true → (act.run s).2.cancelled = true

namespace Work.Lasting

protected theorem pure (a : α) : Lasting (pure a : Work τ α) := fun _ fired => fired

theorem report (event : Log.Event) : Lasting (Work.report event : Work τ Unit) :=
  fun _ fired => fired

theorem inWorld (act : StateM τ α) : Lasting (Work.inWorld act) := fun _ fired => fired

protected theorem bind {act : Work τ α} {f : α → Work τ β} (first : Lasting act)
    (rest : ∀ a, Lasting (f a)) : Lasting (act >>= f) := fun s fired =>
  rest (act.run s).1 (act.run s).2 (first s fired)

end Work.Lasting

open Work

/-! ## What a consumer asks its link for -/

namespace Link

theorem lasting_compositional : Compositional (fun {α} (x : Step σ α) => Lasting x.run) :=
  .of_preorder (R := fun s t => s.cancelled = true → t.cancelled = true) (fun _ => id)
    (fun first rest => rest ∘ first) fun _ _ => id

theorem lasting_demand (server : Server σ) (request : Request) (event : String → Log.Event)
    (error : BrokerError) : Lasting (Link.demand server request event error).run :=
  lasting_compositional.demand event error fun _ fired => fired

theorem lasting_channel (server : Server σ) (key : String) (options : ChannelOptions) :
    Lasting (Link.channel server key options).run := by
  refine lasting_compositional.channel ?_ (fun _ _ fired => fired) (fun _ _ fired => fired)
    (fun _ fired => fired) (fun _ _ fired => fired) key options
  exact lasting_compositional.connect (fun _ _ _ fired => fired) fun _ _ fired => fired

end Link

theorem Dispatch.lasting_subscribe (server : Server σ) (routing : String → Route) (name : String) :
    Lasting (Dispatch.subscribe server routing name).run :=
  Link.lasting_compositional.subscribe (Link.lasting_channel server name .default)
    (Link.lasting_demand server) routing

/-- A consumer whose handling and settling take no firing back. -/
structure Consumer.Steady (c : Consumer τ) : Prop where
  attends : ∀ d, Lasting (c.attend d)
  concludes : ∀ d outcome, Lasting (c.conclude d outcome)

/-- A consumer of a link is steady if its handler is. -/
theorem Dispatch.steady_consumer (server : Server σ) (policy : RetryPolicy)
    (subscription : Subscription) (handle : Nat)
    {receive : Octets → Work (Link σ) (Except MessagingError Unit)}
    (lasting : ∀ body, Lasting (receive body)) :
    (Dispatch.consumer server policy subscription handle receive).Steady where
  attends d := by
    unfold Consumer.attend
    refine (lasting d.body).bind fun outcome => ?_
    cases outcome with
    | ok _ => exact .pure _
    | error e => exact (Lasting.report _).bind fun _ => .pure _
  concludes d outcome := by
    have settled (tag : Nat) (disposition : Disposition) :
        Lasting ((Dispatch.settling server handle).settle tag disposition) := by
      cases disposition with
      | ack => exact Link.lasting_demand server _ _ _
      | requeue | retry =>
        exact (Lasting.report _).bind fun _ => Link.lasting_demand server _ _ _
      | deadLetter => exact .pure _
    have givenUp (queue : Queue) : Lasting ((Dispatch.settling server handle).giveUp
        (Dispatch.copyTo server handle) queue d) := by
      unfold Settling.giveUp
      cases queue.deadLetterName with
      | none => exact settled d.tag .retry
      | some name =>
        refine (Lasting.report _).bind fun _ => (Lasting.inWorld _).bind fun answer => ?_
        cases answer with
        | ok _ => exact settled d.tag .ack
        | error reason => exact (Lasting.report _).bind fun _ => .pure _
    have concluded : Lasting ((Dispatch.consumer server policy subscription handle receive).settle d
        outcome) := by
      unfold Consumer.settle
      split
      · exact givenUp _
      · exact settled _ _
    unfold Consumer.conclude
    refine concluded.bind fun result => ?_
    cases result with
    | ok _ => exact .pure _
    | error e => exact .report _

/-! ## What a service does -/

namespace Worker

variable {w : Worker σ}

theorem lasting_noticed (w : Worker σ) {rest : Work (Link σ) (Worker σ × List Deed)}
    (lasting : Lasting rest) :
    Lasting (do
      if ← Work.isCancelled then
        return (w.setState (.stopped .cancelled), [])
      rest) := by
  refine Lasting.bind (fun _ fired => fired) fun cancelled => ?_
  cases cancelled with
  | true => exact .pure _
  | false => exact lasting

theorem lasting_encounter (w : Worker σ) (happening : Happening) :
    Lasting (w.encounter happening) := by
  apply lasting_noticed
  cases happening with
  | delivery d => exact .pure _
  | streamError reason => exact (Lasting.report _).bind fun _ => .pure _
  | streamEnd => exact (Lasting.report _).bind fun _ => .pure _
  | cancellation => exact fun _ _ => rfl

theorem lasting_step (steady : w.consumer.Steady) (step : Step) : Lasting (w.step step) := by
  unfold Worker.step
  split
  · unfold goOn
    split
    · exact lasting_encounter w _
    · exact lasting_noticed w (.pure _)
    · exact (steady.attends _).bind fun _ => .pure _
    · exact (steady.concludes _ _).bind fun _ => .pure _
    all_goals exact .pure _
  · exact .pure _

end Worker

namespace Service

variable {server : Server σ} {routing : String → Route}
  {receive : Octets → Work (Link σ) (Except MessagingError Unit)} {s : Service σ}

theorem fired_act (lasting : ∀ body, Lasting (receive body)) (serving : s.Serving server receive)
    (fired : s.around.cancelled = true) (m : Move σ) :
    (s.act server routing receive m).around.cancelled = true := by
  cases m with
  | setUp =>
    change (s.setUp server routing receive).around.cancelled = true
    have lasts (name : String) := Dispatch.lasting_subscribe server routing name s.around fired
    have came := s.setUp_cases server routing receive
    generalize s.setUp server routing receive = next at came ⊢
    cases came with
    | nothing => exact fired
    | @started name pending t subscription still waits ran
    | @failed name pending t e still waits ran =>
      have last := lasts name
      change ((Dispatch.subscribe server routing name).run s.around).2.cancelled = true at last
      rw [ran] at last
      exact last
  | loop k step =>
    change (s.advance k step).around.cancelled = true
    cases here : s.workers[k]? with
    | none =>
      rw [advance_none here]
      exact fired
    | some w =>
      obtain ⟨name, policy, channel, _, consumer⟩ := serving w (List.mem_of_getElem? here)
      have steady : w.consumer.Steady := by
        rw [consumer]
        exact Dispatch.steady_consumer server policy _ channel lasting
      rw [advance_eq here rfl]
      exact Worker.lasting_step steady step s.around fired
  | join =>
    change s.join.around.cancelled = true
    have came := s.join_cases
    generalize s.join = next at came ⊢
    cases came <;> exact fired
  | cancel => rfl
  | elsewhere change => exact fired

/-- A token that has fired stays fired, whatever happens. -/
theorem fired_after (lasting : ∀ body, Lasting (receive body)) (serving : s.Serving server receive)
    (fired : s.around.cancelled = true) (moves : List (Move σ)) :
    (s.after server routing receive moves).around.cancelled = true := by
  induction moves generalizing s with
  | nil => exact fired
  | cons m moves ih => exact ih (serving.act m) (fired_act lasting serving fired m)

end Service

end Courier
