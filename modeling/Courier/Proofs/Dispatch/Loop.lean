import Courier.Dispatch.Service

/-!
# How a loop goes on

A run of a consumer ends with a token that has fired or with its stream, and goes through what
happens one after the other until then (`Consumer.run_fired`, `Consumer.run_live`). To take a
delivery is to process it (`Consumer.take_eq_process`). A loop of a service makes the same steps,
with processing taken apart into handling and settling; one that has stopped makes none
(`Worker.step_of_not_running`).
-/

namespace Courier
set_option autoImplicit false

variable {σ : Type}

theorem Work.isCancelled_bind {τ α : Type} (f : Bool → Work τ α) (s : Surroundings τ) :
    (Work.isCancelled >>= f).run s = (f s.cancelled).run s := rfl

namespace Consumer

variable (c : Consumer σ) {s : Surroundings σ}

/-- Taking a delivery is processing it; a failure to settle it is reported. -/
theorem take_eq_process (d : Delivery) :
    c.take d = (do
      if let .error e ← c.process d then
        Work.report (.settlementFailed e)) := by
  unfold process
  rw [bind_assoc]
  rfl

theorem run_nil (s : Surroundings σ) :
    (c.run []).run s = (if s.cancelled then some .cancelled else none, s) := rfl

/-- A token that has fired ends a run before anything else. -/
theorem run_fired (fired : s.cancelled = true) (happening : Happening) (rest : List Happening) :
    (c.run (happening :: rest)).run s = (some .cancelled, s) := by
  unfold run
  rw [Work.isCancelled_bind, fired]
  rfl

theorem run_live (live : s.cancelled = false) (happening : Happening) (rest : List Happening) :
    (c.run (happening :: rest)).run s =
      match happening with
      | .delivery d => (c.run rest).run ((c.take d).run s).2
      | .streamError reason =>
        (c.run rest).run { s with log := s.log ++ [.streamFailed reason c.queue.name] }
      | .streamEnd =>
        (some .streamEnded, { s with log := s.log ++ [.streamEnded c.queue.name] })
      | .cancellation => (c.run rest).run { s with cancelled := true } := by
  obtain ⟨world, cancelled, log⟩ := s
  cases live
  cases happening <;> rfl

end Consumer

/-! ## Loops -/

namespace Worker

/-- The loop after its consumer's run ended, or still waits. -/
def ended (w : Worker σ) : Option Exit → Worker σ
  | none => w
  | some exit => w.setState (.stopped exit)

variable {w : Worker σ}

/-- A loop that has stopped does nothing. -/
theorem step_of_not_running (h : w.isRunning = false) (step : Step) (s : Surroundings (Link σ)) :
    (w.step step).run s = ((w, []), s) := by
  unfold Worker.step
  rw [h]
  rfl

theorem step_of_running (h : w.isRunning) (step : Step) : w.step step = w.goOn w.stage step :=
  if_pos h

theorem step_notice (running : w.isRunning) (waits : w.stage = .waiting)
    (s : Surroundings (Link σ)) :
    (w.step .notice).run s =
      ((w.ended (if s.cancelled then some .cancelled else none), []), s) := by
  obtain ⟨link, cancelled, log⟩ := s
  rw [step_of_running running, waits]
  cases cancelled <;> rfl

theorem encounter_fired (running : w.isRunning) (waits : w.stage = .waiting)
    {s : Surroundings (Link σ)} (fired : s.cancelled = true) (happening : Happening) :
    (w.step (.encounter happening)).run s = ((w.setState (.stopped .cancelled), []), s) := by
  rw [step_of_running running, waits]
  unfold goOn encounter
  rw [Work.isCancelled_bind, fired]
  rfl

theorem encounter_live (running : w.isRunning) (waits : w.stage = .waiting)
    {s : Surroundings (Link σ)} (live : s.cancelled = false) (happening : Happening) :
    (w.step (.encounter happening)).run s =
      match happening with
      | .delivery d => (({ w with stage := .taken d }, [.took d]), s)
      | .streamError reason =>
        ((w, []), { s with log := s.log ++ [.streamFailed reason w.consumer.queue.name] })
      | .streamEnd =>
        ((w.setState (.stopped .streamEnded), []),
          { s with log := s.log ++ [.streamEnded w.consumer.queue.name] })
      | .cancellation => ((w, []), { s with cancelled := true }) := by
  obtain ⟨link, cancelled, log⟩ := s
  cases live
  rw [step_of_running running, waits]
  cases happening <;> rfl

theorem step_handle (running : w.isRunning) {d : Delivery} (taken : w.stage = .taken d)
    (s : Surroundings (Link σ)) :
    (w.step .handle).run s =
      let ran := (w.consumer.attend d).run s
      (({ w with stage := .handled d ran.1 }, [.handled d ran.1]), ran.2) := by
  rw [step_of_running running, taken]
  rfl

theorem step_settle (running : w.isRunning) {d : Delivery} {outcome : Except MessagingError Unit}
    (handled : w.stage = .handled d outcome) (s : Surroundings (Link σ)) :
    (w.step .settle).run s =
      (({ w with stage := .waiting }, [.settled d outcome]),
        ((w.consumer.conclude d outcome).run s).2) := by
  rw [step_of_running running, handled]
  rfl

theorem encounter_kept (w : Worker σ) (happening : Happening) (s : Surroundings (Link σ)) :
    ∃ state stage, ((w.encounter happening).run s).1.1 =
      { w with loop := { w.loop with state }, stage } := by
  obtain ⟨link, cancelled, log⟩ := s
  cases cancelled <;> cases happening <;> exact ⟨_, _, rfl⟩

/-- A loop keeps its subscription and its consumer. -/
theorem step_kept (w : Worker σ) (step : Step) (s : Surroundings (Link σ)) :
    ∃ state stage, ((w.step step).run s).1.1 =
      { w with loop := { w.loop with state }, stage } := by
  unfold Worker.step
  split
  · unfold goOn
    split
    · exact encounter_kept w _ s
    · obtain ⟨link, cancelled, log⟩ := s
      cases cancelled <;> exact ⟨_, _, rfl⟩
    all_goals exact ⟨_, _, rfl⟩
  · exact ⟨_, _, rfl⟩

theorem step_subscription (w : Worker σ) (step : Step) (s : Surroundings (Link σ)) :
    ((w.step step).run s).1.1.loop.subscription = w.loop.subscription := by
  obtain ⟨state, stage, kept⟩ := w.step_kept step s
  rw [kept]

end Worker

/-- How a loop goes on when it comes upon something. -/
def Happening.steps : Happening → List Worker.Step
  | .delivery d => [.encounter (.delivery d), .handle, .settle]
  | happening => [.encounter happening]

theorem Happening.steps_eq_cons (happening : Happening) :
    ∃ more, happening.steps = .encounter happening :: more := by
  cases happening <;> exact ⟨_, rfl⟩

end Courier
