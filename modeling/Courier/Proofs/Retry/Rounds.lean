import Courier.Proofs.Retry.Trial

/-!
# Rounds of retries

A letter on trial goes round between its queue and the retry queue once for each failure, as long as
retries are left. What it has come to is known from the failures so far (`Stage`), every step keeps
to that (`Stage.step`), and so it is handled after at most as many failures as there are retries, or
else given up after one more (`Trial.bounded`).
-/

namespace Courier.Depot
set_option autoImplicit false
open Amqp Confirm

namespace Trial

variable {τ : Type}

/-! ## Stages -/

/-- The events of failures that were each followed by a wait in the retry queue. -/
def rounds (trial : Trial) (failures : List MessagingError) : List Event :=
  failures.flatMap fun e =>
    [.processed trial.name (.error e), .expired (trial.name ++ "-retry")]

theorem rounds_concat (trial : Trial) (failures : List MessagingError) (e : MessagingError) :
    trial.rounds (failures ++ [e]) =
      trial.rounds failures ++ [.processed trial.name (.error e)] ++
        [.expired (trial.name ++ "-retry")] := by
  unfold rounds
  rw [List.flatMap_append, List.append_assoc]
  rfl

/-- What the letter has come to, by its events so far. -/
inductive Stage (trial : Trial) : List Event → Depot → Prop where
  /-- It waits in its queue, after failures that left a retry each. -/
  | waiting {failures : List MessagingError} {p : Properties}
      (left : failures.length ≤ trial.retries.toNat) (tallied : p.Tallied failures.length) :
      Stage trial (trial.rounds failures)
        (trial.holding failures.length [trial.letter trial.name p]
          (refusals trial.handle failures.length))
  /-- It waits in the retry queue. -/
  | parked {failures : List MessagingError} {e : MessagingError} {p : Properties}
      (left : failures.length < trial.retries.toNat) (tallied : p.Tallied failures.length) :
      Stage trial (trial.rounds failures ++ [.processed trial.name (.error e)])
        (trial.holding (failures.length + 1) [trial.letter (trial.name ++ "-retry") p]
          (refusals trial.handle (failures.length + 1)))
  /-- It was given up. -/
  | abandoned {failures : List MessagingError} {e : MessagingError} {p : Properties}
      (spent : failures.length = trial.retries.toNat) :
      Stage trial (trial.rounds failures ++ [.processed trial.name (.error e)])
        (trial.holding (failures.length + 1) [trial.letter (trial.name ++ "-dlq") p]
          (refusals trial.handle failures.length ++
            [((trial.letter trial.name p).delivery (failures.length + 1)).copyTo trial.handle
                (trial.name ++ "-dlq"),
              .ack trial.handle (failures.length + 1)]))
  /-- It was handled. -/
  | handled {failures : List MessagingError} (left : failures.length ≤ trial.retries.toNat) :
      Stage trial (trial.rounds failures ++ [.processed trial.name (.ok ())])
        (trial.holding (failures.length + 1) []
          (refusals trial.handle failures.length ++ [.ack trial.handle (failures.length + 1)]))

/-- The only letter is the one that lies there. -/
theorem only_letter {x y : Letter} {i : Nat} (lies : [x][i]? = some y) : i = 0 ∧ y = x := by
  rw [List.getElem?_singleton] at lies
  split at lies
  case isTrue first => exact ⟨first, (Option.some.inj lies).symm⟩
  case isFalse => cases lies

namespace Stage
variable {trial : Trial} {events : List Event} {depot : Depot} {i : Nat} {letter : Letter}

theorem of_eq {after : Depot} (stage : Stage trial events after) (same : depot = after) :
    Stage trial events depot := same ▸ stage

/-- A letter that is processed was in the main queue, and is handled, parked or given up. -/
theorem processed (stage : Stage trial events depot) (lies : depot.waiting[i]? = some letter)
    (consumed : letter.queue ∈ depot.consumed) (outcome : Except MessagingError Unit) :
    let d := letter.delivery (depot.deliveries + 1)
    Stage trial (events ++ [.processed letter.queue outcome])
      ((d.settlement trial.policy trial.name trial.handle d.properties.deathCount outcome
        (.ok ())).foldl serve (depot.bring i letter)) := by
  intro d
  cases stage with
  | @waiting failures p left tallied =>
    obtain ⟨rfl, rfl⟩ := only_letter lies
    have deaths : d.properties.deathCount = failures.length := tallied.deathCount
    cases outcome with
    | ok _ =>
      have gone := serve_ack trial failures.length p (refusals trial.handle failures.length)
      exact (Stage.handled left).of_eq gone
    | error e =>
      by_cases retried : failures.length < trial.retries.toNat
      · rw [settlement_retry e (by omega)]
        have moved := serve_nack trial failures.length p (refusals trial.handle failures.length)
        rw [← refusals_succ] at moved
        exact (Stage.parked retried tallied).of_eq moved
      · rw [settlement_giveUp e (by omega)]
        have moved := serve_giveUp trial failures.length p (refusals trial.handle failures.length)
        exact (Stage.abandoned (by omega)).of_eq moved
  | parked =>
    obtain ⟨rfl, rfl⟩ := only_letter lies
    exact absurd (List.mem_singleton.mp consumed) (retry_ne trial.name)
  | abandoned =>
    obtain ⟨rfl, rfl⟩ := only_letter lies
    exact absurd (List.mem_singleton.mp consumed) (deadLetter_ne trial.name)
  | handled => cases lies

/-- A letter whose wait ended was in the retry queue, and waits in the main queue again. -/
theorem expired (stage : Stage trial events depot) (lies : depot.waiting[i]? = some letter)
    (limited : depot.limits letter.queue) :
    Stage trial (events ++ [.expired letter.queue]) (depot.expire i letter) := by
  cases stage with
  | waiting =>
    obtain ⟨rfl, rfl⟩ := only_letter lies
    exact absurd (limits_main rfl) (Bool.not_eq_false _ ▸ limited)
  | @parked failures e p left tallied =>
    obtain ⟨rfl, rfl⟩ := only_letter lies
    have back := expire_parked trial (failures.length + 1) p
      (refusals trial.handle (failures.length + 1))
    have length : (failures ++ [e]).length = failures.length + 1 := List.length_append
    have waiting : Stage trial (trial.rounds (failures ++ [e])) _ :=
      Stage.waiting (by omega) (length ▸ tallied.raised)
    rw [rounds_concat, length] at waiting
    exact waiting.of_eq back
  | abandoned =>
    obtain ⟨rfl, rfl⟩ := only_letter lies
    exact absurd (limits_deadLetter rfl) (Bool.not_eq_false _ ▸ limited)
  | handled => cases lies

/-- Every step keeps to the stages. -/
theorem step {channel : Nat} {handling : Octets → Work (Link τ) (Except MessagingError Unit)}
    {event : Event} {s t : Surroundings (Link (τ × Depot))} (stage : Stage trial events s.depot)
    (step : Step (trial.consumer channel handling) event s t) :
    Stage trial (events ++ [event]) t.depot := by
  cases step with
  | processed lies consumed =>
    rw [depot_process]
    exact stage.processed lies consumed _
  | expired lies limited => exact stage.expired lies limited

end Stage

/-- After every history the letter is at a stage. -/
theorem stage_of_history {trial : Trial} {channel : Nat}
    {handling : Octets → Work (Link τ) (Except MessagingError Unit)} {properties : Properties}
    {s : Surroundings (Link τ)} {events : List Event} {t : Surroundings (Link (τ × Depot))}
    (fresh : properties.headerTable.get? "x-death" = none)
    (history : History (trial.consumer channel handling) (trial.start properties s) events t) :
    Stage trial events t.depot := by
  induction history with
  | start =>
    have waiting : Stage trial (trial.rounds []) _ := Stage.waiting (Nat.zero_le _) fresh
    exact waiting.of_eq (depot_start trial properties s)
  | step before step stage => exact stage.step step

/-! ## The end of a trial -/

/-- What is known of a letter after a history. -/
inductive Fate (trial : Trial) (consumer : Consumer (Link (τ × Depot))) (begun : List Request)
    (events : List Event) (t : Surroundings (Link (τ × Depot))) : Prop where
  /-- Every handling failed; the letter lies in the main queue or in the retry queue and something
  can happen to it. -/
  | underway {failures : List MessagingError} {letter : Letter}
      (failed : outcomes events = failures.map .error)
      (few : failures.length ≤ trial.retries.toNat)
      (kept : t.depot.waiting = [letter] ∧ t.depot.taken = [])
      (place : letter.queue = trial.name ∨ letter.queue = trial.name ++ "-retry")
      (whole : letter.body = trial.body)
      (journal : t.depot.journal = begun ++ refusals trial.handle failures.length)
      (goesOn : ∃ event u, Step consumer event t u)
  /-- One handling more failed than there are retries; the letter was copied to the dead-letter
  queue and acknowledged. -/
  | abandoned {failures : List MessagingError} {p : Properties}
      (failed : outcomes events = failures.map .error)
      (many : failures.length = trial.retries.toNat + 1)
      (kept : t.depot.waiting = [⟨trial.name ++ "-dlq", trial.body, p⟩] ∧ t.depot.taken = [])
      (journal : t.depot.journal = begun ++ (refusals trial.handle trial.retries.toNat ++
        [.publish trial.handle ⟨"", trial.name ++ "-dlq", trial.body, p⟩ false,
          .ack trial.handle (trial.retries.toNat + 1)]))
      (finished : ∀ event u, ¬Step consumer event t u)
  /-- A handling succeeded; the letter was acknowledged. -/
  | handled {failures : List MessagingError}
      (succeeded : outcomes events = failures.map .error ++ [.ok ()])
      (few : failures.length ≤ trial.retries.toNat)
      (kept : t.depot.waiting = [] ∧ t.depot.taken = [])
      (journal : t.depot.journal = begun ++ (refusals trial.handle failures.length ++
        [.ack trial.handle (failures.length + 1)]))
      (finished : ∀ event u, ¬Step consumer event t u)

variable {trial : Trial} {channel : Nat}
  {handling : Octets → Work (Link τ) (Except MessagingError Unit)} {events : List Event}
  {t : Surroundings (Link (τ × Depot))}

theorem outcomes_rounds (failures : List MessagingError) :
    outcomes (trial.rounds failures) = failures.map .error := by
  induction failures with
  | nil => rfl
  | cons e failures ih => exact congrArg (.error e :: ·) ih

theorem outcomes_append (events more : List Event) :
    outcomes (events ++ more) = outcomes events ++ outcomes more := List.filterMap_append

theorem outcomes_concat (failures : List MessagingError) (e : MessagingError) :
    outcomes (trial.rounds failures ++ [.processed trial.name (.error e)]) =
      (failures ++ [e]).map .error := by
  rw [outcomes_append, outcomes_rounds, List.map_append]
  rfl

theorem length_rounds (failures : List MessagingError) :
    (trial.rounds failures).length = 2 * failures.length := by
  induction failures with
  | nil => rfl
  | cons e failures ih =>
    have two : (trial.rounds (e :: failures)).length = (trial.rounds failures).length + 2 := rfl
    rw [two, ih, List.length_cons]
    omega

theorem mem_rounds {failures : List MessagingError} {queue : String}
    {outcome : Except MessagingError Unit}
    (processed : .processed queue outcome ∈ trial.rounds failures) : queue = trial.name := by
  obtain ⟨e, -, event⟩ := List.mem_flatMap.mp processed
  rcases List.mem_cons.mp event with same | other
  · exact (Event.processed.inj same).1
  · cases List.mem_singleton.mp other

/-- Nothing can happen where no letter waits in a queue that is consumed or that bounds the wait. -/
theorem finished_of_idle {consumer : Consumer (Link (τ × Depot))}
    (idle : ∀ letter ∈ t.depot.waiting,
      letter.queue ∉ t.depot.consumed ∧ t.depot.limits letter.queue = false) (event : Event)
    (u : Surroundings (Link (τ × Depot))) : ¬Step consumer event t u := by
  intro step
  cases step with
  | processed lies consumed => exact (idle _ (List.mem_of_getElem? lies)).1 consumed
  | expired lies limited =>
    rw [(idle _ (List.mem_of_getElem? lies)).2] at limited
    cases limited

namespace Stage

theorem length_le {depot : Depot} (stage : Stage trial events depot) :
    events.length ≤ 2 * trial.retries.toNat + 1 := by
  cases stage <;> simp only [List.length_append, length_rounds, List.length_singleton] <;> omega

theorem processed_main {depot : Depot} (stage : Stage trial events depot) {queue : String}
    {outcome : Except MessagingError Unit} (processed : .processed queue outcome ∈ events) :
    queue = trial.name := by
  cases stage with
  | waiting => exact mem_rounds processed
  | parked | abandoned | handled =>
    rcases List.mem_append.mp processed with earlier | last
    · exact mem_rounds earlier
    · exact (Event.processed.inj (List.mem_singleton.mp last)).1

theorem fate (stage : Stage trial events t.depot) :
    Fate trial (trial.consumer channel handling) trial.opened.journal events t := by
  generalize same : t.depot = depot at stage
  cases stage with
  | @waiting failures p left =>
    have lies : t.depot.waiting[0]? = some (trial.letter trial.name p) := by
      rw [same]
      rfl
    have consumed : trial.name ∈ t.depot.consumed := by
      rw [same]
      exact List.mem_cons_self
    exact .underway (outcomes_rounds failures) left
      ⟨congrArg Depot.waiting same, congrArg Depot.taken same⟩ (.inl rfl) rfl
      (congrArg Depot.journal same) ⟨_, _, .processed lies consumed⟩
  | @parked failures e p left =>
    have lies : t.depot.waiting[0]? = some (trial.letter (trial.name ++ "-retry") p) := by
      rw [same]
      rfl
    have limited : t.depot.limits (trial.name ++ "-retry") := by
      rw [same]
      exact limits_retry rfl
    refine .underway (outcomes_concat failures e) ?_
      ⟨congrArg Depot.waiting same, congrArg Depot.taken same⟩ (.inr rfl) rfl
      ?_ ⟨_, _, .expired lies limited⟩
    · rw [List.length_append]
      exact left
    · rw [List.length_append]
      exact congrArg Depot.journal same
  | @abandoned failures e p spent =>
    rw [spent] at same
    refine .abandoned (outcomes_concat failures e) ?_
      ⟨congrArg Depot.waiting same, congrArg Depot.taken same⟩ (congrArg Depot.journal same) ?_
    · rw [List.length_append, spent]
      rfl
    · refine finished_of_idle fun letter lies => ?_
      rw [same] at lies ⊢
      cases List.mem_singleton.mp lies
      exact ⟨fun consumed => deadLetter_ne trial.name (List.mem_singleton.mp consumed),
        limits_deadLetter rfl⟩
  | @handled failures left =>
    refine .handled ?_ left ⟨congrArg Depot.waiting same, congrArg Depot.taken same⟩
      (congrArg Depot.journal same) ?_
    · rw [outcomes_append, outcomes_rounds]
      rfl
    · refine finished_of_idle fun letter lies => ?_
      rw [same] at lies
      cases lies

end Stage

/-- Every history goes on to an end. -/
theorem exists_end {properties : Properties} {s : Surroundings (Link τ)}
    (fresh : properties.headerTable.get? "x-death" = none)
    (history : History (trial.consumer channel handling) (trial.start properties s) events t) :
    ∃ more u, History (trial.consumer channel handling) (trial.start properties s)
      (events ++ more) u ∧ ∀ event v, ¬Step (trial.consumer channel handling) event u v := by
  -- the induction is on what is left of the greatest length
  induction left : 2 * trial.retries.toNat + 1 - events.length generalizing events t with
  | zero =>
    refine ⟨[], t, (List.append_nil events).symm ▸ history, fun event v step => ?_⟩
    have longer := (stage_of_history fresh (history.step step)).length_le
    rw [List.length_append, List.length_singleton] at longer
    omega
  | succ n ih =>
    by_cases goesOn : ∃ event v, Step (trial.consumer channel handling) event t v
    · obtain ⟨event, v, step⟩ := goesOn
      have next := history.step step
      obtain ⟨more, u, ended, finished⟩ := ih next (by
        rw [List.length_append, List.length_singleton]
        omega)
      rw [List.append_assoc] at ended
      exact ⟨[event] ++ more, u, ended, finished⟩
    · refine ⟨[], t, (List.append_nil events).symm ▸ history, fun event v step => ?_⟩
      exact goesOn ⟨event, v, step⟩

/-- A letter whose headers tell of no deaths, under any policy of retries and whatever its handling
does, is processed only from its queue and finitely often, and every history goes on to an end.
Until it is handled or given up, the letter is kept and something can happen to it. It is given up
when all handlings failed and they are one more than there are retries, and a copy of it is written
then, once. -/
theorem bounded (trial : Trial) (channel : Nat)
    (handling : Octets → Work (Link τ) (Except MessagingError Unit)) {properties : Properties}
    (fresh : properties.headerTable.get? "x-death" = none) (s : Surroundings (Link τ)) :
    let consumer := trial.consumer channel handling
    let start := trial.start properties s
    ∀ events t, History consumer start events t →
      events.length ≤ 2 * trial.retries.toNat + 1 ∧
        (∀ queue outcome, .processed queue outcome ∈ events → queue = trial.name) ∧
        Fate trial consumer start.depot.journal events t ∧
        ∃ more u, History consumer start (events ++ more) u ∧
          ∀ event v, ¬Step consumer event u v := by
  intro consumer start events t history
  have stage : Stage trial events t.depot := stage_of_history fresh history
  have begun : start.depot.journal = trial.opened.journal := by
    rw [depot_start]
    exact List.append_nil _
  rw [begun]
  exact ⟨stage.length_le, fun queue outcome => stage.processed_main, stage.fate,
    exists_end fresh history⟩

/-- A handling that always fails fails every time. -/
theorem failed_of_failing {e : MessagingError} {start : Surroundings (Link (τ × Depot))}
    (failing : ∀ body s, (handling body s).1 = .error e)
    (history : History (trial.consumer channel handling) start events t) :
    .ok () ∉ outcomes events := by
  induction history with
  | start => exact List.not_mem_nil
  | step before step ih =>
    rw [outcomes_append]
    intro succeeded
    rcases List.mem_append.mp succeeded with earlier | last
    · exact ih earlier
    · cases step with
      | processed lies consumed => cases (List.mem_singleton.mp last).trans (failing _ _)
      | expired => cases last

/-- With one retry, a letter that is never handled is processed twice and then lies in the
dead-letter queue. -/
theorem bounded_oneRetry :
    let trial : Trial := ⟨1, 1000, "jobs", "service-jobs", 0, []⟩
    let failing : Octets → Work (Link Unit) (Except MessagingError Unit) :=
      fun _ => return .error (.handler (.failed "down"))
    let start := trial.start {} { world := { settings := .default, server := () } }
    ∃ events t, History (trial.consumer 0 failing) start events t ∧
      (outcomes events).length = 2 ∧ t.depot.waiting.map Letter.queue = ["jobs" ++ "-dlq"] := by
  intro trial failing start
  have fresh : ({} : Properties).headerTable.get? "x-death" = none := rfl
  obtain ⟨-, -, -, events, t, history, finished⟩ := bounded trial 0 failing fresh _ [] start .start
  obtain ⟨-, -, fate, -⟩ := bounded trial 0 failing fresh _ events t history
  refine ⟨events, t, history, ?_⟩
  cases fate with
  | underway _ _ _ _ _ _ goesOn =>
    obtain ⟨event, u, step⟩ := goesOn
    exact absurd step (finished event u)
  | abandoned failed many kept =>
    rw [failed, kept.1, List.length_map]
    exact ⟨many, rfl⟩
  | handled succeeded =>
    have failed : .ok () ∉ outcomes events := failed_of_failing (fun body s => rfl) history
    rw [succeeded] at failed
    exact absurd (List.mem_append_right _ List.mem_cons_self) failed

end Trial

end Courier.Depot
