import Courier.Proofs.Lists
import Courier.Proofs.Publication.Course
import Courier.Publication.Outbox

/-!
# Declared before published

What any move makes of the parcels of one publisher (`Outbox.act_change`). Whatever the others do in
between, a frame is handed over only behind a declaration of its route that succeeded. Such a
declaration, and nothing else, makes a route a known one, and it stays one
(`Outbox.declared_before_published`).
-/

namespace Courier
set_option autoImplicit false
open Acting Confirm

/-- The declaration that a route takes. -/
def Route.asked (r : Route) : Outbox.Event := .declare r.routingKey r.exchange r.routingKey

/-- The answer to the declaration of a route. -/
def Route.answered (r : Route) (answer : Except BrokerError Unit) : Outbox.Event :=
  .declared r.routingKey r.exchange r.routingKey answer

/-- The route that a frame takes. -/
def Confirm.Frame.route (f : Frame) : Route := ⟨f.exchange, f.routingKey⟩

namespace Route

variable {r s : Route} {a b : Except BrokerError Unit} {frame : Frame}
  {number : Except BrokerError Nat}

@[simp] theorem asked_inj : r.asked = s.asked ↔ r = s := by
  constructor
  · intro same
    obtain ⟨exchange, key⟩ := r
    obtain ⟨exchange', key'⟩ := s
    cases same
    rfl
  · rintro rfl
    rfl

@[simp] theorem answered_inj : r.answered a = s.answered b ↔ r = s ∧ a = b := by
  constructor
  · intro same
    obtain ⟨exchange, key⟩ := r
    obtain ⟨exchange', key'⟩ := s
    cases same
    exact ⟨rfl, rfl⟩
  · rintro ⟨rfl, rfl⟩
    rfl

@[simp] theorem asked_ne_answered : r.asked ≠ s.answered a := nofun

@[simp] theorem answered_ne_asked : r.answered a ≠ s.asked := nofun

@[simp] theorem asked_ne_publish : r.asked ≠ .publish frame := nofun

@[simp] theorem publish_ne_asked : .publish frame ≠ r.asked := nofun

@[simp] theorem asked_ne_published : r.asked ≠ .published number := nofun

@[simp] theorem answered_ne_publish : r.answered a ≠ .publish frame := nofun

@[simp] theorem publish_ne_answered : .publish frame ≠ r.answered a := nofun

@[simp] theorem answered_ne_published : r.answered a ≠ .published number := nofun

end Route

@[simp] theorem Parcel.route_frame (parcel : Parcel) (trace : List (String × String)) :
    (parcel.frame trace).route = parcel.route := rfl

/-! ## One parcel -/

/-- How a parcel can go on where some routes are known: the stage it comes to, what is asked and
answered for it, and the routes that are known then. -/
inductive Post.Progress (known : List Route) (p : Post) :
    Post.Stage → List Outbox.Event → List Route → Prop where
  | stopped (arriving : p.stage = .arriving) (fired : p.cancelled = true) :
    Progress known p (.finished (.error .cancelled)) [] known
  | passed (arriving : p.stage = .arriving) (unfired : p.cancelled = false)
    (mem : p.parcel.route ∈ known) :
    Progress known p .publishing [.publish (p.parcel.frame p.trace)] known
  | asked (arriving : p.stage = .arriving) (unfired : p.cancelled = false)
    (unknown : p.parcel.route ∉ known) :
    Progress known p (.declaring none) [p.parcel.route.asked] known
  | answered (declaring : p.stage = .declaring none) (answer : Except BrokerError Unit) :
    Progress known p (.declaring (some answer)) [] known
  | abandoned {answer : Option (Except BrokerError Unit)} (declaring : p.stage = .declaring answer)
    (fired : p.cancelled = true) : Progress known p (.finished (.error .cancelled)) [] known
  | refused {e : BrokerError} (declaring : p.stage = .declaring (some (.error e)))
    (unfired : p.cancelled = false) :
    Progress known p (.finished (.error (.ofBroker e))) [p.parcel.route.answered (.error e)] known
  | cleared (declaring : p.stage = .declaring (some (.ok ()))) (unfired : p.cancelled = false) :
    Progress known p .publishing
      [p.parcel.route.answered (.ok ()), .publish (p.parcel.frame p.trace)]
      (if p.parcel.route ∈ known then known else known ++ [p.parcel.route])
  | concluded (publishing : p.stage = .publishing) (answer : Except BrokerError Nat) :
    Progress known p (.finished (answer.mapError .ofBroker)) [.published answer] known

/-- What has been asked and answered for a parcel that has come to a stage. -/
inductive Parcel.Story (parcel : Parcel) (trace : List (String × String)) :
    Post.Stage → List Outbox.Event → Prop where
  | arriving : Story parcel trace .arriving []
  | declaring (answer : Option (Except BrokerError Unit)) :
    Story parcel trace (.declaring answer) [parcel.route.asked]
  | publishing {before : List Outbox.Event}
    (declared : before = [] ∨ before = [parcel.route.asked, parcel.route.answered (.ok ())]) :
    Story parcel trace .publishing (before ++ [.publish (parcel.frame trace)])
  | stopped : Story parcel trace (.finished (.error .cancelled)) []
  | abandoned : Story parcel trace (.finished (.error .cancelled)) [parcel.route.asked]
  | refused (e : BrokerError) :
    Story parcel trace (.finished (.error (.ofBroker e)))
      [parcel.route.asked, parcel.route.answered (.error e)]
  | concluded {before : List Outbox.Event}
    (declared : before = [] ∨ before = [parcel.route.asked, parcel.route.answered (.ok ())])
    (answer : Except BrokerError Nat) :
    Story parcel trace (.finished (answer.mapError .ofBroker))
      (before ++ [.publish (parcel.frame trace), .published answer])

section OneParcel

variable {known known' : List Route} {p : Post} {stage : Post.Stage} {events : List Outbox.Event}
  {parcel : Parcel} {trace : List (String × String)}

/-- A story goes on as its parcel does. -/
theorem Parcel.Story.progress {told : List Outbox.Event}
    (h : p.parcel.Story p.trace p.stage told) (progress : p.Progress known stage events known') :
    p.parcel.Story p.trace stage (told ++ events) := by
  generalize before : p.stage = now at h
  cases progress with
  | stopped arriving =>
    cases arriving.symm.trans before
    cases h
    exact .stopped
  | passed arriving =>
    cases arriving.symm.trans before
    cases h
    exact .publishing (.inl rfl)
  | asked arriving =>
    cases arriving.symm.trans before
    cases h
    exact .declaring none
  | answered declaring answer =>
    cases declaring.symm.trans before
    cases h
    exact .declaring (some answer)
  | abandoned declaring =>
    cases declaring.symm.trans before
    cases h
    exact .abandoned
  | refused declaring =>
    cases declaring.symm.trans before
    cases h
    exact .refused _
  | cleared declaring =>
    cases declaring.symm.trans before
    cases h
    exact .publishing (.inr rfl)
  | concluded publishing answer =>
    cases publishing.symm.trans before
    cases h with
    | publishing declared =>
      rw [List.append_assoc]
      exact .concluded declared answer

/-- A refusal is all that was answered for a parcel, which has its result. -/
theorem Parcel.Story.of_refused {e : BrokerError} {r : Route} (h : parcel.Story trace stage events)
    (refused : r.answered (.error e) ∈ events) :
    (∃ result, stage = .finished result) ∧
      events = [parcel.route.asked, parcel.route.answered (.error e)] := by
  cases h with
  | arriving | declaring | stopped | abandoned => simp at refused
  | refused e' =>
    have same : r = parcel.route ∧ e = e' := by simpa using refused
    obtain ⟨rfl, rfl⟩ := same
    exact ⟨⟨_, rfl⟩, rfl⟩
  | publishing declared | concluded declared =>
    obtain rfl | rfl := declared <;> simp at refused

/-- A parcel that was declared for and got its result without an answer was cancelled. -/
theorem Parcel.Story.of_unanswered {r : Route} {result : Except MessagingError Nat}
    (h : parcel.Story trace (.finished result) events) (asked : r.asked ∈ events)
    (unanswered : ∀ answer, parcel.route.answered answer ∉ events) :
    events = [parcel.route.asked] := by
  generalize ended : Post.Stage.finished result = stage at h
  cases h with
  | arriving | declaring | publishing => cases ended
  | stopped => simp at asked
  | abandoned => rfl
  | refused e => exact (unanswered (.error e) (by simp)).elim
  | concluded declared answer =>
    obtain rfl | rfl := declared
    · simp at asked
    · exact (unanswered (.ok ()) (by simp)).elim

/-- A route becomes a known one by a declaration that succeeded. -/
theorem Post.Progress.mem_known (progress : p.Progress known stage events known') {r : Route} :
    r ∈ known' ↔ r ∈ known ∨ r.answered (.ok ()) ∈ events := by
  cases progress with
  | stopped | passed | asked | answered | abandoned | refused | concluded => simp
  | cleared =>
    split
    · next mem =>
      have already : r = p.parcel.route → r ∈ known := fun same => same ▸ mem
      simp
      exact already
    · simp

/-- A known route is not declared. -/
theorem Post.Progress.asked_not_mem (progress : p.Progress known stage events known') {r : Route}
    (mem : r ∈ known) : r.asked ∉ events := by
  cases progress with
  | stopped | passed | answered | abandoned | refused | cleared | concluded => simp
  | asked arriving unfired unknown =>
    rw [List.mem_singleton, Route.asked_inj]
    rintro rfl
    exact unknown mem

/-- What has ended does not go on. -/
theorem Post.Progress.unfinished (progress : p.Progress known stage events known')
    (result : Except MessagingError Nat) : p.stage ≠ .finished result := by
  intro ended
  cases progress <;> simp_all

/-- What is handed over goes by a route that was known, or was declared just before. -/
theorem Post.Progress.declared_before (progress : p.Progress known stage events known')
    {earlier later : List Outbox.Event} {frame : Frame}
    (split : events = earlier ++ .publish frame :: later) :
    frame.route ∈ known ∨ frame.route.answered (.ok ()) ∈ earlier := by
  have mem : .publish frame ∈ events := split ▸ List.mem_append_right _ List.mem_cons_self
  cases progress with
  | stopped | answered | abandoned | asked | refused | concluded => simp at mem
  | passed arriving unfired known =>
    cases List.mem_singleton.1 mem
    exact .inl known
  | cleared =>
    have same : frame = p.parcel.frame p.trace := by
      simp only [List.mem_cons, Outbox.Event.publish.injEq, Route.publish_ne_answered,
        List.not_mem_nil, false_or, or_false] at mem
      exact mem
    rw [same, Parcel.route_frame]
    right
    obtain ⟨_, first⟩ | ⟨rest, rfl, _⟩ := List.cons_eq_append_iff.1 split
    · exact absurd (List.cons.inj first).1 Route.publish_ne_answered
    · exact List.mem_cons_self

end OneParcel

/-! ## What a move changes -/

namespace Outbox

variable {o o' : Outbox} {i j : Nat} {p : Post}

/-- What has been asked and answered for a parcel. -/
def eventsOf (o : Outbox) (i : Nat) : List Event :=
  o.events.filterMap fun (j, event) => if j = i then some event else none

/-- Brings a parcel to a stage. -/
def bring (o : Outbox) (i : Nat) (stage : Post.Stage) (events : List Event)
    (declared : List Route) : Outbox :=
  { o.setStage i stage with declared, events := o.events ++ events.map (i, ·) }

/-- What can become of an outbox by one of its parcels. -/
inductive Moved (o : Outbox) (i : Nat) : Outbox → Prop where
  | idle : Moved o i o
  | brought {p : Post} {stage : Post.Stage} {events : List Event} {declared : List Route}
    (found : o.posts[i]? = some p) (progress : p.Progress o.declared stage events declared) :
    Moved o i (o.bring i stage events declared)

/-- What a move can make of an outbox. -/
inductive Change (o : Outbox) : Outbox → Prop where
  | posted (parcel : Parcel) (trace : List (String × String)) (cancelled : Bool) :
    Change o (o.post parcel trace cancelled)
  | told (i : Nat) : Change o (o.cancel i)
  | moved {i : Nat} {o' : Outbox} (went : o.Moved i o') : Change o o'

theorem advance_moved (o : Outbox) (i : Nat) : o.Moved i (o.advance i) := by
  unfold advance
  cases found : o.posts[i]? with
  | none => exact .idle
  | some p =>
    dsimp only
    cases stage : p.stage with
    | arriving =>
      dsimp only
      unfold Parcel.atStart
      cases token : p.cancelled with
      | true =>
        have stopped := Moved.brought found (.stopped stage token)
        rw [bring, List.map_nil, List.append_nil] at stopped
        exact stopped
      | false =>
        rw [if_neg Bool.false_ne_true]
        split
        · next mem => exact .brought found (.passed stage token mem)
        · next unknown => exact .brought found (.asked stage token unknown)
    | declaring answer =>
      dsimp only
      cases token : p.cancelled with
      | true =>
        have abandoned := Moved.brought found (.abandoned stage token)
        rw [bring, List.map_nil, List.append_nil] at abandoned
        exact abandoned
      | false =>
        rw [if_neg Bool.false_ne_true]
        match answer with
        | none => exact .idle
        | some (.error e) => exact .brought found (.refused stage token)
        | some (.ok ()) =>
          have cleared := Moved.brought found (.cleared stage token)
          have one_by_one (a b : Event) :
              o.events ++ [a, b].map (i, ·) = o.events ++ [(i, a)] ++ [(i, b)] := by simp
          rw [bring, one_by_one] at cleared
          exact cleared
    | publishing => exact .idle
    | finished result => exact .idle

theorem answer_moved (o : Outbox) (i : Nat) (a : Except BrokerError Unit) :
    o.Moved i (o.answer i a) := by
  unfold answer
  split
  · next parcel trace cancelled found =>
    have answered := Moved.brought found (.answered rfl a)
    rw [bring, List.map_nil, List.append_nil] at answered
    exact answered
  · exact .idle

theorem conclude_moved (o : Outbox) (i : Nat) (a : Except BrokerError Nat) :
    o.Moved i (o.conclude i a) := by
  unfold conclude
  split
  · next parcel trace cancelled found => exact .brought found (.concluded rfl a)
  · exact .idle

/-- Every move makes one of the changes. -/
theorem act_change (o : Outbox) (m : Move) : o.Change (o.act m) := by
  cases m with
  | post parcel trace cancelled => exact .posted parcel trace cancelled
  | cancel i => exact .told i
  | advance i => exact .moved (advance_moved o i)
  | declared i a => exact .moved (answer_moved o i a)
  | published i a => exact .moved (conclude_moved o i a)

/-! ## What a change leaves -/

theorem mem_eventsOf {event : Event} : event ∈ o.eventsOf i ↔ (i, event) ∈ o.events := by
  unfold eventsOf
  rw [List.mem_filterMap]
  constructor
  · rintro ⟨⟨j, event'⟩, mem, same⟩
    dsimp only at same
    split at same
    · next own =>
      cases own
      cases same
      exact mem
    · cases same
  · intro mem
    exact ⟨(i, event), mem, if_pos rfl⟩

theorem eventsOf_bring (o : Outbox) (i j : Nat) (stage : Post.Stage) (events : List Event)
    (declared : List Route) :
    (o.bring i stage events declared).eventsOf j =
      o.eventsOf j ++ if i = j then events else [] := by
  have own (events : List Event) :
      ((events.map fun event => (i, event)).filterMap fun (k, event) =>
        if k = j then some event else none) = if i = j then events else [] := by
    rw [List.filterMap_map]
    show (events.filterMap fun event => if i = j then some event else none) = _
    split
    · exact List.filterMap_some
    · exact List.filterMap_eq_nil_iff.2 fun _ _ => rfl
  unfold eventsOf bring
  dsimp only
  rw [List.filterMap_append, own]

theorem posts_bring (o : Outbox) (i j : Nat) (stage : Post.Stage) (events : List Event)
    (declared : List Route) :
    (o.bring i stage events declared).posts[j]? =
      if i = j then o.posts[j]?.map fun p => { p with stage } else o.posts[j]? := by
  show (o.posts.modify i _)[j]? = _
  rw [List.getElem?_modify]
  split
  · rfl
  · rw [Option.map_eq_map, Option.map_id_fun']
    rfl

theorem posts_cancel (o : Outbox) (i j : Nat) :
    (o.cancel i).posts[j]? =
      if i = j then o.posts[j]?.map fun p => { p with cancelled := true } else o.posts[j]? := by
  show (o.posts.modify i _)[j]? = _
  rw [List.getElem?_modify]
  split
  · rfl
  · rw [Option.map_eq_map, Option.map_id_fun']
    rfl

theorem posts_post (o : Outbox) (parcel : Parcel) (trace : List (String × String))
    (cancelled : Bool) (j : Nat) :
    (o.post parcel trace cancelled).posts[j]? =
      if j = o.posts.length then some ⟨parcel, trace, cancelled, .arriving⟩ else o.posts[j]? := by
  show (o.posts ++ [_])[j]? = _
  split
  · next last => rw [last, List.getElem?_concat_length]
  · next other =>
    obtain before | behind := Nat.lt_or_gt_of_ne other
    · rw [List.getElem?_append_left before]
    · rw [List.getElem?_eq_none (Nat.le_of_lt behind), List.getElem?_eq_none]
      simp
      omega

/-- A parcel stays as it is, or has gone on itself. -/
theorem Moved.post (went : o.Moved j o') (found : o.posts[i]? = some p) :
    o'.posts[i]? = some p ∧ o'.eventsOf i = o.eventsOf i ∨
      j = i ∧ ∃ stage events known, p.Progress o.declared stage events known ∧
        o'.posts[i]? = some { p with stage } ∧ o'.eventsOf i = o.eventsOf i ++ events := by
  cases went with
  | idle => exact .inl ⟨found, rfl⟩
  | brought found' progress =>
    rw [posts_bring, eventsOf_bring]
    split
    · next own =>
      subst own
      cases found.symm.trans found'
      exact .inr ⟨rfl, _, _, _, progress, congrArg _ found, rfl⟩
    · exact .inl ⟨found, List.append_nil _⟩

theorem result?_eq_some {result : Except MessagingError Nat} :
    o.result? i = some result ↔ ∃ p, o.posts[i]? = some p ∧ p.stage = .finished result := by
  unfold result?
  cases found : o.posts[i]? with
  | none => simp
  | some p => cases stage : p.stage <;> simp [stage]

/-- What holds of an outbox at any time: the known routes are those that were declared, what was
handed over has such a declaration before it, and every parcel has its story. -/
structure Orderly (o : Outbox) : Prop where
  marked : ∀ r, r ∈ o.declared ↔ ∃ i, (i, r.answered (.ok ())) ∈ o.events
  behind : ∀ i frame earlier later, o.events = earlier ++ (i, .publish frame) :: later →
    ∃ j, (j, frame.route.answered (.ok ())) ∈ earlier
  nobody : ∀ i, o.posts[i]? = none → o.eventsOf i = []
  story : ∀ i (p : Post), o.posts[i]? = some p → p.parcel.Story p.trace p.stage (o.eventsOf i)

theorem orderly_empty : empty.Orderly where
  marked r := by simp [empty]
  behind i frame earlier later split := by simp [empty] at split
  nobody i _ := rfl
  story i p found := by simp [empty] at found

namespace Orderly

/-- What a parcel goes on to is in order. -/
theorem bring {stage : Post.Stage} {events : List Event} {declared : List Route} (h : o.Orderly)
    (found : o.posts[i]? = some p) (progress : p.Progress o.declared stage events declared) :
    (o.bring i stage events declared).Orderly where
  marked r := by
    have mem : (∃ j, (j, r.answered (.ok ())) ∈ events.map (i, ·)) ↔ r.answered (.ok ()) ∈ events :=
      by simp
    show r ∈ declared ↔ ∃ j, (j, _) ∈ o.events ++ events.map (i, ·)
    rw [progress.mem_known, h.marked, ← mem, ← exists_or]
    simp only [List.mem_append]
  behind j frame earlier later split := by
    obtain ⟨rest, before⟩ | ⟨more, rfl, new⟩ := split_append split
    · exact h.behind j frame earlier rest before
    · obtain ⟨asked, others, rfl, rfl, rest⟩ := List.map_eq_append_iff.1 new
      obtain ⟨event, after, rfl, same, _⟩ := List.map_eq_cons_iff.1 rest
      cases same
      obtain known | cleared := progress.declared_before rfl
      · obtain ⟨k, mem⟩ := (h.marked _).1 known
        exact ⟨k, List.mem_append_left _ mem⟩
      · exact ⟨i, List.mem_append_right _ (List.mem_map_of_mem cleared)⟩
  nobody j missing := by
    rw [posts_bring] at missing
    rw [eventsOf_bring]
    split at missing
    · next same =>
      subst same
      rw [found] at missing
      cases missing
    · next other => rw [if_neg other, List.append_nil, h.nobody j missing]
  story j q found' := by
    rw [posts_bring] at found'
    rw [eventsOf_bring]
    split at found'
    · next same =>
      subst same
      rw [found] at found'
      cases found'
      rw [if_pos rfl]
      exact (h.story i p found).progress progress
    · next other =>
      rw [if_neg other, List.append_nil]
      exact h.story j q found'

/-- A parcel that is handed in has no story yet. -/
theorem post (h : o.Orderly) (parcel : Parcel) (trace : List (String × String)) (cancelled : Bool) :
    (o.post parcel trace cancelled).Orderly where
  marked := h.marked
  behind := h.behind
  nobody j missing := by
    rw [posts_post] at missing
    split at missing
    · cases missing
    · exact h.nobody j missing
  story j q found := by
    rw [posts_post] at found
    split at found
    · next last =>
      cases found
      have silent : o.eventsOf j = [] := h.nobody j (List.getElem?_eq_none (Nat.le_of_eq last.symm))
      show Parcel.Story _ _ _ (o.eventsOf j)
      rw [silent]
      exact .arriving
    · exact h.story j q found

/-- A token tells no story. -/
theorem cancel (h : o.Orderly) (i : Nat) : (o.cancel i).Orderly where
  marked := h.marked
  behind := h.behind
  nobody j missing := by
    rw [posts_cancel] at missing
    apply h.nobody j
    split at missing
    · exact Option.map_eq_none_iff.1 missing
    · exact missing
  story j q found := by
    rw [posts_cancel] at found
    split at found
    · obtain ⟨p, before, rfl⟩ := Option.map_eq_some_iff.1 found
      exact h.story j p before
    · exact h.story j q found

theorem change (h : o.Orderly) (c : o.Change o') : o'.Orderly := by
  cases c with
  | posted parcel trace cancelled => exact h.post parcel trace cancelled
  | told i => exact h.cancel i
  | moved went =>
    cases went with
    | idle => exact h
    | brought found progress => exact h.bring found progress

theorem run (h : o.Orderly) (moves : List Move) : (moves.foldl act o).Orderly := by
  induction moves generalizing o with
  | nil => exact h
  | cons m moves ih => exact ih (h.change (act_change o m))

end Orderly

theorem orderly_after (moves : List Move) : (after moves).Orderly := orderly_empty.run moves

/-- An outbox later on: known routes stay known and are not declared again, and what has ended for a
parcel is not taken up again. -/
structure Grows (o o' : Outbox) : Prop where
  declared : ∀ r ∈ o.declared, r ∈ o'.declared
  events : ∃ new, o'.events = o.events ++ new ∧ ∀ r ∈ o.declared, ∀ j, (j, r.asked) ∉ new
  ended : ∀ i result, o.result? i = some result →
    o'.result? i = some result ∧ o'.eventsOf i = o.eventsOf i

namespace Grows

theorem refl (o : Outbox) : o.Grows o where
  declared _ mem := mem
  events := ⟨[], (List.append_nil _).symm, fun _ _ _ => List.not_mem_nil⟩
  ended _ _ ended := ⟨ended, rfl⟩

theorem trans {o'' : Outbox} (h : o.Grows o') (h' : o'.Grows o'') : o.Grows o'' where
  declared r mem := h'.declared r (h.declared r mem)
  events := by
    obtain ⟨new, same, unasked⟩ := h.events
    obtain ⟨more, same', unasked'⟩ := h'.events
    refine ⟨new ++ more, ?_, ?_⟩
    · rw [same', same, List.append_assoc]
    · intro r mem j asked
      obtain asked | asked := List.mem_append.1 asked
      · exact unasked r mem j asked
      · exact unasked' r (h.declared r mem) j asked
  ended i result ended := by
    obtain ⟨ended, events⟩ := h.ended i result ended
    obtain ⟨ended, events'⟩ := h'.ended i result ended
    exact ⟨ended, events'.trans events⟩

/-- Where neither routes nor events change, the results have to stay. -/
theorem of_silent (declared : o'.declared = o.declared) (events : o'.events = o.events)
    (ended : ∀ i result, o.result? i = some result → o'.result? i = some result) :
    o.Grows o' where
  declared r mem := declared.symm ▸ mem
  events := ⟨[], by rw [events, List.append_nil], fun _ _ _ => List.not_mem_nil⟩
  ended i result known := ⟨ended i result known, by unfold eventsOf; rw [events]⟩

theorem bring {stage : Post.Stage} {events : List Event} {declared : List Route}
    (found : o.posts[i]? = some p) (progress : p.Progress o.declared stage events declared) :
    o.Grows (o.bring i stage events declared) where
  declared r mem := progress.mem_known.2 (.inl mem)
  events := by
    refine ⟨events.map (i, ·), rfl, ?_⟩
    intro r mem j asked
    obtain ⟨event, mem', same⟩ := List.mem_map.1 asked
    cases same
    exact progress.asked_not_mem mem mem'
  ended j result ended := by
    obtain ⟨q, found', stage⟩ := result?_eq_some.1 ended
    have other : i ≠ j := by
      rintro rfl
      rw [found] at found'
      cases found'
      exact progress.unfinished result stage
    rw [result?_eq_some, posts_bring, eventsOf_bring, if_neg other, if_neg other, List.append_nil]
    exact ⟨⟨q, found', stage⟩, rfl⟩

theorem change (c : o.Change o') : o.Grows o' := by
  cases c with
  | posted parcel trace cancelled =>
    refine of_silent rfl rfl ?_
    intro i result ended
    obtain ⟨p, found, stage⟩ := result?_eq_some.1 ended
    obtain ⟨bound, _⟩ := List.getElem?_eq_some_iff.1 found
    rw [result?_eq_some, posts_post, if_neg (Nat.ne_of_lt bound)]
    exact ⟨p, found, stage⟩
  | told i =>
    refine of_silent rfl rfl ?_
    intro j result ended
    obtain ⟨p, found, stage⟩ := result?_eq_some.1 ended
    rw [result?_eq_some, posts_cancel, found]
    split
    · exact ⟨_, rfl, stage⟩
    · exact ⟨p, rfl, stage⟩
  | moved went =>
    cases went with
    | idle => exact refl o
    | brought found progress => exact bring found progress

theorem run (o : Outbox) (moves : List Move) : o.Grows (moves.foldl act o) := by
  induction moves generalizing o with
  | nil => exact refl o
  | cons m moves ih => exact (change (act_change o m)).trans (ih (o.act m))

end Grows

/-- The declaration of a route for a parcel was refused, or given up before it was answered. -/
def Failed (o : Outbox) (i : Nat) (r : Route) : Prop :=
  (∃ e, (i, r.answered (.error e)) ∈ o.events) ∨
    ((i, r.asked) ∈ o.events ∧ (∀ (s : Route) a, (i, s.answered a) ∉ o.events) ∧
      ∃ result, o.result? i = some result)

/-- A parcel whose declaration failed has ended, neither handed over nor cleared. -/
theorem Orderly.of_failed {r : Route} (h : o.Orderly) (failed : o.Failed i r) :
    (∃ result, o.result? i = some result) ∧ (∀ frame, .publish frame ∉ o.eventsOf i) ∧
      ∀ s : Route, s.answered (.ok ()) ∉ o.eventsOf i := by
  have story {event : Event} (mem : (i, event) ∈ o.events) :
      ∃ p, o.posts[i]? = some p ∧ p.parcel.Story p.trace p.stage (o.eventsOf i) := by
    cases found : o.posts[i]? with
    | none =>
      have told := mem_eventsOf.2 mem
      rw [h.nobody i found] at told
      cases told
    | some p => exact ⟨p, rfl, h.story i p found⟩
  obtain ⟨e, refused⟩ | ⟨asked, unanswered, result, ended⟩ := failed
  · obtain ⟨p, found, told⟩ := story refused
    obtain ⟨⟨result, stage⟩, events⟩ := told.of_refused (mem_eventsOf.2 refused)
    refine ⟨⟨result, result?_eq_some.2 ⟨p, found, stage⟩⟩, ?_⟩
    rw [events]
    simp
  · obtain ⟨p, found, told⟩ := story asked
    obtain ⟨q, found', stage⟩ := result?_eq_some.1 ended
    cases found.symm.trans found'
    rw [stage] at told
    have events := told.of_unanswered (mem_eventsOf.2 asked) fun a mem =>
      unanswered _ a (mem_eventsOf.1 mem)
    refine ⟨⟨result, ended⟩, ?_⟩
    rw [events]
    simp

/-- The parcels of one publisher, in any order of their steps and whatever is answered. A frame is
handed over behind a declaration of its route that succeeded. The known routes are those with such a
declaration; they stay known, and are not declared again. A parcel whose declaration failed is never
handed over and makes no route a known one, so that the next parcel by its route declares it unless
another one has. -/
theorem declared_before_published (moves more : List Move) :
    let o := after moves
    let o' := after (moves ++ more)
    (∀ i frame earlier later, o.events = earlier ++ (i, .publish frame) :: later →
      ∃ j, (j, frame.route.answered (.ok ())) ∈ earlier) ∧
    (∀ r, r ∈ o.declared ↔ ∃ i, (i, r.answered (.ok ())) ∈ o.events) ∧
    (∀ r ∈ o.declared, r ∈ o'.declared) ∧
    (∃ new, o'.events = o.events ++ new ∧ ∀ r ∈ o.declared, ∀ i, (i, r.asked) ∉ new) ∧
    (∀ i r, o.Failed i r →
      (∀ frame, (i, .publish frame) ∉ o'.events) ∧
        ∀ s ∈ o'.declared, ∃ j ≠ i, (j, s.answered (.ok ())) ∈ o'.events) ∧
    ∀ i (p : Post), o.posts[i]? = some p → p.stage = .arriving → p.cancelled = false →
      p.parcel.route ∉ o.declared →
      (o.advance i).events = o.events ++ [(i, p.parcel.route.asked)] := by
  intro o o'
  have orderly : o.Orderly := orderly_after moves
  have orderly' : o'.Orderly := orderly_after (moves ++ more)
  have grows : o.Grows o' := by
    show (after moves).Grows ((moves ++ more).foldl act empty)
    rw [List.foldl_append]
    exact Grows.run _ more
  refine ⟨orderly.behind, orderly.marked, grows.declared, grows.events, ?_, ?_⟩
  · intro i r failed
    obtain ⟨⟨result, ended⟩, unpublished, uncleared⟩ := orderly.of_failed failed
    obtain ⟨_, events⟩ := grows.ended i result ended
    rw [← events] at unpublished uncleared
    refine ⟨fun frame mem => unpublished frame (mem_eventsOf.2 mem), fun s known => ?_⟩
    obtain ⟨j, cleared⟩ := (orderly'.marked s).1 known
    refine ⟨j, ?_, cleared⟩
    rintro rfl
    exact uncleared s (mem_eventsOf.2 cleared)
  · intro i p found arriving unfired unknown
    simp [advance, found, arriving, Parcel.atStart, unfired, unknown, proceed, note, setStage,
      Route.asked]

end Outbox

/-! ## A parcel by itself -/

section AtStart

variable {parcel : Parcel} {cancelled : Bool} {declared : List Route} {e : MessagingError}

theorem Parcel.cancelled_of_stop (stopped : parcel.atStart cancelled declared = .stop e) :
    cancelled = true := by
  cases cancelled with
  | true => rfl
  | false =>
    unfold atStart at stopped
    split at stopped
    · next fired => cases fired
    · split at stopped <;> cases stopped

theorem Parcel.known_of_publish (passed : parcel.atStart cancelled declared = .publish) :
    cancelled = false ∧ parcel.route ∈ declared := by
  unfold atStart at passed
  split at passed
  · cases passed
  · next unfired =>
    split at passed
    · next known => exact ⟨Bool.eq_false_iff.2 unfired, known⟩
    · cases passed

theorem Parcel.unknown_of_declare (asked : parcel.atStart cancelled declared = .declare) :
    cancelled = false ∧ parcel.route ∉ declared := by
  unfold atStart at asked
  split at asked
  · cases asked
  · next unfired =>
    split at asked
    · cases asked
    · next unknown => exact ⟨Bool.eq_false_iff.2 unfired, unknown⟩

end AtStart

/-- What a call of a broker is to an outbox: a question, and the answer if there was one. -/
def Broker.Call.events : Broker.Call → List Outbox.Event
  | .declared queue exchange routingKey none => [.declare queue exchange routingKey]
  | .declared queue exchange routingKey (some answer) =>
    [.declare queue exchange routingKey, .declared queue exchange routingKey answer]
  | .published frame answer => [.publish frame, .published answer]

/-- A publisher that knows some routes and has one parcel to publish. -/
def Parcel.alone (parcel : Parcel) (trace : List (String × String)) (cancelled : Bool)
    (declared : List Route) : Outbox := ⟨declared, [⟨parcel, trace, cancelled, .arriving⟩], []⟩

namespace Publication

variable {σ : Type} {p : Publication (σ × List Broker.Call)}

/-- A step that published a parcel as it went in an outbox, its first one, where some calls had been
made before. -/
structure Alike (o : Outbox) (before calls : List Broker.Call) (result : Except MessagingError Nat)
    (ran : Except MessagingError Unit × Publication (σ × List Broker.Call)) : Prop where
  ended : o.result? 0 = some result
  result : ran.1 = result.map fun _ => ()
  declared : ran.2.declared = o.declared
  noted : ran.2.around.world.2 = before ++ calls
  events : o.eventsOf 0 = calls.flatMap Broker.Call.events

theorem declared_send (broker : Broker σ) (trace : List (String × String)) (parcel : Parcel)
    (p : Publication (σ × List Broker.Call)) :
    ((send broker.watched trace parcel).run p).2.declared = p.declared := by
  obtain ⟨answer, s, asked, _⟩ := broker.publish_watched (parcel.frame trace) p.around
  unfold send
  rw [work_bind, asked]
  cases answer <;> rfl

theorem declareAndSend_alone (broker : Broker σ) (trace : List (String × String)) (parcel : Parcel)
    (unknown : parcel.route ∉ p.declared) :
    ∃ (moves : List Outbox.Move) (calls : List Broker.Call) (result : Except MessagingError Nat),
      Alike (moves.foldl Outbox.act ((parcel.alone trace false p.declared).advance 0))
        p.around.world.2 calls result ((declareAndSend broker.watched trace parcel).run p) := by
  have start : (parcel.alone trace false p.declared).advance 0 =
      ⟨p.declared, [⟨parcel, trace, false, .declaring none⟩], [(0, parcel.route.asked)]⟩ := by
    simp [Parcel.alone, Outbox.advance, Parcel.atStart, unknown, Outbox.proceed, Outbox.note,
      Outbox.setStage, Route.asked]
  rw [start]
  obtain ⟨answer, s, asked, calls⟩ :=
    broker.declare_watched parcel.route.routingKey parcel.route.exchange parcel.route.routingKey
      p.around
  unfold declareAndSend
  rw [work_bind, asked, get_bind]
  dsimp only
  rw [modify_bind]
  match answer with
  | none =>
    exact ⟨[.cancel 0, .advance 0], _, _, rfl, rfl, rfl, calls, rfl⟩
  | some (.error e) =>
    exact ⟨[.declared 0 (.error e), .advance 0], _, _, rfl, rfl, rfl, calls, rfl⟩
  | some (.ok ()) =>
    obtain ⟨answer, sent⟩ := send_asked broker trace parcel
      { p with
        around := s
        declared := (parcel.atDeclared p.declared (some (.ok ()))).2 }
    refine ⟨[.declared 0 (.ok ()), .advance 0, .published 0 answer],
      [parcel.declaration (some (.ok ())), .published (parcel.frame trace) answer], _, rfl,
      sent.result, declared_send broker trace parcel _, ?_, rfl⟩
    have noted := sent.calls.trans (congrArg (· ++ _) calls)
    rw [List.append_assoc] at noted
    exact noted

/-- The end of publishing is what an outbox makes of the message's parcel if it has no other one. -/
theorem terminal_alone (broker : Broker σ) (routing : String → Route)
    (trace : List (String × String)) {c : MessageContext} (current : p.flow.current = some c) :
    ∃ (moves : List Outbox.Move) (calls : List Broker.Call) (result : Except MessagingError Nat),
      Alike
        (moves.foldl Outbox.act
          (Parcel.alone ⟨routing p.message.contract.name, .around p.message c p.supply⟩ trace
            p.around.cancelled p.declared))
        p.around.world.2 calls result ((terminal broker.watched routing trace).run p) := by
  unfold terminal
  rw [bind_ok (parcel_run routing current)]
  generalize (⟨routing p.message.contract.name, .around p.message c p.supply⟩ : Parcel) = parcel
  rw [work_bind, get_bind]
  split
  · next stopped =>
    have fired : p.around.cancelled = true := Parcel.cancelled_of_stop stopped
    rw [Parcel.atStart_stop stopped, fired]
    exact ⟨[.advance 0], [], _, rfl, rfl, rfl, (List.append_nil _).symm, rfl⟩
  · next passed =>
    obtain ⟨token, known⟩ := Parcel.known_of_publish passed
    have unfired : p.around.cancelled = false := token
    have start : (parcel.alone trace false p.declared).advance 0 =
        ⟨p.declared, [⟨parcel, trace, false, .publishing⟩], [(0, .publish (parcel.frame trace))]⟩ := by
      simp [Parcel.alone, Outbox.advance, Parcel.atStart, known, Outbox.proceed, Outbox.note,
        Outbox.setStage]
    obtain ⟨answer, sent⟩ := send_asked broker trace parcel
      { p with supply := p.supply.drawId.2.readClock.2 }
    refine ⟨[.advance 0, .published 0 answer], [.published (parcel.frame trace) answer],
      answer.mapError .ofBroker, ?_⟩
    rw [unfired, List.foldl_cons, Outbox.act, start]
    exact ⟨rfl, sent.result, declared_send broker trace parcel _, sent.calls, rfl⟩
  · next asked =>
    obtain ⟨token, unknown⟩ := Parcel.unknown_of_declare asked
    have unfired : p.around.cancelled = false := token
    obtain ⟨moves, calls, result, alike⟩ := declareAndSend_alone broker trace parcel unknown
    refine ⟨.advance 0 :: moves, calls, result, ?_⟩
    rw [unfired]
    exact alike

end Publication

end Courier
