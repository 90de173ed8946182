import Courier.Proofs.Confirm.Harbour
import Courier.Proofs.Publication.Outbox
import Courier.Publication.Office

/-!
# Parcels over lanes

What a move makes of each parcel (`Office.act_fate`), and of where the broker has it
(`Office.act_way`). The parcels go on as in an outbox, the lanes as in a harbour, and a parcel on a
lane is the publish of its own frame there (`Office.orderly_after`).
-/

namespace Courier
set_option autoImplicit false
open Confirm

namespace Outbox

variable {o : Outbox} {i : Nat} {p : Post}

theorem advance_of_handed (found : o.posts[i]? = some p)
    (handed : p.stage = .publishing ∨ ∃ result, p.stage = .finished result) : o.advance i = o := by
  unfold advance
  rw [found]
  dsimp only
  obtain publishing | ⟨result, ended⟩ := handed
  · rw [publishing]
  · rw [ended]

theorem answer_of_publishing (found : o.posts[i]? = some p) (publishing : p.stage = .publishing)
    (a : Except BrokerError Unit) : o.answer i a = o := by
  obtain ⟨parcel, trace, cancelled, stage⟩ := p
  cases publishing
  unfold answer
  rw [found]

theorem conclude_of_publishing (found : o.posts[i]? = some p) (publishing : p.stage = .publishing)
    (a : Except BrokerError Nat) :
    o.conclude i a = o.bring i (.finished (a.mapError .ofBroker)) [.published a] o.declared := by
  obtain ⟨parcel, trace, cancelled, stage⟩ := p
  cases publishing
  unfold conclude
  rw [found]
  rfl

end Outbox

namespace Office

variable {o : Office} {i j k c n : Nat} {p : Post} {m : Move} {answer : Except BrokerError Nat}

/-! ## What the broker answers -/

theorem inHand?_of_publishing (found : o.outbox.posts[i]? = some p)
    (publishing : p.stage = .publishing) : o.inHand? i = some p := by
  simp [inHand?, found, publishing]

theorem of_inHand? (hand : o.inHand? i = some p) :
    o.outbox.posts[i]? = some p ∧ p.stage = .publishing := by
  obtain ⟨q, found, hand⟩ := Option.bind_eq_some_iff.1 hand
  cases stage : q.stage with
  | publishing =>
    rw [stage] at hand
    cases hand
    exact ⟨found, stage⟩
  | arriving | declaring | finished =>
    rw [stage] at hand
    cases hand

theorem of_reply? (reply : o.reply? i = some answer) :
    ∃ p, o.outbox.posts[i]? = some p ∧ p.stage = .publishing := by
  obtain ⟨p, hand, _⟩ := Option.bind_eq_some_iff.1 reply
  exact ⟨p, of_inHand? hand⟩

theorem errand_boarding (hand : o.inHand? i = some p) (unfired : p.cancelled = false)
    (awaiting : o.passages i = .awaitingChannel (some (.ok k))) :
    o.errand (.advance i) = [.move k (.call (p.parcel.frame p.trace) false)] := by
  unfold errand
  dsimp only
  rw [hand, awaiting]
  exact if_neg (Bool.eq_false_iff.1 unfired)

theorem passages_boarding (hand : o.inHand? i = some p) (unfired : p.cancelled = false)
    (awaiting : o.passages i = .awaitingChannel (some (.ok k))) {d : Desk}
    (found : o.harbour.desk? k = some d) :
    (o.act (.advance i)).passages i = .onLane k d.lane.calls.length := by
  show o.passagesAfter (.advance i) i = _
  unfold passagesAfter
  dsimp only
  rw [hand, awaiting]
  dsimp only
  rw [found]
  dsimp only
  rw [if_neg (Bool.eq_false_iff.1 unfired), Function.update_self]

theorem errand_onLane (hand : o.inHand? i = some p) (passage : o.passages i = .onLane k c) :
    o.errand (.advance i) = [.move k (.advance c)] := by
  unfold errand
  dsimp only
  rw [hand, passage]

theorem reply?_onLane (hand : o.inHand? i = some p) (passage : o.passages i = .onLane k c) :
    o.reply? i = ((o.harbour.act (.move k (.advance c))).desk? k).bind (·.result? c) := by
  unfold reply? harbourAfter errand
  dsimp only
  rw [hand, passage]
  rfl

theorem reply?_of_fired (hand : o.inHand? i = some p) (fired : p.cancelled = true)
    {channel : Option (Except BrokerError Nat)} (passage : o.passages i = .awaitingChannel channel) :
    o.reply? i = some (.error .cancelled) := by
  unfold reply?
  rw [hand, passage]
  exact if_pos fired

/-! ## One move -/

/-- What a move can make of a parcel, and what is noted of it. -/
inductive Fate (o : Office) (i : Nat) (m : Move) (p : Post) : Post → List Outbox.Event → Prop where
  | kept : Fate o i m p p []
  | told : Fate o i m p { p with cancelled := true } []
  | brought {stage : Post.Stage} {events : List Outbox.Event} {known : List Route}
    (before : p.stage ≠ .publishing) (progress : p.Progress o.outbox.declared stage events known) :
    Fate o i m p { p with stage } events
  | concluded {answer : Except BrokerError Nat} (publishing : p.stage = .publishing)
    (own : m = .advance i) (reply : o.reply? i = some answer) :
    Fate o i m p { p with stage := .finished (answer.mapError .ofBroker) } [.published answer]

/-- Every move makes one of these of a parcel. -/
theorem act_fate (found : o.outbox.posts[i]? = some p) (m : Move) :
    ∃ q events, o.Fate i m p q events ∧ (o.act m).outbox.posts[i]? = some q ∧
      (o.act m).outbox.eventsOf i = o.outbox.eventsOf i ++ events := by
  have kept {o' : Outbox} (posts : o'.posts[i]? = some p)
      (events : o'.eventsOf i = o.outbox.eventsOf i) :
      ∃ q events, o.Fate i m p q events ∧ o'.posts[i]? = some q ∧
        o'.eventsOf i = o.outbox.eventsOf i ++ events :=
    ⟨p, [], .kept, posts, events.trans (List.append_nil _).symm⟩
  have moved {j : Nat} {o' : Outbox} (went : o.outbox.Moved j o')
      (idle : j = i → p.stage = .publishing → o' = o.outbox) :
      ∃ q events, o.Fate i m p q events ∧ o'.posts[i]? = some q ∧
        o'.eventsOf i = o.outbox.eventsOf i ++ events := by
    obtain ⟨posts, events⟩ | ⟨own, stage, events, known, progress, posts, noted⟩ := went.post found
    · exact kept posts events
    · by_cases publishing : p.stage = .publishing
      · rw [idle own publishing]
        exact kept found rfl
      · exact ⟨_, events, .brought publishing progress, posts, noted⟩
  cases m with
  | post parcel trace cancelled =>
    apply kept
    · obtain ⟨bound, _⟩ := List.getElem?_eq_some_iff.1 found
      show (o.outbox.post parcel trace cancelled).posts[i]? = some p
      rw [Outbox.posts_post, if_neg (Nat.ne_of_lt bound), found]
    · rfl
  | cancel j =>
    have posts := Outbox.posts_cancel o.outbox j i
    rw [found] at posts
    by_cases own : j = i
    · rw [if_pos own] at posts
      exact ⟨_, [], .told, posts, (List.append_nil _).symm⟩
    · rw [if_neg own] at posts
      exact kept posts rfl
  | declared j a =>
    apply moved (Outbox.answer_moved o.outbox j a)
    rintro rfl publishing
    exact Outbox.answer_of_publishing found publishing a
  | channel j a => exact kept found rfl
  | outside s => exact kept found rfl
  | advance j =>
    show ∃ q events, _ ∧ (o.outboxAfter (.advance j)).posts[i]? = some q ∧
      (o.outboxAfter (.advance j)).eventsOf i = _
    unfold outboxAfter
    dsimp only
    cases reply : o.reply? j with
    | none =>
      apply moved (Outbox.advance_moved o.outbox j)
      rintro rfl publishing
      exact Outbox.advance_of_handed found (.inl publishing)
    | some answer =>
      dsimp only
      by_cases own : j = i
      · subst own
        obtain ⟨q, found', publishing⟩ := of_reply? reply
        cases found.symm.trans found'
        refine ⟨_, _, .concluded publishing rfl reply, ?_, ?_⟩
        · rw [Outbox.conclude_of_publishing found publishing, Outbox.posts_bring, if_pos rfl, found]
          rfl
        · rw [Outbox.conclude_of_publishing found publishing, Outbox.eventsOf_bring, if_pos rfl]
      · apply moved (Outbox.conclude_moved o.outbox j answer)
        intro same
        exact absurd same own

/-- Where a move can leave a parcel that the broker has. -/
inductive Way (o : Office) (i : Nat) (m : Move) : Passage → Prop where
  | stayed : Way o i m (o.passages i)
  | answered {answer : Except BrokerError Nat} (own : m = .channel i answer)
    (awaiting : o.passages i = .awaitingChannel none) :
    Way o i m (.awaitingChannel (some answer))
  | boarded {k : Nat} {p : Post} {d : Desk} (own : m = .advance i) (hand : o.inHand? i = some p)
    (unfired : p.cancelled = false) (awaiting : o.passages i = .awaitingChannel (some (.ok k)))
    (found : o.harbour.desk? k = some d) : Way o i m (.onLane k d.lane.calls.length)

/-- Every move leaves a parcel at one of these. -/
theorem act_way (o : Office) (i : Nat) (m : Move) : o.Way i m ((o.act m).passages i) := by
  show o.Way i m (o.passagesAfter m i)
  generalize same : o.passagesAfter m = passages
  unfold passagesAfter at same
  cases m with
  | post | cancel | declared | outside =>
    subst same
    exact .stayed
  | channel j answer =>
    dsimp only at same
    split at same
    · next awaiting =>
      subst same
      by_cases own : i = j
      · subst own
        rw [Function.update_self]
        exact .answered rfl awaiting
      · rw [Function.update_of_ne own]
        exact .stayed
    · subst same
      exact .stayed
  | advance j =>
    dsimp only at same
    split at same
    · next p k hand awaiting =>
      split at same
      · next d found =>
        split at same
        · subst same
          exact .stayed
        · next unfired =>
          subst same
          by_cases own : i = j
          · subst own
            rw [Function.update_self]
            exact .boarded rfl hand (Bool.eq_false_iff.2 unfired) awaiting found
          · rw [Function.update_of_ne own]
            exact .stayed
      · subst same
        exact .stayed
    · subst same
      exact .stayed

theorem onLane_act (there : o.passages i = .onLane k c) (m : Move) :
    (o.act m).passages i = .onLane k c := by
  have way := act_way o i m
  generalize (o.act m).passages i = passage at way
  cases way with
  | stayed => exact there
  | answered own awaiting =>
    rw [there] at awaiting
    cases awaiting
  | boarded own hand unfired awaiting =>
    rw [there] at awaiting
    cases awaiting

theorem harbour_cancel (there : o.passages i = .onLane k c) :
    (o.act (.cancel i)).harbour = o.harbour.act (.move k (.cancel c)) := by
  show (o.errand (.cancel i)).foldl Harbour.act o.harbour = _
  unfold errand
  dsimp only
  rw [there]
  rfl

theorem outbox_act (o : Office) (m : Move) : o.outbox.Change (o.act m).outbox := by
  cases m with
  | post parcel trace cancelled => exact .posted parcel trace cancelled
  | cancel i => exact .told i
  | declared i a => exact .moved (Outbox.answer_moved _ i a)
  | channel i a => exact .moved (.idle (i := i))
  | outside s => exact .moved (.idle (i := 0))
  | advance i =>
    show o.outbox.Change (o.outboxAfter (.advance i))
    unfold outboxAfter
    dsimp only
    cases o.reply? i with
    | none => exact .moved (Outbox.advance_moved _ i)
    | some answer => exact .moved (Outbox.conclude_moved _ i answer)

/-- What the broker answers is the parcel's result. -/
theorem result?_of_reply (found : o.outbox.posts[i]? = some p) (publishing : p.stage = .publishing)
    (reply : o.reply? i = some answer) :
    (o.act (.advance i)).outbox.result? i = some (answer.mapError .ofBroker) := by
  show (o.outboxAfter (.advance i)).result? i = _
  unfold outboxAfter
  dsimp only
  rw [reply]
  dsimp only
  rw [Outbox.conclude_of_publishing found publishing, Outbox.result?_eq_some, Outbox.posts_bring,
    if_pos rfl, found]
  exact ⟨_, rfl, rfl⟩

/-- A result stays. -/
theorem result?_act {result : Except MessagingError Nat}
    (ended : o.outbox.result? i = some result) (m : Move) :
    (o.act m).outbox.result? i = some result :=
  ((Outbox.Grows.change (outbox_act o m)).ended i result ended).1

/-! ## A run -/

/-- What a run does to the lanes. -/
theorem harbour_run (o : Office) (moves : List Move) :
    (moves.foldl act o).harbour =
      (o.course (fun _ => false) moves).foldl Harbour.act o.harbour := by
  induction moves generalizing o with
  | nil => rfl
  | cons m moves ih =>
    show _ = (o.errand m ++ (o.act m).course _ moves).foldl Harbour.act o.harbour
    rw [List.foldl_append, List.foldl_cons, ih]
    rfl

theorem harbour_after (moves : List Move) :
    (after moves).harbour = .after (empty.course (fun _ => false) moves) := harbour_run empty moves

/-- What holds of an office at any time. -/
structure Orderly (o : Office) : Prop where
  outbox : o.outbox.Orderly
  harbour : o.harbour.Sound
  /-- A parcel on a lane was handed over, and is the publish of its frame there. -/
  lane : ∀ i k c, o.passages i = .onLane k c → ∃ p, o.outbox.posts[i]? = some p ∧
    (p.stage = .publishing ∨ ∃ result, p.stage = .finished result) ∧
    o.harbour.On k fun d => d.frames[c]? = some (p.parcel.frame p.trace)

/-- Handed over, a parcel remains so, and the same one. -/
theorem handed_act (found : o.outbox.posts[i]? = some p)
    (handed : p.stage = .publishing ∨ ∃ result, p.stage = .finished result) (m : Move) :
    ∃ q, (o.act m).outbox.posts[i]? = some q ∧ q.parcel = p.parcel ∧ q.trace = p.trace ∧
      (q.stage = .publishing ∨ ∃ result, q.stage = .finished result) := by
  obtain ⟨q, events, fate, found', _⟩ := act_fate found m
  refine ⟨q, found', ?_⟩
  cases fate with
  | kept => exact ⟨rfl, rfl, handed⟩
  | told => exact ⟨rfl, rfl, handed⟩
  | brought before progress =>
    obtain publishing | ⟨result, ended⟩ := handed
    · exact absurd publishing before
    · exact absurd ended (progress.unfinished result)
  | concluded => exact ⟨rfl, rfl, .inr ⟨_, rfl⟩⟩

namespace Orderly

theorem act (h : o.Orderly) (m : Move) : (o.act m).Orderly where
  outbox := h.outbox.change (outbox_act o m)
  harbour := h.harbour.run (o.errand m)
  lane i k c there := by
    have way := act_way o i m
    generalize (o.act m).passages i = passage at way there
    cases way with
    | answered => cases there
    | stayed =>
      obtain ⟨p, found, handed, on⟩ := h.lane i k c there
      obtain ⟨q, found', parcel, trace, handed⟩ := handed_act found handed m
      refine ⟨q, found', handed, ?_⟩
      rw [parcel, trace]
      exact on.run (fun _ m frame => Desk.frames_act frame m) (fun _ _ _ frame => frame) (o.errand m)
    | @boarded k p d own hand unfired awaiting found =>
      subst own
      cases there
      obtain ⟨known, publishing⟩ := of_inHand? hand
      obtain ⟨q, found', parcel, trace, handed⟩ := handed_act known (.inl publishing) (.advance i)
      refine ⟨q, found', handed, d.call (p.parcel.frame p.trace) false, ?_, ?_⟩
      · show ((o.errand (.advance i)).foldl Harbour.act o.harbour).desk? k = _
        rw [errand_boarding hand unfired awaiting]
        show (o.harbour.act (.move k _)).desk? k = _
        rw [Harbour.act_move found]
        exact Harbour.desk?_put_self found _
      · have more : (d.call (p.parcel.frame p.trace) false).frames =
            d.frames ++ [p.parcel.frame p.trace] := List.map_append
        have last : d.lane.calls.length = d.frames.length := (List.length_map _).symm
        dsimp only
        rw [more, last, List.getElem?_concat_length, parcel, trace]

end Orderly

theorem orderly_after (moves : List Move) : (after moves).Orderly := by
  have run {o : Office} (h : o.Orderly) : (moves.foldl act o).Orderly := by
    induction moves generalizing o with
    | nil => exact h
    | cons m moves ih => exact ih (h.act m)
  apply run
  constructor
  · exact Outbox.orderly_empty
  · exact Harbour.Sound.empty
  · intro i k c there
    cases there

end Office

end Courier
