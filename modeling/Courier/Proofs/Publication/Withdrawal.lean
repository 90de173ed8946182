import Courier.Proofs.Publication.Office

/-!
# Parcels that are withdrawn

A parcel whose token fires before its frame is being written ends as cancelled, whatever else happens
and whatever answer is there already (`Office.Withdrawn.run`, `Office.Withdrawn.advance`), and leaves
no trace on the lanes (`Office.Withdrawn.traceless`).
-/

namespace Courier
set_option autoImplicit false
open Confirm

/-- What is noted last of a parcel that is cancelled at a stage. -/
def Post.Stage.parting : Post.Stage → List Outbox.Event
  | .publishing => [.published (.error .cancelled)]
  | .arriving | .declaring _ | .finished _ => []

namespace Outbox

variable {o : Outbox} {i : Nat} {p : Post}

/-- A parcel that finds its token fired at its start, or as its route was being declared, ends. -/
theorem result?_advance_of_fired (found : o.posts[i]? = some p) (fired : p.cancelled = true)
    (asking : p.stage = .arriving ∨ ∃ answer, p.stage = .declaring answer) :
    (o.advance i).result? i = some (.error .cancelled) := by
  have ends : o.advance i = o.setStage i (.finished (.error .cancelled)) := by
    unfold advance
    rw [found]
    dsimp only
    obtain arriving | ⟨answer, declaring⟩ := asking
    · rw [arriving]
      dsimp only
      unfold Parcel.atStart
      rw [if_pos fired]
      rfl
    · rw [declaring]
      exact if_pos fired
  refine result?_eq_some.2 ⟨{ p with stage := .finished (.error .cancelled) }, ?_, rfl⟩
  rw [ends]
  show (o.posts.modify i _)[i]? = _
  rw [List.getElem?_modify_eq, found]
  rfl

end Outbox

namespace Office

variable {o : Office} {i k c : Nat} {p : Post} {m : Move} {told : List Outbox.Event}

/-! ## A parcel that waits -/

/-- A parcel whose token fired before its frame was being written. It still waits, or has ended as
cancelled, and what is told of it in the end is settled. -/
structure Withdrawn (o : Office) (i : Nat) (told : List Outbox.Event) (p : Post) : Prop where
  found : o.outbox.posts[i]? = some p
  fired : p.cancelled = true
  ended : ∀ result, p.stage = .finished result → result = .error .cancelled
  events : o.outbox.eventsOf i ++ p.stage.parting = told
  lane : ∀ k c, o.passages i = .onLane k c → o.harbour.On k fun d =>
    d.Withdrawn c ∧ (p.stage ≠ .publishing → d.phase c = some (.finished (.error .cancelled)))

namespace Withdrawn

/-- The broker answers that the parcel was cancelled, and so its publish on the lane has ended. -/
theorem reply (h : o.Withdrawn i told p) (publishing : p.stage = .publishing) :
    o.reply? i = some (.error .cancelled) ∧ ∀ k c, o.passages i = .onLane k c →
      (o.act (.advance i)).harbour.On k fun d => d.phase c = some (.finished (.error .cancelled)) := by
  have hand := inHand?_of_publishing h.found publishing
  cases passage : o.passages i with
  | awaitingChannel channel =>
    refine ⟨reply?_of_fired hand h.fired passage, ?_⟩
    intro k c there
    cases there
  | onLane k c =>
    obtain ⟨d, found, withdrawn, _⟩ := h.lane k c passage
    obtain ⟨ended, _⟩ := withdrawn.advance_self
    have moved : (o.harbour.act (.move k (.advance c))).desk? k = some (d.advance c) := by
      rw [Harbour.act_move found]
      exact Harbour.desk?_put_self found _
    constructor
    · rw [reply?_onLane hand passage, moved]
      exact Desk.result?_eq_some.2 ended
    · intro k' c' there
      cases there
      refine ⟨d.advance c, ?_, ended⟩
      show ((o.errand (.advance i)).foldl Harbour.act o.harbour).desk? k = _
      rw [errand_onLane hand passage]
      exact moved

/-- The parcel does not get to a lane any more. -/
theorem stays (h : o.Withdrawn i told p) (there : (o.act m).passages i = .onLane k c) :
    o.passages i = .onLane k c := by
  have way := act_way o i m
  generalize (o.act m).passages i = passage at way there
  cases way with
  | stayed => exact there
  | answered => cases there
  | boarded own hand unfired =>
    obtain ⟨found, _⟩ := of_inHand? hand
    cases h.found.symm.trans found
    rw [h.fired] at unfired
    cases unfired

theorem lane_act (h : o.Withdrawn i told p) (there : (o.act m).passages i = .onLane k c) :
    (o.act m).harbour.On k fun d => d.Withdrawn c ∧
      (p.stage ≠ .publishing → d.phase c = some (.finished (.error .cancelled))) := by
  apply (h.lane k c (h.stays there)).run
  · intro d m ⟨withdrawn, ended⟩
    exact ⟨withdrawn.act m, fun other => Desk.act_of_finished (ended other) m⟩
  · intro d tracker log ⟨withdrawn, ended⟩
    exact ⟨withdrawn.elsewhere tracker log, ended⟩

theorem act (h : o.Withdrawn i told p) (m : Move) : ∃ q, (o.act m).Withdrawn i told q := by
  have gone {k c : Nat} (there : (o.act m).passages i = .onLane k c) (stage : Post.Stage)
      (other : p.stage ≠ .publishing) : (o.act m).harbour.On k fun d => d.Withdrawn c ∧
        (stage ≠ .publishing → d.phase c = some (.finished (.error .cancelled))) := by
    obtain ⟨d, found, withdrawn, ended⟩ := h.lane_act there
    exact ⟨d, found, withdrawn, fun _ => ended other⟩
  obtain ⟨q, events, fate, found, noted⟩ := act_fate h.found m
  refine ⟨q, ?_⟩
  cases fate with
  | kept =>
    rw [List.append_nil] at noted
    exact ⟨found, h.fired, h.ended, noted ▸ h.events, fun _ _ => h.lane_act⟩
  | told =>
    rw [List.append_nil] at noted
    exact ⟨found, rfl, h.ended, noted ▸ h.events, fun _ _ => h.lane_act⟩
  | brought before progress =>
    have same := h.events
    cases progress with
    | stopped stage | abandoned stage =>
      rw [stage] at same
      rw [List.append_nil] at noted
      refine ⟨found, h.fired, ?_, noted ▸ same, fun k c there => gone there _ before⟩
      intro result ended
      cases ended
      rfl
    | answered stage answer =>
      rw [stage] at same
      rw [List.append_nil] at noted
      refine ⟨found, h.fired, ?_, noted ▸ same, fun k c there => gone there _ before⟩
      intro result ended
      cases ended
    | passed _ unfired | asked _ unfired | refused _ unfired | cleared _ unfired =>
      -- every other way on looks at the token first
      rw [h.fired] at unfired
      cases unfired
    | concluded publishing => exact absurd publishing before
  | concluded publishing own reply =>
    subst own
    obtain ⟨answered, ends⟩ := h.reply publishing
    cases answered.symm.trans reply
    have same := h.events
    rw [publishing] at same
    constructor
    · exact found
    · exact h.fired
    · intro result ended
      cases ended
      rfl
    · rw [noted, ← same]
      exact List.append_nil _
    · intro k c there
      obtain ⟨d, known, withdrawn, _⟩ := h.lane_act there
      obtain ⟨_, known', ended⟩ := ends k c (h.stays there)
      cases known.symm.trans known'
      exact ⟨d, known, withdrawn, fun _ => ended⟩

theorem run (h : o.Withdrawn i told p) (moves : List Move) :
    ∃ q, (moves.foldl Office.act o).Withdrawn i told q := by
  induction moves generalizing o p with
  | nil => exact ⟨p, h⟩
  | cons m moves ih =>
    obtain ⟨q, h⟩ := h.act m
    exact ih h

/-- The parcel ends as soon as it goes on. -/
theorem advance (h : o.Withdrawn i told p) :
    (o.act (.advance i)).outbox.result? i = some (.error .cancelled) := by
  have unanswered (other : p.stage ≠ .publishing) : o.reply? i = none := by
    cases reply : o.reply? i with
    | none => rfl
    | some answer =>
      obtain ⟨q, found, publishing⟩ := of_reply? reply
      cases h.found.symm.trans found
      exact absurd publishing other
  cases stage : p.stage with
  | arriving | declaring =>
    have other : p.stage ≠ .publishing := by
      rw [stage]
      intro same
      cases same
    show (o.outboxAfter (.advance i)).result? i = _
    unfold outboxAfter
    dsimp only
    rw [unanswered other]
    apply Outbox.result?_advance_of_fired h.found h.fired
    simp [stage]
  | publishing =>
    obtain ⟨reply, _⟩ := h.reply stage
    exact result?_of_reply h.found stage reply
  | finished result =>
    cases h.ended result stage
    exact result?_act (Outbox.result?_eq_some.2 ⟨p, h.found, stage⟩) (.advance i)

/-- A token that has fired by the start of a parcel. -/
theorem of_arriving (h : o.Orderly) (found : o.outbox.posts[i]? = some p)
    (arriving : p.stage = .arriving) (fired : p.cancelled = true) : o.Withdrawn i [] p where
  found := found
  fired := fired
  ended result ended := by
    rw [arriving] at ended
    cases ended
  events := by
    have story := h.outbox.story i p found
    rw [arriving] at story ⊢
    generalize o.outbox.eventsOf i = events at story
    cases story
    rfl
  lane k c there := by
    obtain ⟨q, found', handed, _⟩ := h.lane i k c there
    cases found.symm.trans found'
    rw [arriving] at handed
    obtain same | ⟨result, same⟩ := handed
    · cases same
    · cases same

end Withdrawn

/-- A parcel that waits: for the declaration of its route, for a channel, or on a lane for a place
in the window or its turn to write. What it waits for may be there. -/
def Waits (o : Office) (i : Nat) (p : Post) : Prop :=
  o.outbox.posts[i]? = some p ∧
    ((∃ answer, p.stage = .declaring answer) ∨
      p.stage = .publishing ∧ ∀ k c, o.passages i = .onLane k c → o.harbour.On k fun d =>
        ∃ call, d.lane.calls[c]? = some call ∧ call.phase.isWaiting = true)

/-- A token that fires while its parcel waits. -/
theorem Waits.cancel (waits : o.Waits i p) (h : o.Orderly) :
    (o.act (.cancel i)).Withdrawn i (o.outbox.eventsOf i ++ p.stage.parting)
      { p with cancelled := true } where
  found := by
    have posts := Outbox.posts_cancel o.outbox i i
    rw [if_pos rfl, waits.1] at posts
    exact posts
  fired := rfl
  ended result ended := by
    have stage : p.stage = .finished result := ended
    obtain ⟨answer, declaring⟩ | ⟨publishing, _⟩ := waits.2
    · cases declaring.symm.trans stage
    · cases publishing.symm.trans stage
  events := rfl
  lane k c there := by
    obtain ⟨found, ⟨answer, declaring⟩ | ⟨publishing, waiting⟩⟩ := waits
    · obtain ⟨q, found', handed, _⟩ := h.lane i k c there
      cases found.symm.trans found'
      obtain same | ⟨result, same⟩ := handed
      · cases declaring.symm.trans same
      · cases declaring.symm.trans same
    · obtain ⟨d, desk, call, known, waits⟩ := waiting k c there
      obtain ⟨window, lane⟩ := h.harbour k d desk
      refine ⟨d.cancel c, ?_, .of_cancel lane known waits, fun other => absurd publishing other⟩
      have before : o.passages i = .onLane k c := there
      rw [harbour_cancel before, Harbour.act_move desk]
      exact Harbour.desk?_put_self desk _

/-! ## Without a trace -/

/-- What a parcel does before it is on a lane is nothing to the lanes. -/
theorem harbour_act_ashore (own : m.isOf i = true) {channel channel' : Option (Except BrokerError Nat)}
    (ashore : o.passages i = .awaitingChannel channel)
    (still : (o.act m).passages i = .awaitingChannel channel') :
    (o.act m).harbour = o.harbour := by
  show (o.errand m).foldl Harbour.act o.harbour = o.harbour
  cases m with
  | post => cases own
  | outside => cases own
  | declared => rfl
  | channel => rfl
  | cancel j =>
    obtain rfl : i = j := by simpa [Move.isOf] using own
    unfold errand
    dsimp only
    rw [ashore]
    rfl
  | advance j =>
    obtain rfl : i = j := by simpa [Move.isOf] using own
    cases hand : o.inHand? i with
    | none =>
      unfold errand
      dsimp only
      rw [hand]
      rfl
    | some p =>
      have idle (none : o.errand (.advance i) = []) :
          (o.errand (.advance i)).foldl Harbour.act o.harbour = o.harbour := by
        rw [none]
        rfl
      match channel with
      | none | some (.error e) =>
        apply idle
        unfold errand
        dsimp only
        rw [hand, ashore]
      | some (.ok k) =>
        cases fired : p.cancelled with
        | true =>
          apply idle
          unfold errand
          dsimp only
          rw [hand, ashore]
          exact if_pos fired
        | false =>
          rw [errand_boarding hand fired ashore]
          show o.harbour.act (.move k _) = o.harbour
          cases found : o.harbour.desk? k with
          | none => exact Harbour.act_move_none found _
          | some d =>
            rw [passages_boarding hand fired ashore found] at still
            cases still

/-- A parcel that is not on a lane never was. -/
theorem ashore_of_act {channel : Option (Except BrokerError Nat)}
    (ashore : (o.act m).passages i = .awaitingChannel channel) :
    ∃ channel', o.passages i = .awaitingChannel channel' := by
  have way := act_way o i m
  generalize (o.act m).passages i = passage at way ashore
  cases way with
  | stayed => exact ⟨channel, ashore⟩
  | answered own awaiting => exact ⟨none, awaiting⟩
  | boarded => cases ashore

theorem ashore_of_run (o : Office) (moves : List Move) {channel : Option (Except BrokerError Nat)}
    (ashore : (moves.foldl act o).passages i = .awaitingChannel channel) :
    ∃ channel', o.passages i = .awaitingChannel channel' := by
  induction moves generalizing o with
  | nil => exact ⟨channel, ashore⟩
  | cons m moves ih =>
    obtain ⟨channel', ashore⟩ := ih (o.act m) ashore
    exact ashore_of_act ashore

/-- The lanes are the same without what a parcel does that never comes to be on one. -/
theorem harbour_run_ashore {moves : List Move} {channel : Option (Except BrokerError Nat)}
    (ashore : (moves.foldl act o).passages i = .awaitingChannel channel) :
    (moves.foldl act o).harbour =
      (o.course (Move.isOf i) moves).foldl Harbour.act o.harbour := by
  induction moves generalizing o with
  | nil => rfl
  | cons m moves ih =>
    have later := ih (o := o.act m) ashore
    obtain ⟨channel', next⟩ := ashore_of_run (o.act m) moves ashore
    obtain ⟨channel'', now⟩ := ashore_of_act next
    show (moves.foldl act (o.act m)).harbour =
      ((if m.isOf i then [] else o.errand m) ++ (o.act m).course (Move.isOf i) moves).foldl
        Harbour.act o.harbour
    rw [List.foldl_append, later]
    split
    · next own => rw [harbour_act_ashore own now next, List.foldl_nil]
    · rfl

/-- Some moves leave the lanes as if a parcel had never been handed over: those that are its own do
nothing to them, or its publish on a lane sends no frame and leaves everything as it would be if it
had not been made. -/
def Traceless (moves : List Move) (i : Nat) : Prop :=
  (∀ channel, (after moves).passages i = .awaitingChannel channel →
    (after moves).harbour = .after (empty.course (Move.isOf i) moves)) ∧
  ∀ k c, (after moves).passages i = .onLane k c →
    let h := (after moves).harbour
    let h' := Harbour.after (Harbour.empty.spared k c (empty.course (fun _ => false) moves))
    h.Unsent k c ∧ h'.tracker = h.tracker ∧ h'.log = h.log ∧
      ∀ j, (h'.desk? j).map (·.lane.accounts) = (h.desk? j).map (·.lane.accounts)

theorem Withdrawn.traceless {moves : List Move} (h : (after moves).Withdrawn i told p)
    (other : p.stage ≠ .publishing) : Traceless moves i := by
  refine ⟨fun channel ashore => harbour_run_ashore ashore, ?_⟩
  intro k c there
  obtain ⟨d, found, withdrawn, ended⟩ := h.lane k c there
  have unsent : (after moves).harbour.Unsent k c := by
    intro d' found'
    cases found.symm.trans found'
    exact withdrawn.unsent
  have finished : (after moves).harbour.On k fun d => ∃ result, d.phase c = some (.finished result) :=
    ⟨d, found, _, ended other⟩
  have unmade : Harbour.Unmade k c .empty .empty := by
    refine .before fun d found => ?_
    cases found
  rw [harbour_after] at unsent finished
  have apart := unmade.run Harbour.Sound.empty (empty.course (fun _ => false) moves) unsent
  have same := apart.of_finished (Harbour.sound_after _) finished
  rw [harbour_after]
  exact ⟨unsent, same⟩

/-- What ended as cancelled tells the whole story. -/
theorem Withdrawn.of_result (h : o.Withdrawn i told p)
    (ended : o.outbox.result? i = some (.error .cancelled)) :
    o.outbox.eventsOf i = told ∧ p.stage ≠ .publishing := by
  obtain ⟨q, found, stage⟩ := Outbox.result?_eq_some.1 ended
  cases h.found.symm.trans found
  have events := h.events
  rw [stage] at events ⊢
  constructor
  · exact (List.append_nil _).symm.trans events
  · intro same
    cases same

/-- A parcel that is withdrawn ends as it goes on, without a trace. -/
theorem Withdrawn.ends {moves : List Move} (h : (after moves).Withdrawn i told p) :
    let o := after (moves ++ [.advance i])
    o.outbox.result? i = some (.error .cancelled) ∧ o.outbox.eventsOf i = told ∧
      Traceless (moves ++ [.advance i]) i := by
  have last : after (moves ++ [.advance i]) = (after moves).act (.advance i) := by
    unfold after
    rw [List.foldl_append]
    rfl
  have result := h.advance
  obtain ⟨q, h⟩ := h.act (.advance i)
  rw [← last] at result h
  obtain ⟨events, other⟩ := h.of_result result
  exact ⟨result, events, h.traceless other⟩

end Office

end Courier
