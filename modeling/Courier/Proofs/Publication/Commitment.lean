import Courier.Proofs.Publication.Office

/-!
# Parcels on the wire

A parcel whose frame is being written has as its result what the wire answers
(`Office.Writing.result?_run`). Its token makes no difference any more: it may as well fire in the end
(`Office.Committed.cancel_run`).
-/

namespace Courier
set_option autoImplicit false
open Confirm

namespace Outbox

variable {o : Outbox} {i j : Nat} {p : Post}

/-! ## A token that fires before a move or after it -/

theorem setStage_cancel (o : Outbox) (i j : Nat) (stage : Post.Stage) :
    (o.cancel i).setStage j stage = (o.setStage j stage).cancel i := by
  have posts := modify_comm (f := fun p : Post => { p with cancelled := true })
    (g := fun p => { p with stage }) (fun _ => rfl) o.posts i j
  exact congrArg (fun posts => { o with posts }) posts

theorem proceed_cancel (o : Outbox) (i j : Nat) (p : Post) (next : Parcel.Next) :
    (o.cancel i).proceed j p next = (o.proceed j p next).cancel i := by
  unfold proceed
  cases next with
  | declare | publish =>
    dsimp only
    rw [setStage_cancel]
    rfl
  | stop e => exact setStage_cancel o i j _

theorem proceedDeclared_cancel (o : Outbox) (i j : Nat) (p : Post)
    (answer : Option (Except BrokerError Unit)) :
    (o.cancel i).proceedDeclared j p answer = (o.proceedDeclared j p answer).cancel i :=
  proceed_cancel { o with declared := (p.parcel.atDeclared o.declared answer).2 } i j p _

theorem post_cancel (found : o.posts[i]? = some p) (parcel : Parcel)
    (trace : List (String × String)) (cancelled : Bool) :
    (o.cancel i).post parcel trace cancelled = (o.post parcel trace cancelled).cancel i := by
  obtain ⟨bound, _⟩ := List.getElem?_eq_some_iff.1 found
  exact congrArg (fun posts => { o with posts }) (modify_append _ o.posts _ bound).symm

theorem cancel_cancel (o : Outbox) (i j : Nat) : (o.cancel i).cancel j = (o.cancel j).cancel i :=
  congrArg (fun posts => { o with posts }) (modify_comm (fun _ => rfl) o.posts i j)

theorem advance_cancel (o : Outbox) (other : j ≠ i) :
    (o.cancel i).advance j = (o.advance j).cancel i := by
  have same : (o.cancel i).posts[j]? = o.posts[j]? := by rw [posts_cancel, if_neg other.symm]
  unfold advance
  rw [same]
  cases o.posts[j]? with
  | none => rfl
  | some p =>
    dsimp only
    cases p.stage with
    | arriving => exact proceed_cancel o i j p _
    | declaring answer =>
      dsimp only
      split
      · exact proceedDeclared_cancel o i j p none
      · cases answer with
        | none => rfl
        | some answer => exact proceedDeclared_cancel (o.note j _) i j p (some answer)
    | publishing => rfl
    | finished result => rfl

theorem advance_cancel_self (found : o.posts[i]? = some p)
    (handed : p.stage = .publishing ∨ ∃ result, p.stage = .finished result) :
    (o.cancel i).advance i = (o.advance i).cancel i := by
  have found' := posts_cancel o i i
  rw [if_pos rfl, found] at found'
  rw [advance_of_handed found handed, advance_of_handed found' handed]

theorem posts_cancel_none (missing : o.posts[j]? = none) : (o.cancel i).posts[j]? = none := by
  rw [posts_cancel, missing]
  split <;> rfl

theorem posts_cancel_some {parcel : Parcel} {trace : List (String × String)} {cancelled : Bool}
    {stage : Post.Stage} (found : o.posts[j]? = some ⟨parcel, trace, cancelled, stage⟩) (i : Nat) :
    ∃ token, (o.cancel i).posts[j]? = some ⟨parcel, trace, token, stage⟩ := by
  rw [posts_cancel, found]
  split
  · exact ⟨true, rfl⟩
  · exact ⟨cancelled, rfl⟩

theorem answer_cancel (o : Outbox) (i j : Nat) (a : Except BrokerError Unit) :
    (o.cancel i).answer j a = (o.answer j a).cancel i := by
  unfold answer
  cases found : o.posts[j]? with
  | none => rw [posts_cancel_none found]
  | some p =>
    obtain ⟨parcel, trace, cancelled, stage⟩ := p
    obtain ⟨token, found'⟩ := posts_cancel_some found i
    rw [found']
    cases stage with
    | declaring answer =>
      cases answer with
      | none => exact setStage_cancel o i j _
      | some answer => rfl
    | arriving | publishing | finished => rfl

theorem conclude_cancel (o : Outbox) (i j : Nat) (a : Except BrokerError Nat) :
    (o.cancel i).conclude j a = (o.conclude j a).cancel i := by
  unfold conclude
  cases found : o.posts[j]? with
  | none => rw [posts_cancel_none found]
  | some p =>
    obtain ⟨parcel, trace, cancelled, stage⟩ := p
    obtain ⟨token, found'⟩ := posts_cancel_some found i
    rw [found']
    cases stage with
    | publishing =>
      dsimp only
      rw [setStage_cancel]
      rfl
    | arriving | declaring | finished => rfl

end Outbox

namespace Office

variable {o : Office} {i k c n : Nat} {p : Post} {m : Move} {answer : Except BrokerError Nat}

/-! ## A parcel whose frame is being written -/

/-- The frame of a parcel is being written on a lane, under a number. -/
structure Writing (o : Office) (i k c n : Nat) : Prop where
  post : ∃ p, o.outbox.posts[i]? = some p ∧ p.stage = .publishing
  lane : o.passages i = .onLane k c
  desk : o.harbour.On k fun d => d.phase c = some (.writing n)

/-- The publish of a parcel on its lane is over. -/
structure Answered (o : Office) (i k c : Nat) (answer : Except BrokerError Nat) : Prop where
  post : ∃ p, o.outbox.posts[i]? = some p ∧
    (p.stage = .publishing ∨ p.stage = .finished (answer.mapError .ofBroker))
  lane : o.passages i = .onLane k c
  desk : o.harbour.On k fun d => d.phase c = some (.finished answer)

/-- The answer of the wire that a move brings to a publish of a lane. -/
def Move.answer? (k c : Nat) : Move → Option (Except BrokerError Unit)
  | .outside (.move j (.written call result)) => if j = k ∧ call = c then some result else none
  | _ => none

theorem of_answer? {result : Except BrokerError Unit} (brought : m.answer? k c = some result) :
    m = .outside (.move k (.written c result)) := by
  unfold Move.answer? at brought
  split at brought
  · split at brought
    · next same =>
      obtain ⟨rfl, rfl⟩ := same
      cases brought
      rfl
    · cases brought
  · cases brought

/-- Only the wire ends a write. -/
theorem of_mem_errand {result : Except BrokerError Unit}
    (mem : .move k (.written c result) ∈ o.errand m) :
    m = .outside (.move k (.written c result)) := by
  unfold errand at mem
  cases m with
  | post | declared | channel => cases mem
  | outside s =>
    obtain rfl := List.mem_singleton.1 mem
    rfl
  | cancel j =>
    dsimp only at mem
    split at mem
    · cases mem
    · cases List.mem_singleton.1 mem
  | advance j =>
    dsimp only at mem
    split at mem
    · cases mem
    · split at mem
      · split at mem
        · cases mem
        · cases List.mem_singleton.1 mem
      · cases mem
      · cases List.mem_singleton.1 mem

namespace Answered

theorem reply (h : o.Answered i k c answer) (found : o.outbox.posts[i]? = some p)
    (publishing : p.stage = .publishing) : o.reply? i = some answer := by
  obtain ⟨d, desk, ended⟩ := h.desk
  rw [reply?_onLane (inHand?_of_publishing found publishing) h.lane, Harbour.act_move desk,
    Harbour.desk?_put_self desk]
  exact Desk.result?_eq_some.2 (Desk.act_of_finished ended (.advance c))

theorem act (h : o.Answered i k c answer) (m : Move) : (o.act m).Answered i k c answer where
  lane := onLane_act h.lane m
  desk := h.desk.run (fun _ m ended => Desk.act_of_finished ended m) (fun _ _ _ ended => ended)
    (o.errand m)
  post := by
    obtain ⟨p, found, stage⟩ := h.post
    obtain ⟨q, events, fate, found', _⟩ := act_fate found m
    refine ⟨q, found', ?_⟩
    cases fate with
    | kept => exact stage
    | told => exact stage
    | brought before progress =>
      obtain publishing | ended := stage
      · exact absurd publishing before
      · exact absurd ended (progress.unfinished _)
    | concluded publishing own reply =>
      cases (h.reply found publishing).symm.trans reply
      exact .inr rfl

theorem run (h : o.Answered i k c answer) (moves : List Move) :
    (moves.foldl Office.act o).Answered i k c answer := by
  induction moves generalizing o with
  | nil => exact h
  | cons m moves ih => exact ih (h.act m)

/-- The parcel has its result as soon as it goes on. -/
theorem advance (h : o.Answered i k c answer) :
    (o.act (.advance i)).outbox.result? i = some (answer.mapError .ofBroker) := by
  obtain ⟨p, found, publishing | ended⟩ := h.post
  · exact result?_of_reply found publishing (h.reply found publishing)
  · exact result?_act (Outbox.result?_eq_some.2 ⟨p, found, ended⟩) (.advance i)

end Answered

namespace Writing

theorem reply (h : o.Writing i k c n) : o.reply? i = none := by
  obtain ⟨p, found, publishing⟩ := h.post
  have hand := inHand?_of_publishing found publishing
  cases reply : o.reply? i with
  | none => rfl
  | some answer =>
    rw [reply?_onLane hand h.lane] at reply
    obtain ⟨_, writes⟩ | ⟨result, same, _⟩ := Harbour.act_of_writing h.desk (.move k (.advance c))
    · obtain ⟨d, desk, writes⟩ := writes
      rw [desk] at reply
      cases (Desk.result?_eq_some.1 reply).symm.trans writes
    · cases same

/-- A parcel whose frame is being written is as it was until the wire answers. -/
theorem act (h : o.Writing i k c n) (m : Move) :
    m.answer? k c = none ∧ (o.act m).Writing i k c n ∨
      ∃ result, m.answer? k c = some result ∧
        (o.act m).Answered i k c (result.map fun _ => n) := by
  have lane := onLane_act h.lane m
  have post : ∃ q, (o.act m).outbox.posts[i]? = some q ∧ q.stage = .publishing := by
    obtain ⟨p, found, publishing⟩ := h.post
    obtain ⟨q, events, fate, found', _⟩ := act_fate found m
    refine ⟨q, found', ?_⟩
    cases fate with
    | kept => exact publishing
    | told => exact publishing
    | brought before => exact absurd publishing before
    | concluded _ _ reply =>
      rw [h.reply] at reply
      cases reply
  cases brought : m.answer? k c with
  | none =>
    refine .inl ⟨rfl, post, lane, Harbour.run_of_writing h.desk ?_⟩
    rintro s mem result rfl
    rw [of_mem_errand mem, Move.answer?, if_pos ⟨rfl, rfl⟩] at brought
    cases brought
  | some result =>
    obtain rfl := of_answer? brought
    refine .inr ⟨result, rfl, ?_, lane, ?_⟩
    · obtain ⟨q, found, publishing⟩ := post
      exact ⟨q, found, .inl publishing⟩
    · obtain ⟨silent, _⟩ | ⟨result', same, ended⟩ :=
        Harbour.act_of_writing h.desk (.move k (.written c result))
      · exact absurd rfl (silent result)
      · cases same
        exact ended

theorem run (h : o.Writing i k c n) (moves : List Move) :
    moves.findSome? (Move.answer? k c) = none ∧ (moves.foldl Office.act o).Writing i k c n ∨
      ∃ result, moves.findSome? (Move.answer? k c) = some result ∧
        (moves.foldl Office.act o).Answered i k c (result.map fun _ => n) := by
  induction moves generalizing o with
  | nil => exact .inl ⟨rfl, h⟩
  | cons m moves ih =>
    rw [List.findSome?_cons]
    obtain ⟨silent, writes⟩ | ⟨result, brought, answered⟩ := h.act m
    · rw [silent]
      exact ih writes
    · rw [brought]
      exact .inr ⟨result, rfl, answered.run moves⟩

/-- The parcel's result is what the wire answered, once it goes on. -/
theorem result?_run (h : o.Writing i k c n) (moves : List Move) :
    ((moves.foldl Office.act o).act (.advance i)).outbox.result? i =
      (moves.findSome? (Move.answer? k c)).map fun result =>
        (result.map fun _ => n).mapError .ofBroker := by
  obtain ⟨silent, writes⟩ | ⟨result, brought, answered⟩ := h.run moves
  · obtain ⟨_, writes⟩ | ⟨_, differs, _⟩ := writes.act (.advance i)
    · obtain ⟨p, found, publishing⟩ := writes.post
      rw [silent, Option.map_none]
      cases ended : ((moves.foldl Office.act o).act (.advance i)).outbox.result? i with
      | none => rfl
      | some result =>
        obtain ⟨q, found', stage⟩ := Outbox.result?_eq_some.1 ended
        cases found.symm.trans found'
        cases publishing.symm.trans stage
    · cases differs
  · rw [brought]
    exact answered.advance

end Writing

/-! ## A token that makes no difference -/

/-- The publish of a parcel on its lane waits for nothing any more. -/
structure Committed (o : Office) (i k c : Nat) : Prop where
  post : ∃ p, o.outbox.posts[i]? = some p ∧
    (p.stage = .publishing ∨ ∃ result, p.stage = .finished result)
  lane : o.passages i = .onLane k c
  desk : o.harbour.On k (·.Past c)

theorem Writing.committed (h : o.Writing i k c n) : o.Committed i k c where
  post := by
    obtain ⟨p, found, publishing⟩ := h.post
    exact ⟨p, found, .inl publishing⟩
  lane := h.lane
  desk := by
    obtain ⟨d, desk, writes⟩ := h.desk
    obtain ⟨call, known, writes⟩ := Desk.call_of_phase writes
    exact ⟨d, desk, call, known, by rw [writes]; rfl⟩

theorem Answered.committed (h : o.Answered i k c answer) : o.Committed i k c where
  post := by
    obtain ⟨p, found, publishing | ended⟩ := h.post
    · exact ⟨p, found, .inl publishing⟩
    · exact ⟨p, found, .inr ⟨_, ended⟩⟩
  lane := h.lane
  desk := by
    obtain ⟨d, desk, ended⟩ := h.desk
    obtain ⟨call, known, ended⟩ := Desk.call_of_phase ended
    exact ⟨d, desk, call, known, by rw [ended]; rfl⟩

theorem inHand?_cancel (o : Office) (i j : Nat) :
    (o.act (.cancel i)).inHand? j =
      (o.inHand? j).map fun p => if i = j then { p with cancelled := true } else p := by
  have posts : (o.act (.cancel i)).outbox.posts[j]? = _ := Outbox.posts_cancel o.outbox i j
  unfold inHand?
  rw [posts]
  cases o.outbox.posts[j]? with
  | none => split <;> rfl
  | some p =>
    obtain ⟨parcel, trace, cancelled, stage⟩ := p
    split <;> cases stage <;> rfl

namespace Committed

theorem act (h : o.Committed i k c) (m : Move) : (o.act m).Committed i k c where
  post := by
    obtain ⟨p, found, handed⟩ := h.post
    obtain ⟨q, found', _, _, handed⟩ := handed_act found handed m
    exact ⟨q, found', handed⟩
  lane := onLane_act h.lane m
  desk := h.desk.run (fun _ m past => past.act m) (fun _ _ _ past => past) (o.errand m)

/-- Nothing that a move asks of the lanes depends on the token. -/
theorem errand_cancel (h : o.Committed i k c) (m : Move) :
    (o.act (.cancel i)).errand m = o.errand m := by
  cases m with
  | post | declared | channel | outside | cancel => rfl
  | advance j =>
    have passages : (o.act (.cancel i)).passages = o.passages := rfl
    unfold errand
    dsimp only
    rw [inHand?_cancel, passages]
    cases o.inHand? j with
    | none => rfl
    | some p =>
      rw [Option.map_some]
      by_cases own : i = j
      · -- a parcel on a lane is only let go on there
        subst own
        rw [h.lane]
      · rw [if_neg own]

theorem passages_cancel (h : o.Committed i k c) (m : Move) :
    ((o.act (.cancel i)).act m).passages = (o.act m).passages := by
  show (o.act (.cancel i)).passagesAfter m = o.passagesAfter m
  have passages : (o.act (.cancel i)).passages = o.passages := rfl
  unfold passagesAfter
  cases m with
  | post | cancel | declared | outside => rfl
  | channel j answer =>
    dsimp only
    rw [inHand?_cancel, passages]
    cases o.inHand? j with
    | none => rfl
    | some p =>
      cases o.passages j with
      | onLane k' c' => rfl
      | awaitingChannel channel => cases channel <;> rfl
  | advance j =>
    dsimp only
    rw [inHand?_cancel, passages, harbour_cancel h.lane]
    cases o.inHand? j with
    | none => rfl
    | some p =>
      rw [Option.map_some]
      by_cases own : i = j
      · subst own
        rw [h.lane]
      · rw [if_neg own]
        cases o.passages j with
        | onLane k' c' => rfl
        | awaitingChannel channel =>
          match channel with
          | none | some (.error e) => rfl
          | some (.ok k') =>
            dsimp only
            rw [Harbour.desk?_cancel]
            cases o.harbour.desk? k' with
            | none => rfl
            | some d =>
              -- the place at the end of the lane, where the next publish comes to be
              have calls : (if k = k' then d.cancel c else d).lane.calls.length =
                  d.lane.calls.length := by
                split
                · exact List.length_modify _ _ _
                · rfl
              rw [Option.map_some]
              dsimp only
              rw [calls]

/-- The broker's answers do not depend on the token, either. -/
theorem reply?_cancel (h : o.Committed i k c) (j : Nat) :
    (o.act (.cancel i)).reply? j = o.reply? j := by
  have hand := inHand?_cancel o i j
  cases known : o.inHand? j with
  | none =>
    rw [known] at hand
    unfold reply?
    rw [known, hand]
    rfl
  | some p =>
    rw [known] at hand
    cases passage : o.passages j with
    | onLane k' c' =>
      have passage' : (o.act (.cancel i)).passages j = .onLane k' c' := passage
      rw [reply?_onLane hand passage', reply?_onLane known passage, harbour_cancel h.lane,
        Harbour.cancel_act h.desk, Harbour.result?_cancel]
    | awaitingChannel channel =>
      have other : i ≠ j := by
        rintro rfl
        rw [h.lane] at passage
        cases passage
      have passage' : (o.act (.cancel i)).passages j = .awaitingChannel channel := passage
      rw [Option.map_some, if_neg other] at hand
      unfold reply?
      rw [hand, known, passage, passage']

theorem outbox_cancel (h : o.Committed i k c) (m : Move) :
    ((o.act (.cancel i)).act m).outbox = (o.act m).outbox.cancel i := by
  show (o.act (.cancel i)).outboxAfter m = (o.outboxAfter m).cancel i
  obtain ⟨p, found, handed⟩ := h.post
  unfold outboxAfter
  cases m with
  | post parcel trace cancelled => exact Outbox.post_cancel found parcel trace cancelled
  | cancel j => exact Outbox.cancel_cancel o.outbox i j
  | declared j a => exact Outbox.answer_cancel o.outbox i j a
  | channel j a => rfl
  | outside s => rfl
  | advance j =>
    dsimp only
    rw [h.reply?_cancel]
    cases o.reply? j with
    | some answer => exact Outbox.conclude_cancel o.outbox i j answer
    | none =>
      by_cases own : j = i
      · subst own
        exact Outbox.advance_cancel_self found handed
      · exact Outbox.advance_cancel o.outbox own

/-- What follows is the same whether its token has fired or is yet to. -/
theorem cancel_act (h : o.Committed i k c) (m : Move) :
    (o.act (.cancel i)).act m = (o.act m).act (.cancel i) := by
  have harbour : ((o.act (.cancel i)).act m).harbour = ((o.act m).act (.cancel i)).harbour := by
    show ((o.act (.cancel i)).errand m).foldl Harbour.act (o.act (.cancel i)).harbour = _
    rw [h.errand_cancel, harbour_cancel h.lane, Harbour.cancel_run h.desk,
      harbour_cancel (onLane_act h.lane m)]
    rfl
  show Office.mk ((o.act (.cancel i)).act m).outbox ((o.act (.cancel i)).act m).passages
    ((o.act (.cancel i)).act m).harbour = _
  rw [h.outbox_cancel, h.passages_cancel, harbour]
  rfl

theorem cancel_run (h : o.Committed i k c) (moves : List Move) :
    moves.foldl Office.act (o.act (.cancel i)) = (moves.foldl Office.act o).act (.cancel i) := by
  induction moves generalizing o with
  | nil => rfl
  | cons m moves ih =>
    rw [List.foldl_cons, h.cancel_act, ih (h.act m)]
    rfl

end Committed

/-- The frame that is being written for a parcel is its own, numbered, and the only one. -/
theorem Writing.sent_run (h : o.Writing i k c n) (orderly : o.Orderly) (moves : List Move) :
    ∃ p, o.outbox.posts[i]? = some p ∧
      let f := p.parcel.frame p.trace
      (moves.foldl Office.act o).harbour.On k fun d => d.sent.filter (·.call == c) =
        [⟨c, n, { f with properties := f.properties.withSequence n }, true⟩] := by
  obtain ⟨p, found, _, d, desk, frame⟩ := orderly.lane i k c h.lane
  refine ⟨p, found, ?_⟩
  intro f
  obtain ⟨_, desk', writes⟩ := h.desk
  cases desk.symm.trans desk'
  obtain ⟨_, desk', past⟩ := h.committed.desk
  cases desk.symm.trans desk'
  obtain ⟨window, lane⟩ := orderly.harbour k d desk
  have on : o.harbour.On k fun d => d.Past c ∧ d.sent.filter (·.call == c) = _ :=
    ⟨d, desk, past, lane.numbered.filter_sent writes frame⟩
  have later := on.run ?_ (fun _ _ _ holds => holds) (o.course (fun _ => false) moves)
  · rw [harbour_run]
    obtain ⟨d', desk', _, once⟩ := later
    exact ⟨d', desk', once⟩
  · intro d m ⟨past, once⟩
    refine ⟨past.act m, ?_⟩
    rw [Desk.filter_sent_act past m, once]

end Office

end Courier
