import Courier.Proofs.Publication.Commitment
import Courier.Proofs.Publication.Withdrawal

/-!
# Tokens of parcels

What firing the token of a parcel does, wherever the parcel is (`Office.cancelled_withdraws`).
-/

namespace Courier
set_option autoImplicit false
open Confirm

namespace Office

variable {o : Office} {i : Nat} {p : Post}

/-- A parcel is at its start, waits, is being written, has been answered or has its result. -/
theorem Orderly.places (h : o.Orderly) (found : o.outbox.posts[i]? = some p) :
    p.stage = .arriving ∨ o.Waits i p ∨ (∃ k c n, o.Writing i k c n) ∨
      (∃ k c answer, o.Answered i k c answer) ∨ ∃ result, p.stage = .finished result := by
  cases stage : p.stage with
  | arriving => exact .inl rfl
  | declaring answer => exact .inr (.inl ⟨found, .inl ⟨answer, stage⟩⟩)
  | finished result => exact .inr (.inr (.inr (.inr ⟨result, rfl⟩)))
  | publishing =>
    cases passage : o.passages i with
    | awaitingChannel channel =>
      refine .inr (.inl ⟨found, .inr ⟨stage, fun k c there => ?_⟩⟩)
      rw [passage] at there
      cases there
    | onLane k c =>
      obtain ⟨q, found', _, d, desk, frame⟩ := h.lane i k c passage
      change (d.lane.calls.map (·.frame))[c]? = _ at frame
      rw [List.getElem?_map] at frame
      obtain ⟨call, known, _⟩ := Option.map_eq_some_iff.1 frame
      have phase := Desk.phase_of_call known
      cases come : call.phase with
      | arriving | awaitingPlace | placed | awaitingTurn =>
        refine .inr (.inl ⟨found, .inr ⟨stage, fun k' c' there => ?_⟩⟩)
        cases passage.symm.trans there
        exact ⟨d, desk, call, known, by rw [come]; rfl⟩
      | writing n =>
        rw [come] at phase
        exact .inr (.inr (.inl ⟨k, c, n, ⟨p, found, stage⟩, passage, d, desk, phase⟩))
      | finished answer =>
        rw [come] at phase
        exact .inr (.inr (.inr (.inl
          ⟨k, c, answer, ⟨p, found, .inl stage⟩, passage, d, desk, phase⟩)))

/-- The parcels of one publisher on any lanes, with any other publishes on these, in any order of
their steps and whatever is answered. Wherever a parcel is, its token may fire. If it has fired by
the parcel's start, the broker is asked for nothing. If it fires while the parcel waits, even for what
is there already, the parcel leaves no trace on the lanes and makes no route a known one. Both ways the
parcel ends as cancelled as soon as it goes on. Once its frame is being written, all is as if the
token fired in the end: the frame is on the wire once, and what the wire answers is the result. -/
theorem cancelled_withdraws (before later : List Move) (i : Nat) :
    let o := after before
    let o' := after (before ++ .cancel i :: later ++ [.advance i])
    (∀ p, o.outbox.posts[i]? = some p →
      p.stage = .arriving ∨ o.Waits i p ∨ (∃ k c n, o.Writing i k c n) ∨
        (∃ k c answer, o.Answered i k c answer) ∨ ∃ result, p.stage = .finished result) ∧
    (∀ p, o.outbox.posts[i]? = some p → p.stage = .arriving → p.cancelled = true →
      let o' := after (before ++ later ++ [.advance i])
      o'.outbox.result? i = some (.error .cancelled) ∧ o'.outbox.eventsOf i = [] ∧
        Traceless (before ++ later ++ [.advance i]) i) ∧
    (∀ p, o.Waits i p →
      o'.outbox.result? i = some (.error .cancelled) ∧
        o'.outbox.eventsOf i = o.outbox.eventsOf i ++ p.stage.parting ∧
        Traceless (before ++ .cancel i :: later ++ [.advance i]) i ∧
        ∀ r ∈ o'.outbox.declared, r ∈ o.outbox.declared ∨
          ∃ j ≠ i, (j, r.answered (.ok ())) ∈ o'.outbox.events) ∧
    (∀ k c n, o.Writing i k c n →
      after (before ++ .cancel i :: later) = (after (before ++ later)).act (.cancel i) ∧
        (∃ p, o.outbox.posts[i]? = some p ∧
          let f := p.parcel.frame p.trace
          o'.harbour.On k fun d => d.sent.filter (·.call == c) =
            [⟨c, n, { f with properties := f.properties.withSequence n }, true⟩]) ∧
        o'.outbox.result? i = (later.findSome? (Move.answer? k c)).map fun result =>
          (result.map fun _ => n).mapError .ofBroker) ∧
    ∀ k c answer, o.Answered i k c answer →
      after (before ++ .cancel i :: later) = (after (before ++ later)).act (.cancel i) ∧
        o'.outbox.result? i = some (answer.mapError .ofBroker) := by
  intro o o'
  have orderly : o.Orderly := orderly_after before
  have split (moves : List Move) : after (before ++ moves) = moves.foldl act o := List.foldl_append
  have fired : after (before ++ .cancel i :: later) = later.foldl act (o.act (.cancel i)) :=
    split (.cancel i :: later)
  have last : o' = (later.foldl act (o.act (.cancel i))).act (.advance i) := by
    rw [← fired]
    exact List.foldl_append
  refine ⟨fun p found => orderly.places found, ?_, ?_, ?_, ?_⟩
  · intro p found arriving token
    obtain ⟨q, withdrawn⟩ := (Withdrawn.of_arriving orderly found arriving token).run later
    rw [← split] at withdrawn
    exact withdrawn.ends
  · intro p waits
    obtain ⟨q, withdrawn⟩ := (waits.cancel orderly).run later
    rw [← fired] at withdrawn
    obtain ⟨result, events, traceless⟩ := withdrawn.ends
    refine ⟨result, events, traceless, ?_⟩
    intro r known
    have orderly' : o'.Orderly := orderly_after _
    obtain ⟨j, cleared⟩ := (orderly'.outbox.marked r).1 known
    by_cases own : j = i
    · subst own
      have told := Outbox.mem_eventsOf.2 cleared
      rw [events] at told
      obtain told | told := List.mem_append.1 told
      · exact .inl ((orderly.outbox.marked r).2 ⟨j, Outbox.mem_eventsOf.1 told⟩)
      · unfold Post.Stage.parting at told
        split at told
        · cases List.mem_singleton.1 told
        · cases told
        · cases told
        · cases told
    · exact .inr ⟨j, own, cleared⟩
  · intro k c n writing
    have same := writing.committed.cancel_run later
    refine ⟨by rw [fired, split, same], ?_, ?_⟩
    · have sent := writing.sent_run orderly (.cancel i :: later ++ [.advance i])
      rw [List.foldl_append] at sent
      rw [last]
      exact sent
    · rw [last]
      exact writing.result?_run (.cancel i :: later)
  · intro k c answer answered
    have same := answered.committed.cancel_run later
    refine ⟨by rw [fired, split, same], ?_⟩
    rw [last]
    exact (answered.run (.cancel i :: later)).advance

/-- A parcel by the route of deletions. -/
def deletion : Parcel :=
  ⟨⟨"bus", "DeleteClient"⟩, ⟨.nil, "DeleteClient", .nil, none, .epoch, "\x7b\x7d"⟩⟩

/-- Two parcels on a lane with one place: the frame of the first is being written, and the second
waits for the place. -/
def contended : List Move :=
  [.outside (.launch "bus#1" 1), .post deletion [] false, .advance 0, .declared 0 (.ok ()),
    .advance 0, .channel 0 (.ok 0), .advance 0, .advance 0, .advance 0, .advance 0, .advance 0,
    .post deletion [] false, .advance 1, .channel 1 (.ok 0), .advance 1, .advance 1]

/-- The second ends as cancelled although the place comes free before it goes on, and the first has
the number of its frame although its token fires. -/
theorem cancelled_withdraws_contended :
    let freed := [.outside (.move 0 (.written 0 (.ok ()))), .outside (.move 0 (.confirm 1 (.ack none))),
      .outside (.move 0 (.unwatch 0))]
    (after (contended ++ .cancel 1 :: freed ++ [.advance 1])).outbox.result? 1 =
        some (.error .cancelled) ∧
      Traceless (contended ++ .cancel 1 :: freed ++ [.advance 1]) 1 ∧
      (after (contended ++ .cancel 0 :: freed ++ [.advance 0])).outbox.result? 0 = some (.ok 1) := by
  intro freed
  obtain ⟨_, _, waiting, _⟩ := cancelled_withdraws contended freed 1
  obtain ⟨_, _, _, writing, _⟩ := cancelled_withdraws contended freed 0
  have waits : (after contended).Waits 1 ⟨deletion, [], false, .publishing⟩ := by
    refine ⟨rfl, .inr ⟨rfl, fun k c there => ?_⟩⟩
    cases there
    exact ⟨_, rfl, _, rfl, rfl⟩
  have writes : (after contended).Writing 0 0 0 1 := ⟨⟨_, rfl, rfl⟩, rfl, _, rfl, rfl⟩
  obtain ⟨cancelled, _, traceless, _⟩ := waiting _ waits
  obtain ⟨_, _, written⟩ := writing 0 0 1 writes
  exact ⟨cancelled, traceless, written⟩

end Office

end Courier
