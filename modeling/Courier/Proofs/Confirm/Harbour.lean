import Courier.Confirm.Harbour
import Courier.Proofs.Confirm.Cancellation

/-!
# A harbour without one of its publishes

What happens on one lane is nothing to the publishes of the others (`Harbour.desk?_act`). So a whole
run leaves a harbour as it would be if a publish had never been made, as long as its frame does not
go over the wire: the other steps that get anywhere are a run without it, and lead there
(`Harbour.Unmade.run`). And it leaves a harbour as it would be if the token of a publish that writes
fired only in the end (`Harbour.cancel_run`).
-/

namespace Courier.Confirm
set_option autoImplicit false

namespace Desk

variable {d : Desk} {i : Nat}

/-- What is left of a move where a publish is not made. A publish whose wait is not over need not be
told so. -/
def spared (d : Desk) (i : Nat) (m : Move) : List Move :=
  if i < d.lane.calls.length then
    if m.isOf i || !d.goesOn m then [] else [m.renumber i]
  else
    match m with
    | .call frame cancelled => if d.lane.calls.length = i then [] else [.call frame cancelled]
    | m => [m]

theorem act_of_not_goesOn {m : Move} (stays : d.goesOn m = false) : d.act m = d := by
  cases m with
  | advance j =>
    change d.canAdvance j = false at stays
    show d.advance j = d
    unfold canAdvance at stays
    unfold Desk.advance
    cases known : d.lane.calls[j]? with
    | none => rfl
    | some c =>
      rw [known] at stays
      dsimp only at stays ⊢
      cases found : c.phase with
      | arriving | placed =>
        rw [found] at stays
        cases stays
      | awaitingPlace | awaitingTurn =>
        rw [found] at stays
        obtain ⟨unfired, unready⟩ := Bool.or_eq_false_iff.1 stays
        dsimp only
        rw [if_neg (ne_true_of_eq_false unfired), if_neg (ne_true_of_eq_false unready)]
      | writing n => rfl
      | finished result => rfl
  | call | cancel | written | confirm | loseAll | unwatch => cases stays

/-- A move makes a publish only by calling for it. -/
theorem length_calls_act (d : Desk) (m : Move) :
    (d.act m).lane.calls.length = d.lane.calls.length ∨
      ∃ frame cancelled, m = .call frame cancelled ∧
        (d.act m).lane.calls.length = d.lane.calls.length + 1 := by
  cases m with
  | call frame cancelled => exact .inr ⟨frame, cancelled, rfl, List.length_append⟩
  | cancel j => exact .inl (List.length_modify _ _ _)
  | advance j =>
    obtain ⟨f, calls⟩ := calls_advance d j
    refine .inl ?_
    show (d.advance j).lane.calls.length = _
    rw [calls, List.length_modify]
  | written j result =>
    obtain ⟨f, calls⟩ := calls_written d j result
    refine .inl ?_
    show (d.written j result).lane.calls.length = _
    rw [calls, List.length_modify]
  | confirm n a => exact .inl rfl
  | loseAll e => exact .inl rfl
  | unwatch j =>
    refine .inl ?_
    show (d.unwatch j).lane.calls.length = _
    unfold Desk.unwatch
    split
    · show (Desk.resolve _ _ _).lane.calls.length = _
      rw [lane_resolve]
    · rfl

end Desk

namespace Harbour

variable {h h' : Harbour} {k j i n : Nat} {d d' : Desk} {s : Step}

/-! ## The lanes of a harbour -/

theorem lt_of_desk? (found : h.desk? k = some d) : k < h.berths.length := by
  obtain ⟨b, known, _⟩ := Option.map_eq_some_iff.1 found
  exact (List.getElem?_eq_some_iff.1 known).1

theorem shared_of_desk? (found : h.desk? k = some d) : d.tracker = h.tracker ∧ d.log = h.log := by
  obtain ⟨b, _, rfl⟩ := Option.map_eq_some_iff.1 found
  exact ⟨rfl, rfl⟩

theorem desk?_put_self (found : h.desk? k = some d) (d' : Desk) : (h.put k d').desk? k = some d' := by
  unfold desk? put
  dsimp only
  rw [List.getElem?_set_self (lt_of_desk? found)]
  rfl

theorem desk?_put_of_ne (h : Harbour) (other : k ≠ j) (d' : Desk) :
    (h.put k d').desk? j =
      (h.desk? j).map fun d => { d with tracker := d'.tracker, log := d'.log } := by
  unfold desk? put
  dsimp only
  rw [List.getElem?_set_ne other, Option.map_map]
  rfl

/-- Other lanes see of a lane what it does to the tracker and the log. -/
theorem desk?_put_unseen (found : h.desk? k = some d) (other : k ≠ j)
    (tracker : d'.tracker = d.tracker) (log : d'.log = d.log) :
    (h.put k d').desk? j = h.desk? j := by
  rw [desk?_put_of_ne h other, tracker, log, (shared_of_desk? found).1, (shared_of_desk? found).2]
  unfold desk?
  rw [Option.map_map]
  rfl

theorem put_self (found : h.desk? k = some d) : h.put k d = h := by
  obtain ⟨b, known, rfl⟩ := Option.map_eq_some_iff.1 found
  obtain ⟨bound, rfl⟩ := List.getElem?_eq_some_iff.1 known
  unfold put
  dsimp only
  rw [List.set_getElem_self]

theorem put_put (h : Harbour) (k : Nat) (d d' : Desk) : (h.put k d).put k d' = h.put k d' := by
  unfold put
  dsimp only
  rw [List.set_set]

theorem put_comm (h : Harbour) (other : k ≠ j) (d e : Desk) :
    (h.put k d).put j e = (h.put j e).put k { d with tracker := e.tracker, log := e.log } := by
  unfold put
  dsimp only
  rw [List.set_comm _ _ other]

theorem act_move (found : h.desk? k = some d) (m : Move) : h.act (.move k m) = h.put k (d.act m) := by
  unfold act
  dsimp only
  rw [found]

theorem act_move_none (missing : h.desk? k = none) (m : Move) : h.act (.move k m) = h := by
  unfold act
  dsimp only
  rw [missing]

theorem launch_put (found : h.desk? k = some d) (d' : Desk) (key : String) (window : Nat) :
    (h.put k d').act (.launch key window) = (h.act (.launch key window)).put k d' := by
  unfold put act
  dsimp only
  rw [List.set_append_left _ _ (lt_of_desk? found)]

theorem desk?_launch (found : h.desk? k = some d) (key : String) (window : Nat) :
    (h.act (.launch key window)).desk? k = some d := by
  show ((h.berths ++ [_])[k]?).map _ = _
  rw [List.getElem?_append_left (lt_of_desk? found)]
  exact found

/-- A step is a move on a lane, or all it does to that lane is to its tracker and its log. -/
theorem desk?_act (found : h.desk? k = some d) (s : Step) :
    (∃ m, s = .move k m ∧ (h.act s).desk? k = some (d.act m)) ∨
      (∀ m, s ≠ .move k m) ∧ ∃ tracker log, (h.act s).desk? k = some { d with tracker, log } := by
  cases s with
  | launch key window =>
    refine .inr ⟨fun m differs => ?_, d.tracker, d.log, ?_⟩
    · cases differs
    · exact desk?_launch found key window
  | move j m =>
    by_cases same : j = k
    · subst same
      rw [act_move found]
      exact .inl ⟨m, rfl, desk?_put_self found _⟩
    · refine .inr ⟨fun m' differs => same (Step.move.inj differs).1, ?_⟩
      cases other : h.desk? j with
      | none =>
        rw [act_move_none other]
        exact ⟨d.tracker, d.log, found⟩
      | some e =>
        rw [act_move other, desk?_put_of_ne h same, found]
        exact ⟨_, _, rfl⟩

/-- A lane that is new was never used. -/
theorem desk?_act_new (missing : h.desk? k = none) (found : (h.act s).desk? k = some d) :
    ∃ key window, d = ⟨.new key window, h.tracker, [], h.log⟩ := by
  have beyond : h.berths[k]? = none := Option.map_eq_none_iff.1 missing
  cases s with
  | launch key window =>
    change ((h.berths ++ [_])[k]?).map _ = some d at found
    rw [List.getElem?_append_right (List.getElem?_eq_none_iff.1 beyond)] at found
    obtain ⟨b, new, rfl⟩ := Option.map_eq_some_iff.1 found
    cases List.mem_singleton.1 (List.mem_of_getElem? new)
    exact ⟨key, window, rfl⟩
  | move j m =>
    cases other : h.desk? j with
    | none =>
      rw [act_move_none other, missing] at found
      cases found
    | some e =>
      have differs : j ≠ k := by
        rintro rfl
        rw [missing] at other
        cases other
      rw [act_move other, desk?_put_of_ne h differs, missing] at found
      cases found

/-- Every lane of a harbour is in order. -/
def Sound (h : Harbour) : Prop := ∀ k d, h.desk? k = some d → ∃ window, d.Sound window

namespace Sound

theorem empty : Harbour.empty.Sound := by
  intro k d found
  cases found

theorem act (sound : h.Sound) (s : Step) : (h.act s).Sound := by
  intro k d' found'
  cases found : h.desk? k with
  | none =>
    obtain ⟨key, window, rfl⟩ := desk?_act_new found found'
    exact ⟨window, .start key window h.tracker h.log⟩
  | some d =>
    obtain ⟨window, lane⟩ := sound k d found
    obtain ⟨m, _, moved⟩ | ⟨_, tracker, log, stayed⟩ := desk?_act found s
    · cases moved.symm.trans found'
      exact ⟨window, lane.act m⟩
    · cases stayed.symm.trans found'
      exact ⟨window, lane.elsewhere tracker log⟩

theorem run (sound : h.Sound) (steps : List Step) : (steps.foldl Harbour.act h).Sound := by
  induction steps generalizing h with
  | nil => exact sound
  | cons s steps ih => exact ih (sound.act s)

end Sound

theorem sound_after (steps : List Step) : (after steps).Sound := Sound.empty.run steps

/-- Something holds of a lane that is there. -/
def On (h : Harbour) (k : Nat) (P : Desk → Prop) : Prop := ∃ d, h.desk? k = some d ∧ P d

/-- What the moves of a lane keep, and others cannot touch, a run keeps. -/
theorem On.run {P : Desk → Prop} (on : h.On k P) (own : ∀ d m, P d → P (d.act m))
    (elsewhere : ∀ (d : Desk) tracker log, P d → P { d with tracker, log }) (steps : List Step) :
    (steps.foldl act h).On k P := by
  induction steps generalizing h with
  | nil => exact on
  | cons s steps ih =>
    apply ih
    obtain ⟨d, found, holds⟩ := on
    obtain ⟨m, _, moved⟩ | ⟨_, tracker, log, stayed⟩ := desk?_act found s
    · exact ⟨_, moved, own d m holds⟩
    · exact ⟨_, stayed, elsewhere d tracker log holds⟩

/-! ## Without a publish -/

/-- What is left of a step where publish `i` of lane `k` is not made. -/
def sparedStep (h : Harbour) (k i : Nat) : Step → List Step
  | .launch key window => [.launch key window]
  | .move j m =>
    if j = k then
      match h.desk? k with
      | none => [.move k m]
      | some d => (d.spared i m).map (.move k)
    else [.move j m]

/-- What is left of some steps where publish `i` of lane `k` is not made. -/
def spared (k i : Nat) (h : Harbour) : List Step → List Step
  | [] => []
  | s :: steps => h.sparedStep k i s ++ (h.act s).spared k i steps

/-- A harbour, and the same one where publish `i` of lane `k` was not made. -/
inductive Unmade (k i : Nat) (h : Harbour) : Harbour → Prop where
  /-- It has not been made yet. -/
  | before (few : ∀ d, h.desk? k = some d → d.lane.calls.length ≤ i) : Unmade k i h h
  | since {p : Phase} {d d' : Desk} (found : h.desk? k = some d)
    (unmade : d.Unmade i p p.holdsPlace.toNat d') : Unmade k i h (h.put k d')

/-- No frame of publish `i` of lane `k` has gone over the wire. -/
def Unsent (k i : Nat) (h : Harbour) : Prop :=
  ∀ d, h.desk? k = some d → ∀ s ∈ d.sent, s.call ≠ i

theorem Unsent.of_act (unsent : (h.act s).Unsent k i) : h.Unsent k i := by
  intro d found t mem
  obtain ⟨m, _, moved⟩ | ⟨_, tracker, log, stayed⟩ := desk?_act found s
  · exact unsent _ moved t (d.subset_sent_act m mem)
  · exact unsent _ stayed t mem

theorem Unsent.of_run {steps : List Step} (unsent : (steps.foldl act h).Unsent k i) :
    h.Unsent k i := by
  induction steps generalizing h with
  | nil => exact unsent
  | cons s steps ih => exact (ih unsent).of_act

namespace Unmade

/-- A step that does not call for the publish leaves it unmade. -/
theorem before_act (few : ∀ d, h.desk? k = some d → d.lane.calls.length ≤ i) {s : Step}
    (still : ∀ d m, h.desk? k = some d → s = .move k m → (d.act m).lane.calls.length ≤ i) :
    Unmade k i (h.act s) (h.act s) := by
  refine .before fun d' found' => ?_
  cases found : h.desk? k with
  | none =>
    obtain ⟨key, window, rfl⟩ := desk?_act_new found found'
    exact Nat.zero_le i
  | some d =>
    obtain ⟨m, same, moved⟩ | ⟨_, tracker, log, stayed⟩ := desk?_act found s
    · cases moved.symm.trans found'
      exact still d m found same
    · cases stayed.symm.trans found'
      exact few d found

/-- The lane moves on, and the publish is made when its turn comes. -/
theorem before_move (few : ∀ d, h.desk? k = some d → d.lane.calls.length ≤ i) (sound : h.Sound)
    (m : Move) :
    Unmade k i (h.act (.move k m)) ((h.sparedStep k i (.move k m)).foldl Harbour.act h) := by
  unfold sparedStep
  dsimp only
  rw [if_pos rfl]
  cases found : h.desk? k with
  | none =>
    refine before_act few fun d m' found' _ => ?_
    rw [found] at found'
    cases found'
  | some d =>
    obtain ⟨window, lane⟩ := sound k d found
    have short := few d found
    have quiet (kept : (d.act m).lane.calls.length ≤ i) :
        Unmade k i (h.act (.move k m)) (h.act (.move k m)) := by
      refine before_act few fun d₁ m₁ found₁ same => ?_
      cases found.symm.trans found₁
      cases same
      exact kept
    dsimp only
    unfold Desk.spared
    rw [if_neg (Nat.not_lt.2 short)]
    cases m with
    | call frame cancelled =>
      dsimp only
      split
      · next last =>
        subst last
        have made := Desk.Unmade.called lane frame cancelled
        have called : (h.act (.move k (.call frame cancelled))).desk? k =
            some (d.call frame cancelled) := by
          rw [act_move found]
          exact desk?_put_self found _
        have unmade : Unmade k d.lane.calls.length _ _ := .since called made
        rw [act_move found, put_put, put_self found] at unmade
        rw [act_move found]
        exact unmade
      · next other =>
        apply quiet
        show (d.lane.calls ++ [_]).length ≤ i
        rw [List.length_append, List.length_singleton]
        omega
    | cancel | advance | written | confirm | loseAll | unwatch =>
      apply quiet
      obtain kept | ⟨_, _, same, _⟩ := d.length_calls_act _
      · exact Nat.le_trans (Nat.le_of_eq kept) short
      · cases same

/-- What happens on another lane happens without the publish, too. -/
theorem since_other (found : h.desk? k = some d) {p : Phase}
    (unmade : d.Unmade i p p.holdsPlace.toNat d') (other : j ≠ k) (m : Move) :
    Unmade k i (h.act (.move j m)) ((h.put k d').act (.move j m)) := by
  have same := desk?_put_unseen found other.symm unmade.tracker unmade.log
  cases elsewhere : h.desk? j with
  | none =>
    rw [act_move_none elsewhere, act_move_none (same.trans elsewhere)]
    exact .since found unmade
  | some e =>
    rw [act_move elsewhere, act_move (same.trans elsewhere), put_comm h other.symm]
    refine .since ?_ (unmade.elsewhere (e.act m).tracker (e.act m).log)
    rw [desk?_put_of_ne h other, found]
    rfl

theorem since_launch (found : h.desk? k = some d) {p : Phase}
    (unmade : d.Unmade i p p.holdsPlace.toNat d') (key : String) (window : Nat) :
    Unmade k i (h.act (.launch key window)) ((h.put k d').act (.launch key window)) := by
  rw [launch_put found]
  exact .since (desk?_launch found key window) unmade

/-- The lane moves on. -/
theorem since_move (found : h.desk? k = some d) {p : Phase}
    (unmade : d.Unmade i p p.holdsPlace.toNat d') (sound : h.Sound) (m : Move)
    (unsent : (h.act (.move k m)).Unsent k i) :
    Unmade k i (h.act (.move k m)) ((h.sparedStep k i (.move k m)).foldl Harbour.act (h.put k d')) := by
  obtain ⟨window, lane⟩ := sound k d found
  obtain ⟨c, call, _⟩ := Desk.call_of_phase unmade.phase
  obtain ⟨bound, _⟩ := List.getElem?_eq_some_iff.1 call
  have moved : (h.act (.move k m)).desk? k = some (d.act m) := by
    rw [act_move found]
    exact desk?_put_self found _
  unfold sparedStep
  dsimp only
  rw [if_pos rfl, found]
  dsimp only
  unfold Desk.spared
  rw [if_pos bound]
  cases own : m.isOf i with
  | true =>
    obtain ⟨p', unmade'⟩ := unmade.own lane own (unsent _ moved)
    have after : Unmade k i _ _ := .since moved unmade'
    rw [act_move found, put_put] at after
    rw [act_move found]
    exact after
  | false =>
    cases goes : d.goesOn m with
    | false =>
      rw [act_move found, Desk.act_of_not_goesOn goes, put_self found]
      exact .since found unmade
    | true =>
      have after : Unmade k i _ _ := .since moved (unmade.others lane own goes)
      rw [act_move found, put_put] at after
      show Unmade k i _ ((h.put k d').act (.move k (m.renumber i)))
      rw [act_move found, act_move (desk?_put_self found d'), put_put]
      exact after

theorem act (unmade : Unmade k i h h') (sound : h.Sound) (s : Step)
    (unsent : (h.act s).Unsent k i) :
    Unmade k i (h.act s) ((h.sparedStep k i s).foldl Harbour.act h') := by
  cases s with
  | launch key window =>
    cases unmade with
    | before few =>
      refine before_act few fun d m _ same => ?_
      cases same
    | since found unmade => exact since_launch found unmade key window
  | move j m =>
    by_cases same : j = k
    · subst same
      cases unmade with
      | before few => exact before_move few sound m
      | since found unmade => exact since_move found unmade sound m unsent
    · unfold sparedStep
      dsimp only
      rw [if_neg same]
      cases unmade with
      | before few =>
        refine before_act few fun d m' _ move => ?_
        exact absurd (Step.move.inj move).1 same
      | since found unmade => exact since_other found unmade same m

theorem run (unmade : Unmade k i h h') (sound : h.Sound) (steps : List Step)
    (unsent : (steps.foldl Harbour.act h).Unsent k i) :
    Unmade k i (steps.foldl Harbour.act h) ((h.spared k i steps).foldl Harbour.act h') := by
  induction steps generalizing h h' with
  | nil => exact unmade
  | cons s steps ih =>
    show Unmade k i _ ((h.sparedStep k i s ++ (h.act s).spared k i steps).foldl Harbour.act h')
    rw [List.foldl_append]
    have later : (steps.foldl Harbour.act (h.act s)).Unsent k i := unsent
    exact ih (unmade.act sound s later.of_run) (sound.act s) later

/-- A publish that is over without its frame on the wire has left everything as it was. -/
theorem of_finished (unmade : Unmade k i h h') (sound : h.Sound)
    (ended : h.On k fun d => ∃ result, d.phase i = some (.finished result)) :
    h'.tracker = h.tracker ∧ h'.log = h.log ∧
      ∀ j, (h'.desk? j).map (·.lane.accounts) = (h.desk? j).map (·.lane.accounts) := by
  cases unmade with
  | before few => exact ⟨rfl, rfl, fun _ => rfl⟩
  | since found unmade =>
    obtain ⟨_, found', result, ended⟩ := ended
    cases found.symm.trans found'
    obtain ⟨window, lane⟩ := sound k _ found
    obtain ⟨tracker, log⟩ := shared_of_desk? found
    refine ⟨unmade.tracker.trans tracker, unmade.log.trans log, ?_⟩
    intro j
    by_cases same : k = j
    · subst same
      have gone : _ = Phase.finished result := Option.some.inj (unmade.phase.symm.trans ended)
      rw [desk?_put_self found, found, Option.map_some, Option.map_some,
        unmade.accounts_eq lane gone]
    · rw [desk?_put_of_ne h same, Option.map_map]
      rfl

end Unmade

/-! ## A token that makes no difference -/

/-- A publish that writes, or is over, is the same in all that follows if its token fires. -/
theorem cancel_act (past : h.On k (·.Past i)) (s : Step) :
    (h.act (.move k (.cancel i))).act s = (h.act s).act (.move k (.cancel i)) := by
  obtain ⟨d, found, past⟩ := past
  rw [act_move found]
  cases s with
  | launch key window =>
    rw [launch_put found, act_move (desk?_launch found key window)]
  | move j m =>
    by_cases same : k = j
    · subst same
      rw [act_move (desk?_put_self found _), put_put, act_move found,
        act_move (desk?_put_self found _), put_put]
      exact congrArg (h.put k) (Desk.cancel_act past m)
    · have unseen : (h.put k (d.act (.cancel i))).desk? j = h.desk? j :=
        desk?_put_unseen found same rfl rfl
      cases other : h.desk? j with
      | none =>
        rw [act_move_none other, act_move_none (unseen.trans other), act_move found]
      | some e =>
        have moved : (h.put j (e.act m)).desk? k =
            some { d with tracker := (e.act m).tracker, log := (e.act m).log } := by
          rw [desk?_put_of_ne h (Ne.symm same), found]
          rfl
        rw [act_move other, act_move (unseen.trans other), put_comm h same, act_move moved]
        rfl

theorem cancel_run (past : h.On k (·.Past i)) (steps : List Step) :
    steps.foldl act (h.act (.move k (.cancel i))) =
      (steps.foldl act h).act (.move k (.cancel i)) := by
  induction steps generalizing h with
  | nil => rfl
  | cons s steps ih =>
    have later : (h.act s).On k (·.Past i) :=
      past.run (fun _ m past => past.act m) (fun _ _ _ past => past) [s]
    rw [List.foldl_cons, cancel_act past, ih later]
    rfl

theorem desk?_cancel (h : Harbour) (k i j : Nat) :
    (h.act (.move k (.cancel i))).desk? j =
      (h.desk? j).map fun d => if k = j then d.cancel i else d := by
  cases found : h.desk? k with
  | none =>
    rw [act_move_none found]
    split
    · next same =>
      subst same
      rw [found]
      rfl
    · exact Option.map_id'.symm
  | some d =>
    rw [act_move found]
    split
    · next same =>
      subst same
      rw [desk?_put_self found, found]
      rfl
    · next other =>
      have unseen : (h.put k (d.act (.cancel i))).desk? j = h.desk? j :=
        desk?_put_unseen found other rfl rfl
      rw [unseen, Option.map_id']

theorem result?_cancel (h : Harbour) (k i j c : Nat) :
    ((h.act (.move k (.cancel i))).desk? j).bind (·.result? c) =
      (h.desk? j).bind (·.result? c) := by
  rw [desk?_cancel]
  cases h.desk? j with
  | none => rfl
  | some d =>
    show (if k = j then d.cancel i else d).result? c = d.result? c
    split
    · exact Desk.result?_cancel d i c
    · rfl

/-- A publish that writes goes on writing until its write ends, and ends as that does. -/
theorem act_of_writing (writes : h.On k fun d => d.phase i = some (.writing n)) (s : Step) :
    (∀ result, s ≠ .move k (.written i result)) ∧
        (h.act s).On k (fun d => d.phase i = some (.writing n)) ∨
      ∃ result, s = .move k (.written i result) ∧
        (h.act s).On k fun d => d.phase i = some (.finished (result.map fun _ => n)) := by
  obtain ⟨d, found, writes⟩ := writes
  obtain ⟨m, rfl, moved⟩ | ⟨elsewhere, _, _, stayed⟩ := desk?_act found s
  · obtain ⟨unwritten, writes⟩ | ⟨result, rfl, ended⟩ := Desk.act_of_writing writes m
    · refine .inl ⟨fun result same => ?_, _, moved, writes⟩
      exact unwritten result (Step.move.inj same).2
    · exact .inr ⟨result, rfl, _, moved, ended⟩
  · exact .inl ⟨fun result => elsewhere _, _, stayed, writes⟩

theorem run_of_writing (writes : h.On k fun d => d.phase i = some (.writing n)) {steps : List Step}
    (silent : ∀ s ∈ steps, ∀ result, s ≠ .move k (.written i result)) :
    (steps.foldl act h).On k fun d => d.phase i = some (.writing n) := by
  induction steps generalizing h with
  | nil => exact writes
  | cons s steps ih =>
    obtain ⟨_, writes⟩ | ⟨result, same, _⟩ := act_of_writing writes s
    · exact ih writes fun s mem => silent s (List.mem_cons_of_mem _ mem)
    · exact absurd same (silent s List.mem_cons_self result)

end Harbour

end Courier.Confirm
