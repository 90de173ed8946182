import Courier.Proofs.Confirm.Absence

/-!
# Tokens on a lane

What becomes of a publish of a lane once its token has fired. While it waited it only ends any more,
as cancelled and without its frame on the wire (`Desk.Withdrawn`). Once it writes, nothing looks at
the token (`Desk.cancel_act`), and it ends as its write does (`Desk.act_of_writing`).
-/

namespace Courier.Confirm
set_option autoImplicit false

/-- Whether a publish waits, or is about to. -/
def Phase.isWaiting : Phase → Bool
  | .arriving | .awaitingPlace | .placed | .awaitingTurn => true
  | .writing _ | .finished _ => false

/-! ## Lists -/

theorem modify_comm {α : Type} {f g : α → α} (comm : ∀ x, f (g x) = g (f x)) (xs : List α)
    (i j : Nat) : (xs.modify i f).modify j g = (xs.modify j g).modify i f := by
  apply List.ext_getElem?
  intro k
  rw [List.getElem?_modify, List.getElem?_modify, List.getElem?_modify, List.getElem?_modify]
  by_cases first : i = k <;> by_cases second : j = k <;> cases xs[k]? <;>
    simp [first, second, comm]

theorem modify_append {α : Type} (f : α → α) (xs : List α) (x : α) {i : Nat} (bound : i < xs.length) :
    (xs ++ [x]).modify i f = xs.modify i f ++ [x] := by
  induction xs generalizing i with
  | nil => exact absurd bound (Nat.not_lt_zero i)
  | cons y ys ih =>
    cases i with
    | zero => rw [List.cons_append, List.modify_zero_cons, List.modify_zero_cons, List.cons_append]
    | succ i =>
      rw [List.cons_append, List.modify_succ_cons, List.modify_succ_cons, List.cons_append,
        ih (Nat.lt_of_succ_lt_succ bound)]

namespace Desk

variable {d d' : Desk} {window i j n : Nat} {c : Call} {p p' : Phase}

theorem call_of_phase (known : d.phase i = some p) :
    ∃ c, d.lane.calls[i]? = some c ∧ c.phase = p := by
  unfold Desk.phase phases at known
  rw [List.getElem?_map] at known
  exact Option.map_eq_some_iff.1 known

/-! ## What is another's -/

theorem calls_advance (d : Desk) (j : Nat) :
    ∃ f : Call → Call, (d.advance j).lane.calls = d.lane.calls.modify j f := by
  have same : d.lane.calls = d.lane.calls.modify j id := (List.modify_id j _).symm
  unfold Desk.advance
  cases d.lane.calls[j]? with
  | none => exact ⟨id, same⟩
  | some c =>
    dsimp only
    cases c.phase with
    | arriving | placed =>
      dsimp only
      split <;> exact ⟨_, rfl⟩
    | awaitingPlace | awaitingTurn =>
      dsimp only
      split
      · exact ⟨_, rfl⟩
      · split
        · exact ⟨_, rfl⟩
        · exact ⟨id, same⟩
    | writing n => exact ⟨id, same⟩
    | finished result => exact ⟨id, same⟩

theorem calls_written (d : Desk) (j : Nat) (result : Except BrokerError Unit) :
    ∃ f : Call → Call, (d.written j result).lane.calls = d.lane.calls.modify j f := by
  unfold Desk.written
  split
  · cases result <;> exact ⟨_, rfl⟩
  · exact ⟨id, (List.modify_id j _).symm⟩

/-- A move that is not a publish's own leaves the publish as it is. -/
theorem call_act (known : d.lane.calls[i]? = some c) {m : Move} (other : m.isOf i = false) :
    (d.act m).lane.calls[i]? = some c := by
  have modified {j : Nat} {f : Call → Call} (ne : (i == j) = false) :
      (d.lane.calls.modify j f)[i]? = some c := by
    have differ : j ≠ i := Ne.symm (by simpa using ne)
    rw [List.getElem?_modify_ne _ _ differ, known]
  cases m with
  | call frame cancelled =>
    obtain ⟨bound, _⟩ := List.getElem?_eq_some_iff.1 known
    show (d.lane.calls ++ [_])[i]? = some c
    rw [List.getElem?_append_left bound, known]
  | cancel j => exact modified other
  | advance j =>
    obtain ⟨f, calls⟩ := calls_advance d j
    show (d.advance j).lane.calls[i]? = some c
    rw [calls]
    exact modified other
  | written j result =>
    obtain ⟨f, calls⟩ := calls_written d j result
    show (d.written j result).lane.calls[i]? = some c
    rw [calls]
    exact modified other
  | confirm n a => exact known
  | loseAll e => exact known
  | unwatch j =>
    show (d.unwatch j).lane.calls[i]? = some c
    unfold Desk.unwatch
    split
    · show (Desk.resolve _ _ _).lane.calls[i]? = some c
      rw [lane_resolve]
      exact known
    · exact known

/-- Publishes keep their frames. -/
theorem frames_act {f : Frame} (found : d.frames[i]? = some f) (m : Move) :
    (d.act m).frames[i]? = some f := by
  have c := act_change d m
  generalize d.act m = d', d.dealing m = dealt at c
  cases c with
  | none | answered => exact found
  | called frame cancelled =>
    have more : (d.call frame cancelled).frames = d.frames ++ [frame] := List.map_append
    rw [more, List.getElem?_append_left (List.getElem?_eq_some_iff.1 found).1]
    exact found
  | told j =>
    rw [frames_cancel]
    exact found
  | @dealt j n a known =>
    show (d.resolve n a).frames[i]? = some f
    unfold frames
    rw [lane_resolve]
    exact found
  | dropped | queued | leftWindow | placed | gaveUp | lined | leftTurn | wrote | written | failed =>
    exact (congrArg (·[i]?) (frames_setPhase _ _ _)).trans found

/-! ## A token that fires while its publish waits -/

/-- A publish whose token has fired while it waited: it still waits, or has ended as cancelled, and
its frame is not on the wire. -/
structure Withdrawn (i : Nat) (d : Desk) : Prop where
  call : ∃ c, d.lane.calls[i]? = some c ∧ c.cancelled = true ∧
    (c.phase.isWaiting = true ∨ c.phase = .finished (.error .cancelled))
  unsent : ∀ s ∈ d.sent, s.call ≠ i

namespace Withdrawn

theorem of_cancel (sound : d.Sound window) (known : d.lane.calls[i]? = some c)
    (waits : c.phase.isWaiting = true) : (d.cancel i).Withdrawn i where
  call := by
    refine ⟨{ c with cancelled := true }, ?_, rfl, .inl waits⟩
    show (d.lane.calls.modify i _)[i]? = _
    rw [List.getElem?_modify_eq, known]
    rfl
  unsent := by
    have phase := phase_of_call known
    apply sound.numbered.call_ne phase
    intro n e
    cases found : c.phase <;> simp [found, Phase.isWaiting] at waits ⊢

/-- A publish that finds its token fired gives back what it holds and ends. -/
theorem advance_of_fired (known : d.lane.calls[i]? = some c) (fired : c.cancelled = true)
    (waits : c.phase.isWaiting = true) :
    ∃ d₁ : Desk, d.advance i = d₁.setPhase i (.finished (.error .cancelled)) ∧
      d₁.lane.calls = d.lane.calls ∧ d₁.sent = d.sent := by
  unfold Desk.advance
  rw [known]
  dsimp only
  cases found : c.phase with
  | arriving | awaitingPlace | placed | awaitingTurn =>
    dsimp only
    rw [if_pos fired]
    exact ⟨_, rfl, rfl, rfl⟩
  | writing n =>
    rw [found] at waits
    cases waits
  | finished result =>
    rw [found] at waits
    cases waits

/-- The publish ends as soon as it goes on. -/
theorem advance_self (h : d.Withdrawn i) :
    (d.advance i).phase i = some (.finished (.error .cancelled)) ∧ (d.advance i).Withdrawn i := by
  obtain ⟨c, known, fired, waits | ended⟩ := h.call
  · obtain ⟨d₁, went, calls, sent⟩ := advance_of_fired known fired waits
    have call : (d.advance i).lane.calls[i]? =
        some { c with phase := .finished (.error .cancelled) } := by
      rw [went]
      show (d₁.lane.calls.modify i _)[i]? = _
      rw [List.getElem?_modify_eq, calls, known]
      rfl
    refine ⟨phase_of_call call, ⟨⟨_, call, fired, .inr rfl⟩, ?_⟩⟩
    rw [went]
    show ∀ s ∈ d₁.sent, s.call ≠ i
    rw [sent]
    exact h.unsent
  · have idle : d.advance i = d := by
      unfold Desk.advance
      rw [known]
      dsimp only
      rw [ended]
    rw [idle]
    exact ⟨ended ▸ phase_of_call known, h⟩

theorem act (h : d.Withdrawn i) (m : Move) : (d.act m).Withdrawn i := by
  cases own : m.isOf i with
  | false =>
    obtain ⟨c, known, state⟩ := h.call
    refine ⟨⟨c, call_act known own, state⟩, ?_⟩
    intro s mem
    obtain same | ⟨t, rfl, more⟩ := sent_act d m
    · exact h.unsent s (same ▸ mem)
    · have ne : i ≠ t.call := by simpa [Move.isOf] using own
      rw [more] at mem
      obtain mem | new := List.mem_append.1 mem
      · exact h.unsent s mem
      · cases List.mem_singleton.1 new
        exact ne.symm
  | true =>
    obtain rfl | rfl | ⟨result, rfl⟩ := Move.of_isOf own
    · obtain ⟨c, known, fired, state⟩ := h.call
      refine ⟨⟨{ c with cancelled := true }, ?_, rfl, state⟩, h.unsent⟩
      show (d.lane.calls.modify i _)[i]? = _
      rw [List.getElem?_modify_eq, known]
      rfl
    · exact h.advance_self.2
    · obtain ⟨c, known, fired, state⟩ := h.call
      show (d.written i result).Withdrawn i
      unfold Desk.written
      split
      · next writes =>
        cases known.symm.trans writes
        obtain waits | ended := state
        · cases waits
        · cases ended
      · exact h

/-- What others do to the tracker and the log is nothing to the publish. -/
theorem elsewhere (h : d.Withdrawn i) (tracker : Tracker) (log : List Log.Event) :
    Withdrawn i { d with tracker, log } := ⟨h.call, h.unsent⟩

end Withdrawn

/-! ## A token that fires while its publish writes -/

/-- A publish that waits for nothing any more: it writes, or is over. -/
def Past (i : Nat) (d : Desk) : Prop :=
  ∃ c, d.lane.calls[i]? = some c ∧ c.phase.isWaiting = false

theorem onWindow_cancel (d : Desk) (i : Nat) (f : Gate → Gate) :
    (d.cancel i).onWindow f = (d.onWindow f).cancel i := rfl

theorem onTurn_cancel (d : Desk) (i : Nat) (f : Gate → Gate) :
    (d.cancel i).onTurn f = (d.onTurn f).cancel i := rfl

theorem setPhase_cancel (d : Desk) (i j : Nat) (p : Phase) :
    (d.cancel i).setPhase j p = (d.setPhase j p).cancel i := by
  have calls := modify_comm (f := fun c : Call => { c with cancelled := true })
    (g := fun c => { c with phase := p }) (fun _ => rfl) d.lane.calls i j
  exact congrArg (fun calls => { d with lane := { d.lane with calls } }) calls

theorem write_cancel (d : Desk) (i j : Nat) (frame : Frame) :
    (d.cancel i).write j frame = (d.write j frame).cancel i := by
  unfold Desk.write
  dsimp only
  rw [setPhase_cancel]
  rfl

theorem resolve_cancel (d : Desk) (i n : Nat) (a : Confirmation) :
    (d.cancel i).resolve n a = (d.resolve n a).cancel i := by
  cases a <;> rfl

theorem advance_of_past (known : d.lane.calls[i]? = some c) (past : c.phase.isWaiting = false) :
    d.advance i = d := by
  unfold Desk.advance
  rw [known]
  dsimp only
  cases found : c.phase with
  | writing n => rfl
  | finished result => rfl
  | arriving | awaitingPlace | placed | awaitingTurn =>
    rw [found] at past
    cases past

theorem advance_cancel (d : Desk) (other : j ≠ i) :
    (d.cancel i).advance j = (d.advance j).cancel i := by
  have same : (d.cancel i).lane.calls[j]? = d.lane.calls[j]? :=
    List.getElem?_modify_ne _ _ other.symm
  have window : (d.cancel i).lane.window = d.lane.window := rfl
  have turn : (d.cancel i).lane.turn = d.lane.turn := rfl
  unfold Desk.advance
  rw [same, window, turn]
  cases d.lane.calls[j]? with
  | none => rfl
  | some c =>
    dsimp only
    cases c.phase with
    | writing n => rfl
    | finished result => rfl
    | arriving | placed =>
      dsimp only
      split <;> simp only [onWindow_cancel, onTurn_cancel, setPhase_cancel]
    | awaitingPlace | awaitingTurn =>
      dsimp only
      split
      · simp only [onWindow_cancel, onTurn_cancel, setPhase_cancel]
      · split
        · simp only [onWindow_cancel, onTurn_cancel, setPhase_cancel, write_cancel]
        · rfl

theorem written_cancel (d : Desk) (i j : Nat) (result : Except BrokerError Unit) :
    (d.cancel i).written j result = (d.written j result).cancel i := by
  have call : (d.cancel i).lane.calls[j]? =
      d.lane.calls[j]?.map fun c => if i = j then { c with cancelled := true } else c := by
    show (d.lane.calls.modify i _)[j]? = _
    rw [List.getElem?_modify]
    cases d.lane.calls[j]? <;> split <;> rfl
  unfold Desk.written
  cases known : d.lane.calls[j]? with
  | none =>
    rw [call, known]
    rfl
  | some c =>
    obtain ⟨frame, cancelled, phase⟩ := c
    have same : ∃ token, (d.cancel i).lane.calls[j]? = some ⟨frame, token, phase⟩ := by
      rw [call, known]
      by_cases own : i = j
      · exact ⟨true, congrArg some (if_pos own)⟩
      · exact ⟨cancelled, congrArg some (if_neg own)⟩
    obtain ⟨token, call⟩ := same
    rw [call]
    cases phase with
    | writing n =>
      cases result with
      | ok _ =>
        dsimp only
        rw [onTurn_cancel, setPhase_cancel]
        rfl
      | error e =>
        dsimp only
        rw [onTurn_cancel, onWindow_cancel, setPhase_cancel]
        rfl
    | _ => rfl

theorem unwatch_cancel (d : Desk) (i j : Nat) :
    (d.cancel i).unwatch j = (d.unwatch j).cancel i := by
  have watches : (d.cancel i).lane.watches = d.lane.watches := rfl
  unfold Desk.unwatch
  rw [watches]
  split
  · rw [resolve_cancel]
    rfl
  · rfl

/-- A publish that writes, or is over, is the same in all that follows if its token fires. -/
theorem cancel_act (past : d.Past i) (m : Move) :
    (d.cancel i).act m = (d.act m).cancel i := by
  obtain ⟨c, known, past⟩ := past
  cases m with
  | call frame cancelled =>
    obtain ⟨bound, _⟩ := List.getElem?_eq_some_iff.1 known
    have calls := modify_append (fun c : Call => { c with cancelled := true }) d.lane.calls
      ⟨frame, cancelled, .arriving⟩ bound
    exact congrArg (fun calls => { d with lane := { d.lane with calls } }) calls.symm
  | cancel j =>
    exact congrArg (fun calls => { d with lane := { d.lane with calls } })
      (modify_comm (fun _ => rfl) d.lane.calls i j)
  | advance j =>
    by_cases same : j = i
    · subst same
      have known' : (d.cancel j).lane.calls[j]? = some { c with cancelled := true } := by
        show (d.lane.calls.modify j _)[j]? = _
        rw [List.getElem?_modify_eq, known]
        rfl
      show (d.cancel j).advance j = (d.advance j).cancel j
      rw [advance_of_past known past, advance_of_past known' past]
    · exact advance_cancel d same
  | written j result => exact written_cancel d i j result
  | confirm n a => rfl
  | loseAll e => rfl
  | unwatch j => exact unwatch_cancel d i j

/-- A publish that writes goes on writing until its write ends, and ends as that does. -/
theorem act_of_writing (known : d.phase i = some (.writing n)) (m : Move) :
    (∀ result, m ≠ .written i result) ∧ (d.act m).phase i = some (.writing n) ∨
    ∃ result, m = .written i result ∧
      (d.act m).phase i = some (.finished (result.map fun _ => n)) := by
  obtain ⟨c, call, writes⟩ := call_of_phase known
  cases own : m.isOf i with
  | false =>
    refine .inl ⟨?_, ?_⟩
    · rintro result rfl
      simp [Move.isOf] at own
    · rw [phase_of_call (call_act call own), writes]
  | true =>
    obtain rfl | rfl | ⟨result, rfl⟩ := Move.of_isOf own
    · refine .inl ⟨?_, ?_⟩
      · intro result same
        cases same
      · show (d.cancel i).phases[i]? = _
        rw [phases_cancel]
        exact known
    · refine .inl ⟨?_, ?_⟩
      · intro result same
        cases same
      · show (d.advance i).phase i = _
        rw [advance_of_past call (writes ▸ rfl), known]
    · refine .inr ⟨result, rfl, ?_⟩
      obtain ⟨frame, cancelled, phase⟩ := c
      cases writes
      show (d.written i result).phase i = _
      unfold Desk.written
      rw [call]
      cases result with
      | ok _ =>
        have writing : (d.onTurn (·.release)).phase i = some (.writing n) := known
        show ((d.onTurn (·.release)).setPhase i (.finished (.ok n))).phase i = _
        rw [phase_setPhase writing, if_pos rfl]
        rfl
      | error e =>
        have writing : ((d.onTurn (·.release)).onWindow (·.release)).phase i = some (.writing n) :=
          known
        show (((d.onTurn (·.release)).onWindow (·.release)).setPhase i
          (.finished (.error e))).phase i = _
        rw [phase_setPhase writing, if_pos rfl]
        rfl

/-- The frame of a publish that writes is on the wire, once. -/
theorem Numbered.filter_sent (h : d.Numbered) (known : d.phase i = some (.writing n)) {f : Frame}
    (frame : d.frames[i]? = some f) :
    d.sent.filter (·.call == i) =
      [⟨i, n, { f with properties := f.properties.withSequence n }, true⟩] := by
  obtain ⟨front, s, split, own, number, others⟩ := h.sent_writing known
  have mem : s ∈ d.sent := split ▸ mem_concat.2 (.inr rfl)
  obtain ⟨g, found, written⟩ := h.frame s mem
  rw [own, frame] at found
  cases found
  have none : front.filter (·.call == i) = [] :=
    List.filter_eq_nil_iff.2 fun t mem same => others t mem (beq_iff_eq.1 same)
  have outstanding := h.outstanding s mem
  obtain ⟨call, sequence, frame, tracked⟩ := s
  cases own
  cases number
  cases outstanding
  dsimp only at written
  subst written
  rw [split, List.filter_append, none, List.nil_append, List.filter_singleton, beq_self_eq_true]
  rfl

/-- No other frame of a publish that writes, or is over, goes to the wire. -/
theorem filter_sent_act (past : d.Past i) (m : Move) :
    (d.act m).sent.filter (·.call == i) = d.sent.filter (·.call == i) := by
  obtain ⟨c, known, past⟩ := past
  obtain same | ⟨s, rfl, more⟩ := sent_act d m
  · rw [same]
  · by_cases own : s.call = i
    · subst own
      exact congrArg (fun d : Desk => d.sent.filter (·.call == s.call)) (advance_of_past known past)
    · have other : (s.call == i) = false := beq_false_of_ne own
      rw [more, List.filter_append, List.filter_singleton, other]
      exact List.append_nil _

/-- A publish that is over stays so. -/
theorem act_of_finished {result : Except BrokerError Nat}
    (known : d.phase i = some (.finished result)) (m : Move) :
    (d.act m).phase i = some (.finished result) := by
  obtain ⟨c, call, ended⟩ := call_of_phase known
  cases own : m.isOf i with
  | false => rw [phase_of_call (call_act call own), ended]
  | true =>
    obtain rfl | rfl | ⟨result, rfl⟩ := Move.of_isOf own
    · show (d.cancel i).phases[i]? = _
      rw [phases_cancel]
      exact known
    · show (d.advance i).phase i = _
      rw [advance_of_past call (ended ▸ rfl), known]
    · show (d.written i result).phase i = _
      unfold Desk.written
      split
      · next writes =>
        cases call.symm.trans writes
        cases ended
      · exact known

theorem Past.act (past : d.Past i) (m : Move) : (d.act m).Past i := by
  obtain ⟨c, known, past⟩ := past
  have phase := phase_of_call known
  have of_phase {p : Phase} (known : (d.act m).phase i = some p) (past : p.isWaiting = false) :
      (d.act m).Past i := by
    obtain ⟨c, call, rfl⟩ := call_of_phase known
    exact ⟨c, call, past⟩
  cases found : c.phase with
  | arriving | awaitingPlace | placed | awaitingTurn =>
    rw [found] at past
    cases past
  | writing n =>
    rw [found] at phase
    obtain ⟨_, writes⟩ | ⟨result, _, ended⟩ := act_of_writing phase m
    · exact of_phase writes rfl
    · exact of_phase ended rfl
  | finished result =>
    rw [found] at phase
    exact of_phase (act_of_finished phase m) rfl

theorem result?_cancel (d : Desk) (i j : Nat) : (d.cancel i).result? j = d.result? j := by
  apply Option.ext
  intro result
  rw [result?_eq_some, result?_eq_some]
  unfold Desk.phase
  rw [phases_cancel]

end Desk

end Courier.Confirm
