import Courier.Proofs.Reception.Standard

/-!
# Any assembly of the stages

The stages of receiving, in any order and however often. What a reception holds between two stages
is known from its body and the stages that it has passed (`Reception.held`), and so is whether a
stage can go on (`Reception.Hinders`). The first one that cannot ends the run; where there is none,
the message is dispatched at the end, to the scope that was opened last (`Reception.run_assembly`).
-/

namespace Courier
set_option autoImplicit false
open Acting

variable {σ : Type}

/-- Does work a number of times. The last answer is given; without any, the one from before. -/
def Work.repeated {α : Type} (act : Work σ α) : Nat → Option α → Work σ (Option α)
  | 0, last => return last
  | n + 1, _ => do
    let answer ← act
    Work.repeated act n (some answer)

namespace Reception

/-- A stage of receiving, by what it does. -/
inductive Part where
  | extraction
  | resolution
  | decoding
  | scoping
  deriving DecidableEq

/-- The stage of a part. -/
def Part.stage (registry : Registry) (opening : Work σ (Scope σ)) : Part → Stage σ
  | .extraction => Reception.extraction
  | .resolution => Reception.resolution registry
  | .decoding => Reception.decoding
  | .scoping => Reception.scoping opening

/-- The standard stages are one of every part. -/
theorem standard_eq_map (registry : Registry) (opening : Work σ (Scope σ)) :
    standard registry opening =
      [.extraction, .resolution, .decoding, .scoping].map (Part.stage registry opening) := rfl

/-! ## What a stage needs -/

/-- Why a part cannot go on after others: something that one of those should have left is missing,
or it is there and the part fails by itself. -/
inductive Hinders (registry : Registry) (body : Octets) (passed : List Part) :
    Part → MessagingError → Prop where
  | malformed (fault : Json.Error)
    (decoded : Envelope.decode body = .error (.malformedEnvelope fault)) :
    Hinders registry body passed .extraction (.malformedEnvelope fault)
  | unextracted (missing : .extraction ∉ passed) :
    Hinders registry body passed .resolution (.pipelineState "type resolution")
  | unknown (e : Envelope) (extracted : .extraction ∈ passed)
    (decoded : Envelope.decode body = .ok e) (unresolved : registry.resolve e.messageType = none) :
    Hinders registry body passed .resolution (.unknownMessageType e.messageType)
  | unresolved (missing : .resolution ∉ passed) :
    Hinders registry body passed .decoding (.pipelineState "payload deserialization")
  | undecodable (e : Envelope) (registration : Registration) (fault : Json.Error)
    (found : .resolution ∈ passed) (decoded : Envelope.decode body = .ok e)
    (resolved : registry.resolve e.messageType = some registration)
    (refused : registration.decode (Utf8.encode e.payload) = .error fault) :
    Hinders registry body passed .decoding (.serialization e.messageType fault)
  | contextless (missing : .extraction ∉ passed) :
    Hinders registry body passed .scoping (.pipelineState "handler scope")

/-- No part is hindered after those before it. -/
def Clear (registry : Registry) (body : Octets) (parts : List Part) : Prop :=
  ∀ passed part later, parts = passed ++ part :: later →
    ∀ e, ¬Hinders registry body passed part e

section Clear

variable {registry : Registry} {body : Octets} {parts : List Part} {part : Part}

theorem clear_nil (registry : Registry) (body : Octets) : Clear registry body [] := by
  intro passed part later split
  cases passed <;> cases split

/-- Parts stay clear with one more that can go on. -/
theorem Clear.concat (clear : Clear registry body parts)
    (free : ∀ e, ¬Hinders registry body parts part e) : Clear registry body (parts ++ [part]) := by
  intro passed other later split
  obtain rfl | ⟨before, last, rfl⟩ := later.eq_nil_or_concat
  · obtain ⟨rfl, same⟩ := List.append_inj' split rfl
    cases same
    exact free
  · have shorter : parts ++ [part] = (passed ++ other :: before) ++ [last] := by
      rw [split, List.concat_eq_append, ← List.cons_append, ← List.append_assoc]
    exact clear passed other before (List.append_inj' shorter rfl).1

theorem Clear.of_append {front back : List Part} (clear : Clear registry body (front ++ back)) :
    Clear registry body front := by
  intro passed part later split
  apply clear passed part (later ++ back)
  rw [split, List.append_assoc, List.cons_append]

/-- A part among clear ones was not hindered where it stood. -/
theorem Clear.free (clear : Clear registry body parts) (mem : part ∈ parts) :
    ∃ passed, passed ⊆ parts ∧ ∀ e, ¬Hinders registry body passed part e := by
  obtain ⟨passed, later, rfl⟩ := List.append_of_mem mem
  exact ⟨passed, List.subset_append_left _ _, clear passed part later rfl⟩

/-- Where the body was extracted, it holds an envelope. -/
theorem Clear.decoded (clear : Clear registry body parts) (extracted : .extraction ∈ parts) :
    ∃ e, Envelope.decode body = .ok e := by
  obtain ⟨passed, _, free⟩ := clear.free extracted
  cases decoded : Envelope.decode body with
  | ok e => exact ⟨e, rfl⟩
  | error cause =>
    obtain ⟨fault, rfl⟩ := Envelope.malformed_of_decode decoded
    exact absurd (.malformed fault decoded) (free _)

/-- Where a scope was opened, the body was extracted. -/
theorem Clear.contextual (clear : Clear registry body parts) (entered : .scoping ∈ parts) :
    .extraction ∈ parts ∧ ∃ e, Envelope.decode body = .ok e := by
  obtain ⟨passed, within, free⟩ := clear.free entered
  have extracted : .extraction ∈ passed :=
    Decidable.byContradiction fun missing => free _ (.contextless missing)
  exact ⟨within extracted, clear.decoded (within extracted)⟩

/-- Where the type was found, the body was extracted and names a registered type. -/
theorem Clear.resolved (clear : Clear registry body parts) (found : .resolution ∈ parts) :
    .extraction ∈ parts ∧ ∃ e registration, Envelope.decode body = .ok e ∧
      registry.resolve e.messageType = some registration := by
  obtain ⟨passed, within, free⟩ := clear.free found
  have extracted : .extraction ∈ passed :=
    Decidable.byContradiction fun missing => free _ (.unextracted missing)
  obtain ⟨e, decoded⟩ := clear.decoded (within extracted)
  refine ⟨within extracted, e, ?_⟩
  cases resolved : registry.resolve e.messageType with
  | some registration => exact ⟨registration, decoded, rfl⟩
  | none => exact absurd (.unknown e extracted decoded resolved) (free _)

/-- Where the payload was decoded, the type was found and the payload is a message of it. -/
theorem Clear.read (clear : Clear registry body parts) (opened : .decoding ∈ parts) :
    .resolution ∈ parts ∧ ∃ e registration m, Envelope.decode body = .ok e ∧
      registry.resolve e.messageType = some registration ∧
      registration.decode (Utf8.encode e.payload) = .ok m := by
  obtain ⟨passed, within, free⟩ := clear.free opened
  have found : .resolution ∈ passed :=
    Decidable.byContradiction fun missing => free _ (.unresolved missing)
  obtain ⟨_, e, registration, decoded, resolved⟩ := clear.resolved (within found)
  refine ⟨within found, e, registration, ?_⟩
  cases read : registration.decode (Utf8.encode e.payload) with
  | ok m => exact ⟨m, decoded, resolved, rfl⟩
  | error fault =>
    exact (free _ (.undecodable e registration fault found decoded resolved read)).elim

/-- Nothing is hindered any more once the payload was decoded. -/
theorem Clear.free_of_decoding (clear : Clear registry body parts) (opened : .decoding ∈ parts)
    (part : Part) (e : MessagingError) : ¬Hinders registry body parts part e := by
  obtain ⟨found, e, registration, m, decoded, resolved, read⟩ := clear.read opened
  obtain ⟨extracted, _⟩ := clear.resolved found
  intro hinders
  cases hinders with
  | malformed fault malformed => cases decoded.symm.trans malformed
  | unextracted missing | contextless missing => exact missing extracted
  | unknown e' _ decoded' unresolved =>
    cases decoded.symm.trans decoded'
    cases resolved.symm.trans unresolved
  | unresolved missing => exact missing found
  | undecodable e' registration' fault _ decoded' resolved' refused =>
    cases decoded.symm.trans decoded'
    cases resolved.symm.trans resolved'
    cases read.symm.trans refused

end Clear

/-! ## What a reception holds -/

section Held

variable (registry : Registry) (body : Octets)

/-- The envelope in a body. -/
def said : Option Envelope := (Envelope.decode body).toOption

/-- The registration of the type that a body names. -/
def known : Option Registration := (said body).bind fun e => registry.resolve e.messageType

/-- The message in a body. -/
def meant : Option Message := do
  let e ← said body
  let registration ← known registry body
  (registration.message e.payload).toOption

/-- What a reception that began with a body alone holds after some parts, with the scope that was
opened last and the surroundings that it has by then. -/
def held (passed : List Part) (inner : Option (Scope σ)) (around : Surroundings σ) :
    Reception σ where
  body
  envelope := if .extraction ∈ passed then said body else none
  registration := if .resolution ∈ passed then known registry body else none
  message := if .decoding ∈ passed then meant registry body else none
  scope := inner.map fun scope => { scope with flow := ⟨(said body).map (·.context)⟩ }
  context := if .extraction ∈ passed then (said body).map (·.context) else none
  around

end Held

/-- A reception after its scopes were closed, if some of the parts before opened any. -/
def leave (r : Reception σ) (front : List Part) : Reception σ :=
  if .scoping ∈ front then { r with scope := none } else r

@[simp] theorem message_leave (r : Reception σ) (front : List Part) :
    (r.leave front).message = r.message := by
  unfold leave
  split <;> rfl

@[simp] theorem around_leave (r : Reception σ) (front : List Part) :
    (r.leave front).around = r.around := by
  unfold leave
  split <;> rfl

theorem scope_leave {r : Reception σ} {front : List Part}
    (unopened : .scoping ∉ front → r.scope = none) : (r.leave front).scope = none := by
  unfold leave
  split
  · rfl
  · next missing => exact unopened missing

theorem leave_scoping (r : Reception σ) (front : List Part) :
    { r.leave front with scope := none } = r.leave (.scoping :: front) := by
  unfold leave
  rw [if_pos List.mem_cons_self]
  split <;> rfl

theorem leave_cons {part : Part} (unscoped : part ≠ .scoping) (r : Reception σ)
    (front : List Part) : r.leave (part :: front) = r.leave front := by
  unfold leave
  simp [Ne.symm unscoped]

section Parts

variable {registry : Registry} {body : Octets} {passed : List Part} {part : Part}
  {inner : Option (Scope σ)} {around : Surroundings σ} {opening : Work σ (Scope σ)}
  {rest : Step σ Unit} {e : Envelope} {registration : Registration} {m : Message}

theorem said_eq (decoded : Envelope.decode body = .ok e) : said body = some e := by
  unfold said
  rw [decoded]
  rfl

theorem known_eq (decoded : Envelope.decode body = .ok e)
    (resolved : registry.resolve e.messageType = some registration) :
    known registry body = some registration := by
  unfold known
  rw [said_eq decoded]
  exact resolved

theorem meant_eq (decoded : Envelope.decode body = .ok e)
    (resolved : registry.resolve e.messageType = some registration)
    (read : registration.decode (Utf8.encode e.payload) = .ok m) :
    meant registry body = some m := by
  unfold meant
  rw [said_eq decoded, known_eq decoded resolved]
  simp only [Option.bind_eq_bind, Option.bind_some, Registration.message_of_decode read]
  rfl

theorem held_extracted (extracted : .extraction ∈ passed)
    (decoded : Envelope.decode body = .ok e) :
    (held registry body passed inner around).envelope = some e ∧
      (held registry body passed inner around).context = some e.context := by
  unfold held
  dsimp only
  rw [if_pos extracted, if_pos extracted, said_eq decoded]
  exact ⟨rfl, rfl⟩

theorem held_resolved (found : .resolution ∈ passed) (decoded : Envelope.decode body = .ok e)
    (resolved : registry.resolve e.messageType = some registration) :
    (held registry body passed inner around).registration = some registration := by
  unfold held
  dsimp only
  rw [if_pos found, known_eq decoded resolved]

/-! ## One part -/

/-- A part that is hindered ends the run, and at most reports it. -/
theorem part_hindered {cause : MessagingError} (clear : Clear registry body passed)
    (hinders : Hinders registry body passed part cause) (opening : Work σ (Scope σ))
    (rest : Step σ Unit) (inner : Option (Scope σ)) (around : Surroundings σ) :
    ∃ log, (part.stage registry opening rest).run (held registry body passed inner around) =
      (.error cause, held registry body passed inner { around with log }) := by
  cases hinders with
  | malformed fault decoded => exact ⟨around.log, extraction_fails decoded⟩
  | unextracted missing =>
    have nothing : (held registry body passed inner around).messageType = none := by
      unfold messageType held
      rw [if_neg missing]
      rfl
    refine ⟨around.log, ?_⟩
    unfold Part.stage resolution
    rw [get_bind, nothing]
    rfl
  | unknown e extracted decoded unresolved =>
    exact ⟨_, resolution_fails (held_extracted extracted decoded).1 unresolved⟩
  | unresolved missing =>
    have nothing : (held registry body passed inner around).registration = none :=
      if_neg missing
    refine ⟨around.log, ?_⟩
    unfold Part.stage decoding
    rw [get_bind, nothing]
    cases (held registry body passed inner around).envelope <;> rfl
  | undecodable e registration fault found decoded resolved refused =>
    obtain ⟨extracted, _⟩ := clear.resolved found
    exact ⟨around.log, decoding_fails (held_extracted extracted decoded).1
      (held_resolved found decoded resolved) (Registry.message_of_refused resolved refused)⟩
  | contextless missing =>
    have nothing : (held registry body passed inner around).context = none := if_neg missing
    refine ⟨around.log, ?_⟩
    unfold Part.stage scoping
    rw [get_bind, nothing]
    rfl

/-- What a part that is no scope and is not hindered leaves to the rest. -/
theorem part_free (clear : Clear registry body (passed ++ [part])) (unscoped : part ≠ .scoping) :
    (part.stage registry opening rest).run (held registry body passed inner around) =
      rest.run (held registry body (passed ++ [part]) inner around) := by
  have mem : part ∈ passed ++ [part] := List.mem_append_right passed List.mem_cons_self
  cases part with
  | extraction =>
    obtain ⟨e, decoded⟩ := clear.decoded mem
    refine (extraction_run decoded).trans (congrArg rest.run ?_)
    simp [held, said_eq decoded]
  | resolution =>
    obtain ⟨extracted, e, registration, decoded, resolved⟩ := clear.resolved mem
    have before : .extraction ∈ passed := by simpa using extracted
    refine (resolution_run (held_extracted before decoded).1 resolved).trans (congrArg rest.run ?_)
    simp [held, known_eq decoded resolved]
  | decoding =>
    obtain ⟨found, e, registration, m, decoded, resolved, read⟩ := clear.read mem
    obtain ⟨extracted, _⟩ := clear.resolved found
    have before : .extraction ∈ passed := by simpa using extracted
    have found' : .resolution ∈ passed := by simpa using found
    refine (decoding_run (held_extracted before decoded).1 (held_resolved found' decoded resolved)
      (Registration.message_of_decode read)).trans (congrArg rest.run ?_)
    simp [held, meant_eq decoded resolved read]
  | scoping => exact absurd rfl unscoped

/-- A scope is opened inside those that are open, and none is left afterwards. -/
theorem scoping_free (clear : Clear registry body (passed ++ [.scoping])) :
    (scoping opening rest).run (held registry body passed inner around) =
      let opened := opening around
      let ended := rest.run (held registry body (passed ++ [.scoping]) (some opened.1) opened.2)
      (ended.1, { ended.2 with scope := none }) := by
  have mem : .scoping ∈ passed ++ [Part.scoping] := by simp
  obtain ⟨extracted, e, decoded⟩ := clear.contextual mem
  have before : .extraction ∈ passed := by simpa using extracted
  have context : (held registry body passed inner around).context = some e.context :=
    (held_extracted before decoded).2
  have entered (scope : Scope σ) (opened : Surroundings σ) :
      { held registry body passed inner around with
        around := opened
        scope := some { scope with flow := .of e.context }
        context := some e.context } =
      held registry body (passed ++ [.scoping]) (some scope) opened := by
    simp [held, said_eq decoded, before, Flow.of]
  rw [scoping_run opening context]
  simp only [entered]
  rfl

end Parts

/-! ## Parts in order -/

/-- Either no part is hindered or one of them is the first. -/
theorem clear_or_hindered (registry : Registry) (body : Octets) (parts : List Part) :
    Clear registry body parts ∨
      ∃ passed part later e, parts = passed ++ part :: later ∧ Clear registry body passed ∧
        Hinders registry body passed part e := by
  suffices extend : ∀ passed, Clear registry body passed → Clear registry body (passed ++ parts) ∨
      ∃ front part later e, passed ++ parts = front ++ part :: later ∧
        Clear registry body front ∧ Hinders registry body front part e from
    extend [] (clear_nil registry body)
  induction parts with
  | nil =>
    intro passed clear
    rw [List.append_nil]
    exact .inl clear
  | cons part parts ih =>
    intro passed clear
    by_cases hindered : ∃ e, Hinders registry body passed part e
    · obtain ⟨e, hinders⟩ := hindered
      exact .inr ⟨passed, part, parts, e, rfl, clear, hinders⟩
    · have next := ih (passed ++ [part]) (clear.concat fun e hinders => hindered ⟨e, hinders⟩)
      rwa [List.append_assoc, List.singleton_append] at next

/-- Parts that can all go on hand over to the rest what a reception holds after them; a scope that
one of them opened is closed again. -/
theorem run_clear {registry : Registry} {body : Octets} {passed front : List Part}
    (clear : Clear registry body (passed ++ front)) (opening : Work σ (Scope σ))
    (rest : Step σ Unit) (inner : Option (Scope σ)) (around : Surroundings σ) :
    (Pipeline.run (front.map (Part.stage registry opening)) rest).run
        (held registry body passed inner around) =
      let opened := Work.repeated opening (front.count .scoping) inner around
      let ended := rest.run (held registry body (passed ++ front) opened.1 opened.2)
      (ended.1, ended.2.leave front) := by
  induction front generalizing passed inner around with
  | nil =>
    rw [List.append_nil]
    rfl
  | cons part front ih =>
    have split : passed ++ part :: front = (passed ++ [part]) ++ front := by simp
    rw [split] at clear ⊢
    have first : Clear registry body (passed ++ [part]) := clear.of_append
    rw [List.map_cons, Pipeline.run_cons]
    by_cases scopes : part = .scoping
    · subst scopes
      refine (scoping_free first).trans ?_
      simp only [ih clear, leave_scoping, List.count_cons_self]
      rfl
    · rw [part_free first scopes, ih clear, List.count_cons_of_ne scopes]
      simp only [leave_cons scopes]

/-! ## The dispatch at the end -/

section Dispatch

variable {registry : Registry} {body : Octets} {parts : List Part} {inner : Option (Scope σ)}
  {around : Surroundings σ}

theorem dispatch_undecoded (missing : .decoding ∉ parts) :
    dispatch.run (held registry body parts inner around) =
      (.error (.pipelineState "dispatch"), held registry body parts inner around) := by
  have nothing : (held registry body parts inner around).message = none := if_neg missing
  unfold dispatch
  rw [get_bind, nothing]
  rfl

/-- A message that is taken without a scope is gone. -/
theorem dispatch_unopened (clear : Clear registry body parts) (decoded : .decoding ∈ parts) :
    dispatch.run (held registry body parts none around) =
      (.error (.pipelineState "dispatch"),
        { held registry body parts none around with message := none }) := by
  obtain ⟨_, e, registration, m, body_eq, resolved, read⟩ := clear.read decoded
  have message : (held registry body parts none around).message = some m := by
    simp [held, decoded, meant_eq body_eq resolved read]
  unfold dispatch
  rw [get_bind, message]
  dsimp only
  rw [modify_bind, get_bind]
  rfl

theorem dispatch_opened {scope : Scope σ} {e : Envelope} {registration : Registration}
    {m : Message} (clear : Clear registry body parts) (decoded : .decoding ∈ parts)
    (body_eq : Envelope.decode body = .ok e)
    (resolved : registry.resolve e.messageType = some registration)
    (read : registration.decode (Utf8.encode e.payload) = .ok m) :
    dispatch.run (held registry body parts (some scope) around) =
      let invoked := scope.invoke m e.context around
      (invoked.1.mapError .handler,
        { held registry body parts (some scope) around with
          message := none
          around := invoked.2 }) := by
  obtain ⟨found, _⟩ := clear.read decoded
  obtain ⟨extracted, _⟩ := clear.resolved found
  have message : (held registry body parts (some scope) around).message = some m := by
    simp [held, decoded, meant_eq body_eq resolved read]
  have opened : (held registry body parts (some scope) around).scope =
      some { scope with flow := ⟨(said body).map (·.context)⟩ } := rfl
  have ran := dispatch_run message opened (held_extracted extracted body_eq).2
  exact ran

end Dispatch

/-! ## Watching the openings -/

/-- Whether a handler's turn is asked for. -/
def Asked.isTurn : Asked → Bool
  | .scope => false
  | .turn _ => true

theorem repeated_zero {α : Type} (act : Work σ α) (last : Option α) (s : Surroundings σ) :
    Work.repeated act 0 last s = (last, s) := rfl

theorem repeated_succ {α : Type} (act : Work σ α) (n : Nat) (last : Option α)
    (s : Surroundings σ) :
    Work.repeated act (n + 1) last s = Work.repeated act n (some (act s).1) (act s).2 := rfl

/-- Work that was done at all has an answer. -/
theorem repeated_answers {α : Type} (act : Work σ α) {n : Nat} (done : 0 < n) (last : Option α)
    (s : Surroundings σ) : ∃ answer t, Work.repeated act n last s = (some answer, t) := by
  induction n generalizing last s with
  | zero => exact absurd done (Nat.lt_irrefl 0)
  | succ n ih =>
    rw [repeated_succ]
    cases n with
    | zero => exact ⟨_, _, rfl⟩
    | succ n =>
      apply ih
      exact Nat.succ_pos n

/-- Scopes that are opened one inside the other, each noted; the last one is made by the
registrations that were given last. -/
theorem repeated_openWatched (opening : Work σ (List (Contract × Handler σ))) (n : Nat)
    (last : Option (List (Contract × Handler σ))) (s : Surroundings σ) (asked : List Asked) :
    Work.repeated (Scope.openWatched opening) n (last.map Scope.watched) (s.with asked) =
      let given := Work.repeated opening n last s
      (given.1.map Scope.watched, given.2.with (asked ++ List.replicate n .scope)) := by
  induction n generalizing last s asked with
  | zero => simp [repeated_zero]
  | succ n ih =>
    have first : Scope.openWatched opening (s.with asked) =
        (Scope.watched (opening s).1, (opening s).2.with (asked ++ [.scope])) := rfl
    have next := ih (some (opening s).1) (opening s).2 (asked ++ [.scope])
    rw [repeated_succ, repeated_succ, first]
    simpa [List.replicate_succ] using next

/-! ## The whole run -/

section Runs

variable {registry : Registry} {body : Octets} {parts passed : List Part} {part : Part}
  (opening : Work σ (Scope σ)) (around : Surroundings σ)

theorem held_nil (registry : Registry) (body : Octets) :
    held registry body [] none around = { body, around } := by
  simp [held]

/-- Without a part that opens one there is no scope. -/
theorem repeated_unopened (missing : .scoping ∉ parts) :
    Work.repeated opening (parts.count .scoping) none around = (none, around) := by
  rw [List.count_eq_zero_of_not_mem missing, repeated_zero]

/-- The first part that is hindered ends the run, after the openings before it. -/
theorem run_hindered {e : MessagingError} (clear : Clear registry body passed)
    (hinders : Hinders registry body passed part e) (later : List Part) :
    let opened := Work.repeated opening (passed.count .scoping) none around
    let ran :=
      run ((passed ++ part :: later).map (Part.stage registry opening)) dispatch { body, around }
    ran.1 = .error e ∧ ran.2.scope = none ∧ ran.2.message = none ∧
      ran.2.around.world = opened.2.world := by
  have undecoded : .decoding ∉ passed := fun decoded =>
    clear.free_of_decoding decoded part e hinders
  unfold run
  rw [List.map_append, List.map_cons, Pipeline.run_append, Pipeline.run_cons,
    ← held_nil around registry, run_clear clear, List.nil_append]
  dsimp only
  obtain ⟨log, failed⟩ := part_hindered clear hinders opening
    (Pipeline.run (later.map (Part.stage registry opening)) dispatch)
    (Work.repeated opening (passed.count .scoping) none around).1
    (Work.repeated opening (passed.count .scoping) none around).2
  rw [failed]
  refine ⟨rfl, ?_, ?_, ?_⟩
  · apply scope_leave
    intro missing
    simp [held, repeated_unopened opening around missing]
  · simp [held, undecoded]
  · simp [held]

/-- Where no part is hindered the dispatch has the last word. -/
theorem run_unhindered (clear : Clear registry body parts) :
    let opened := Work.repeated opening (parts.count .scoping) none around
    let ended := dispatch.run (held registry body parts opened.1 opened.2)
    run (parts.map (Part.stage registry opening)) dispatch { body, around } =
      (ended.1, ended.2.leave parts) := by
  intro opened
  unfold run
  rw [← held_nil around registry, run_clear clear, List.nil_append]

/-- Without a decoded payload or an open scope there is nothing to dispatch. -/
theorem run_incomplete (clear : Clear registry body parts)
    (incomplete : .decoding ∉ parts ∨ .scoping ∉ parts) :
    let opened := Work.repeated opening (parts.count .scoping) none around
    let ran := run (parts.map (Part.stage registry opening)) dispatch { body, around }
    ran.1 = .error (.pipelineState "dispatch") ∧ ran.2.scope = none ∧ ran.2.message = none ∧
      ran.2.around = opened.2 := by
  rw [run_unhindered opening around clear]
  by_cases decoded : .decoding ∈ parts
  · have missing : .scoping ∉ parts := incomplete.resolve_left fun undecoded => undecoded decoded
    rw [repeated_unopened opening around missing, dispatch_unopened clear decoded]
    refine ⟨rfl, ?_, ?_, ?_⟩
    · exact scope_leave fun _ => rfl
    · simp
    · simp [held]
  · rw [dispatch_undecoded decoded]
    refine ⟨rfl, ?_, ?_, ?_⟩
    · apply scope_leave
      intro unopened
      simp [held, repeated_unopened opening around unopened]
    · simp [held, decoded]
    · simp [held]

/-- A message that was decoded goes to the scope that was opened last. -/
theorem run_dispatched (clear : Clear registry body parts) (decoded : .decoding ∈ parts)
    {scope : Scope σ} {opened : Surroundings σ}
    (entered : Work.repeated opening (parts.count .scoping) none around = (some scope, opened)) :
    ∃ e registration m, Envelope.decode body = .ok e ∧
      registry.resolve e.messageType = some registration ∧
      registration.decode (Utf8.encode e.payload) = .ok m ∧
      let invoked := scope.invoke m e.context opened
      let ran := run (parts.map (Part.stage registry opening)) dispatch { body, around }
      ran.1 = invoked.1.mapError .handler ∧ ran.2.scope = none ∧ ran.2.message = none ∧
        ran.2.around = invoked.2 := by
  obtain ⟨_, e, registration, m, body_eq, resolved, read⟩ := clear.read decoded
  refine ⟨e, registration, m, body_eq, resolved, read, ?_⟩
  rw [run_unhindered opening around clear, entered,
    dispatch_opened clear decoded body_eq resolved read]
  refine ⟨rfl, ?_, ?_, ?_⟩
  · apply scope_leave
    intro missing
    rw [repeated_unopened opening around missing] at entered
    cases entered
  · simp
  · simp

end Runs

/-- Any stages of receiving, in any order and however often, for a body of which nothing else is
known. Neither a scope nor a message is kept, and a handler has one turn at most. Either a stage is
hindered: then the first such stage gives the result, and nothing was done but to open the scopes of
the stages before it. Or none is: then the run fails in the dispatch where the payload was not
decoded or no scope was opened, and otherwise the message goes, in its context, to the handler that
the innermost scope has for its type. -/
theorem run_assembly (registry : Registry) (opening : Work σ (List (Contract × Handler σ)))
    (parts : List Part) (body : Octets) (around : Surroundings (σ × List Asked)) :
    let stages := parts.map (Part.stage registry (Scope.openWatched opening))
    let (result, ended) := run stages dispatch { body, around }
    let opened := fun n => Work.repeated opening n none around.alone
    ended.scope = none ∧ ended.message = none ∧
    ∃ asked, ended.around.world.2 = around.world.2 ++ asked ∧ asked.countP Asked.isTurn ≤ 1 ∧
      ((∃ passed part later e, parts = passed ++ part :: later ∧
          Clear registry body passed ∧ Hinders registry body passed part e ∧
          result = .error e ∧ asked = List.replicate (passed.count .scoping) .scope ∧
          ended.around.alone.world = (opened (passed.count .scoping)).2.world) ∨
        Clear registry body parts ∧
          let scopes := List.replicate (parts.count .scoping) Asked.scope
          (.decoding ∉ parts ∨ .scoping ∉ parts →
            result = .error (.pipelineState "dispatch") ∧ asked = scopes ∧
              ended.around.alone = (opened (parts.count .scoping)).2) ∧
          (.decoding ∈ parts → .scoping ∈ parts →
            ∃ e registration m registrations s, Envelope.decode body = .ok e ∧
              registry.resolve e.messageType = some registration ∧
              registration.decode (Utf8.encode e.payload) = .ok m ∧
              opened (parts.count .scoping) = (some registrations, s) ∧
              match registrations.reverse.lookup m.contract with
              | none =>
                result = .error (.handler (.noHandler m.contract.name)) ∧ asked = scopes ∧
                  ended.around.alone = s
              | some handler =>
                let (answer, handled) := handler m e.context s
                result = answer.mapError .handler ∧
                  asked = scopes ++ [.turn ⟨m.contract, m, e.context⟩] ∧
                  ended.around.alone = handled)) := by
  intro stages
  generalize ran : run stages dispatch { body, around } = ended
  obtain ⟨result, ended⟩ := ended
  dsimp only
  have noted (n : Nat) : Work.repeated (Scope.openWatched opening) n none around =
      let given := Work.repeated opening n none around.alone
      (given.1.map Scope.watched,
        given.2.with (around.world.2 ++ List.replicate n .scope)) :=
    repeated_openWatched opening n none around.alone around.world.2
  have unturned (n : Nat) : (List.replicate n Asked.scope).countP Asked.isTurn = 0 := by
    simp [List.countP_replicate, Asked.isTurn]
  rcases clear_or_hindered registry body parts with clear | hindered
  · by_cases complete : .decoding ∈ parts ∧ .scoping ∈ parts
    · obtain ⟨decoded, entered⟩ := complete
      obtain ⟨registrations, opened, given⟩ :=
        repeated_answers opening (List.count_pos_iff.2 entered) none around.alone
      -- the innermost scope is the one that these registrations made
      have innermost := noted (parts.count .scoping)
      rw [given] at innermost
      obtain ⟨e, registration, m, body_eq, resolved, read, answered⟩ :=
        run_dispatched (Scope.openWatched opening) around clear decoded innermost
      rw [ran, Scope.invoke_watched] at answered
      have settled : ¬(.decoding ∉ parts ∨ .scoping ∉ parts) := by simp [decoded, entered]
      cases found : registrations.reverse.lookup m.contract with
      | none =>
        rw [found] at answered
        obtain ⟨unhandled, scope, message, left⟩ := answered
        refine ⟨scope, message, List.replicate (parts.count .scoping) .scope, ?_, ?_,
          .inr ⟨clear, fun incomplete => absurd incomplete settled, fun _ _ => ?_⟩⟩
        · rw [left]
          rfl
        · rw [unturned]
          exact Nat.zero_le 1
        · refine ⟨e, registration, m, registrations, opened, body_eq, resolved, read, given, ?_⟩
          rw [found]
          exact ⟨unhandled, rfl, congrArg Surroundings.alone left⟩
      | some handler =>
        rw [found] at answered
        obtain ⟨handled, scope, message, left⟩ := answered
        refine ⟨scope, message, List.replicate (parts.count .scoping) .scope ++
          [.turn ⟨m.contract, m, e.context⟩], ?_, ?_,
          .inr ⟨clear, fun incomplete => absurd incomplete settled, fun _ _ => ?_⟩⟩
        · rw [left, ← List.append_assoc]
          rfl
        · rw [List.countP_append, unturned]
          exact Nat.le_refl 1
        · refine ⟨e, registration, m, registrations, opened, body_eq, resolved, read, given, ?_⟩
          rw [found]
          exact ⟨handled, rfl, congrArg Surroundings.alone left⟩
    · have incomplete : .decoding ∉ parts ∨ .scoping ∉ parts :=
        Decidable.not_and_iff_or_not.1 complete
      have stopped := run_incomplete (Scope.openWatched opening) around clear incomplete
      rw [ran, noted] at stopped
      obtain ⟨failed, scope, message, left⟩ := stopped
      refine ⟨scope, message, List.replicate (parts.count .scoping) .scope, ?_, ?_,
        .inr ⟨clear, ?_, ?_⟩⟩
      · rw [left]
        rfl
      · rw [unturned]
        exact Nat.zero_le 1
      · intro _
        exact ⟨failed, rfl, congrArg Surroundings.alone left⟩
      · intro decoded entered
        exact absurd ⟨decoded, entered⟩ complete
  · obtain ⟨passed, part, later, e, rfl, clear, hinders⟩ := hindered
    have stopped := run_hindered (Scope.openWatched opening) around clear hinders later
    rw [ran, noted] at stopped
    obtain ⟨failed, scope, message, left⟩ := stopped
    refine ⟨scope, message, List.replicate (passed.count .scoping) .scope, ?_, ?_, .inl ?_⟩
    · rw [left]
      rfl
    · rw [unturned]
      exact Nat.zero_le 1
    · exact ⟨passed, part, later, e, rfl, clear, hinders, failed, rfl, congrArg Prod.fst left⟩

end Reception

end Courier
