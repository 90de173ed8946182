import Mathlib.Data.List.Induction
import Mathlib.Data.List.Nodup
import Courier.Proofs.Registry
import Courier.Proofs.Text.Order

/-!
# A registry is the index of a list

Whatever list a registry is made of, it holds the first registration of every name of the list and
nothing else, reports the others, and is looked at in three ways that agree: by a name, by all names
in their order, and by the kinds (`Registry.indexes_ofList`). In which order it keeps what it holds
cannot be seen.
-/

namespace Courier
set_option autoImplicit false

namespace Registration

/-- The first registration of a name in a list. -/
def IsFirst (es : List Registration) (name : String) (e : Registration) : Prop :=
  ∃ before after, es = before ++ e :: after ∧ e.name = name ∧ ∀ d ∈ before, d.name ≠ name

theorem find?_eq_some_iff_isFirst {es : List Registration} {name : String} {e : Registration} :
    es.find? (fun d => d.name = name) = some e ↔ IsFirst es name e := by
  rw [List.find?_eq_some_iff_append]
  constructor
  · rintro ⟨named, before, after, split, others⟩
    exact ⟨before, after, split, of_decide_eq_true named, fun d mem => by simpa using others d mem⟩
  · rintro ⟨before, after, split, named, others⟩
    exact ⟨decide_eq_true named, before, after, split, fun d mem => by simpa using others d mem⟩

end Registration

namespace Registry
open Registration (IsFirst)

variable {r : Registry} {es : List Registration} {e : Registration} {name : String}

/-! ## What a registry holds -/

/-- A registration is taken if its name is free, and reported if it is not. -/
theorem add_cases (r : Registry) (e : Registration) :
    (r.resolve e.name = none ∧ r.add e = (⟨r.entries ++ [e]⟩, [])) ∨
      ((∃ d, r.resolve e.name = some d) ∧ r.add e = (r, [.repeatedRegistration e.name])) := by
  unfold add
  cases found : r.resolve e.name with
  | none => exact .inl ⟨rfl, rfl⟩
  | some d => exact .inr ⟨⟨d, rfl⟩, rfl⟩

theorem ofList_concat (es : List Registration) (e : Registration) :
    ofList (es ++ [e])
      = (((ofList es).1.add e).1, (ofList es).2 ++ ((ofList es).1.add e).2) := by
  unfold ofList
  rw [List.foldl_append]
  rfl

/-- No two registrations of a registry share a name. -/
theorem nodup_ofList (es : List Registration) : ((ofList es).1.entries.map (·.name)).Nodup := by
  induction es using List.reverseRecOn with
  | nil => exact List.nodup_nil
  | append_singleton es e ih =>
    rw [ofList_concat]
    obtain ⟨free, added⟩ | ⟨-, added⟩ := add_cases (ofList es).1 e
    · rw [added, List.map_append, List.nodup_append]
      refine ⟨ih, List.nodup_singleton _, ?_⟩
      rintro _ held _ new same
      obtain ⟨d, mem, rfl⟩ := List.mem_map.1 held
      have other := List.find?_eq_none.1 free d mem
      rw [List.mem_singleton.1 new] at same
      exact other (decide_eq_true same)
    · rw [added]
      exact ih

/-- Every registration of the list is held or reported. -/
theorem length_ofList (es : List Registration) :
    es.length = (ofList es).1.size + (ofList es).2.length := by
  induction es using List.reverseRecOn with
  | nil => rfl
  | append_singleton es e ih =>
    rw [ofList_concat, List.length_append, ih]
    obtain ⟨-, added⟩ | ⟨-, added⟩ := add_cases (ofList es).1 e
    all_goals
      rw [added]
      simp only [size, List.length_append, List.length_cons, List.length_nil]
      omega

/-- What is reported is a registration whose name another one had before it. -/
theorem event_ofList {event : Log.Event} (mem : event ∈ (ofList es).2) :
    ∃ before e after, es = before ++ e :: after ∧ (∃ d ∈ before, d.name = e.name) ∧
      event = .repeatedRegistration e.name := by
  induction es using List.reverseRecOn with
  | nil => cases mem
  | append_singleton es e ih =>
    rw [ofList_concat] at mem
    rcases List.mem_append.1 mem with old | new
    · obtain ⟨before, d, after, rfl, repeated, said⟩ := ih old
      exact ⟨before, d, after ++ [e], by simp, repeated, said⟩
    · obtain ⟨-, added⟩ | ⟨⟨d, found⟩, added⟩ := add_cases (ofList es).1 e
      · rw [added] at new
        cases new
      · rw [added] at new
        rw [resolve_ofList] at found
        have named : d.name = e.name := by simpa using List.find?_some found
        exact ⟨es, e, [], rfl, ⟨d, List.mem_of_find?_eq_some found, named⟩,
          List.mem_singleton.1 new⟩

/-- Where names differ, what is held is what its name resolves to. -/
theorem mem_iff_resolve (distinct : (r.entries.map (·.name)).Nodup) :
    e ∈ r.entries ↔ r.resolve e.name = some e := by
  refine ⟨fun held => ?_, List.mem_of_find?_eq_some⟩
  cases found : r.resolve e.name with
  | none => exact absurd (decide_eq_true rfl) (List.find?_eq_none.1 found e held)
  | some d =>
    have same : d.name = e.name := name_of_resolve found
    rw [List.inj_on_of_nodup_map distinct (List.mem_of_find?_eq_some found) held same]

/-! ## Registrations in their order -/

theorem mem_sorted : e ∈ sorted es ↔ e ∈ es := (List.mergeSort_perm es _).mem_iff

/-- Registrations of different names are put in strictly ascending order. -/
theorem pairwise_sorted_lt (distinct : (es.map (·.name)).Nodup) :
    (sorted es).Pairwise fun a b => a.name < b.name := by
  have perm : (sorted es).Perm es := List.mergeSort_perm es _
  have apart : (sorted es).Pairwise fun a b => a.name ≠ b.name :=
    List.pairwise_map.1 ((perm.map Registration.name).nodup_iff.2 distinct)
  refine ((pairwise_sorted es).and apart).imp fun ⟨ascending, other⟩ => String.not_le.1 ?_
  intro back
  exact other (String.le_antisymm ascending back)

/-- The order in which registrations of different names are given does not matter. -/
theorem sorted_eq_of_perm {ds : List Registration} (distinct : (es.map (·.name)).Nodup)
    (perm : ds.Perm es) : sorted ds = sorted es := by
  have between : (sorted ds).Perm (sorted es) :=
    (List.mergeSort_perm ds _).trans (perm.trans (List.mergeSort_perm es _).symm)
  have distinct' : (ds.map (·.name)).Nodup := (perm.map Registration.name).nodup_iff.2 distinct
  refine between.eq_of_pairwise ?_ (pairwise_sorted_lt distinct') (pairwise_sorted_lt distinct)
  intro a b _ _ ab ba
  exact absurd (String.lt_trans ab ba) (String.lt_irrefl _)

theorem mem_ofKind {kind : MessageKind} : e ∈ r.ofKind kind ↔ e ∈ r.entries ∧ e.kind = kind := by
  unfold ofKind
  rw [mem_sorted, List.mem_filter, decide_eq_true_eq]

theorem nodup_filter_kind (distinct : (r.entries.map (·.name)).Nodup) (kind : MessageKind) :
    ((r.entries.filter fun e => e.kind = kind).map (·.name)).Nodup :=
  distinct.sublist (List.filter_sublist.map _)

/-- In ascending order of the octets of their names. -/
def Ascending (es : List Registration) : Prop :=
  es.Pairwise fun a b => Utf8.encode a.name < Utf8.encode b.name

theorem ascending_sorted (distinct : (es.map (·.name)).Nodup) : Ascending (sorted es) :=
  (pairwise_sorted_lt distinct).imp Utf8.encode_lt

/-! ## The index of a list -/

/-- What a registry shows of the list that it was made of, with the events of making it. -/
structure Indexes (es : List Registration) (r : Registry) (events : List Log.Event) : Prop where
  resolved : ∀ name e, r.resolve name = some e ↔ IsFirst es name e
  unresolved : ∀ name, r.resolve name = none ↔ ∀ e ∈ es, e.name ≠ name
  handled : ∀ name handler, r.handlerContract name = some handler ↔
    ∃ e, IsFirst es name e ∧ e.handlerContract = handler
  unhandled : ∀ name, r.handlerContract name = none ↔ ∀ e ∈ es, e.name ≠ name
  names_ascending : r.names.Pairwise fun a b => Utf8.encode a < Utf8.encode b
  mem_names : ∀ name, name ∈ r.names ↔ ∃ e ∈ es, e.name = name
  size_eq : r.size = r.names.length
  counted : es.length = r.size + events.length
  repeated : ∀ event ∈ events, ∃ before e after, es = before ++ e :: after ∧
    (∃ d ∈ before, d.name = e.name) ∧ event = .repeatedRegistration e.name
  kind_ascending : ∀ kind, Ascending (r.ofKind kind)
  kind_eq : ∀ kind, ∀ e ∈ r.ofKind kind, e.kind = kind
  kinds_apart : ∀ a ∈ r.ofKind .command, ∀ b ∈ r.ofKind .event, a.name ≠ b.name
  kinds_together : ∀ e, e ∈ r.ofKind .command ∨ e ∈ r.ofKind .event ↔
    ∃ name, r.resolve name = some e
  /-- In which order a registry keeps what it holds does not show. -/
  unordered : ∀ held, held.Perm r.entries → (∀ name, (mk held).resolve name = r.resolve name) ∧
    (mk held).names = r.names ∧ ∀ kind, (mk held).ofKind kind = r.ofKind kind

theorem resolve_eq_none_iff (r : Registry) (name : String) :
    r.resolve name = none ↔ ∀ e ∈ r.entries, e.name ≠ name := by
  simp [resolve]

theorem resolve_ofList_eq_none_iff (es : List Registration) (name : String) :
    (ofList es).1.resolve name = none ↔ ∀ e ∈ es, e.name ≠ name := by
  simp [resolve_ofList]

theorem mem_names (r : Registry) (name : String) :
    name ∈ r.names ↔ ∃ e ∈ r.entries, e.name = name := by
  unfold names
  rw [List.mem_map]
  exact exists_congr fun _ => and_congr_left fun _ => mem_sorted

/-- A name is held exactly if some registration of the list has it. -/
theorem exists_entry_iff (es : List Registration) (name : String) :
    (∃ e ∈ (ofList es).1.entries, e.name = name) ↔ ∃ e ∈ es, e.name = name := by
  have unheld : (∀ e ∈ (ofList es).1.entries, e.name ≠ name) ↔ ∀ e ∈ es, e.name ≠ name := by
    rw [← resolve_eq_none_iff, resolve_ofList_eq_none_iff]
  simpa using not_congr unheld

/-- Where names differ, lookups do not depend on the order of what is held. -/
theorem resolve_of_perm {held : List Registration} (distinct : (r.entries.map (·.name)).Nodup)
    (perm : held.Perm r.entries) (name : String) : (mk held).resolve name = r.resolve name := by
  have distinct' : ((mk held).entries.map (·.name)).Nodup :=
    (perm.map Registration.name).nodup_iff.2 distinct
  apply Option.ext
  intro e
  constructor
  · intro found
    obtain rfl := name_of_resolve found
    exact (mem_iff_resolve distinct).1 (perm.mem_iff.1 ((mem_iff_resolve distinct').2 found))
  · intro found
    obtain rfl := name_of_resolve found
    exact (mem_iff_resolve distinct').1 (perm.mem_iff.2 ((mem_iff_resolve distinct).2 found))

theorem indexes_ofList (es : List Registration) : Indexes es (ofList es).1 (ofList es).2 := by
  have distinct := nodup_ofList es
  have resolved (name : String) (e : Registration) :
      (ofList es).1.resolve name = some e ↔ IsFirst es name e := by
    rw [resolve_ofList, Registration.find?_eq_some_iff_isFirst]
  constructor
  case resolved => exact resolved
  case unresolved => exact resolve_ofList_eq_none_iff es
  case handled =>
    intro name handler
    unfold handlerContract
    rw [Option.map_eq_some_iff]
    exact exists_congr fun e => and_congr_left fun _ => resolved name e
  case unhandled =>
    intro name
    unfold handlerContract
    rw [Option.map_eq_none_iff]
    exact resolve_ofList_eq_none_iff es name
  case names_ascending => exact List.pairwise_map.2 (ascending_sorted distinct)
  case mem_names =>
    intro name
    rw [mem_names]
    exact exists_entry_iff es name
  case size_eq =>
    unfold size names sorted
    rw [List.length_map, List.length_mergeSort]
  case counted => exact length_ofList es
  case repeated => exact fun _ mem => event_ofList mem
  case kind_ascending => exact fun kind => ascending_sorted (nodup_filter_kind distinct kind)
  case kind_eq => exact fun _ _ mem => (mem_ofKind.1 mem).2
  case kinds_apart =>
    intro a command b event same
    obtain ⟨heldA, kindA⟩ := mem_ofKind.1 command
    obtain ⟨heldB, kindB⟩ := mem_ofKind.1 event
    have one : a = b := List.inj_on_of_nodup_map distinct heldA heldB same
    rw [one, kindB] at kindA
    cases kindA
  case kinds_together =>
    intro e
    rw [mem_ofKind, mem_ofKind]
    constructor
    · intro held
      exact ⟨e.name, (mem_iff_resolve distinct).1 (held.elim And.left And.left)⟩
    · rintro ⟨name, found⟩
      have held := List.mem_of_find?_eq_some found
      cases kind : e.kind with
      | command => exact .inl ⟨held, rfl⟩
      | event => exact .inr ⟨held, rfl⟩
  case unordered =>
    intro held perm
    refine ⟨resolve_of_perm distinct perm, ?_, fun kind => ?_⟩
    · exact congrArg (List.map Registration.name) (sorted_eq_of_perm distinct perm)
    · exact sorted_eq_of_perm (nodup_filter_kind distinct kind) (perm.filter _)

/-! ## What is read under a name -/

/-- Under every name it reads messages of that name only. -/
def Truthful (r : Registry) : Prop :=
  ∀ name registration payload m, r.resolve name = some registration →
    registration.message payload = .ok m → m.contract.name = name

/-- What the registration of a contract reads is a message of that contract. -/
theorem contract_of_message {c : Contract} {payload : String} {m : Message}
    (read : (Registration.of c).message payload = .ok m) : m.contract = c := by
  simp only [Registration.message, Registration.of, Contract.decode] at read
  cases decoded : Json.document c.shape.codec.read (Utf8.encode payload) with
  | ok body =>
    rw [decoded] at read
    cases read
    rfl
  | error fault =>
    rw [decoded] at read
    cases read

/-- A registry of contracts is truthful, whichever they are. -/
theorem truthful_ofList (cs : List Contract) : (ofList (cs.map .of)).1.Truthful := by
  intro name registration payload m found read
  have there : registration ∈ cs.map .of := by
    rw [resolve_ofList] at found
    exact List.mem_of_find?_eq_some found
  obtain ⟨c, -, rfl⟩ := List.mem_map.1 there
  rw [contract_of_message read]
  exact name_of_resolve found

/-- A registry is the index of its list in which the first registration of a name wins, whatever
names and kinds the list repeats; and the registry of the contracts reads under every name only
messages of that name. -/
theorem first_wins (es : List Registration) :
    Indexes es (ofList es).1 (ofList es).2 ∧ discover.Truthful ∧
      ∀ cs : List Contract, (ofList (cs.map .of)).1.Truthful :=
  ⟨indexes_ofList es, truthful_ofList Contract.all, truthful_ofList⟩

/-- A later registration of a name does not count, not even among those of its own kind. -/
example :
    let asCommand := Registration.of .createClient
    let (r, events) := ofList [asCommand, { asCommand with kind := .event }]
    (r.ofKind .command).length = 1 ∧ (r.ofKind .event).length = 0 ∧ events.length = 1 := by
  decide +kernel

end Registry

end Courier
