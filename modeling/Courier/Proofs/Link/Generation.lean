import Courier.Proofs.Confirm.Sharing
import Courier.Proofs.Link.Effect
import Courier.Proofs.Lists

/-!
# Generations of channels

Every channel instance of a link has a generation of its own, and no two names that confirmations
are tracked under are the same, whatever the keys are (`confirmKey_inj`). So what is confirmed on
one instance is nothing to any other (`Link.instances_apart`). A call for a channel that fails uses
up no generation, but for one that is aborted as there is no gate for its window: where all windows
that are asked for have gates, the generations count the instances (`Link.Counted`).
-/

namespace Courier
set_option autoImplicit false
open Confirm

variable {σ : Type}

/-! ## Names -/

/-- A generation is what stands behind the last hash sign. -/
theorem takeWhile_reverse_confirmKey (key : String) (generation : Nat) :
    (confirmKey key generation).toList.reverse.takeWhile Char.isDigit
      = (Nat.toDigits 10 generation).reverse := by
  have digits : ∀ c ∈ (Nat.toDigits 10 generation).reverse, c.isDigit = true := by
    intro c mem
    exact Nat.isDigit_of_mem_toDigits (by omega) (by omega) (List.mem_reverse.1 mem)
  have parts : (confirmKey key generation).toList.reverse
      = (Nat.toDigits 10 generation).reverse ++ '#' :: key.toList.reverse := by
    simp [confirmKey]
  rw [parts, List.takeWhile_append_of_pos digits, List.takeWhile_cons_of_neg (by decide),
    List.append_nil]

theorem confirmKey_inj {key key' : String} {generation generation' : Nat} :
    confirmKey key generation = confirmKey key' generation' ↔
      key = key' ∧ generation = generation' := by
  constructor
  · intro same
    have digits := takeWhile_reverse_confirmKey key generation
    rw [same, takeWhile_reverse_confirmKey, List.reverse_inj] at digits
    have generations : generation' = generation := by
      rw [← Nat.ofDigitChars_toDigits (b := 10) (n := generation') (by omega) (by omega), digits,
        Nat.ofDigitChars_toDigits (by omega) (by omega)]
    subst generations
    have front : (key ++ "#").toList ++ (toString generation').toList
        = (key' ++ "#").toList ++ (toString generation').toList := by
      rw [← String.toList_append, ← String.toList_append]
      exact congrArg String.toList same
    have keys := List.append_cancel_right front
    rw [String.toList_append, String.toList_append] at keys
    exact ⟨String.toList_inj.1 (List.append_cancel_right keys), rfl⟩
  · rintro ⟨rfl, rfl⟩
    rfl

/-- Keys may end like the name of an instance. -/
example : confirmKey "orders#1" 1 ≠ confirmKey "orders" 11 := by decide

namespace Link

/-- Instances are numbered as they are made, and known by their numbers. -/
structure Sound (link : Link σ) : Prop where
  enough : link.instances.length ≤ link.generations
  named : ∀ (i : Nat) (c : Channel), link.instances[i]? = some c →
    i < c.generation ∧ c.generation ≤ link.generations ∧
      c.lane.key = confirmKey c.key c.generation
  rising : ∀ (i j : Nat) (c c' : Channel), link.instances[i]? = some c →
    link.instances[j]? = some c' → i < j → c.generation < c'.generation
  keyed : link.Keyed
  wellFormed : link.tracker.WellFormed

/-- No generation was used up for nothing. -/
structure Counted (link : Link σ) : Prop where
  counted : link.generations = link.instances.length
  numbered : ∀ (i : Nat) (c : Channel), link.instances[i]? = some c → c.generation = i + 1

variable {asks : String → ChannelOptions → Prop} {moves : String → Move → Prop}
  {link link' : Link σ} {i j : Nat} {c c' : Channel}

theorem sound_fresh (settings : Settings) (policy : RetryPolicy) (world : σ) :
    (fresh settings policy world).world.Sound where
  enough := Nat.le_refl 0
  named := nofun
  rising := nofun
  keyed _ _ mem := by cases mem
  wellFormed := Tracker.wellFormed_empty

/-- Two instances have different generations, and different names to be confirmed under. -/
theorem Sound.apart (sound : link.Sound) (found : link.instances[i]? = some c)
    (found' : link.instances[j]? = some c') (other : i ≠ j) :
    c.generation ≠ c'.generation ∧ c.lane.key ≠ c'.lane.key := by
  obtain ⟨_, _, name⟩ := sound.named i c found
  obtain ⟨_, _, name'⟩ := sound.named j c' found'
  have generations : c.generation ≠ c'.generation := by
    obtain before | after := Nat.lt_or_gt_of_ne other
    · exact (sound.rising i j c c' found found' before).ne
    · exact (sound.rising j i c' c found' found after).ne'
  refine ⟨generations, ?_⟩
  rw [name, name']
  intro same
  exact generations (confirmKey_inj.1 same).2

/-- Where an instance comes from: it was there, or it has just been made. -/
theorem Effect.origin (effect : Effect asks moves link link')
    (found : link'.instances[i]? = some c') :
    (∃ c, link.instances[i]? = some c ∧ c'.generation = c.generation ∧ c'.key = c.key ∧
        c'.lane.key = c.lane.key) ∨
      i = link.instances.length ∧ c'.generation = link.generations + 1 ∧
        link'.generations = link.generations + 1 ∧
        c'.lane.key = confirmKey c'.key c'.generation := by
  have old {c : Channel} (known : link.instances[i]? = some c) :
      ∃ c, link.instances[i]? = some c ∧ c'.generation = c.generation ∧ c'.key = c.key ∧
        c'.lane.key = c.lane.key := by
    obtain ⟨lane, stays, named⟩ := effect.stays known
    cases found.symm.trans stays
    exact ⟨c, known, rfl, rfl, named⟩
  cases effect with
  | idle | forgot | aborted => exact .inl (old found)
  | made allowed fits handle =>
    obtain known | ⟨last, rfl⟩ := getElem?_grown found
    · exact .inl (old known)
    · exact .inr ⟨last, rfl, rfl, rfl⟩
  | moved known allowed =>
    have found' := found
    rw [getElem?_moved] at found'
    obtain ⟨c, known, _⟩ := Option.map_eq_some_iff.1 found'
    exact .inl (old known)

/-- Generations are used up one at a time, and each instance uses one up. -/
theorem Effect.generations_cases (effect : Effect asks moves link link') :
    link'.generations = link.generations ∧ link'.instances.length = link.instances.length ∨
    link'.generations = link.generations + 1 ∧
      link'.instances.length = link.instances.length + 1 ∨
    (∃ key options, asks key options ∧ ¬options.Fits) ∧
      link'.generations = link.generations + 1 ∧
      link'.instances.length = link.instances.length := by
  cases effect with
  | idle | forgot => exact .inl ⟨rfl, rfl⟩
  | made allowed fits handle => exact .inr (.inl ⟨rfl, List.length_append⟩)
  | aborted allowed beyond => exact .inr (.inr ⟨⟨_, _, allowed, beyond⟩, rfl, rfl⟩)
  | moved known allowed => exact .inl ⟨rfl, List.length_modify _ _ _⟩

theorem Sound.effect (sound : link.Sound) (effect : Effect asks moves link link') :
    link'.Sound := by
  have enough := sound.enough
  have counts := effect.generations_cases
  have isOld {i : Nat} {c : Channel} (known : link.instances[i]? = some c) :
      i < link.instances.length := (List.getElem?_eq_some_iff.1 known).1
  refine ⟨by omega, fun i c' found => ?named, fun i j c₁ c₂ found found' before => ?rising,
    effect.keyed sound.keyed, ?wellFormed⟩
  case named =>
    obtain ⟨c, known, generation, key, name⟩ | ⟨rfl, generation, generations, name⟩ :=
      effect.origin found
    · rw [generation, key, name]
      obtain ⟨after, bound, named⟩ := sound.named i c known
      exact ⟨after, by omega, named⟩
    · exact ⟨by omega, by omega, name⟩
  case rising =>
    obtain ⟨c, known, generation, -⟩ | ⟨last, -⟩ := effect.origin found <;>
      obtain ⟨c', known', generation', -⟩ | ⟨last', generation', -⟩ := effect.origin found'
    · rw [generation, generation']
      exact sound.rising i j c c' known known' before
    · obtain ⟨_, bound, _⟩ := sound.named i c known
      omega
    · have old := isOld known'
      omega
    · omega
  case wellFormed =>
    cases effect with
    | idle | forgot | made | aborted => exact sound.wellFormed
    | moved known allowed => exact Desk.wellFormed_act _ sound.wellFormed

/-- Where there are gates for all windows that are asked for, no generation is used up for
nothing. -/
theorem Counted.effect (counted : link.Counted)
    (effect : Effect (fun _ options => options.Fits) moves link link') : link'.Counted := by
  have same := counted.counted
  refine ⟨?counted, fun i c' found => ?numbered⟩
  case counted =>
    obtain _ | _ | ⟨⟨_, _, fits, beyond⟩, _⟩ := effect.generations_cases
    · omega
    · omega
    · exact absurd fits beyond
  case numbered =>
    obtain ⟨c, known, generation, -⟩ | ⟨last, generation, -⟩ := effect.origin found
    · rw [generation]
      exact counted.numbered i c known
    · omega

/-- Whatever has happened to a link. -/
theorem sound_after (server : Server σ) (settings : Settings) (policy : RetryPolicy) (world : σ)
    (acts : List (Act σ)) : (after server acts (fresh settings policy world)).world.Sound := by
  have effects : Effects (fun _ _ => True) (fun _ _ => True) (fresh settings policy world).world
      (after server acts (fresh settings policy world)).world := by
    apply effects_after
    intro a _
    cases a <;> simp [Act.Within]
  exact effects.keep (sound_fresh settings policy world) fun effect sound => sound.effect effect

/-- There are gates for the windows of the channels that are asked for. -/
def Act.Fits (settings : Settings) (a : Act σ) : Prop :=
  a.Within settings (fun _ options => options.Fits) fun _ _ => True

theorem counted_after (server : Server σ) (settings : Settings) (policy : RetryPolicy) (world : σ)
    {acts : List (Act σ)} (fit : ∀ a ∈ acts, a.Fits settings) :
    (after server acts (fresh settings policy world)).world.Counted := by
  have start : (fresh settings policy world).world.Counted := ⟨rfl, nofun⟩
  exact (effects_after server settings policy world fit).keep start
    fun effect counted => counted.effect effect

/-! ## Calls -/

variable {server : Server σ} {s t : Surroundings (Link σ)} {key : String} {options : ChannelOptions}
  {result : Except BrokerError Nat}

/-- The new instance is cached for its key. -/
theorem cached?_grown (link : Link σ) (key : String) (handle : Nat) (options : ChannelOptions) :
    ∃ c, (link.grown key handle options).instances = link.instances ++ [c] ∧
      c.key = key ∧ c.generation = link.generations + 1 ∧
      (link.grown key handle options).cached? key = some (link.instances.length, c) := by
  refine ⟨_, rfl, rfl, rfl, ?_⟩
  rw [cached?_eq_some]
  exact ⟨List.lookup_cons_self, List.getElem?_concat_length⟩

/-- What is cached for other keys stays. -/
theorem Keyed.cached?_grown_of_ne (keyed : link.Keyed) {key other : String} (apart : other ≠ key)
    (handle : Nat) (options : ChannelOptions) :
    (link.grown key handle options).cached? other = link.cached? other := by
  have entry : (link.grown key handle options).cache.lookup other
      = link.cache.lookup other := by
    show List.lookup other ((key, _) :: _) = _
    rw [List.lookup_cons, beq_false_of_ne apart]
    exact lookup_filter_of_ne apart link.cache
  unfold cached?
  rw [entry]
  cases known : link.cache.lookup other with
  | none => rfl
  | some i =>
    obtain ⟨c, found, _⟩ := keyed other i (mem_of_lookup known)
    obtain ⟨bound, _⟩ := List.getElem?_eq_some_iff.1 found
    have same : (link.grown key handle options).instances[i]? = link.instances[i]? :=
      List.getElem?_append_left bound
    simp only [Option.bind_eq_bind, Option.bind_some, same]

/-- A call for a key gives the instance that is cached for it exactly if that is open. -/
theorem Found.ok_iff (keyed : s.world.Keyed) (found : Found server key options s (result, t))
    (known : s.world.cached? key = some (i, c)) :
    result = .ok i ↔ server.isOpen s.world.server c.handle = true := by
  have shut (lost : Lost server s.world key) (other : result ≠ .ok i) :
      result = .ok i ↔ server.isOpen s.world.server c.handle = true := by
    rw [lost i c known]
    simp [other]
  cases found with
  | @cached i' c' known' isOpen =>
    cases known.symm.trans known'
    exact iff_of_true rfl isOpen
  | made lost idle fits handle =>
    refine shut lost fun same => ?_
    -- a new instance has a place of its own
    cases same
    have old := (keyed.cached known).1
    rw [List.getElem?_eq_none (Nat.le_refl _)] at old
    cases old
  | aborted lost idle beyond => exact shut lost nofun
  | failed lost idle error => exact shut lost nofun

/-- A call for a key that succeeds changes nothing, or gives an instance of the next generation. -/
theorem Found.ok_cases (keyed : s.world.Keyed)
    (found : Found server key options s (.ok i, t)) :
    (∃ c, s.world.cached? key = some (i, c)) ∧ t = s ∨
    i = s.world.instances.length ∧
      ∃ c, t.world.instances = s.world.instances ++ [c] ∧ c.key = key ∧
        c.generation = s.world.generations + 1 ∧ t.world.cached? key = some (i, c) ∧
        ∀ other, other ≠ key → t.world.cached? other = s.world.cached? other := by
  cases found with
  | cached known isOpen => exact .inl ⟨⟨_, known⟩, rfl⟩
  | made lost idle fits handle =>
    obtain ⟨connection, world, _, rfl⟩ := idle
    have keyed' : Keyed { s.world with connection, server := world } := keyed
    obtain ⟨c, instances, named, generation, cached⟩ :=
      cached?_grown { s.world with connection, server := world } key handle options
    exact .inr ⟨rfl, c, instances, named, generation, cached,
      fun other apart => keyed'.cached?_grown_of_ne apart handle options⟩

/-- A call that fails changes no channel, and uses up no generation unless it is aborted. -/
theorem Found.error_cases {e : BrokerError} (found : Found server key options s (.error e, t)) :
    t.world.cache = s.world.cache ∧ t.world.instances = s.world.instances ∧
      t.world.tracker = s.world.tracker ∧
      (t.world.generations = s.world.generations ∨
        ¬options.Fits ∧ e = .internal ∧ t.world.generations = s.world.generations + 1) := by
  cases found with
  | failed lost idle error =>
    obtain ⟨_, _, _, rfl⟩ := idle
    exact ⟨rfl, rfl, rfl, .inl rfl⟩
  | aborted lost idle beyond =>
    obtain ⟨_, _, _, rfl⟩ := idle
    exact ⟨rfl, rfl, rfl, .inr ⟨beyond, rfl, rfl⟩⟩

theorem stays_act (keyed : s.world.Keyed) (a : Act σ) (found : s.world.instances[i]? = some c) :
    ∃ lane, (act server s a).world.instances[i]? = some { c with lane } ∧
      lane.key = c.lane.key := by
  have within : a.Within s.world.settings (fun _ _ => True) (fun _ _ => True) := by
    cases a <;> simp [Act.Within]
  have effects := effects_act server keyed rfl within
  refine effects.keep (P := fun link => ∃ lane, link.instances[i]? = some { c with lane } ∧
    lane.key = c.lane.key) ⟨c.lane, found, rfl⟩ ?_
  rintro link link' effect ⟨lane, found, named⟩
  obtain ⟨lane', found', named'⟩ := effect.stays found
  exact ⟨lane', found', named'.trans named⟩

theorem act_move (found : s.world.instances[i]? = some c) (m : Move) :
    (act server s (.move i m)).world = s.world.moved i c m := by
  show ((move i m).run s).2.world = _
  rw [move_run, found]

theorem counts_move (sound : s.world.Sound) (found : s.world.instances[i]? = some c) (m : Move) :
    let t := (act server s (.move i m)).world.tracker
    (∀ k, m ≠ .unwatch k) ∧ t.acked = s.world.tracker.acked ∧ t.nacked = s.world.tracker.nacked ∨
    (∃ k, m = .unwatch k) ∧
      t.acked + t.nacked + (t.pendingFor c.lane.key).length
        = s.world.tracker.acked + s.world.tracker.nacked
          + (s.world.tracker.pendingFor c.lane.key).length := by
  intro t
  have same : t = ((s.world.desk c).act m).tracker := by
    show (act server s (.move i m)).world.tracker = _
    rw [act_move found]
    rfl
  by_cases deals : ∃ k, m = .unwatch k
  · obtain ⟨k, rfl⟩ := deals
    refine .inr ⟨⟨k, rfl⟩, ?_⟩
    rw [same]
    exact Desk.counts_unwatch (d := s.world.desk c) sound.wellFormed k
  · have other (k : Nat) : m ≠ .unwatch k := fun same => deals ⟨k, same⟩
    rw [same]
    exact .inl ⟨other, Desk.counts_act (d := s.world.desk c) m other⟩

/-- Instances and their confirmations keep apart, whatever the keys are and whatever has happened to
a link.

* Generations rise from instance to instance, and every instance keeps its own and the name it is
  confirmed under, whatever happens next. Where there are gates for all windows that were asked for,
  the generations are the numbers of the instances from one on.
* No two instances share a generation or a name. What is done on one leaves outstanding what is
  outstanding for another, and counts no more than it takes out under its own name.
* A call for a channel gives the cached instance of its key exactly if that is open, and changes
  nothing then. Otherwise it gives a new instance of the next generation, which is cached for its
  key and for no other.
* A call that fails changes neither the cache nor the generations, nor any instance. One that is
  aborted, as there is no gate for its window, uses up a generation.
* A call for a channel that is not open gives a new instance if all it takes is granted. -/
theorem instances_apart (server : Server σ) (settings : Settings) (policy : RetryPolicy) (world : σ)
    (acts : List (Act σ)) :
    let s := after server acts (fresh settings policy world)
    let link := s.world
    (∀ (i : Nat) (c : Channel), link.instances[i]? = some c →
      i < c.generation ∧ c.generation ≤ link.generations ∧
        c.lane.key = confirmKey c.key c.generation ∧
        ∀ a, ∃ lane, (act server s a).world.instances[i]? = some { c with lane } ∧
          lane.key = c.lane.key) ∧
    (∀ (i j : Nat) (c c' : Channel), link.instances[i]? = some c → link.instances[j]? = some c' →
      i < j → c.generation < c'.generation) ∧
    ((∀ a ∈ acts, a.Fits settings) → link.generations = link.instances.length ∧
      ∀ (i : Nat) (c : Channel), link.instances[i]? = some c → c.generation = i + 1) ∧
    (∀ (i j : Nat) (c c' : Channel), link.instances[i]? = some c → link.instances[j]? = some c' →
      i ≠ j → c.generation ≠ c'.generation ∧ c.lane.key ≠ c'.lane.key ∧
        ∀ m, (act server s (.move i m)).world.tracker.pendingFor c'.lane.key
          = link.tracker.pendingFor c'.lane.key) ∧
    (∀ (i : Nat) (c : Channel) (m : Move), link.instances[i]? = some c →
      let t := (act server s (.move i m)).world.tracker
      (∀ k, m ≠ .unwatch k) ∧ t.acked = link.tracker.acked ∧ t.nacked = link.tracker.nacked ∨
      (∃ k, m = .unwatch k) ∧
        t.acked + t.nacked + (t.pendingFor c.lane.key).length
          = link.tracker.acked + link.tracker.nacked
            + (link.tracker.pendingFor c.lane.key).length) ∧
    ∀ key options,
      let (result, t) := (channel server key options).run s
      (∀ i c, link.cached? key = some (i, c) → c.key = key ∧
        (result = .ok i ↔ server.isOpen link.server c.handle = true)) ∧
      (∀ i, result = .ok i →
        (∃ c, link.cached? key = some (i, c)) ∧ t = s ∨
        i = link.instances.length ∧
          ∃ c, t.world.instances = link.instances ++ [c] ∧ c.key = key ∧
            c.generation = link.generations + 1 ∧ t.world.cached? key = some (i, c) ∧
            ∀ other, other ≠ key → t.world.cached? other = link.cached? other) ∧
      (∀ e, result = .error e → t.world.cache = link.cache ∧ t.world.instances = link.instances ∧
        t.world.tracker = link.tracker ∧
        (t.world.generations = link.generations ∨
          ¬options.Fits ∧ e = .internal ∧ t.world.generations = link.generations + 1)) ∧
      ∀ connection handle, Lost server link key → Grants server link options connection handle →
        result = (if options.Fits then .ok link.instances.length else .error .internal) ∧
          t.world.connection = some connection ∧
          t.world.generations = link.generations + 1 := by
  intro s link
  have sound : link.Sound := sound_after server settings policy world acts
  refine ⟨fun i c found => ?numbers, sound.rising, fun fit => ?counts,
    fun i j c c' found found' other => ?apart, fun i c m found => counts_move sound found m,
    fun key options => ?calls⟩
  case numbers =>
    obtain ⟨after, bound, name⟩ := sound.named i c found
    exact ⟨after, bound, name, fun a => stays_act sound.keyed a found⟩
  case counts =>
    have counted : link.Counted := counted_after server settings policy world fit
    exact ⟨counted.counted, counted.numbered⟩
  case apart =>
    obtain ⟨generations, names⟩ := sound.apart found found' other
    refine ⟨generations, names, fun m => ?_⟩
    rw [act_move found]
    exact Desk.pendingFor_act_of_ne (d := link.desk c) m names
  case calls =>
    have found := channel_found server key options s
    have granted (connection handle : Nat) (lost : Lost server link key)
        (grants : Grants server link options connection handle) :=
      channel_granted (s := s) lost grants
    generalize (channel server key options).run s = answer at found granted ⊢
    obtain ⟨result, t⟩ := answer
    refine ⟨fun i c known => ⟨(sound.keyed.cached known).2, found.ok_iff sound.keyed known⟩,
      fun i had => ?_, fun e failed => ?_, fun connection handle lost grants => ?_⟩
    · subst had
      exact found.ok_cases sound.keyed
    · subst failed
      exact found.error_cases
    · obtain ⟨t', same, held, generations⟩ := granted connection handle lost grants
      cases same
      exact ⟨rfl, held, generations⟩

/-- A server that numbers the channels it opens; some of them have been closed. -/
def numberingServer : Server (Nat × List Nat) where
  connect _ _ := return .ok 1
  openChannel _ := fun (next, closed) => (.ok next, (next + 1, closed))
  request _ := return .ok ()
  isConnected _ _ := true
  isOpen world channel := channel ∉ world.2

/-- Two channels, of which the first is closed and asked for again. One key ends like the name of an
instance of the other. -/
def reopening : List (Act (Nat × List Nat)) :=
  [.channel "orders" .default, .channel "orders#1" .default,
    .server fun (next, closed) => (next, 0 :: closed), .channel "orders" .default]

theorem instances_apart_reopened :
    let s := after numberingServer reopening (fresh .default .requeue (0, []))
    let names := s.world.instances.map fun c => (c.generation, c.lane.key)
    names = [(1, "orders#1"), (2, "orders#1#2"), (3, "orders#3")] ∧
    s.world.generations = 3 ∧ names.Nodup ∧
    ((channel numberingServer "orders#1" .default).run s).1 = .ok 1 ∧
    ((channel numberingServer "invoices" .default).run s).1 = .ok 3 ∧
    let beyond : ChannelOptions := ⟨true, Gate.maxPlaces + 1⟩
    let (result, t) := (channel numberingServer "invoices" beyond).run s
    result = .error .internal ∧ t.world.generations = 4 ∧
      t.world.instances.length = s.world.instances.length := by
  intro s names
  obtain ⟨-, -, counts, -, -, calls⟩ :=
    instances_apart numberingServer .default .requeue (0, []) reopening
  have made : names = [(1, "orders#1"), (2, "orders#1#2"), (3, "orders#3")] := by decide
  have three : s.world.instances.length = 3 := by decide
  have fit : ∀ a ∈ reopening, a.Fits Settings.default := by
    simp only [reopening, List.forall_mem_cons]
    exact ⟨ChannelOptions.fits_default, ChannelOptions.fits_default, trivial,
      ChannelOptions.fits_default, List.forall_mem_nil _⟩
  obtain ⟨counted, -⟩ := counts fit
  have lost : Lost numberingServer s.world "invoices" := nofun
  have grants (options : ChannelOptions) : Grants numberingServer s.world options 1 3 :=
    .intro (.held rfl rfl) rfl fun _ => rfl
  refine ⟨made, counted.trans three, by rw [made]; decide, ?known, ?new, ?beyond⟩
  case known =>
    obtain ⟨known, -⟩ := calls "orders#1" .default
    exact (known 1 _ rfl).2.2 rfl
  case new =>
    obtain ⟨-, -, -, granted⟩ := calls "invoices" .default
    exact (granted 1 3 lost (grants _)).1
  case beyond =>
    obtain ⟨-, -, failed, granted⟩ := calls "invoices" ⟨true, Gate.maxPlaces + 1⟩
    obtain ⟨aborted, -, generations⟩ := granted 1 3 lost (grants _)
    obtain ⟨-, instances, -⟩ := failed .internal aborted
    exact ⟨aborted, generations.trans (congrArg (· + 1) (counted.trans three)),
      congrArg List.length instances⟩

end Link

end Courier
