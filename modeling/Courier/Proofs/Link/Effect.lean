import Courier.Proofs.Confirm.Sharing
import Courier.Proofs.Link.Channel
import Mathlib.Logic.Relation

/-!
# What happens to the channels of a link

Whatever happens to a link makes a few changes to its channels and no others (`Link.Effect`): the
connection or the server's world changes, the cache is emptied, an instance is made, a generation is
used up for nothing, or a lane makes a move. So what each of them keeps, every run keeps
(`Link.effects_after`). Which channels may be asked for and which moves may be made on them is left
open.
-/

namespace Courier.Link
set_option autoImplicit false
open Confirm Acting Relation

variable {σ : Type}

/-- The link after a move on the lane of an instance. -/
def moved (link : Link σ) (i : Nat) (c : Channel) (m : Move) : Link σ :=
  let d := (link.desk c).act m
  { link with
    tracker := d.tracker
    instances := link.instances.modify i fun c => { c with lane := d.lane } }

/-- What can happen to the channels of a link, where some channels may be asked for and some moves
be made on the channels of a key. -/
inductive Effect (asks : String → ChannelOptions → Prop) (moves : String → Move → Prop)
    (link : Link σ) : Link σ → Prop where
  | idle (connection : Option Nat) (server : σ) :
    Effect asks moves link { link with connection, server }
  | forgot : Effect asks moves link { link with cache := [] }
  | made {key : String} {options : ChannelOptions} (allowed : asks key options)
    (fits : options.Fits) (handle : Nat) : Effect asks moves link (link.grown key handle options)
  | aborted {key : String} {options : ChannelOptions} (allowed : asks key options)
    (beyond : ¬options.Fits) : Effect asks moves link link.nextGeneration
  | moved {i : Nat} {c : Channel} {m : Move} (found : link.instances[i]? = some c)
    (allowed : moves c.key m) : Effect asks moves link (link.moved i c m)

/-- What may happen under some settings, where some channels may be asked for and some moves be made
on the channels of a key. -/
def Act.Within (settings : Settings) (asks : String → ChannelOptions → Prop)
    (moves : String → Move → Prop) : Act σ → Prop
  | .channel key options => asks key options
  | .begin frame cancelled =>
    asks frame.exchange (.publishing settings.maxOutstandingConfirms) ∧
      moves frame.exchange (.call frame cancelled)
  | .declare queue _ _ => asks queue .default
  | .move _ m => ∀ key, moves key m
  | _ => True

variable {asks : String → ChannelOptions → Prop} {moves : String → Move → Prop}
  {settings : Settings} {server : Server σ} {link link' : Link σ} {s t : Surroundings (Link σ)}

/-! ## Cached instances -/

/-- What is cached for a key is an instance of that key. -/
def Keyed (link : Link σ) : Prop :=
  ∀ key i, (key, i) ∈ link.cache → ∃ c, link.instances[i]? = some c ∧ c.key = key

theorem cached?_eq_some {key : String} {i : Nat} {c : Channel} :
    link.cached? key = some (i, c) ↔
      link.cache.lookup key = some i ∧ link.instances[i]? = some c := by
  unfold cached?
  cases link.cache.lookup key with
  | none => simp
  | some j =>
    simp only [Option.bind_eq_bind, Option.bind_some, Option.some.injEq]
    cases found : link.instances[j]? with
    | none =>
      simp only [Option.bind_none, reduceCtorEq, false_iff, not_and]
      rintro rfl
      simp [found]
    | some c' =>
      simp only [Option.bind_some, Option.pure_def, Option.some.injEq, Prod.mk.injEq]
      constructor
      · rintro ⟨rfl, rfl⟩
        exact ⟨rfl, found⟩
      · rintro ⟨rfl, found'⟩
        exact ⟨rfl, Option.some.inj (found.symm.trans found')⟩

theorem mem_of_lookup {α : Type} {key : String} {x : α} {entries : List (String × α)}
    (found : entries.lookup key = some x) : (key, x) ∈ entries := by
  obtain ⟨before, after, rfl, _⟩ := List.lookup_eq_some_iff.1 found
  simp

theorem Keyed.cached (keyed : Keyed link) {key : String} {i : Nat} {c : Channel}
    (known : link.cached? key = some (i, c)) : link.instances[i]? = some c ∧ c.key = key := by
  obtain ⟨entry, found⟩ := cached?_eq_some.1 known
  obtain ⟨c', found', same⟩ := keyed key i (mem_of_lookup entry)
  cases found.symm.trans found'
  exact ⟨found, same⟩

/-- The instances after one was made. -/
theorem getElem?_grown {key : String} {handle : Nat} {options : ChannelOptions} {i : Nat}
    {c : Channel} (found : (link.grown key handle options).instances[i]? = some c) :
    link.instances[i]? = some c ∨
      i = link.instances.length ∧ c = ⟨key, link.generations + 1, handle,
        .new (confirmKey key (link.generations + 1)) options.window⟩ := by
  change (link.instances ++ [_])[i]? = some c at found
  by_cases old : i < link.instances.length
  · rw [List.getElem?_append_left old] at found
    exact .inl found
  · have bound := (List.getElem?_eq_some_iff.1 found).1
    rw [List.length_append, List.length_singleton] at bound
    obtain rfl : i = link.instances.length := by omega
    rw [List.getElem?_concat_length] at found
    exact .inr ⟨rfl, (Option.some.inj found).symm⟩

/-- The instances after a move on one of them. -/
theorem getElem?_moved {i : Nat} {c : Channel} (m : Move) (j : Nat) :
    (link.moved i c m).instances[j]? =
      (link.instances[j]?).map fun c' =>
        if i = j then { c' with lane := ((link.desk c).act m).lane } else c' := by
  unfold moved
  dsimp only
  rw [List.getElem?_modify]
  cases link.instances[j]? with
  | none => rfl
  | some c' => split <;> rfl

/-- Instances stay, with their key, their generation and the name they are confirmed under. -/
theorem Effect.stays (effect : Effect asks moves link link') {i : Nat} {c : Channel}
    (found : link.instances[i]? = some c) :
    ∃ lane, link'.instances[i]? = some { c with lane } ∧ lane.key = c.lane.key := by
  cases effect with
  | idle | forgot | aborted => exact ⟨c.lane, found, rfl⟩
  | made allowed fits handle =>
    refine ⟨c.lane, ?_, rfl⟩
    obtain ⟨bound, _⟩ := List.getElem?_eq_some_iff.1 found
    show (link.instances ++ [_])[i]? = some c
    rw [List.getElem?_append_left bound, found]
  | @moved j c' m found' allowed =>
    rw [getElem?_moved, found, Option.map_some]
    split
    · next same =>
      subst same
      cases found.symm.trans found'
      exact ⟨_, rfl, (link.desk c).key_act m⟩
    · exact ⟨c.lane, rfl, rfl⟩

theorem Effect.keyed (effect : Effect asks moves link link') (keyed : Keyed link) :
    Keyed link' := by
  intro key i mem
  have old (mem : (key, i) ∈ link.cache) : ∃ c, link'.instances[i]? = some c ∧ c.key = key := by
    obtain ⟨c, found, same⟩ := keyed key i mem
    obtain ⟨lane, stays, _⟩ := effect.stays found
    exact ⟨_, stays, same⟩
  cases effect with
  | idle | aborted | moved => exact old mem
  | forgot => cases mem
  | made allowed fits handle =>
    obtain same | mem := List.mem_cons.1 mem
    · cases same
      exact ⟨_, List.getElem?_concat_length, rfl⟩
    · exact old (List.mem_filter.1 mem).1

theorem Effect.settings_eq (effect : Effect asks moves link link') :
    link'.settings = link.settings := by
  cases effect <;> rfl

/-! ## What happens makes its effects -/

/-- Some effects, one after the other. -/
abbrev Effects (asks : String → ChannelOptions → Prop) (moves : String → Move → Prop) :
    Link σ → Link σ → Prop :=
  ReflTransGen (Effect asks moves)

/-- What every effect keeps, some effects keep. -/
theorem Effects.keep {P : Link σ → Prop} (effects : Effects asks moves link link')
    (before : P link) (each : ∀ {link link' : Link σ}, Effect asks moves link link' →
      P link → P link') : P link' := by
  induction effects with
  | refl => exact before
  | tail _ effect ih => exact each effect ih

theorem Effects.keyed (effects : Effects asks moves link link') (keyed : Keyed link) :
    Keyed link' :=
  effects.keep keyed Effect.keyed

theorem Effects.settings_eq (effects : Effects asks moves link link') :
    link'.settings = link.settings :=
  effects.keep (P := (·.settings = link.settings)) rfl fun effect same =>
    effect.settings_eq.trans same

theorem Idle.effects (idle : Idle s t) : Effects asks moves s.world t.world := by
  obtain ⟨connection, server, _, rfl⟩ := idle
  exact .single (.idle connection server)

/-- The effects of a step and of what follows where it succeeds. -/
theorem Effects.run_bind {α β : Type} {x : Step σ α} {f : α → Step σ β}
    (first : Effects asks moves s.world (x.run s).2.world)
    (rest : ∀ a t, x.run s = (.ok a, t) → Effects asks moves t.world ((f a).run t).2.world) :
    Effects asks moves s.world ((x >>= f).run s).2.world := by
  cases ran : x.run s with
  | mk result t =>
    rw [ran] at first
    cases result with
    | ok a =>
      rw [bind_ok ran]
      exact first.trans (rest a t ran)
    | error e =>
      rw [bind_error ran]
      exact first

/-- A call for a channel; where there is one in the end, it is an instance of the key. -/
theorem effects_channel (server : Server σ) {key : String} {options : ChannelOptions}
    (keyed : Keyed s.world) (allowed : asks key options) :
    Effects asks moves s.world ((channel server key options).run s).2.world ∧
      ∀ i, ((channel server key options).run s).1 = .ok i →
        ∃ c, ((channel server key options).run s).2.world.instances[i]? = some c ∧ c.key = key := by
  have found := channel_found server key options s
  generalize (channel server key options).run s = answer at found
  cases found with
  | @cached i c known isOpen =>
    refine ⟨.refl, fun j same => ?_⟩
    cases same
    exact ⟨c, keyed.cached known⟩
  | made lost idle fits handle =>
    refine ⟨idle.effects.tail (.made allowed fits handle), fun j same => ?_⟩
    obtain ⟨_, _, _, rfl⟩ := idle
    cases same
    exact ⟨_, List.getElem?_concat_length, rfl⟩
  | aborted lost idle beyond => exact ⟨idle.effects.tail (.aborted allowed beyond), nofun⟩
  | failed lost idle error => exact ⟨idle.effects, nofun⟩

theorem move_run (i : Nat) (m : Move) (s : Surroundings (Link σ)) :
    ((move i m).run s).2.world =
      match s.world.instances[i]? with
      | some c => s.world.moved i c m
      | none => s.world := by
  unfold move
  rw [bind_ok (x := Link.current) (a := s.world) (t := s) rfl]
  cases s.world.instances[i]? with
  | none => rfl
  | some c => rfl

theorem effects_move {i : Nat} {m : Move}
    (allowed : ∀ c, s.world.instances[i]? = some c → moves c.key m) :
    Effects asks moves s.world ((move i m).run s).2.world := by
  rw [move_run]
  cases found : s.world.instances[i]? with
  | none => exact .refl
  | some c => exact .single (.moved found (allowed c found))

theorem effects_begin (server : Server σ) {frame : Frame} {cancelled : Bool} (keyed : Keyed s.world)
    (asked : asks frame.exchange (.publishing s.world.settings.maxOutstandingConfirms))
    (called : moves frame.exchange (.call frame cancelled)) :
    Effects asks moves s.world ((Link.begin server frame cancelled).run s).2.world := by
  unfold Link.begin
  rw [bind_ok (x := Link.current) (a := s.world) (t := s) rfl]
  obtain ⟨effects, known⟩ : Effects asks moves s.world _ ∧ _ := effects_channel server keyed asked
  refine Effects.run_bind effects fun i t ran => effects_move fun c found => ?_
  rw [ran] at known
  obtain ⟨c', found', same⟩ := known i rfl
  cases found.symm.trans found'
  rw [same]
  exact called

theorem effects_declare (server : Server σ) {queue exchange routingKey : String}
    (keyed : Keyed s.world) (allowed : asks queue .default) :
    Effects asks moves s.world ((declare server queue exchange routingKey).run s).2.world := by
  unfold declare declareQueue
  rw [bind_ok (x := Link.current) (a := s.world) (t := s) rfl, RetryPolicy.name_queue]
  obtain ⟨effects, _⟩ : Effects asks moves s.world _ ∧ _ := effects_channel server keyed allowed
  refine Effects.run_bind effects fun i t _ => Idle.effects ?_
  exact quiet_compositional.bind quiet_compositional.current (fun _ => Quiet.install server _ _) t

/-- Whatever happens makes its effects. -/
theorem effects_act (server : Server σ) (keyed : Keyed s.world)
    (same : s.world.settings = settings) {a : Act σ} (within : a.Within settings asks moves) :
    Effects asks moves s.world (act server s a).world := by
  subst same
  cases a with
  | channel key options =>
    obtain ⟨effects, _⟩ : Effects asks moves s.world _ ∧ _ := effects_channel server keyed within
    exact Effects.run_bind effects fun _ _ _ => .refl
  | begin frame cancelled => exact effects_begin server keyed within.1 within.2
  | declare queue exchange routingKey => exact effects_declare server keyed within
  | move i m => exact effects_move fun c _ => within c.key
  | connect => exact Idle.effects (quiet_compositional.bind (Quiet.connect server)
      (fun _ => quiet_compositional.pure ()) s)
  | forget => exact .single .forgot
  | disconnect => exact .single (.idle none s.world.server)
  | server f => exact .single (.idle s.world.connection (f s.world.server))
  | report event => exact .refl

/-- So does a run. -/
theorem effects_run (keyed : Keyed s.world) (same : s.world.settings = settings)
    {acts : List (Act σ)} (within : ∀ a ∈ acts, a.Within settings asks moves) :
    Effects asks moves s.world (after server acts s).world := by
  induction acts generalizing s with
  | nil => exact .refl
  | cons a acts ih =>
    obtain ⟨first, rest⟩ := List.forall_mem_cons.1 within
    have effects := effects_act server keyed same first
    exact effects.trans (ih (effects.keyed keyed) (effects.settings_eq.trans same) rest)

theorem effects_after (server : Server σ) (settings : Settings) (policy : RetryPolicy) (world : σ)
    {acts : List (Act σ)} (within : ∀ a ∈ acts, a.Within settings asks moves) :
    Effects asks moves (fresh settings policy world).world
      (after server acts (fresh settings policy world)).world := by
  apply effects_run _ rfl within
  intro key i mem
  cases mem

end Courier.Link
