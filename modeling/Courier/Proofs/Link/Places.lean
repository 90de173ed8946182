import Courier.Proofs.Link.Generation
import Courier.Proofs.Settings.Number

/-!
# The places of a channel to publish on

The configured window is any number of 64 bits (`Settings.exists_environment_iff`), and a channel to
publish on asks for a gate of that many places, of one at least. A gate cannot have as many as that:
the channel is made exactly if the window is not above `Gate.maxPlaces` (`Link.publishing_places`),
and who asks for it is aborted otherwise (`Link.places_beyond_gate`).
-/

namespace Courier
set_option autoImplicit false
open Confirm

/-! ## Windows that can be configured -/

namespace Settings

theorem Variable.Gives.lt {v : Variable} {lookup : String → Option String} {n : Nat}
    (gives : v.Gives lookup n) (absent : v.absent < v.bound) : n < v.bound := by
  rcases gives with ⟨-, rfl⟩ | ⟨_, _, -, -, _, -, -, -, -, below⟩
  · exact absent
  · exact below

/-- An environment that gives a window and nothing else. -/
def windowOnly (text key : String) : Option String :=
  if key = Variable.window.key then some text else none

/-- The windows that environments give are the numbers of 64 bits. -/
theorem exists_environment_iff {window : Nat} :
    (∃ lookup s, ofEnvironment lookup = .ok s ∧ s.maxOutstandingConfirms = window) ↔
      window < wordBound := by
  constructor
  · rintro ⟨lookup, s, accepted, rfl⟩
    have holds := ofEnvironment_eq_ok_iff.1 accepted
    exact holds.maxOutstandingConfirms.lt (by decide)
  · intro below
    let digits := Digits.atLeast 1 window
    let lookup := windowOnly (String.ofList digits)
    have all : AllDigits digits := fun _ => Digits.isDigit_of_mem_atLeast
    refine ⟨lookup, ofNumbers lookup default.port window default.prefetch, ?_, rfl⟩
    rw [ofEnvironment_eq_ok_iff]
    exact {
      appName := rfl, host := rfl, vhost := rfl, user := rfl, password := rfl, exchange := rfl
      port := .inl ⟨rfl, rfl⟩
      maxOutstandingConfirms := by
        refine .inr ⟨_, digits, rfl, ?_, digits, .inl rfl, Digits.atLeast_ne_nil, all,
          Digits.value_atLeast 1 window, below⟩
        rw [String.toList_ofList]
        exact Text.isTrimmed_self fun c mem => Text.not_isBlank_of_isDigit (all c mem)
      prefetch := .inl ⟨rfl, rfl⟩ }

end Settings

/-! ## Channels that can be made -/

namespace Link

variable {σ : Type} {server : Server σ} {s t : Surroundings (Link σ)} {key : String}
  {options : ChannelOptions} {i : Nat}

/-- An instance that a call for a channel makes has a lane of its own, with the window asked for. -/
theorem channel_anew (asked : (channel server key options).run s = (.ok i, t))
    (anew : s.world.instances.length ≤ i) :
    options.Fits ∧
      ∃ c, t.world.instances[i]? = some c ∧ c.lane = .new c.lane.key options.window := by
  have found := channel_found server key options s
  rw [asked] at found
  cases found with
  | @cached _ c known isOpen =>
    have old := (List.getElem?_eq_some_iff.1 (cached?_eq_some.1 known).2).1
    omega
  | made lost idle fits handle =>
    obtain ⟨_, _, _, rfl⟩ := idle
    exact ⟨fits, _, List.getElem?_concat_length, rfl⟩

/-- Where an environment was accepted, a channel to publish on asks for a gate of as many places as
the configured window, of one at least.

* Its lane can be made exactly if the window is not greater than a gate can be, and has those
  places.
* A call that makes an instance makes it with that lane.
* A call for which no open instance is there, and which is granted all that it takes, makes one
  exactly if the window is not greater than a gate can be. It is aborted otherwise: a generation is
  used up, and nothing is made. -/
theorem publishing_places (server : Server σ) (exchange : String) {lookup : String → Option String}
    (accepted : Settings.ofEnvironment lookup = .ok s.world.settings) :
    let configured := s.world.settings.maxOutstandingConfirms
    let options := ChannelOptions.publishing configured
    let places := max 1 configured
    (1 ≤ places ∧ places < Settings.wordBound ∧
      (places ≤ Gate.maxPlaces ↔ configured ≤ Gate.maxPlaces)) ∧
    (∀ name, (Lane.new name options.window).window.free = places ∧
      Lane.make name options.window =
        if configured ≤ Gate.maxPlaces then some (.new name options.window) else none) ∧
    let (result, t) := (channel server exchange options).run s
    (∀ i, result = .ok i → s.world.instances.length ≤ i →
      ∃ c, t.world.instances[i]? = some c ∧ c.lane.window.free = places ∧
        Lane.make c.lane.key options.window = some c.lane) ∧
    ∀ connection handle, Lost server s.world exchange →
      Grants server s.world options connection handle →
      if configured ≤ Gate.maxPlaces then result = .ok s.world.instances.length
      else result = .error .internal ∧ t.world.instances = s.world.instances ∧
        t.world.cache = s.world.cache ∧ t.world.generations = s.world.generations + 1 := by
  intro configured options places
  have bounded : configured < Settings.wordBound :=
    Settings.exists_environment_iff.1 ⟨lookup, _, accepted, rfl⟩
  have one : 1 ≤ Gate.maxPlaces := by decide
  have word : 1 < Settings.wordBound := by decide
  have raised : options.window = max configured 1 := rfl
  have fits : options.Fits ↔ configured ≤ Gate.maxPlaces := by
    unfold ChannelOptions.Fits
    omega
  have lane (name : String) : (Lane.new name options.window).window.free = places ∧
      Lane.make name options.window =
        if configured ≤ Gate.maxPlaces then some (.new name options.window) else none := by
    refine ⟨?_, (Lane.make_eq name options.window).trans (if_congr fits rfl rfl)⟩
    show max options.window 1 = places
    omega
  have granted (connection handle : Nat) (lost : Lost server s.world exchange)
      (grants : Grants server s.world options connection handle) :=
    channel_granted lost grants
  have failed := channel_found server exchange options s
  refine ⟨⟨by omega, by omega, by omega⟩, lane, ?_⟩
  generalize ran : (channel server exchange options).run s = answer at granted failed
  obtain ⟨result, t⟩ := answer
  refine ⟨fun i had anew => ?made, fun connection handle lost grants => ?granted⟩
  case made =>
    subst had
    obtain ⟨fit, c, found, new⟩ := channel_anew ran anew
    obtain ⟨free, made⟩ := lane c.lane.key
    rw [← new] at free made
    rw [if_pos (fits.1 fit)] at made
    exact ⟨c, found, free, made⟩
  case granted =>
    obtain ⟨t', same, -, generations⟩ := granted connection handle lost grants
    cases same
    split
    · next fit => exact if_pos (fits.2 fit)
    · next beyond =>
      have aborted : (if options.Fits then .ok s.world.instances.length else .error .internal)
          = (.error .internal : Except BrokerError Nat) := if_neg (mt fits.1 beyond)
      rw [aborted] at failed
      obtain ⟨cache, instances, -⟩ := failed.error_cases
      exact ⟨aborted, instances, cache, generations⟩

/-- A window of none is raised to one. -/
theorem publishing_places_none :
    let lookup := Settings.windowOnly "0"
    let settings := { Settings.default with maxOutstandingConfirms := 0 }
    let (result, t) := (channel .granting settings.exchange
      (.publishing settings.maxOutstandingConfirms)).run (fresh settings .requeue ())
    Settings.ofEnvironment lookup = .ok settings ∧ result = .ok 0 ∧
      ∃ c, t.world.instances[0]? = some c ∧ c.lane.window.free = 1 ∧
        Lane.make c.lane.key 1 = some c.lane := by
  intro lookup settings
  have accepted : Settings.ofEnvironment lookup = .ok settings := by rfl
  obtain ⟨-, -, made, granted⟩ := publishing_places .granting settings.exchange
    (s := fresh settings .requeue ()) accepted
  have had := granted 0 0 nofun (.intro (.anew nofun rfl) rfl fun _ => rfl)
  exact ⟨accepted, had, made 0 had (Nat.le_refl 0)⟩

/-- A window of one place more than a gate can have is accepted, and whoever publishes with it first
is aborted. -/
theorem places_beyond_gate :
    let lookup := Settings.windowOnly "2305843009213693952"
    ∃ settings, Settings.ofEnvironment lookup = .ok settings ∧
      let options := ChannelOptions.publishing settings.maxOutstandingConfirms
      let (result, t) := (channel .granting settings.exchange options).run
        (fresh settings .requeue ())
      Gate.maxPlaces < options.window ∧ (∀ name, Lane.make name options.window = none) ∧
        result = .error .internal ∧ t.world.instances = [] ∧ t.world.generations = 1 := by
  intro lookup
  refine ⟨{ Settings.default with maxOutstandingConfirms := 2305843009213693952 }, by rfl,
    by decide, fun name => ?_, rfl, rfl, rfl⟩
  rw [Lane.make_eq]
  rfl

end Link

end Courier
