import Courier.Proofs.Lists
import Courier.Proofs.Text.Blank
import Courier.Settings

/-!
# Numbers of the environment

Which texts are read as numbers, and which of three causes a text is refused for. Digits are read
from the left, so of a character that is no digit and a digit with which the number gets too large
the one that comes first counts (`Settings.Fault`). Settings can be read exactly if all of their
numbers can; otherwise the first number that cannot is at fault (`Settings.read_exactly`).
-/

namespace Courier.Settings
set_option autoImplicit false
open Digits (value valueFrom digitValue)

variable {bound n m : Nat} {cs : List Char}

/-! ## Digits -/

/-- Nothing but digits. -/
def AllDigits (cs : List Char) : Prop := ∀ c ∈ cs, c.isDigit = true

theorem le_valueFrom (n : Nat) (cs : List Char) : n ≤ valueFrom n cs := by
  induction cs generalizing n with
  | nil => exact Nat.le_refl n
  | cons c cs ih =>
    have rest := ih (10 * n + digitValue c)
    show n ≤ valueFrom (10 * n + digitValue c) cs
    omega

theorem valueFrom_append (n : Nat) (cs ds : List Char) :
    valueFrom n (cs ++ ds) = valueFrom (valueFrom n cs) ds :=
  List.foldl_append

/-- How digits are read after a number that is below the bound. -/
inductive Reading (bound n : Nat) (cs : List Char) : Except NumberError Nat → Prop
  | number (digits : AllDigits cs) (below : valueFrom n cs < bound) :
      Reading bound n cs (.ok (valueFrom n cs))
  | invalidDigit {digits : List Char} {c : Char} {rest : List Char}
      (split : cs = digits ++ c :: rest) (before : AllDigits digits)
      (below : valueFrom n digits < bound) (odd : c.isDigit = false) :
      Reading bound n cs (.error .invalidDigit)
  | tooLarge {digits : List Char} {c : Char} {rest : List Char}
      (split : cs = digits ++ c :: rest) (before : AllDigits digits)
      (below : valueFrom n digits < bound) (digit : c.isDigit = true)
      (above : bound ≤ valueFrom n (digits ++ [c])) :
      Reading bound n cs (.error .tooLarge)

theorem AllDigits.cons {c : Char} (digit : c.isDigit = true) (others : AllDigits cs) :
    AllDigits (c :: cs) :=
  List.forall_mem_cons.2 ⟨digit, others⟩

theorem reading_readDigits (below : n < bound) : Reading bound n cs (readDigits bound n cs) := by
  induction cs generalizing n with
  | nil => exact .number (List.forall_mem_nil _) below
  | cons c cs ih =>
    unfold readDigits
    split
    · next digit =>
      dsimp only
      split
      · next still =>
        have reading := ih still
        generalize readDigits bound (10 * n + digitValue c) cs = result at reading ⊢
        cases reading with
        | number digits below => exact .number (digits.cons digit) below
        | invalidDigit split before below odd =>
          exact .invalidDigit (congrArg (c :: ·) split) (before.cons digit) below odd
        | tooLarge split before below last above =>
          exact .tooLarge (congrArg (c :: ·) split) (before.cons digit) below last above
      · next reached =>
        exact .tooLarge (List.nil_append _).symm (List.forall_mem_nil _) below digit
          (Nat.not_lt.1 reached)
    · next odd =>
      exact .invalidDigit (List.nil_append _).symm (List.forall_mem_nil _) below
        (Bool.eq_false_iff.2 odd)

/-- Digits are passed over as long as their number stays below the bound. -/
theorem readDigits_append {digits : List Char} (before : AllDigits digits)
    (below : valueFrom n digits < bound) (rest : List Char) :
    readDigits bound n (digits ++ rest) = readDigits bound (valueFrom n digits) rest := by
  induction digits generalizing n with
  | nil => rfl
  | cons c digits ih =>
    obtain ⟨digit, others⟩ := List.forall_mem_cons.1 before
    have still : 10 * n + digitValue c < bound := Nat.lt_of_le_of_lt (le_valueFrom _ digits) below
    rw [List.cons_append, readDigits, if_pos digit]
    dsimp only
    rw [if_pos still]
    exact ih others below

theorem readDigits_of_reading {result : Except NumberError Nat} (h : Reading bound n cs result) :
    readDigits bound n cs = result := by
  cases h with
  | number digits below =>
    have passed := readDigits_append digits below []
    rwa [List.append_nil] at passed
  | invalidDigit split before below odd =>
    rw [split, readDigits_append before below, readDigits, if_neg (Bool.eq_false_iff.1 odd)]
  | tooLarge split before below digit above =>
    rw [valueFrom_append] at above
    rw [split, readDigits_append before below, readDigits, if_pos digit]
    exact if_neg (Nat.not_lt.2 above)

theorem reading_iff (below : n < bound) {result : Except NumberError Nat} :
    Reading bound n cs result ↔ readDigits bound n cs = result :=
  ⟨readDigits_of_reading, fun read => read ▸ reading_readDigits below⟩

/-! ## Numbers -/

/-- A text without the sign that it may have. -/
def unsigned : List Char → List Char
  | '+' :: cs => cs
  | cs => cs

/-- A number below a bound: one digit or more, with a plus sign in front at most. -/
def IsNumeral (bound : Nat) (cs : List Char) (n : Nat) : Prop :=
  ∃ digits, (cs = digits ∨ cs = '+' :: digits) ∧ digits ≠ [] ∧ AllDigits digits ∧
    value digits = n ∧ n < bound

/-- What is wrong with a text that is no number below a bound. Digits are read from the left as long
as their number stays below the bound. -/
inductive Fault (bound : Nat) (cs : List Char) : NumberError → Prop
  | empty (nothing : cs = []) : Fault bound cs .empty
  | signOnly (sign : cs = ['+']) : Fault bound cs .invalidDigit
  | invalidDigit {digits : List Char} {c : Char} {rest : List Char}
      (split : unsigned cs = digits ++ c :: rest) (before : AllDigits digits)
      (below : value digits < bound) (odd : c.isDigit = false) : Fault bound cs .invalidDigit
  | tooLarge {digits : List Char} {c : Char} {rest : List Char}
      (split : unsigned cs = digits ++ c :: rest) (before : AllDigits digits)
      (below : value digits < bound) (digit : c.isDigit = true)
      (above : bound ≤ value (digits ++ [c])) : Fault bound cs .tooLarge

/-- A text that is not empty and not a sign alone is read without its sign. -/
theorem readNumber_cases (bound : Nat) (cs : List Char) :
    (cs = [] ∧ readNumber bound cs = .error .empty) ∨
      (cs = ['+'] ∧ readNumber bound cs = .error .invalidDigit) ∨
      (unsigned cs ≠ [] ∧ (cs = unsigned cs ∨ cs = '+' :: unsigned cs) ∧
        readNumber bound cs = readDigits bound 0 (unsigned cs)) := by
  unfold readNumber
  split
  · exact .inl ⟨rfl, rfl⟩
  · exact .inr (.inl ⟨rfl, rfl⟩)
  · next digits alone =>
    exact .inr (.inr ⟨alone, .inr rfl, rfl⟩)
  · next some notAlone unsignedAlready =>
    have same : unsigned cs = cs := by
      unfold unsigned
      split
      · next digits => exact absurd rfl (unsignedAlready digits)
      · rfl
    rw [same]
    exact .inr (.inr ⟨some, .inl rfl, rfl⟩)

theorem unsigned_of_numeral {digits : List Char} (signed : cs = digits ∨ cs = '+' :: digits)
    (all : AllDigits digits) : unsigned cs = digits := by
  rcases signed with rfl | rfl
  · unfold unsigned
    split
    · next rest => exact absurd (all '+' List.mem_cons_self) (by decide)
    · rfl
  · rfl

theorem readNumber_eq_ok_iff (positive : 0 < bound) :
    readNumber bound cs = .ok n ↔ IsNumeral bound cs n := by
  constructor
  · intro read
    obtain ⟨-, refused⟩ | ⟨-, refused⟩ | ⟨some, signed, same⟩ := readNumber_cases bound cs
    · rw [refused] at read
      cases read
    · rw [refused] at read
      cases read
    · have reading := (reading_iff positive).2 (same.symm.trans read)
      cases reading with
      | number digits below => exact ⟨unsigned cs, signed, some, digits, rfl, below⟩
  · rintro ⟨digits, signed, some, all, rfl, below⟩
    have bare := unsigned_of_numeral signed all
    obtain ⟨nothing, -⟩ | ⟨sign, -⟩ | ⟨-, -, same⟩ := readNumber_cases bound cs
    · rw [nothing] at bare
      exact absurd bare.symm some
    · rw [sign] at bare
      exact absurd bare.symm some
    · rw [same, bare]
      exact readDigits_of_reading (.number all below)

theorem readNumber_eq_error_iff (positive : 0 < bound) {cause : NumberError} :
    readNumber bound cs = .error cause ↔ Fault bound cs cause := by
  obtain ⟨rfl, read⟩ | ⟨rfl, read⟩ | ⟨some, -, read⟩ := readNumber_cases bound cs
  · rw [read, Except.error.injEq]
    constructor
    · rintro rfl
      exact .empty rfl
    · intro fault
      cases fault with
      | empty _ => rfl
      | signOnly sign => cases sign
      | invalidDigit split => simp [unsigned] at split
      | tooLarge split => simp [unsigned] at split
  · rw [read, Except.error.injEq]
    constructor
    · rintro rfl
      exact .signOnly rfl
    · intro fault
      cases fault with
      | empty nothing => cases nothing
      | signOnly _ => rfl
      | invalidDigit split => simp [unsigned] at split
      | tooLarge split => simp [unsigned] at split
  · rw [read, ← reading_iff positive]
    constructor
    · intro reading
      cases reading with
      | invalidDigit split before below odd => exact .invalidDigit split before below odd
      | tooLarge split before below digit above => exact .tooLarge split before below digit above
    · intro fault
      cases fault with
      | empty nothing =>
        subst nothing
        exact absurd rfl some
      | signOnly sign =>
        subst sign
        exact absurd rfl some
      | invalidDigit split before below odd => exact .invalidDigit split before below odd
      | tooLarge split before below digit above => exact .tooLarge split before below digit above

/-! ## Variables -/

/-- A number that the environment may give: its name, its bound, and what it is if it is absent. -/
structure Variable where
  key : String
  bound : Nat
  absent : Nat

namespace Variable

/-- An environment gives a number: that of its text, white space around it aside, or the default. -/
def Gives (v : Variable) (lookup : String → Option String) (n : Nat) : Prop :=
  (lookup v.key = none ∧ n = v.absent) ∨ ∃ text core, lookup v.key = some text ∧
    Text.IsTrimmed text.toList core ∧ IsNumeral v.bound core n

/-- An environment has another text in place of a number. -/
def Fails (v : Variable) (lookup : String → Option String) (cause : NumberError) : Prop :=
  ∃ text core, lookup v.key = some text ∧ Text.IsTrimmed text.toList core ∧
    Fault v.bound core cause

/-- What is read of a variable. -/
def read (v : Variable) (lookup : String → Option String) : Except MessagingError Nat :=
  lookupNumber lookup v.key v.bound v.absent

variable {v : Variable} {lookup : String → Option String}

theorem read_eq_ok_iff (positive : 0 < v.bound) : v.read lookup = .ok n ↔ v.Gives lookup n := by
  unfold read lookupNumber Gives
  cases found : lookup v.key with
  | none => simp [eq_comm]
  | some text =>
    simp only [Text.isTrimmed_iff, ← readNumber_eq_ok_iff positive]
    cases read : readNumber v.bound (Text.trim text.toList) <;> simp [read]

theorem read_eq_error_iff (positive : 0 < v.bound) {e : MessagingError} :
    v.read lookup = .error e ↔ ∃ cause, v.Fails lookup cause ∧ e = .config v.key cause.message := by
  unfold read lookupNumber Fails
  cases found : lookup v.key with
  | none => simp
  | some text =>
    simp only [Text.isTrimmed_iff, ← readNumber_eq_error_iff positive]
    cases read : readNumber v.bound (Text.trim text.toList) <;> simp [read, eq_comm]

/-- The port of the broker. -/
def port : Variable := ⟨"RABBITMQ_PORT", shortBound, default.port⟩

/-- How many publishes may wait for their confirmation. -/
def window : Variable :=
  ⟨"RABBITMQ_MAX_OUTSTANDING_CONFIRMS", wordBound, default.maxOutstandingConfirms⟩

/-- How many deliveries may be under way. -/
def prefetch : Variable := ⟨"RABBITMQ_PREFETCH", shortBound, default.prefetch⟩

/-- The numbers of an environment, in the order in which they are read. -/
def numbers : List Variable := [port, window, prefetch]

theorem positive : ∀ v ∈ numbers, 0 < v.bound := by decide

end Variable

/-! ## Settings -/

open Variable (numbers)

variable {lookup : String → Option String}

/-- Settings that hold what an environment gives, number by number and text by text. -/
structure Holds (lookup : String → Option String) (s : Settings) : Prop where
  appName : s.appName = (lookup "APP_NAME").getD default.appName
  host : s.host = (lookup "RABBITMQ_HOST").getD default.host
  port : Variable.port.Gives lookup s.port
  vhost : s.vhost = (lookup "RABBITMQ_VHOST").getD default.vhost
  user : s.user = (lookup "RABBITMQ_USER").getD default.user
  password : s.password = (lookup "RABBITMQ_PASSWORD").getD default.password
  exchange : s.exchange = (lookup "RABBITMQ_EXCHANGE").getD default.exchange
  maxOutstandingConfirms : Variable.window.Gives lookup s.maxOutstandingConfirms
  prefetch : Variable.prefetch.Gives lookup s.prefetch

/-- The settings of an environment that gives these numbers. -/
def ofNumbers (lookup : String → Option String) (port window prefetch : Nat) : Settings where
  appName := (lookup "APP_NAME").getD default.appName
  host := (lookup "RABBITMQ_HOST").getD default.host
  port
  vhost := (lookup "RABBITMQ_VHOST").getD default.vhost
  user := (lookup "RABBITMQ_USER").getD default.user
  password := (lookup "RABBITMQ_PASSWORD").getD default.password
  exchange := (lookup "RABBITMQ_EXCHANGE").getD default.exchange
  maxOutstandingConfirms := window
  prefetch

theorem ofEnvironment_eq (lookup : String → Option String) :
    ofEnvironment lookup = do
      let port ← Variable.port.read lookup
      let window ← Variable.window.read lookup
      let prefetch ← Variable.prefetch.read lookup
      return ofNumbers lookup port window prefetch := rfl

/-- Numbers are read in turn, up to the first that cannot be. -/
theorem ofEnvironment_cases (lookup : String → Option String) :
    (∃ port window prefetch, Variable.port.read lookup = .ok port ∧
      Variable.window.read lookup = .ok window ∧ Variable.prefetch.read lookup = .ok prefetch ∧
      ofEnvironment lookup = .ok (ofNumbers lookup port window prefetch)) ∨
    ∃ before v after e, numbers = before ++ v :: after ∧
      (∀ u ∈ before, ∃ n, u.read lookup = .ok n) ∧ v.read lookup = .error e ∧
      ofEnvironment lookup = .error e := by
  rw [ofEnvironment_eq]
  cases port : Variable.port.read lookup with
  | error e => exact .inr ⟨[], _, _, e, rfl, List.forall_mem_nil _, port, rfl⟩
  | ok first =>
    cases window : Variable.window.read lookup with
    | error e => exact .inr ⟨[.port], _, _, e, rfl, by simp [port], window, rfl⟩
    | ok second =>
      cases prefetch : Variable.prefetch.read lookup with
      | error e =>
        exact .inr ⟨[.port, .window], _, _, e, rfl, by simp [port, window], prefetch, rfl⟩
      | ok third => exact .inl ⟨first, second, third, rfl, rfl, rfl, rfl⟩

theorem Variable.gives_of_read {v : Variable} (mem : v ∈ numbers) (read : v.read lookup = .ok n) :
    v.Gives lookup n :=
  (Variable.read_eq_ok_iff (Variable.positive v mem)).1 read

/-- A variable that gives a number has no other text, so that it is not at fault. -/
theorem Variable.read_ne_error {v : Variable} {e : MessagingError} (mem : v ∈ numbers)
    (gives : v.Gives lookup n) : v.read lookup ≠ .error e := by
  rw [(Variable.read_eq_ok_iff (Variable.positive v mem)).2 gives]
  exact nofun

theorem Holds.gives {s : Settings} (h : Holds lookup s) : ∀ v ∈ numbers, ∃ n, v.Gives lookup n := by
  simp only [numbers, List.forall_mem_cons]
  exact ⟨⟨_, h.port⟩, ⟨_, h.maxOutstandingConfirms⟩, ⟨_, h.prefetch⟩, List.forall_mem_nil _⟩

theorem ofEnvironment_eq_ok_iff {s : Settings} :
    ofEnvironment lookup = .ok s ↔ Holds lookup s := by
  obtain ⟨port, window, prefetch, portRead, windowRead, prefetchRead, made⟩ |
    ⟨before, v, after, e, split, -, refused, made⟩ := ofEnvironment_cases lookup
  · rw [made, Except.ok.injEq]
    constructor
    · rintro rfl
      exact {
        appName := rfl, host := rfl, vhost := rfl, user := rfl, password := rfl, exchange := rfl
        port := Variable.gives_of_read (by simp [numbers]) portRead
        maxOutstandingConfirms := Variable.gives_of_read (by simp [numbers]) windowRead
        prefetch := Variable.gives_of_read (by simp [numbers]) prefetchRead }
    · intro h
      have same {v : Variable} {m n : Nat} (mem : v ∈ numbers) (read : v.read lookup = .ok m)
          (gives : v.Gives lookup n) : m = n := by
        rw [(Variable.read_eq_ok_iff (Variable.positive v mem)).2 gives] at read
        exact (Except.ok.inj read).symm
      obtain ⟨_, _, _, _, _, _, _, _, _⟩ := s
      rw [ofNumbers, same (by simp [numbers]) portRead h.port,
        same (by simp [numbers]) windowRead h.maxOutstandingConfirms,
        same (by simp [numbers]) prefetchRead h.prefetch, ← h.appName, ← h.host, ← h.vhost,
        ← h.user, ← h.password, ← h.exchange]
  · rw [made]
    refine iff_of_false nofun fun h => ?_
    have mem : v ∈ numbers := split ▸ List.mem_append_right _ List.mem_cons_self
    obtain ⟨n, gives⟩ := h.gives v mem
    exact Variable.read_ne_error mem gives refused

/-- The first number of an environment that cannot be read, and why. -/
def AtFault (lookup : String → Option String) (v : Variable) (cause : NumberError) : Prop :=
  ∃ before after, numbers = before ++ v :: after ∧ (∀ u ∈ before, ∃ n, u.Gives lookup n) ∧
    v.Fails lookup cause

theorem AtFault.refused {v : Variable} {cause : NumberError} (h : AtFault lookup v cause) :
    v ∈ numbers ∧ v.read lookup = .error (.config v.key cause.message) := by
  obtain ⟨before, after, split, -, fails⟩ := h
  have mem : v ∈ numbers := split ▸ List.mem_append_right _ List.mem_cons_self
  exact ⟨mem, (Variable.read_eq_error_iff (Variable.positive v mem)).2 ⟨cause, fails, rfl⟩⟩

theorem ofEnvironment_eq_error_iff {e : MessagingError} :
    ofEnvironment lookup = .error e ↔
      ∃ v cause, AtFault lookup v cause ∧ e = .config v.key cause.message := by
  obtain ⟨port, window, prefetch, portRead, windowRead, prefetchRead, made⟩ |
    ⟨before, v, after, e', split, earlier, refused, made⟩ := ofEnvironment_cases lookup
  · rw [made]
    refine iff_of_false nofun ?_
    rintro ⟨v, cause, fault, -⟩
    have holds : Holds lookup _ := ofEnvironment_eq_ok_iff.1 made
    obtain ⟨mem, refused⟩ := fault.refused
    obtain ⟨n, gives⟩ := holds.gives v mem
    exact Variable.read_ne_error mem gives refused
  · rw [made, Except.error.injEq]
    have mem : v ∈ numbers := split ▸ List.mem_append_right _ List.mem_cons_self
    have given : ∀ u ∈ before, ∃ n, u.Gives lookup n := by
      intro u there
      obtain ⟨n, read⟩ := earlier u there
      exact ⟨n, Variable.gives_of_read (split ▸ List.mem_append_left _ there) read⟩
    constructor
    · rintro rfl
      obtain ⟨cause, fails, rfl⟩ := (Variable.read_eq_error_iff (Variable.positive v mem)).1 refused
      exact ⟨v, cause, ⟨before, after, split, given, fails⟩, rfl⟩
    · rintro ⟨u, cause, fault, rfl⟩
      obtain ⟨mem', refused'⟩ := fault.refused
      obtain ⟨before', after', split', given', -⟩ := fault
      -- both are the first that gives no number
      obtain rfl : v = u := first_eq (split.symm.trans split') given
        (fun ⟨_, gives⟩ => Variable.read_ne_error mem gives refused) given'
        (fun ⟨_, gives⟩ => Variable.read_ne_error mem' gives refused')
      exact Except.error.inj (refused.symm.trans refused')

/-- Settings are read from an environment exactly if each of its numbers is absent or a text that,
white space around it aside, is a number below its bound; they hold that number and the other texts
as they are, and defaults in place of what is absent. Otherwise the first number that cannot be read
is at fault, for what is wrong with its text. -/
theorem read_exactly (lookup : String → Option String) :
    ((∃ s, ofEnvironment lookup = .ok s) ↔ ∀ v ∈ numbers, ∃ n, v.Gives lookup n) ∧
    (∀ s, ofEnvironment lookup = .ok s ↔ Holds lookup s) ∧
    ∀ e, ofEnvironment lookup = .error e ↔
      ∃ v cause, AtFault lookup v cause ∧ e = .config v.key cause.message := by
  refine ⟨⟨?_, ?_⟩, fun s => ofEnvironment_eq_ok_iff, fun e => ofEnvironment_eq_error_iff⟩
  · rintro ⟨s, made⟩
    exact (ofEnvironment_eq_ok_iff.1 made).gives
  · intro given
    obtain ⟨_, _, _, -, -, -, made⟩ | ⟨before, v, after, e, split, -, refused, -⟩ :=
      ofEnvironment_cases lookup
    · exact ⟨_, made⟩
    · have mem : v ∈ numbers := split ▸ List.mem_append_right _ List.mem_cons_self
      obtain ⟨n, gives⟩ := given v mem
      exact absurd refused (Variable.read_ne_error mem gives)

/-- A character that is no digit counts unless the number got too large before it. -/
example : readNumber shortBound "65535x".toList = .error .invalidDigit ∧
    readNumber shortBound "65536x".toList = .error .tooLarge := by decide

end Courier.Settings
