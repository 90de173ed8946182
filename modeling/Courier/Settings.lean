import Courier.Error
import Courier.Json.Record

/-!
# Settings

Where the broker is, who connects, and how much may be under way. Settings come from the
environment or from a document; what is missing has a default.
-/

namespace Courier
set_option autoImplicit false

/-- The settings of a service. -/
structure Settings where
  appName : String
  host : String
  port : Nat
  vhost : String
  user : String
  password : String
  exchange : String
  maxOutstandingConfirms : Nat
  prefetch : Nat
  deriving DecidableEq

/-- The exchange messages go to unless told otherwise. -/
def defaultExchange : String := "client-manager"

/-- How many publishes may wait for their confirmation unless told otherwise. -/
def defaultMaxOutstandingConfirms : Nat := 1000

namespace Settings

/-- A broker on this machine. -/
def default : Settings where
  appName := "client-manager"
  host := "localhost"
  port := 5672
  vhost := "/"
  user := "guest"
  password := "guest"
  exchange := defaultExchange
  maxOutstandingConfirms := defaultMaxOutstandingConfirms
  prefetch := 10

/-- Bounds of the numbers: 16 bits for ports and prefetch counts, 64 for the window. -/
def shortBound : Nat := Nat.pow 2 16

@[inherit_doc shortBound]
def wordBound : Nat := Nat.pow 2 64

/-- Why a text is not a number below a bound. -/
inductive NumberError where
  | empty
  | invalidDigit
  | tooLarge
  deriving DecidableEq

/-- The wording of a cause. -/
def NumberError.message : NumberError → String
  | .empty => "cannot parse integer from empty string"
  | .invalidDigit => "invalid digit found in string"
  | .tooLarge => "number too large to fit in target type"

/-- Reads digits after a number already read, from the left. -/
def readDigits (bound : Nat) : Nat → List Char → Except NumberError Nat
  | n, [] => .ok n
  | n, c :: cs =>
    if c.isDigit then
      let n := 10 * n + Digits.digitValue c
      if n < bound then readDigits bound n cs else .error .tooLarge
    else .error .invalidDigit

/-- Reads a number: digits, with a plus sign in front at most. -/
def readNumber (bound : Nat) (cs : List Char) : Except NumberError Nat :=
  match cs with
  | [] => .error .empty
  | ['+'] => .error .invalidDigit
  | '+' :: digits => readDigits bound 0 digits
  | digits => readDigits bound 0 digits

/-- The number under a name of the environment, white space around it aside. -/
def lookupNumber (lookup : String → Option String) (key : String) (bound absent : Nat) :
    Except MessagingError Nat :=
  match lookup key with
  | none => .ok absent
  | some text =>
    match readNumber bound (Text.trim text.toList) with
    | .ok n => .ok n
    | .error e => .error (.config key e.message)

/-- The settings that an environment gives. -/
def ofEnvironment (lookup : String → Option String) : Except MessagingError Settings := do
  let text (key absent : String) := (lookup key).getD absent
  let port ← lookupNumber lookup "RABBITMQ_PORT" shortBound default.port
  let maxOutstandingConfirms ← lookupNumber lookup "RABBITMQ_MAX_OUTSTANDING_CONFIRMS" wordBound
    default.maxOutstandingConfirms
  let prefetch ← lookupNumber lookup "RABBITMQ_PREFETCH" shortBound default.prefetch
  return {
    appName := text "APP_NAME" default.appName
    host := text "RABBITMQ_HOST" default.host
    port
    vhost := text "RABBITMQ_VHOST" default.vhost
    user := text "RABBITMQ_USER" default.user
    password := text "RABBITMQ_PASSWORD" default.password
    exchange := text "RABBITMQ_EXCHANGE" default.exchange
    maxOutstandingConfirms
    prefetch }

open Json in
/-- The document of settings; it may lack any member. -/
def shape : Shape Settings where
  schema := ⟨"AmqpConfigs",
    [.optional "app_name" .text default.appName, .optional "host" .text default.host,
      .optional "port" (.nat shortBound "u16") default.port,
      .optional "vhost" .text default.vhost, .optional "user" .text default.user,
      .optional "password" .text default.password, .optional "exchange" .text default.exchange,
      .optional "max_outstanding_confirms" (.nat wordBound "usize") default.maxOutstandingConfirms,
      .optional "prefetch" (.nat shortBound "u16") default.prefetch]⟩
  toRecord s := (s.appName, s.host, s.port, s.vhost, s.user, s.password, s.exchange,
    s.maxOutstandingConfirms, s.prefetch, ())
  ofRecord
    | (appName, host, port, vhost, user, password, exchange, maxOutstandingConfirms, prefetch,
        ()) =>
      ⟨appName, host, port, vhost, user, password, exchange, maxOutstandingConfirms, prefetch⟩

/-- The settings that a document gives. -/
def ofDocument (document : Octets) : Except Json.Error Settings :=
  Json.document shape.codec.read document

/-- The virtual host in the path of the URI: the default one is escaped, others lose their leading
slashes. -/
def vhostPath (s : Settings) : String :=
  if s.vhost = "/" then "%2f" else String.ofList (s.vhost.toList.dropWhile (· = '/'))

/-- The URI to connect to. -/
def uri (s : Settings) : String :=
  "amqp://" ++ s.user ++ ":" ++ s.password ++ "@" ++ s.host ++ ":" ++ toString s.port ++ "/"
    ++ s.vhostPath

end Settings

end Courier
