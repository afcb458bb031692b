/-
Configuration: which venue to talk to, and how.

A configuration starts from defaults, may take values from named settings, and
is then adjusted field by field. A setting that is there has to be good, and
the first bad one in the order environment, settle currency, depth, timeout is
the error.
-/
import BookSync.Decimal.Numeral
import BookSync.Error
import BookSync.Sync.Coordinator
import BookSync.Text.Lower

namespace BookSync

/-- Which of the venue's systems to talk to. -/
inductive Environment
  | live
  | testnet
  deriving DecidableEq

namespace Environment

/-- Where requests go. -/
def restBase : Environment → String
  | live => "https://api.gateio.ws/api/v4"
  | testnet => "https://fx-api-testnet.gateio.ws/api/v4"

/-- Where the streams are. -/
def streamBase : Environment → String
  | live => "wss://fx-ws.gateio.ws/v4/ws/"
  | testnet => "wss://fx-ws-testnet.gateio.ws/v4/ws/"

end Environment

/-- A configuration. -/
structure Config where
  environment : Environment
  /-- The currency that contracts are settled in. -/
  settle : String
  /-- How many levels of each side a snapshot is asked for. -/
  depth : Nat
  timeoutMs : Nat
  scope : ResetScope

namespace Config

/-- The configuration without any settings. -/
def default : Config := ⟨.live, "usdt", 100, 10000, .global⟩

/-- Where the stream of the settle currency is. -/
def streamUrl (c : Config) : String := c.environment.streamBase ++ c.settle

/-- Settings by name. -/
abbrev Settings := List (String × String)

/-- The environment that a setting names. -/
def readEnvironment (text : String) : Except Error Environment :=
  match Text.lower text with
  | "live" | "" => .ok .live
  | "testnet" => .ok .testnet
  | other => .error (.config ("unknown GATEIO_ENV " ++ Text.quoted other))

/-- The settle currency that a setting names. -/
def readSettle (text : String) : Except Error String :=
  if text.isEmpty then .error (.config "GATEIO_SETTLE is empty") else .ok (Text.lower text)

/-- The number that a setting holds, below a bound. -/
def readNumber (name : String) (bound : Nat) (text : String) : Except Error Nat :=
  match (Decimal.count? text.toList).filter (· < bound) with
  | some n => .ok n
  | none => .error (.config (s!"{name} is not a number: " ++ Text.quoted text))

/-- Take a value from a setting, or leave it if the setting is not there. -/
def setting {α : Type} (settings : Settings) (name : String) (read : String → Except Error α)
    (otherwise : α) : Except Error α :=
  match settings.lookup name with
  | some text => read text
  | none => .ok otherwise

/-- The configuration that settings describe. -/
def ofSettings (settings : Settings) : Except Error Config := do
  let environment ← setting settings "GATEIO_ENV" readEnvironment default.environment
  let settle ← setting settings "GATEIO_SETTLE" readSettle default.settle
  let depth ← setting settings "GATEIO_DEPTH" (readNumber "GATEIO_DEPTH" UInt32.size)
    default.depth
  let timeoutMs ← setting settings "GATEIO_TIMEOUT_SECS"
    (fun text => (readNumber "GATEIO_TIMEOUT_SECS" UInt64.size text).map (· * 1000))
    default.timeoutMs
  return { default with
    environment := environment
    settle := settle
    depth := depth
    timeoutMs := timeoutMs }

end Config

end BookSync
