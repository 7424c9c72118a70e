import VisitorLink.Json.Reader
import VisitorLink.Json.Schema
import VisitorLink.Json.Writer
import VisitorLink.Settings.Environment

/-!
# Settings of the client

The settings come from the environment or from a JSON document, and either source is checked by
`ClientSettings.check` before it is used. A document may hold only some of the settings, but no
other keys.
-/

namespace VisitorLink

/-- The settings of a client. -/
structure ClientSettings where
  /-- The address of the service, without a slash at its end. -/
  baseUrl : String := "http://127.0.0.1:3001/api"
  requestTimeoutSecs : UInt64 := 10
  heartbeatSecs : UInt64 := 30
  detectIntervalMs : UInt64 := 500
  detectAttempts : UInt32 := 12
  /-- The folder that the slots are kept in. -/
  storageFolder : String := "data"
deriving DecidableEq

namespace ClientSettings

/-- A text without the slashes at its end. -/
def withoutTrailingSlashes (url : String) : String :=
  String.ofList (url.toList.reverse.dropWhile (· == '/')).reverse

/-- Whether a text starts with another one. -/
def startsWith (head text : String) : Bool :=
  head.toList.isPrefixOf text.toList

/-- Whether a URL names one of the two schemes that the service is reached by. -/
def hasHttpScheme (url : String) : Bool :=
  startsWith "http://" url || startsWith "https://" url

/-- Accepts settings that the client can work with. -/
def check (settings : ClientSettings) : Except ConfigError ClientSettings :=
  if !hasHttpScheme settings.baseUrl then
    .error (.invalid "api_base_url must start with http:// or https://")
  else if settings.requestTimeoutSecs = 0 ∨ 120 < settings.requestTimeoutSecs then
    .error (.invalid "request_timeout_secs must be between 1 and 120")
  else if settings.heartbeatSecs = 0 then
    .error (.invalid "heartbeat_interval_secs must be positive")
  else if settings.detectIntervalMs = 0 ∨ settings.detectAttempts = 0 then
    .error (.invalid "provider detection needs a positive interval and attempt count")
  else .ok settings

/-- The value of a variable, or the default if it is not set. -/
def setting {α : Type} (read? : String → Option α) (env : Environment) (name : String)
    (default : α) : Except ConfigError α :=
  (env.parseOr read? name default).mapError ConfigError.ofVariable

/-- The settings that the environment gives. -/
def ofEnvironment (env : Environment) : Except ConfigError ClientSettings := do
  let defaults : ClientSettings := {}
  let timeout ← setting Environment.word64? env "IDENTITY_REQUEST_TIMEOUT_SECS"
    defaults.requestTimeoutSecs
  let heartbeat ← setting Environment.word64? env "IDENTITY_HEARTBEAT_SECS" defaults.heartbeatSecs
  let interval ← setting Environment.word64? env "IDENTITY_DETECT_INTERVAL_MS"
    defaults.detectIntervalMs
  let attempts ← setting Environment.word32? env "IDENTITY_DETECT_ATTEMPTS"
    defaults.detectAttempts
  check {
    baseUrl := withoutTrailingSlashes (env.getOr "IDENTITY_API_URL" defaults.baseUrl)
    requestTimeoutSecs := timeout
    heartbeatSecs := heartbeat
    detectIntervalMs := interval
    detectAttempts := attempts
    storageFolder := env.getOr "IDENTITY_STORAGE_DIR" defaults.storageFolder }

/-- The environment in which each setting is given by its variable. -/
def toEnvironment (settings : ClientSettings) : Environment :=
  .ofTexts [("IDENTITY_API_URL", settings.baseUrl),
    ("IDENTITY_REQUEST_TIMEOUT_SECS", toString settings.requestTimeoutSecs.toNat),
    ("IDENTITY_HEARTBEAT_SECS", toString settings.heartbeatSecs.toNat),
    ("IDENTITY_DETECT_INTERVAL_MS", toString settings.detectIntervalMs.toNat),
    ("IDENTITY_DETECT_ATTEMPTS", toString settings.detectAttempts.toNat),
    ("IDENTITY_STORAGE_DIR", settings.storageFolder)]

/-- The fields of the record, which is closed. -/
def schema : Json.Schema where
  fields := ["api_base_url", "request_timeout_secs", "heartbeat_interval_secs",
    "detect_interval_ms", "detect_attempts", "storage_dir"]
  closed := true

/-- Reads the record. -/
def read? (value : Json) : Option ClientSettings := do
  let fields ← schema.fields? value
  let defaults : ClientSettings := {}
  return {
    baseUrl := ← fields.defaulted? "api_base_url" Json.text? defaults.baseUrl
    requestTimeoutSecs :=
      ← fields.defaulted? "request_timeout_secs" Json.word64? defaults.requestTimeoutSecs
    heartbeatSecs :=
      ← fields.defaulted? "heartbeat_interval_secs" Json.word64? defaults.heartbeatSecs
    detectIntervalMs :=
      ← fields.defaulted? "detect_interval_ms" Json.word64? defaults.detectIntervalMs
    detectAttempts := ← fields.defaulted? "detect_attempts" Json.word32? defaults.detectAttempts
    storageFolder := ← fields.defaulted? "storage_dir" Json.text? defaults.storageFolder }

/-- The record of the settings. -/
def toJson (settings : ClientSettings) : Json :=
  .object [("api_base_url", .text settings.baseUrl),
    ("request_timeout_secs", .ofNat settings.requestTimeoutSecs.toNat),
    ("heartbeat_interval_secs", .ofNat settings.heartbeatSecs.toNat),
    ("detect_interval_ms", .ofNat settings.detectIntervalMs.toNat),
    ("detect_attempts", .ofNat settings.detectAttempts.toNat),
    ("storage_dir", .text settings.storageFolder)]

/-- The settings that a document gives. -/
def ofDocument (document : String) : Except ConfigError ClientSettings :=
  match (Json.read? document).bind read? with
  | some settings => check settings
  | none => .error (.parse "the document does not hold a configuration")

/-! ## Durations, in milliseconds -/

/-- How long a request may take. -/
def requestTimeout (settings : ClientSettings) : Nat :=
  settings.requestTimeoutSecs.toNat * 1000

/-- The time between two heartbeats. -/
def heartbeatPeriod (settings : ClientSettings) : Nat :=
  settings.heartbeatSecs.toNat * 1000

/-- The time between two looks for the provider. -/
def detectInterval (settings : ClientSettings) : Nat :=
  settings.detectIntervalMs.toNat

end ClientSettings

end VisitorLink
