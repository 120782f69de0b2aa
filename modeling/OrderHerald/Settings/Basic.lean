import OrderHerald.Dict
import OrderHerald.Store.Settings

/-!
# Settings of the service

Where the service listens, where its routing definition is kept, and a few limits, most of them with
defaults.

* `Settings` — the settings; `Settings.read?` reads them from any format that holds settings.
* `Settings.validate` — what is wrong with them, the first of a fixed sequence of checks.
-/

namespace OrderHerald

/-- An address to listen on. -/
structure Listener where
  host : String
  port : UInt16
  deriving DecidableEq, Repr, Inhabited

/-- How far past the start of its decay an order may be before it is stale. -/
structure Thresholds where
  seconds : UInt64 := 2
  blocks : UInt64 := 1
  deriving DecidableEq, Repr, Inhabited

/-- The settings of the service. -/
structure Settings where
  /-- For change records and orders with an exclusive filler. -/
  listener : Listener
  /-- For probes of health and readiness. -/
  adminListener : Listener
  stage : Stage
  store : Store
  /-- How many seconds a routing definition is served before it is fetched again. -/
  refreshSeconds : UInt64 := 300
  /-- How many milliseconds a webhook has to answer. -/
  timeoutMillis : UInt64 := 200
  thresholds : Thresholds := {}
  /-- The node that tells the latest block of a chain, per chain. -/
  rpcUrls : Dict UInt64 String := Dict.empty
  deriving Repr

/-- What is wrong with settings. -/
inductive SettingsError where
  | invalidPort
  | zeroRefreshPeriod
  | zeroTimeout
  | store (reason : StoreError)
  | invalidRpcUrl (chain : UInt64) (reason : UrlError)
  deriving DecidableEq, Repr

/-- The text of an error. -/
def SettingsError.message : SettingsError → String
  | .invalidPort => "Port cannot be 0"
  | .zeroRefreshPeriod => "Definition refresh period cannot be 0"
  | .zeroTimeout => "Dispatch timeout cannot be 0"
  | .store reason => reason.message
  | .invalidRpcUrl chain reason =>
    "Invalid rpc url for chain " ++ toString chain.toNat ++ ": " ++ reason.message

variable {δ : Type} [SettingsDocument δ]

namespace Listener

/-- Reads an address. -/
def read? (value : δ) : Option Listener := do
  let record ← Record.of? ["host", "port"] value
  let host ← record.required? "host" Document.text?
  let port ← record.required? "port" Document.uint16?
  some ⟨host, port⟩

/-- Port zero is no port. -/
def validate (listener : Listener) : Except SettingsError Unit :=
  if listener.port = 0 then .error .invalidPort else .ok ()

end Listener

namespace Settings

/-- A table of texts under chain numbers; the last entry of a chain counts. -/
def readUrls? (value : δ) : Option (Dict UInt64 String) := do
  let entries ← SettingsDocument.numbered? value
  let urls ← entries.mapM fun entry => (Document.text? entry.2).map (entry.1, ·)
  some (Dict.ofList urls)

/-- Reads the limit on deliveries. -/
def readTimeout? (value : δ) : Option UInt64 := do
  let record ← Record.of? ["timeout_ms"] value
  record.withDefault? "timeout_ms" 200 Document.uint64?

/-- Reads the settings of staleness: the thresholds and the nodes. -/
def readStaleness? (value : δ) : Option (Thresholds × Dict UInt64 String) := do
  let record ← Record.of? ["time_threshold_secs", "block_threshold", "rpc_urls"] value
  let seconds ← record.withDefault? "time_threshold_secs" 2 Document.uint64?
  let blocks ← record.withDefault? "block_threshold" 1 Document.uint64?
  let urls ← record.withDefault? "rpc_urls" Dict.empty readUrls?
  some (⟨seconds, blocks⟩, urls)

/-- The fields of the settings. -/
def fields : List Field :=
  ["listener", "admin_listener", "stage", "webhook_store", "definition_refresh_secs", "dispatch",
    "staleness"]

/-- **Reads the settings.** -/
def read? (value : δ) : Option Settings := do
  let record ← Record.of? fields value
  let listener ← record.required? "listener" Listener.read?
  let adminListener ← record.required? "admin_listener" Listener.read?
  let stage ← record.required? "stage" Stage.read?
  let store ← record.required? "webhook_store" Store.read?
  let refreshSeconds ← record.withDefault? "definition_refresh_secs" 300 Document.uint64?
  let timeoutMillis ← record.withDefault? "dispatch" 200 readTimeout?
  let (thresholds, rpcUrls) ← record.withDefault? "staleness" ({}, Dict.empty) readStaleness?
  some { listener, adminListener, stage, store, refreshSeconds, timeoutMillis, thresholds, rpcUrls }

variable [DomainNames]

/-- The first url, by ascending chain, that is none. -/
def validateUrls : List (UInt64 × String) → Except SettingsError Unit
  | [] => .ok ()
  | (chain, url) :: rest =>
    match Url.parse url with
    | .error reason => .error (.invalidRpcUrl chain reason)
    | .ok _ => validateUrls rest

/-- **What is wrong with the settings.** -/
def validate (settings : Settings) : Except SettingsError Unit := do
  settings.listener.validate
  settings.adminListener.validate
  match settings.store.validate with
  | .error reason => .error (.store reason)
  | .ok () =>
    if settings.refreshSeconds = 0 then .error .zeroRefreshPeriod
    else if settings.timeoutMillis = 0 then .error .zeroTimeout
    else validateUrls settings.rpcUrls.entries

end Settings

end OrderHerald
