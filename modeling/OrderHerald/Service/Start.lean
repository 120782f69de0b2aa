import OrderHerald.Cache.Basic
import OrderHerald.Service.Admin
import OrderHerald.Service.Ingress
import OrderHerald.Settings.Reporting
import OrderHerald.Store.Fetch

/-!
# Starting the service

The service starts if its settings are right and the store of its routing definition can be opened.
It fetches the routing definition once; if that fails it is not ready, and serves all the same.

* `StartError` — why the service does not start.
* `Settings.open` — the source of the routing definition, if the settings are right.
* `Service` — a service; `Service.ofSettings`, `Service.start`, `Service.answer`, `Service.probe`.
-/

namespace OrderHerald

/-- Why the service does not start. -/
inductive StartError where
  /-- The settings file could not be opened. -/
  | load
  /-- The settings file holds no settings. -/
  | parse
  | settings (reason : SettingsError)
  | metrics (reason : MetricsError)
  | store (reason : FetchError)
  /-- One of the addresses cannot be listened on. -/
  | listen
  deriving DecidableEq, Repr

/-- The text of an error. -/
def StartError.message : StartError → String
  | .load => "could not load config from file"
  | .parse => "could not parse config"
  | .settings reason => "invalid config: " ++ reason.message
  | .metrics reason => "could not create statsd recorder: " ++ reason.message
  | .store reason => "Webhook definition store error: " ++ reason.message
  | .listen => "IO error"

variable [DomainNames]

/-- **The source of the routing definition**, if the settings are right and it can be opened. -/
def Settings.open (settings : Settings) : Except StartError Source :=
  match settings.validate with
  | .error reason => .error (.settings reason)
  | .ok () =>
    match settings.store.source settings.stage with
    | .error reason => .error (.store reason)
    | .ok source => .ok source

/-- A service: its routing definition comes from an origin in one world, all else happens in
another. -/
structure Service (σ ω : Type) where
  period : Span
  origin : Origin σ
  notifier : Notifier (Cached σ) ω

/-- A source as it lies in its surroundings. -/
def Source.origin {σ : Type} (source : Source) (s : Surroundings σ) : Origin σ where
  now := s.now
  fetch := source.fetch s
  writes_fetch := source.writes_fetch s

namespace Service

variable {σ ω : Type}

/-- **The service that settings describe.**  Without urls of nodes nobody tells blocks. -/
def ofSettings (settings : Settings) (source : Source) (fetching : Surroundings σ)
    (s : Surroundings ω) : Service σ ω :=
  let period := Span.of settings.refreshSeconds.toNat 0
  let origin := source.origin fetching
  { period, origin
    notifier := {
      provider := Provider.cached period origin
      surroundings := s
      blocks :=
        if settings.rpcUrls.entries.isEmpty then BlockSource.absent
        else BlockSource.nodes s settings.rpcUrls
      thresholds := settings.thresholds
      timeout := Span.ofMillis settings.timeoutMillis.toNat } }

/-- Fetches the routing definition once; a failure is only written down. -/
def start (service : Service σ ω) : Run (Cached σ × ω) Unit := do
  match ← (Cache.warm service.period service.origin).onLeft with
  | .ok () => pure ()
  | .error reason => Run.note (.notReady reason)

/-- The answer at the doors of the service. -/
def answer (service : Service σ ω) (visit : Visit) : Run (Cached σ × ω) (Option Answer) :=
  service.notifier.answer visit

/-- The answer at the doors for operators, in a state of the world. -/
def probe (_ : Service σ ω) (world : Cached σ × ω) (visit : Visit) : Answer :=
  OrderHerald.probe (Cache.isReady world.1) visit.path

end Service

end OrderHerald
