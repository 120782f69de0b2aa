import OrderHerald.Settings.Basic
import OrderHerald.Yaml.Document

/-!
# The settings file

The file is a YAML mapping.  Under `notifier` stand the settings of the service; `metrics` says where
metrics are sent and `logging` where failures are reported, and both may be left out.  Members with
other names do not count, but they must be values.

* `Settings.ofYaml?` — settings alone.
* `SettingsFile.ofYaml?` — the whole file.
-/

namespace OrderHerald

/-- The settings a YAML text holds. -/
def Settings.ofYaml? (text : String) : Option Settings :=
  match Yaml.Node.read? text with
  | some (some node) => Settings.read? node
  | _ => none

/-- Where metrics are sent. -/
structure MetricsSettings where
  host : String
  port : UInt16
  deriving DecidableEq, Repr

/-- The whole file. -/
structure SettingsFile where
  metrics : Option MetricsSettings
  /-- Where failures are reported. -/
  dsn : Option String
  settings : Settings
  deriving Repr

namespace MetricsSettings

/-- Reads where metrics are sent. -/
def read? (value : Content) : Option MetricsSettings := do
  let record ← Record.of? ["statsd_host", "statsd_port"] value
  let host ← record.required? "statsd_host" Document.text?
  let port ← record.required? "statsd_port" Document.uint16?
  some ⟨host, port⟩

end MetricsSettings

namespace SettingsFile

/-- Reads where failures are reported. -/
def readDsn? (value : Content) : Option String := do
  let record ← Record.of? ["sentry_dsn"] value
  record.required? "sentry_dsn" Document.text?

/-- The values of the members other than the settings, set aside. -/
def others? (members : List (String × Yaml.Node)) : Option (List (String × Content)) :=
  (members.filter fun member => member.1 ≠ "notifier").mapM fun member =>
    (Yaml.Node.content? member.2).map (member.1, ·)

/-- The only member with a name that may be missing or null. -/
def optional? {α : Type} (name : String) (read? : Content → Option α)
    (members : List (String × Content)) : Option (Option α) :=
  match members.filter fun member => member.1 = name with
  | [] => some none
  | [(_, value)] => Record.nullable? read? value
  | _ => none

/-- **Reads the settings file.** -/
def ofYaml? (text : String) : Option SettingsFile := do
  match ← Yaml.Node.read? text with
  | some (.mapping _ pairs) =>
    let members ← pairs.mapM fun pair => (Yaml.Node.text? pair.1).map (·, pair.2)
    let others ← others? members
    let settings ← match members.filter fun member => member.1 = "notifier" with
      | [(_, node)] => Settings.read? node
      | _ => none
    let metrics ← optional? "metrics" MetricsSettings.read? others
    let dsn ← optional? "logging" readDsn? others
    some { metrics, dsn, settings }
  | _ => none

end SettingsFile

end OrderHerald
