import OrderHerald.Settings.File

/-!
# Where metrics and failures go

Two parts of the settings file are looked at only when the service starts: where metrics are sent,
and where failures are reported.

Whether metrics can be sent to an address is for the network to say: the name of a host may be known to
nobody.  `Exporter` is what it says.

* `Exporter` — why metrics cannot be sent to an address.
* `MetricsSettings.validate` — what is wrong with where metrics are sent.
* `isReportingUrl` — a url that failures can be reported to: it names a user, a host and a project.
-/

namespace OrderHerald

/-- What is wrong with where metrics are sent. -/
inductive MetricsError where
  | emptyHost
  | zeroPort
  /-- There is no way to the address, for a reason that the network gives. -/
  | unreachable (reason : String)
  deriving DecidableEq, Repr

/-- The text of an error. -/
def MetricsError.message : MetricsError → String
  | .emptyHost => "Empty hostname is not allowed"
  | .zeroPort => "Port number must be nonzero"
  | .unreachable reason => reason

/-- The characters that take room and show nothing. -/
def isBlank (c : Char) : Bool :=
  let n := c.toNat
  (9 ≤ n && n ≤ 13) || n = 32 || n = 0x85 || n = 0xa0 || n = 0x1680 || (0x2000 ≤ n && n ≤ 0x200a)
    || n = 0x2028 || n = 0x2029 || n = 0x202f || n = 0x205f || n = 0x3000

/-- Why metrics cannot be sent to an address, if they cannot. -/
abbrev Exporter := MetricsSettings → Option String

/-- **Metrics need a host and a port**, and a way there: a host of blanks is none, and port zero is
none. -/
def MetricsSettings.validate (exporter : Exporter) (settings : MetricsSettings) :
    Except MetricsError Unit :=
  if settings.host.toList.all isBlank then .error .emptyHost
  else if settings.port = 0 then .error .zeroPort
  else
    match exporter settings with
    | some reason => .error (.unreachable reason)
    | none => .ok ()

/-- The path of a url names a project behind its slashes. -/
def namesProject (path : Path) : Bool :=
  path.text.toList.any (· ≠ '/')

/-- **A url that failures can be reported to.** -/
def isReportingUrl [DomainNames] (text : String) : Bool :=
  match Url.parse text with
  | .error _ => false
  | .ok url =>
    match url.authority with
    | none => false
    | some authority =>
      (url.scheme.name = "http" || url.scheme.name = "https") && authority.username ≠ ""
        && url.host?.isSome && namesProject url.path

end OrderHerald
