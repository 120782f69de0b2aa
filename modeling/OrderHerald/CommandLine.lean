import OrderHerald.Service.Start

/-!
# The command line

The program takes one of two commands, and each takes the path of the settings file.  It ends with
an exit code: 0 if all went well, 1 with a text if something is wrong with what it was given, 2 if
the command line itself is wrong, 101 if failures cannot be reported where the settings say.

* `Command`, `Command.parse` — a command line.
* `FileState` — what the path leads to.
* `Launch`, `Command.launch` — how the program ends, or the service that it starts.
-/

namespace OrderHerald

/-- A command. -/
inductive Command where
  /-- Serve. -/
  | run (path : String)
  /-- Say whether the settings are right. -/
  | validate (path : String)
  /-- Say how the program is used. -/
  | help
  deriving DecidableEq, Repr

namespace Command

/-- The option that names the settings file. -/
def pathOption : String := "--config-path"

/-- What stands behind this argument is no option. -/
def endOfOptions : String := "--"

/-- What stands behind the option and a sign of equality. -/
def attached? (argument : String) : Option String :=
  let start := (pathOption ++ "=").toList
  if start.isPrefixOf argument.toList then
    some (String.ofList (argument.toList.drop start.length))
  else none

/-- An argument that looks like an option is no value; a lone hyphen does not look like one. -/
def isValue (argument : String) : Bool :=
  match argument.toList with
  | '-' :: _ :: _ => false
  | [] => false
  | _ => true

/-- An argument asks how the program is used. -/
def isHelp (argument : String) : Bool := argument = "--help" || argument = "-h"

/-- What the arguments of a command come to. -/
inductive Arguments where
  | path (path : String)
  | help
  deriving DecidableEq, Repr

/-- The arguments of a command, the path that was met before them being given.  The first argument
that asks how the program is used ends the list. -/
def arguments? : Option String → List String → Option Arguments
  | found, [] => found.map .path
  | found, argument :: rest =>
    if isHelp argument then some .help
    else if argument = endOfOptions then if rest = [] then found.map .path else none
    else if argument = pathOption then
      match rest with
      | value :: rest =>
        if isValue value && found.isNone then arguments? (some value) rest else none
      | [] => none
    else
      match attached? argument with
      | some value => if value ≠ "" && found.isNone then arguments? (some value) rest else none
      | none => none

/-- **The command of a command line**, if it is right. -/
def parse : List String → Option Command
  | [] => none
  | name :: rest =>
    if isHelp name then some .help
    else if name = "help" then
      if rest = [] || rest = ["run"] || rest = ["validate-config"] || rest = ["help"] then some .help
      else none
    else
      match name, arguments? none rest with
      | "run", some (.path path) => some (.run path)
      | "validate-config", some (.path path) => some (.validate path)
      | "run", some .help => some .help
      | "validate-config", some .help => some .help
      | _, _ => none

end Command

/-- What the path of the settings file leads to. -/
inductive FileState where
  /-- Nothing that can be opened. -/
  | missing
  /-- Something that can be opened but not read, such as a directory. -/
  | unreadable
  | text (contents : String)
  deriving DecidableEq, Repr

/-- How the program ends, or the service that it starts. -/
inductive Launch where
  /-- The command line is wrong. -/
  | usage
  /-- All is said. -/
  | done (output : String)
  | failed (reason : StartError)
  /-- Failures cannot be reported where the settings say. -/
  | crashed
  | serve (settings : Settings) (source : Source)

namespace Launch

/-- The exit code of a program that has ended. -/
def exitCode? : Launch → Option Nat
  | done _ => some 0
  | failed _ => some 1
  | usage => some 2
  | crashed => some 101
  | serve _ _ => none

end Launch

/-- The settings file that a path leads to. -/
def SettingsFile.load : FileState → Except StartError SettingsFile
  | .missing => .error .load
  | .unreadable => .error .parse
  | .text contents =>
    match SettingsFile.ofYaml? contents with
    | some file => .ok file
    | none => .error .parse

variable [DomainNames]

/-- The settings file, if the settings in it are right. -/
def SettingsFile.loadValid (state : FileState) : Except StartError SettingsFile :=
  match SettingsFile.load state with
  | .error reason => .error reason
  | .ok file =>
    match file.settings.validate with
    | .error reason => .error (.settings reason)
    | .ok () => .ok file

/-- Failures can be reported where the file says, or it does not say where. -/
def SettingsFile.reports (file : SettingsFile) : Bool :=
  match file.dsn with
  | none => true
  | some dsn => dsn = "" || isReportingUrl dsn

/-- What is wrong with where the file sends metrics, if it sends any. -/
def SettingsFile.validateMetrics (exporter : Exporter) (file : SettingsFile) :
    Except MetricsError Unit :=
  match file.metrics with
  | none => .ok ()
  | some metrics => metrics.validate exporter

namespace Command

/-- **Carries out a command**; `files` says what a path leads to, and `exporter` where metrics cannot be
sent. -/
def launch (files : String → FileState) (command : Command) (exporter : Exporter := fun _ => none) :
    Launch :=
  match command with
  | .help => .done ""
  | .validate path =>
    match SettingsFile.loadValid (files path) with
    | .error reason => .failed reason
    | .ok _ => .done (path ++ " is valid\n")
  | .run path =>
    match SettingsFile.loadValid (files path) with
    | .error reason => .failed reason
    | .ok file =>
      if !file.reports then .crashed
      else
        match file.validateMetrics exporter with
        | .error reason => .failed (.metrics reason)
        | .ok () =>
          match file.settings.open with
          | .error reason => .failed reason
          | .ok source => .serve file.settings source

end Command

end OrderHerald
