import OrderHerald.CommandLine

/-!
# The program

Reads the command line and the settings file.  This program has no sockets: a service that would
listen ends as it does where an address cannot be listened on.  Nor has it tables of international
domain names, and it takes it that metrics can be sent to wherever the settings say.
-/

namespace OrderHerald

/-- What an opened file holds. -/
def contents (handle : IO.FS.Handle) : IO FileState := do
  try
    let bytes ← handle.readBinToEnd
    return match String.fromUTF8? bytes with
      | some text => .text text
      | none => .unreadable
  catch _ => return .unreadable

/-- What a path leads to. -/
def fileState (path : String) : IO FileState := do
  try
    contents (← IO.FS.Handle.mk path .read)
  catch _ => return .missing

/-- The path that a command needs. -/
def Command.path? : Command → Option String
  | .run path => some path
  | .validate path => some path
  | .help => none

/-- Says how the program ended. -/
def finish : Launch → IO UInt32
  | .usage => do
    IO.eprintln "usage: notifier <run|validate-config> --config-path <CONFIG_PATH>"
    return 2
  | .done output => do
    IO.print output
    return 0
  | .failed reason => do
    IO.eprintln reason.message
    return 1
  | .crashed => do
    IO.eprintln "failures cannot be reported where the settings say"
    return 101
  | .serve _ _ => do
    IO.eprintln StartError.listen.message
    return 1

/-- Carries out the command of a command line. -/
def program (arguments : List String) : IO UInt32 := do
  match Command.parse arguments with
  | none => finish .usage
  | some command =>
    let state ← match command.path? with
      | some path => fileState path
      | none => pure .missing
    finish (command.launch fun _ => state)

end OrderHerald

/-- Carries out the command of the command line. -/
def main (arguments : List String) : IO UInt32 := OrderHerald.program arguments
