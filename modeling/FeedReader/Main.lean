import FeedReader.CommandLine.Launch
import FeedReader.Session.Frame

/-!
# The program

Arguments, the environment and the file system on the one side, a launch on the
other.  Nothing here can reach a server or draw on a terminal: every request
finds the network unreachable, and a session that has been opened says that
there is no terminal.
-/

namespace FeedReader.CommandLine

def fileState (path : String) : IO Settings.FileState := do
  try
    return .bytes (← IO.FS.readBinFile path).toList
  catch
    | .noFileOrDirectory _ _ _ => return .missing
    | .inappropriateType _ 21 _ => return .unreadable .isDirectory
    | .inappropriateType _ 20 _ => return .unreadable .throughFile
    | e => return .unreadable (.other (toString e))

def prepare (home : String) : IO Unit := do
  let folder := settingsFolder home
  IO.FS.createDirAll folder
  IO.setAccessRights folder { user := { read := true, write := true, execution := true } }
  let _ ← IO.FS.Handle.mk (logPath home) .append

def surroundings (options : Options) : IO Surroundings := do
  let home ← IO.getEnv "HOME"
  let token ← IO.getEnv "MURMUR_TOKEN"
  let file ← match home with
    | none => pure .missing
    | some home =>
        prepare home
        fileState (settingsPath options home)
  return { home, token, fileAt := fun _ => file, network := .unreachable }

def run (options : Options) : IO UInt32 := do
  let launched := launch (← surroundings options) options
  IO.print launched.output
  let fault := match launched.result with
    | .error fault => fault
    | .ok _ => .noTerminal
  IO.eprintln fault.report
  return 1

end FeedReader.CommandLine

def main (arguments : List String) : IO UInt32 := do
  match FeedReader.CommandLine.parse arguments with
  | .error .help =>
      IO.println FeedReader.CommandLine.usage
      return 0
  | .error refusal =>
      IO.eprintln refusal.message
      return 2
  | .ok options => FeedReader.CommandLine.run options
