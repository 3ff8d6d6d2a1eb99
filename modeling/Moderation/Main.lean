import Moderation.CommandLine
/-!
# The program

The command line over the file system.  There are no sockets here, so every address to listen at is
refused, and the program ends once it has come that far.
-/

namespace Moderation.Main

/-- What stands at a path. -/
def look (path : String) : IO FileState := do
  try
    return .file (← IO.FS.readBinFile path)
  catch
    | .noFileOrDirectory .. => return .missing
    | _ => return .directory

/-- What a moderator with a configuration finds on disk. -/
def disk (c : Config) : IO Disk := do
  let auditFile ← look c.audit.path
  let auditMirror ← look (c.audit.mirrorPath.getD "")
  return { auditFile, auditMirror }

/-- Starts the service. -/
def start (c : Config) : IO (Except StartError Unit) := do
  return (Service.start c (← disk c) () fun _ => .error .unsupported).map fun _ => ()

end Moderation.Main

/-- Runs the program. -/
def main (arguments : List String) : IO UInt32 := do
  match ← Moderation.CommandLine.run arguments Moderation.Main.look Moderation.Main.start with
  | none => return 0
  | some exit =>
    exit.log.forM IO.println
    IO.eprint exit.complaint
    return UInt32.ofNat exit.code
