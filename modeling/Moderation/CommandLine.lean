import Moderation.Config.Load
import Moderation.Service.Start
/-!
# The command line

The program has one command, which serves with the configuration in a file.  It ends at once when it
is called in another way, and after a line in its log when the configuration cannot be loaded or the
service cannot start.
-/

namespace Moderation

/-- What the program is called for. -/
inductive Invocation where
  | usage
  | serve (path : String)
  deriving DecidableEq, Repr

namespace Invocation

/-- Where the configuration is when no other place is named. -/
def defaultPath : String := "./config/example-config.yaml"

/-- The path after the last option that names one.  An option at the very end names none, and all
else is passed over. -/
def configPath (path : String) : List String → String
  | "--config" :: named :: rest => configPath named rest
  | _ :: rest => configPath path rest
  | [] => path

/-- What the program is called for with some arguments. -/
def ofArguments : List String → Invocation
  | "serve" :: rest => .serve (configPath defaultPath rest)
  | _ => .usage

end Invocation

/-- How the program ends: its code, what it says on standard error, and the lines of its log. -/
structure Exit where
  code : Nat
  complaint : String := ""
  log : List String := []
  deriving DecidableEq, Repr

namespace CommandLine

/-- How the program is used. -/
def usage : String := "Usage: bulwark serve --config <path>\n"

/-- The program ends because there is no configuration. -/
def noConfiguration (path : String) (e : ConfigError) : Exit where
  code := 1
  log := [s!"failed to load config {path}: " ++ (e.message?.getD "not a configuration")]

/-- The program ends because the service cannot start. -/
def noService (e : StartError) : Exit where
  code := 1
  log := ["server exited with error: " ++ e.message]

/-- Runs the program, given a way to look at files and one to start the service.  There is no end to
a service that has started. -/
def run {m : Type → Type} [Monad m] (arguments : List String) (look : String → m FileState)
    (start : Config → m (Except StartError Unit)) : m (Option Exit) := do
  match Invocation.ofArguments arguments with
  | .usage => return some { code := 2, complaint := usage }
  | .serve path =>
    match Config.load (← look path) with
    | .error e => return some (noConfiguration path e)
    | .ok c =>
      match ← start c with
      | .error e => return some (noService e)
      | .ok () => return none

end CommandLine
end Moderation
