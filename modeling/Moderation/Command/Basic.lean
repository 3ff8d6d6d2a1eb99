import Moderation.Policy.Decision
import Moderation.Text.Blank
/-!
# Commands

What an administrator can tell the bot to do.  `Command.text` writes a command the way it would be
typed: its verb, its flag if it is set, its arguments and its reason, with single spaces between
them.
-/

namespace Moderation

/-- A command. -/
inductive Command where
  | join (rooms : List String)
  | leave (targets : List String)
  | redact (user reason : String)
  | kick (force : Bool) (pattern reason : String)
  | ban (takedown hashed : Bool) (list target reason : String)
  | remove (kind : RemovalKind) (list target : String)
  | addUnban (list target reason : String)
  | lookUp (target : String)
  deriving DecidableEq, Repr

namespace Command

/-- The verb of a command. -/
def verb : Command → String
  | .join _ => "!join"
  | .leave _ => "!leave"
  | .redact _ _ => "!redact"
  | .kick _ _ _ => "!kick"
  | .ban false _ _ _ _ => "!ban"
  | .ban true _ _ _ _ => "!takedown"
  | .remove .ban _ _ => "!remove-ban"
  | .remove .unban _ _ => "!remove-unban"
  | .remove .any _ _ => "!remove-policy"
  | .addUnban _ _ _ => "!add-unban"
  | .lookUp _ => "!match"

/-- A reason as the last argument of a command; an empty one is left out. -/
def reasonWords (reason : String) : List String := if reason.isEmpty then [] else [reason]

/-- The arguments of a command, flags first. -/
def arguments : Command → List String
  | .join rooms => rooms
  | .leave targets => targets
  | .redact user reason => user :: reasonWords reason
  | .kick force pattern reason =>
    (if force then ["--force"] else []) ++ pattern :: reasonWords reason
  | .ban _ hashed list target reason =>
    (if hashed then ["--hash"] else []) ++ list :: target :: reasonWords reason
  | .remove _ list target => [list, target]
  | .addUnban list target reason => list :: target :: reasonWords reason
  | .lookUp target => [target]

/-- A command as it would be typed. -/
def text (c : Command) : String := Text.unwords (c.verb :: c.arguments)

end Command
end Moderation
