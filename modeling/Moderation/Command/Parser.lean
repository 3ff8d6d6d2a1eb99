import Moderation.Command.Basic
import Moderation.Text.Lowercase
/-!
# Reading commands

A message is cut into words; the first word, in lower case, is the verb.  A message whose verb is
unknown is no command.  A known verb whose arguments are missing is answered with how it is used.
-/

namespace Moderation.Command

/-- A command was used wrongly: how it is used. -/
structure UsageError where
  usage : String
  deriving DecidableEq, Repr

/-- The text of a usage error. -/
def UsageError.message (e : UsageError) : String := "Usage: `" ++ e.usage ++ "`"

/-- Takes a flag off the front of some arguments, if it stands there. -/
def takeFlag (flag : String) : List String → Bool × List String
  | [] => (false, [])
  | word :: rest => if word = flag then (true, rest) else (false, word :: rest)

/-- A ban or a takedown. -/
def parseBan (verb : String) (takedown : Bool) (args : List String) : Except UsageError Command :=
  let (hashed, rest) := takeFlag "--hash" args
  match rest with
  | list :: target :: reason => .ok (.ban takedown hashed list target (Text.unwords reason))
  | _ => .error ⟨verb ++ " [--hash] <list shortcode> <entity> [reason]"⟩

/-- A removal. -/
def parseRemoval (verb : String) (kind : RemovalKind) (args : List String) :
    Except UsageError Command :=
  match args with
  | list :: target :: _ => .ok (.remove kind list target)
  | _ => .error ⟨verb ++ " <list shortcode> <entity>"⟩

/-- The command of a verb and its arguments; nothing for a verb that is not known. -/
def ofVerb (verb : String) (args : List String) : Except UsageError (Option Command) :=
  match verb with
  | "!join" => if args.isEmpty then .error ⟨"!join <room ID>..."⟩ else .ok (some (.join args))
  | "!leave" => if args.isEmpty then .error ⟨"!leave <room ID>..."⟩ else .ok (some (.leave args))
  | "!redact" =>
    match args with
    | user :: reason => .ok (some (.redact user (Text.unwords reason)))
    | [] => .error ⟨"!redact <user ID> [reason]"⟩
  | "!kick" =>
    let (force, rest) := takeFlag "--force" args
    match rest with
    | pattern :: reason => .ok (some (.kick force pattern (Text.unwords reason)))
    | [] => .error ⟨"!kick [--force] <user ID or glob> [reason]"⟩
  | "!ban" => (parseBan verb false args).map some
  | "!takedown" => (parseBan verb true args).map some
  | "!remove-ban" => (parseRemoval verb .ban args).map some
  | "!remove-unban" => (parseRemoval verb .unban args).map some
  | "!remove-policy" => (parseRemoval verb .any args).map some
  | "!add-unban" =>
    match args with
    | list :: target :: reason => .ok (some (.addUnban list target (Text.unwords reason)))
    | _ => .error ⟨"!add-unban <list shortcode> <entity> <reason>"⟩
  | "!match" =>
    match args with
    | target :: _ => .ok (some (.lookUp target))
    | [] => .error ⟨"!match <entity or hash>"⟩
  | _ => .ok none

/-- The command of some words. -/
def ofWords : List String → Except UsageError (Option Command)
  | [] => .ok none
  | verb :: args => ofVerb (Text.lower verb) args

/-- The command that a message holds, if it holds one. -/
def parse (body : String) : Except UsageError (Option Command) := ofWords (Text.words body)

end Moderation.Command
