import Moderation.Text.Blank
import Moderation.Text.Lowercase
/-!
# Commands in reports

The reason of a report can be a command when it starts with a slash.  The first word names it,
slashes stripped and in lower case; `ban` takes a list and a reason.
-/

namespace Moderation

/-- A command in the reason of a report. -/
inductive ReportCommand where
  | ban (list reason : String)
  | unknown (verb : String)
  deriving DecidableEq, Repr

namespace ReportCommand

/-- A command in a report lacks arguments. -/
inductive ParseError where
  | notEnoughArguments
  deriving DecidableEq, Repr

/-- The text of an error. -/
def ParseError.message : ParseError → String
  | .notEnoughArguments => "Not enough arguments for ban"

/-- Whether a reason is a command. -/
def isCommand (reason : String) : Bool := reason.toList.head? = some '/'

/-- The command of some words. -/
def ofWords : List String → Except ParseError (Option ReportCommand)
  | [] => .ok none
  | word :: args =>
    let verb := Text.lower (String.ofList (word.toList.dropWhile (· = '/')))
    if verb = "ban" then
      match args with
      | list :: first :: rest => .ok (some (.ban list (Text.unwords (first :: rest))))
      | _ => .error .notEnoughArguments
    else .ok (some (.unknown verb))

/-- The command in a reason, if it holds one. -/
def parse (reason : String) : Except ParseError (Option ReportCommand) :=
  if isCommand reason then ofWords (Text.words reason) else .ok none

end ReportCommand
end Moderation
