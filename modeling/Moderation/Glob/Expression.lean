import Moderation.Glob
import Moderation.Regex
/-!
# Patterns as regular expressions

A pattern is matched by a regular expression that is searched for: `*` is written as `.*`, `?` as
`.`, every other character as itself, escaped where it has a meaning of its own, and the whole
stands between the two anchors.
-/

namespace Moderation.Glob

/-- What a character of a pattern is written as. -/
def translate (c : Char) : List Char :=
  if c = '*' then ['.', '*'] else if c = '?' then ['.'] else Regex.escape c

/-- The text of the expression that is searched for. -/
def expression (pattern : String) : String :=
  String.ofList ('^' :: pattern.toList.flatMap translate ++ ['$'])

end Moderation.Glob
