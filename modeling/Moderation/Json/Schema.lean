import Moderation.Json.Value
/-!
# Schemas of JSON values

A schema says which JSON values are expected somewhere.  A record has no members but those that the
schema names, and has all that it requires.  Whether a number is an integer is a matter of its
value: `10.0` is one.
-/

namespace Moderation.Json

/-- A schema. -/
inductive Schema where
  /-- A text of a least length that has one of some beginnings. -/
  | text (least : Nat) (beginnings : List String)
  /-- One of some texts. -/
  | choice (texts : List String)
  /-- A truth value. -/
  | truth
  /-- An integer with a least value. -/
  | integer (least : Int)
  /-- An array of items. -/
  | list (item : Schema)
  /-- An object with some members, of which some are required. -/
  | record (required : List String) (members : List (String × Schema))

namespace Schema

/-- A text with anything in it. -/
def anyText : Schema := .text 0 [""]

/-- A text that is not empty. -/
def someText : Schema := .text 1 [""]

mutual

/-- Whether a value is as a schema expects. -/
def accepts : Schema → Json → Bool
  | .text least beginnings, .string s =>
    least ≤ s.length && beginnings.any fun b => b.toList.isPrefixOf s.toList
  | .choice texts, .string s => texts.contains s
  | .truth, .bool _ => true
  | .integer least, .int n => least ≤ n
  | .integer least, .float x => x.isIntegral && x.atLeast least
  | .list item, .array items => items.all fun j => accepts item j
  | .record required members, .object entries =>
    required.all (fun name => entries.any (·.1 = name)) &&
      entries.all fun e => acceptsMember members e.1 e.2
  | _, _ => false

/-- Whether a member is among those of a schema and is as expected there. -/
def acceptsMember : List (String × Schema) → String → Json → Bool
  | [], _, _ => false
  | (name, schema) :: rest, found, j =>
    if name = found then accepts schema j else acceptsMember rest found j

end

end Schema
end Moderation.Json
