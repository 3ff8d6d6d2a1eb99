import Moderation.Digest.Sha256
import Moderation.Digest.Base64
/-!
# Entities

What a policy rule can be about: a user, a room or a server, told apart by the spelling of its
identifier.  A user starts with `@`, a room with `!`; a server name is made of letters, digits,
dots, hyphens and the two wildcards, and its last dot has something on either side.

An entity can be hidden behind its **pseudonym**, the SHA-256 digest of its identifier in Base64.
-/

namespace Moderation

/-- The kinds of entity that policy rules are about. -/
inductive EntityKind where
  | user
  | room
  | server
  deriving DecidableEq, Repr

namespace EntityKind

/-- The name of a kind. -/
def name : EntityKind → String
  | .user => "user"
  | .room => "room"
  | .server => "server"

/-- The type of the state events that hold the rules about a kind. -/
def eventType : EntityKind → String
  | .user => "m.policy.rule.user"
  | .room => "m.policy.rule.room"
  | .server => "m.policy.rule.server"

/-- The kind with a name. -/
def ofName? : String → Option EntityKind
  | "user" => some .user
  | "room" => some .room
  | "server" => some .server
  | _ => none

@[simp] theorem ofName?_name (k : EntityKind) : ofName? k.name = some k := by cases k <;> rfl

end EntityKind

namespace Entity

/-- The characters of a label of a server name. -/
def isLabelChar (c : Char) : Bool := c.isAlphanum || c = '*' || c = '?' || c = '-'

/-- The characters of a server name. -/
def isServerChar (c : Char) : Bool := isLabelChar c || c = '.'

/-- A server name, read from its end: a last label that is not empty, a dot, and at least one more
character. -/
def isServerName (s : String) : Bool :=
  let reversed := s.toList.reverse
  match reversed.dropWhile isLabelChar with
  | '.' :: before => reversed.head? ≠ some '.' && !before.isEmpty && before.all isServerChar
  | _ => false

/-- The text of the regular expression that is found in the server names. -/
def serverExpression : String := "^[a-zA-Z0-9.*?-]+\\.[a-zA-Z0-9*?-]+$"

/-- The kind of the entity that a text names, if it names one. -/
def classify (s : String) : Option EntityKind :=
  match s.toList with
  | '@' :: _ => some .user
  | '!' :: _ => some .room
  | _ => if isServerName s then some .server else none

/-- The pseudonym of an entity: the SHA-256 digest of its identifier in Base64. -/
def pseudonym (s : String) : String := Base64.encode (sha256Text s).toList

/-- The digest that a text spells in Base64, with padding or without. -/
def digest? (s : String) : Option Digest :=
  match (Base64.decode? s).or (Base64.decodeUnpadded? s) with
  | some bytes => if h : bytes.toArray.size = 32 then some ⟨bytes.toArray, h⟩ else none
  | none => none

/-- A link to a user, a room or an alias. -/
def link (id : String) : String := "https://matrix.to/#/" ++ id

/-- A link to an event in a room. -/
def eventLink (room event : String) : String := "https://matrix.to/#/" ++ room ++ "/" ++ event

end Entity
end Moderation
