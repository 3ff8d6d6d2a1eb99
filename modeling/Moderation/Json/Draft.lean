import Moderation.Json.Value
/-!
# JSON as far as it can be read

A text that stops being JSON at some point still has a beginning.  A **draft** is the value that a
text spells up to that point: an array or an object that the text does not close is marked as open,
and what should have been a value but is not is `broken`.  A decoder that walks over a draft in
order therefore meets the first fault of a text, be it a fault of form or a value of the wrong
shape, exactly where a reader of the text would.

Two things in a well-formed text are no values: a string whose escapes do not form characters, and a
number beyond every double.  They do not hurt as long as nobody looks at them, so a draft keeps
their place.

A draft that is not closed is open at its last item or member all the way down, so `intact` looks at
the top alone.
-/

namespace Moderation.Json

/-- Why a text is refused: it is not JSON, or it is JSON of another shape. -/
inductive Refusal where
  | malformed
  | mistyped
  deriving DecidableEq, Repr

/-- A value as far as it could be read. -/
inductive Draft where
  | null
  | bool (b : Bool)
  | int (n : Int)
  | float (x : Option Double)
  | string (s : Option String)
  | array (items : List Draft) (closed : Bool)
  | object (members : List (Option String × Draft)) (closed : Bool)
  | broken
  deriving Inhabited

namespace Draft

/-- Whether the text went on to the end of the value. -/
def intact : Draft → Bool
  | .array _ closed => closed
  | .object _ closed => closed
  | .broken => false
  | _ => true

/-- Why a value is refused where another shape is wanted: a fault of form on its first token comes
before the shape. -/
def mismatch : Draft → Refusal
  | .broken => .malformed
  | .string none => .malformed
  | .float none => .malformed
  | _ => .mistyped

/-- Whether a draft is null. -/
def isNull : Draft → Bool
  | .null => true
  | _ => false

/-- Whether a draft is null or an object without members. -/
def isEmpty : Draft → Bool
  | .null => true
  | .object [] closed => closed
  | _ => false

/-- How deep values may nest where every part of them is looked at. -/
def depthLimit : Nat := 127

mutual

/-- The value that a draft holds, if it is complete, is made of values throughout and nests no
deeper than a limit. -/
def value (depth : Nat) : Draft → Except Refusal Json
  | .null => .ok .null
  | .bool b => .ok (.bool b)
  | .int n => .ok (.int n)
  | .float (some x) => .ok (.float x)
  | .string (some s) => .ok (.string s)
  | .array items closed =>
    if depth = 0 then .error .malformed
    else match itemValues (depth - 1) items with
      | .error e => .error e
      | .ok values => if closed then .ok (.array values) else .error .malformed
  | .object members closed =>
    if depth = 0 then .error .malformed
    else match memberValues (depth - 1) members with
      | .error e => .error e
      | .ok values => if closed then .ok (.object values) else .error .malformed
  | _ => .error .malformed

/-- The values of the items of an array. -/
def itemValues (depth : Nat) : List Draft → Except Refusal (List Json)
  | [] => .ok []
  | d :: rest =>
    match value depth d with
    | .error e => .error e
    | .ok j =>
      match itemValues depth rest with
      | .error e => .error e
      | .ok js => .ok (j :: js)

/-- The values of the members of an object. -/
def memberValues (depth : Nat) : List (Option String × Draft) →
    Except Refusal (List (String × Json))
  | [] => .ok []
  | (none, _) :: _ => .error .malformed
  | (some name, d) :: rest =>
    match value depth d with
    | .error e => .error e
    | .ok j =>
      match memberValues depth rest with
      | .error e => .error e
      | .ok js => .ok ((name, j) :: js)

end

end Draft

mutual

/-- A value as a draft: complete, every part of it readable. -/
def toDraft : Json → Draft
  | .null => .null
  | .bool b => .bool b
  | .int n => .int n
  | .float x => .float (some x)
  | .string s => .string (some s)
  | .array items => .array (itemDrafts items) true
  | .object members => .object (memberDrafts members) true

/-- The items of an array as drafts. -/
def itemDrafts : List Json → List Draft
  | [] => []
  | j :: rest => toDraft j :: itemDrafts rest

/-- The members of an object as drafts. -/
def memberDrafts : List (String × Json) → List (Option String × Draft)
  | [] => []
  | (name, j) :: rest => (some name, toDraft j) :: memberDrafts rest

end

end Moderation.Json
