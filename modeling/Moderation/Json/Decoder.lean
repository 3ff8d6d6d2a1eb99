import Moderation.Json.Reader
/-!
# Typed decoding

A decoder turns a draft into a value of a type or says why not.  Records are described by their
**fields** in declared order: the description of a record is applicative, so its decoder reads like
its constructor.

A record is written as an object, whose members may come in any order, or as an array of its fields
in declared order.  In an object a name that is no field is passed over unless the record is strict,
a field given twice is refused, and the first fault in the order of the text is the one that is
reported.  A field that is missing is refused (`required`), absent (`optional`) or has a default
(`defaulted`); an array may leave out only fields with a default, at its end.
-/

namespace Moderation.Json

/-- Reads a value of a type off a draft. -/
abbrev Decoder (α : Type) := Draft → Except Refusal α

namespace Decoder

variable {α β : Type}

/-- A text. -/
def string : Decoder String
  | .string (some s) => .ok s
  | d => .error d.mismatch

/-- A truth value. -/
def bool : Decoder Bool
  | .bool b => .ok b
  | d => .error d.mismatch

/-- An integer of sixty-four bits with sign. -/
def int64 : Decoder Int64
  | .int n =>
    if Int64.minValue.toInt ≤ n && n ≤ Int64.maxValue.toInt then .ok (Int64.ofInt n)
    else .error .mistyped
  | d => .error d.mismatch

/-- A natural number of sixty-four bits. -/
def word64 : Decoder UInt64
  | .int n => if 0 ≤ n && n < UInt64.size then .ok (UInt64.ofNat n.toNat) else .error .mistyped
  | d => .error d.mismatch

/-- A value or null. -/
def option (d : Decoder α) : Decoder (Option α)
  | .null => .ok none
  | v => (d v).map some

/-- A sequence of values. -/
def list (d : Decoder α) : Decoder (List α)
  | .array items closed => do
    let values ← items.mapM d
    if closed then .ok values else .error .malformed
  | v => .error v.mismatch

/-- One of finitely many names, written as a text or as an object with that name alone and nothing
under it.  What counts as nothing is a parameter.  A name that is not known is a fault of shape; a
value that is neither text nor object is a fault of form. -/
def name (isNothing : Draft → Bool) (read : String → Option α) : Decoder α
  | .string (some s) =>
    match read s with
    | some a => .ok a
    | none => .error .mistyped
  | .object ((some s, v) :: rest) closed =>
    match read s with
    | none => .error .mistyped
    | some a =>
      if isNothing v then if rest.isEmpty && closed then .ok a else .error .malformed
      else .error v.mismatch
  | _ => .error .malformed

/-- Reads from the complete value instead of piece by piece, so that every fault after the form is
one of shape. -/
def buffered (d : Decoder α) (j : Json) : Except Refusal α :=
  (d j.toDraft).mapError fun _ => .mistyped

end Decoder

/-- What is done about a field that is missing. -/
inductive Absence where
  | required
  | optional
  | defaulted
  deriving DecidableEq, Repr

/-- A field of a record: its name, whether a draft can be its value, and what happens when it is
missing. -/
structure Slot where
  name : String
  check : Draft → Except Refusal Unit
  absence : Absence

/-- The description of a record: its fields in declared order, and how their values make up the
record. -/
structure Fields (α : Type) where
  slots : List Slot
  build : (String → Option Draft) → Except Refusal α

namespace Fields

variable {α β : Type}

instance : Functor Fields where
  map f r := ⟨r.slots, fun find => (r.build find).map f⟩

instance : Applicative Fields where
  pure a := ⟨[], fun _ => .ok a⟩
  seq f r := ⟨f.slots ++ (r ()).slots, fun find => do
    let g ← f.build find
    let a ← (r ()).build find
    return g a⟩

/-- A field that has to be there. -/
def required (name : String) (d : Decoder α) : Fields α where
  slots := [⟨name, fun v => (d v).map fun _ => (), .required⟩]
  build find :=
    match find name with
    | some v => d v
    | none => .error .mistyped

/-- A field that may be missing from an object, or be null. -/
def optional (name : String) (d : Decoder α) : Fields (Option α) where
  slots := [⟨name, fun v => (d.option v).map fun _ => (), .optional⟩]
  build find :=
    match find name with
    | some v => d.option v
    | none => .ok none

/-- A field with a default. -/
def defaulted (name : String) (d : Decoder α) (value : α) : Fields α where
  slots := [⟨name, fun v => (d v).map fun _ => (), .defaulted⟩]
  build find :=
    match find name with
    | some v => d v
    | none => .ok value

end Fields

/-- Checks the members of an object in the order of the text. -/
def checkMembers (slots : List Slot) (strict : Bool) (seen : List String) :
    List (Option String × Draft) → Except Refusal Unit
  | [] => .ok ()
  | (none, _) :: _ => .error .malformed
  | (some name, v) :: rest =>
    match slots.find? (·.name = name) with
    | some slot =>
      if name ∈ seen then .error .mistyped
      else match slot.check v with
        | .error e => .error e
        | .ok () => checkMembers slots strict (name :: seen) rest
    | none =>
      if strict then .error .mistyped
      else if v.intact then checkMembers slots strict seen rest
      else .error .malformed

/-- The members that the items of an array stand for, each item checked in turn. -/
def checkItems : List Slot → List Draft → Bool → Except Refusal (List (Option String × Draft))
  | [], [], true => .ok []
  | [], _, _ => .error .malformed
  | slot :: slots, [], closed =>
    if !closed then .error .malformed
    else if slot.absence = .defaulted then checkItems slots [] closed
    else .error .mistyped
  | slot :: slots, item :: items, closed =>
    match slot.check item with
    | .error e => .error e
    | .ok () =>
      match checkItems slots items closed with
      | .error e => .error e
      | .ok members => .ok ((some slot.name, item) :: members)

/-- The value under a name. -/
def findMember (members : List (Option String × Draft)) (name : String) : Option Draft :=
  (members.find? (·.1 = some name)).map (·.2)

namespace Decoder

variable {α : Type}

/-- A record; a strict one has no members but its fields. -/
def record (strict : Bool) (fields : Fields α) : Decoder α
  | .object members closed => do
    checkMembers fields.slots strict [] members
    if closed then fields.build (findMember members) else .error .malformed
  | .array items closed => do
    let members ← checkItems fields.slots items closed
    fields.build (findMember members)
  | v => .error v.mismatch

/-- Decodes a whole text, which ends after the value. -/
def ofText (d : Decoder α) (s : String) : Except Refusal α := do
  let document := Document.ofText s
  let a ← d document.root
  if document.trailing then .error .malformed else .ok a

/-- Decodes a complete value. -/
def ofJson (d : Decoder α) (j : Json) : Option α := (d j.toDraft).toOption

end Decoder
end Moderation.Json
