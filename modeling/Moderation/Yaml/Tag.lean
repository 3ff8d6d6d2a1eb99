import Moderation.Yaml.Scalar
/-!
# Tags and directives in YAML texts

A tag names the type of a value.  It is written out in full between angle brackets, or as a
**handle** that a directive gives a meaning to and the rest of the tag.  The handle of a single
exclamation mark stands for itself, two stand for the tags of the YAML specification.
-/

namespace Moderation.Yaml

/-- The characters of a tag; in full ones and in directives three more are allowed. -/
def isTagChar (full : Bool) (c : Char) : Bool :=
  isWordChar c || ";/?:@&=+$.!~*()%".toList.contains c || c.toNat = 39 ||
    (full && ",[]".toList.contains c)

/-- The byte that two hexadecimal digits after a percent sign spell, and what follows. -/
def percentByte? : List Char → Option (Nat × List Char)
  | '%' :: a :: b :: rest => do
    let x ← hexDigit? a
    let y ← hexDigit? b
    some (16 * x + y, rest)
  | _ => none

/-- The bytes that continue a character. -/
def continuation? (value : Nat) : Nat → List Char → Option (Nat × List Char)
  | 0, cs => some (value, cs)
  | n + 1, cs =>
    match percentByte? cs with
    | some (byte, rest) =>
      if byte / 64 = 2 then continuation? (value * 64 + byte % 64) n rest else none
    | none => none

/-- The character that escaped bytes spell in UTF-8, and what follows. -/
def escapedChar? (cs : List Char) : Option (Char × List Char) :=
  match percentByte? cs with
  | none => none
  | some (byte, rest) =>
    let more :=
      if byte < 0x80 then some (byte, 0)
      else if byte / 32 = 6 then some (byte % 32, 1)
      else if byte / 16 = 14 then some (byte % 16, 2)
      else if byte / 8 = 30 then some (byte % 8, 3)
      else none
    match more with
    | some (value, n) =>
      (continuation? value n rest).map fun (value, rest) => (Char.ofNat value, rest)
    | none => none

/-- Reads the characters of a tag; `done` holds those so far, last one first. -/
def readTagChars (full : Bool) (done : List Char) (c : Cursor) : Option (List Char × Cursor) :=
  match c.text with
  | [] => some (done, c)
  | ch :: _ =>
    if ch = '%' then
      match escapedChar? c.text with
      | some (d, rest) =>
        let next := c.advance (c.text.length - rest.length)
        if _h : next.text.length < c.text.length then readTagChars full (d :: done) next else none
      | none => none
    else if isTagChar full ch then
      let next := c.advance 1
      if _h : next.text.length < c.text.length then readTagChars full (ch :: done) next else none
    else some (done, c)
  termination_by c.text.length

/-- Reads the rest of a tag after some characters of it; a tag is not empty. -/
def tagRest? (full : Bool) (head : String) (c : Cursor) : Option (String × Cursor) :=
  match readTagChars full head.toList.reverse c with
  | some (done, c) => if done.isEmpty then none else some (String.ofList done.reverse, c)
  | none => none

/-- Reads a handle: an exclamation mark, letters and, if it is there, another mark. -/
def handle? (c : Cursor) : Option (String × Cursor) :=
  match c.text with
  | '!' :: rest =>
    let word := rest.takeWhile isWordChar
    match rest.drop word.length with
    | '!' :: _ => some (String.ofList ('!' :: word ++ ['!']), c.advance (word.length + 2))
    | _ => some (String.ofList ('!' :: word), c.advance (word.length + 1))
  | _ => none

/-- A tag as it is written: its handle, which is empty when it is written out in full, and the
rest. -/
structure TagText where
  handle : String
  rest : String
  deriving DecidableEq, Repr

/-- Reads a tag. -/
def readTag (inFlow : Bool) (c : Cursor) : Option (TagText × Cursor) := do
  let (tag, c) ← match c.text with
    | '!' :: '<' :: _ => do
      let (rest, c) ← tagRest? true "" (c.advance 2)
      if startsWith (· = '>') c.text then some (({ handle := "", rest } : TagText), c.advance 1)
      else none
    | _ => do
      let (handle, c) ← handle? c
      if 1 < handle.length && handle.endsWith "!" then
        let (rest, c) ← tagRest? false "" c
        some (({ handle, rest } : TagText), c)
      else
        let (rest, c) ← tagRest? false handle c
        if rest = "!" then some ({ handle := "", rest }, c)
        else some ({ handle := "!", rest := String.ofList (rest.toList.drop 1) }, c)
  if atGap c.text || (inFlow && startsWith (· = ',') c.text) then some (tag, c) else none

/-- What a directive says: the version of YAML, or the meaning of a handle. -/
inductive Directive where
  | version (major minor : Nat)
  | tag (handle meaning : String)
  deriving DecidableEq, Repr

/-- Reads a number of at most nine digits. -/
def number? (c : Cursor) : Option (Nat × Cursor) :=
  let ds := c.text.takeWhile Char.isDigit
  if ds.isEmpty || 9 < ds.length then none
  else some (ds.foldl (fun n d => 10 * n + (d.toNat - 48)) 0, c.advance ds.length)

/-- Reads a directive with its line. -/
def readDirective (c : Cursor) : Option (Directive × Cursor) := do
  let c := c.advance 1
  let name := String.ofList (c.text.takeWhile isWordChar)
  let c := c.skipWhile isWordChar
  if !atGap c.text then none
  else
    let c := c.skipWhile isBlank
    let (directive, c) ← match name with
      | "YAML" => do
        let (major, c) ← number? c
        if startsWith (· = '.') c.text then
          let (minor, c) ← number? (c.advance 1)
          some (Directive.version major minor, c)
        else none
      | "TAG" => do
        let (handle, c) ← handle? c
        if handle ≠ "!" && !handle.endsWith "!" then none
        else if !startsWith isBlank c.text then none
        else
          let (meaning, c) ← tagRest? true "" (c.skipWhile isBlank)
          if atGap c.text then some (Directive.tag handle meaning, c) else none
      | _ => none
    let c ← c.restOfLine?
    some (directive, c)

end Moderation.Yaml
