/-!
# Places in a YAML text

A **cursor** is a place in a text: what is left of it, and the line, the column and the number of
characters before it.  Besides line feeds and carriage returns, three more characters end a line.
-/

namespace Moderation.Yaml

/-- The characters that a text may be made of. -/
def isPermitted (c : Char) : Bool :=
  let n := c.toNat
  n = 9 || n = 10 || n = 13 || (0x20 ≤ n && n ≤ 0x7E) || n = 0x85 || (0xA0 ≤ n && n ≤ 0xFFFD) ||
    0x10000 ≤ n

/-- Spaces and tabs. -/
def isBlank (c : Char) : Bool := c = ' ' || c = '\t'

/-- The characters that end a line. -/
def isBreak (c : Char) : Bool :=
  c = '\n' || c = '\r' || c.toNat = 0x85 || c.toNat = 0x2028 || c.toNat = 0x2029

/-- Letters, digits, the hyphen and the underscore. -/
def isWordChar (c : Char) : Bool := c.isAlphanum || c = '-' || c = '_'

/-- Whether a text is at its end or goes on with a character of a kind. -/
def startsWith (p : Char → Bool) (cs : List Char) : Bool := cs.head?.any p

/-- Whether a text is at its end or goes on with a blank or the end of a line. -/
def atGap : List Char → Bool
  | [] => true
  | c :: _ => isBlank c || isBreak c

/-- A place in a text. -/
structure Cursor where
  text : List Char
  line : Nat := 0
  column : Nat := 0
  index : Nat := 0

namespace Cursor

/-- The place some characters further on, on the same line. -/
def advance (n : Nat) (c : Cursor) : Cursor :=
  { c with text := c.text.drop n, column := c.column + n, index := c.index + n }

/-- The place after a run of characters, none of which ends a line. -/
def skipWhile (p : Char → Bool) (c : Cursor) : Cursor := c.advance (c.text.takeWhile p).length

/-- The beginning of the next line, after the end of a line of some characters. -/
def newLine (n : Nat) (c : Cursor) : Cursor :=
  { text := c.text.drop n, line := c.line + 1, column := 0, index := c.index + n }

/-- Takes the end of a line: what it is in a scalar, and the place after it.  Line feeds, carriage
returns and next lines are line feeds in a scalar. -/
def lineEnd? (c : Cursor) : Option (Char × Cursor) :=
  match c.text with
  | '\r' :: '\n' :: _ => some ('\n', c.newLine 2)
  | ch :: _ =>
    if ch = '\r' || ch = '\n' || ch.toNat = 0x85 then some ('\n', c.newLine 1)
    else if isBreak ch then some (ch, c.newLine 1)
    else none
  | [] => none

/-- Whether a line begins here with three given characters and a gap after them. -/
def atMarker (c : Cursor) (ch : Char) : Bool :=
  c.column = 0 &&
    match c.text with
    | x :: y :: z :: rest => x = ch && y = ch && z = ch && atGap rest
    | _ => false

/-- Whether a line begins here that starts or ends a document. -/
def atDocumentMarker (c : Cursor) : Bool := c.atMarker '-' || c.atMarker '.'

/-- The place after the blanks and the comment at the end of a line, if nothing else is left of
it. -/
def restOfLine? (c : Cursor) : Option Cursor :=
  let c := c.skipWhile isBlank
  let c := if startsWith (· = '#') c.text then c.skipWhile fun ch => !isBreak ch else c
  if c.text.isEmpty then some c else c.lineEnd?.map (·.2)

/-- The place of the next token, and whether a simple key may begin there.  Blanks, comments and
ends of lines are passed over, tabs only where no simple key may begin; in block context a new line
allows one. -/
def toToken (inFlow keyAllowed : Bool) (c : Cursor) : Bool × Cursor :=
  let d := if c.column = 0 && startsWith (·.toNat = 0xFEFF) c.text then c.advance 1 else c
  let d := d.skipWhile fun ch => ch = ' ' || ((inFlow || !keyAllowed) && ch = '\t')
  let d := if startsWith (· = '#') d.text then d.skipWhile fun ch => !isBreak ch else d
  match d.lineEnd? with
  | none => (keyAllowed, d)
  | some (_, next) =>
    if _h : next.text.length < c.text.length then toToken inFlow (keyAllowed || !inFlow) next
    else (keyAllowed, d)
  termination_by c.text.length

end Cursor
end Moderation.Yaml
