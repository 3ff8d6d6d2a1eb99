import Moderation.Yaml.Cursor
/-!
# Scalars in YAML texts

The three ways a text is written in YAML: plain, between quotes, and as a block of lines.  In the
first two the end of a line is **folded**: one alone becomes a space, and of several all but the
first remain.
-/

namespace Moderation.Yaml

/-- A scalar that is being read: its characters so far, last one first, and what stands between them
and the place: blanks on the same line, or the ends of lines, of which the first is kept apart. -/
structure Folding where
  done : List Char := []
  blanks : List Char := []
  first : Option Char := none
  more : List Char := []
  /-- Whether a line has ended since the last character. -/
  broken : Bool := false

namespace Folding

/-- The characters so far with what stands after them, folded; last one first. -/
def joined (f : Folding) : List Char :=
  if !f.broken then f.blanks ++ f.done
  else if f.first = some '\n' then if f.more.isEmpty then ' ' :: f.done else f.more ++ f.done
  else f.more ++ f.first.toList ++ f.done

/-- Adds characters, given last one first. -/
def push (cs : List Char) (f : Folding) : Folding := { done := cs ++ f.joined }

/-- Passes over a blank. -/
def blank (c : Char) (f : Folding) : Folding :=
  if f.broken then f else { f with blanks := c :: f.blanks }

/-- Passes over the end of a line. -/
def lineEnd (c : Char) (f : Folding) : Folding :=
  if f.broken then { f with more := c :: f.more }
  else { f with blanks := [], first := some c, broken := true }

/-- The scalar, with what stands at its end. -/
def text (f : Folding) : String := String.ofList f.joined.reverse

/-- The scalar, without what stands at its end. -/
def trimmed (f : Folding) : String := String.ofList f.done.reverse

/-- Whether anything stands between the last character and the place. -/
def atGap (f : Folding) : Bool := f.broken || !f.blanks.isEmpty

end Folding

/-! ## Plain scalars -/

/-- Whether a plain scalar ends before some text. -/
def endsPlain (inFlow : Bool) : List Char → Bool
  | ':' :: rest => atGap rest
  | c :: _ => inFlow && ",[]\x7b\x7d".toList.contains c
  | [] => true

/-- Whether a text is a colon that a plain scalar in a flow collection may not hold. -/
def isStrayColon (inFlow : Bool) : List Char → Bool
  | ':' :: c :: _ => inFlow && ",?[]\x7b\x7d".toList.contains c
  | _ => false

/-- Reads a plain scalar, which in block context has to be indented by some columns after its first
line.  The answer is the scalar, whether a line has ended after it, and the place after that; there
is none where a plain scalar may not go on as the text does. -/
def readPlain (inFlow : Bool) (indent : Nat) (f : Folding) (c : Cursor) :
    Option (String × Bool × Cursor) :=
  let stop := some (f.trimmed, f.broken, c)
  match c.text with
  | [] => stop
  | ch :: _ =>
    let next := c.advance 1
    if isBlank ch then
      if f.broken && c.column < indent && ch = '\t' then none
      else if _h : next.text.length < c.text.length then readPlain inFlow indent (f.blank ch) next
      else none
    else
      match c.lineEnd? with
      | some (e, next) =>
        if _h : next.text.length < c.text.length then readPlain inFlow indent (f.lineEnd e) next
        else none
      | none =>
        if f.atGap && ((!inFlow && c.column < indent) || c.atDocumentMarker || ch = '#') then stop
        else if isStrayColon inFlow c.text then none
        else if endsPlain inFlow c.text then stop
        else if _h : next.text.length < c.text.length then
          readPlain inFlow indent (f.push [ch]) next
        else none
  termination_by c.text.length

/-! ## Quoted scalars -/

/-- The value of a hexadecimal digit. -/
def hexDigit? (c : Char) : Option Nat :=
  if '0' ≤ c && c ≤ '9' then some (c.toNat - 48)
  else if 'a' ≤ c && c ≤ 'f' then some (c.toNat - 87)
  else if 'A' ≤ c && c ≤ 'F' then some (c.toNat - 55)
  else none

/-- The character with the number that some hexadecimal digits spell. -/
def hexChar? (digits : List Char) : Option Char := do
  let n ← digits.foldlM (fun n c => (hexDigit? c).map (16 * n + ·)) 0
  if (0xD800 ≤ n && n ≤ 0xDFFF) || 0x10FFFF < n then none else some (Char.ofNat n)

/-- The character that a letter after a backslash stands for. -/
def escaped? (c : Char) : Option Char :=
  match c with
  | '0' => some (Char.ofNat 0)
  | 'a' => some (Char.ofNat 7)
  | 'b' => some (Char.ofNat 8)
  | 't' => some '\t'
  | '\t' => some '\t'
  | 'n' => some '\n'
  | 'v' => some (Char.ofNat 11)
  | 'f' => some (Char.ofNat 12)
  | 'r' => some '\r'
  | 'e' => some (Char.ofNat 27)
  | ' ' => some ' '
  | '"' => some '"'
  | '/' => some '/'
  | '\\' => some '\\'
  | 'N' => some (Char.ofNat 0x85)
  | '_' => some (Char.ofNat 0xA0)
  | 'L' => some (Char.ofNat 0x2028)
  | 'P' => some (Char.ofNat 0x2029)
  | _ => none

/-- How many hexadecimal digits follow a letter after a backslash. -/
def escapeLength? (c : Char) : Option Nat :=
  match c with
  | 'x' => some 2
  | 'u' => some 4
  | 'U' => some 8
  | _ => none

/-- The character of an escape sequence that begins with a backslash, and the place after it. -/
def escape? (c : Cursor) : Option (Char × Cursor) :=
  match c.text with
  | _ :: letter :: rest =>
    match escapeLength? letter with
    | some n =>
      let digits := rest.take n
      if digits.length = n then (hexChar? digits).map (·, c.advance (2 + n)) else none
    | none => (escaped? letter).map (·, c.advance 2)
  | _ => none

/-- Reads a quoted scalar after its opening quote, up to the closing one.  Between single quotes
only the quote itself is written in another way, twice; between double quotes a backslash escapes,
also the end of a line. -/
def readQuoted (single : Bool) (f : Folding) (c : Cursor) : Option (String × Cursor) :=
  let quote := if single then Char.ofNat 39 else '"'
  let go (f : Folding) (next : Cursor) : Option (String × Cursor) :=
    if _h : next.text.length < c.text.length then readQuoted single f next else none
  match c.text with
  | [] => none
  | ch :: rest =>
    if isBlank ch then go (f.blank ch) (c.advance 1)
    else
      match c.lineEnd? with
      | some (e, next) => go (f.lineEnd e) next
      | none =>
        if c.atDocumentMarker then none
        else if ch = quote then
          if single && startsWith (· = quote) rest then go (f.push [quote]) (c.advance 2)
          else some (f.text, c.advance 1)
        else if !single && ch = '\\' then
          match (c.advance 1).lineEnd? with
          | some (_, next) => go { done := f.joined, broken := true } next
          | none =>
            match escape? c with
            | some (d, next) => go (f.push [d]) next
            | none => none
        else go (f.push [ch]) (c.advance 1)
  termination_by c.text.length

/-! ## Block scalars -/

/-- What is done with the ends of the last lines of a block: they are dropped, one is kept, or all
are. -/
inductive Chomping where
  | strip
  | clip
  | keep
  deriving DecidableEq, Repr

/-- The header of a block scalar, after its indicator: how it is chomped and by how much it is
indented, in either order. -/
def blockHeader? (c : Cursor) : Option (Chomping × Option Nat × Cursor) :=
  let chomp (c : Cursor) : Option Chomping × Cursor :=
    match c.text with
    | '+' :: _ => (some .keep, c.advance 1)
    | '-' :: _ => (some .strip, c.advance 1)
    | _ => (none, c)
  let digit (c : Cursor) : Option (Option Nat × Cursor) :=
    match c.text with
    | ch :: _ =>
      if ch = '0' then none
      else if ch.isDigit then some (some (ch.toNat - 48), c.advance 1)
      else some (none, c)
    | [] => some (none, c)
  match chomp c with
  | (some how, c) => (digit c).map fun (width, c) => (how, width, c)
  | (none, c) =>
    (digit c).map fun (width, c) =>
      match width with
      | some w =>
        let (how, c) := chomp c
        (how.getD .clip, some w, c)
      | none => (.clip, none, c)

/-- The empty lines in front of the next line of a block: the ends of lines, last one first, the
widest of them, and the place after its indentation.  Without a width that is known all spaces are
indentation. -/
def blockGap (indent : Option Nat) (ends : List Char) (widest : Nat) (c : Cursor) :
    Option (List Char × Nat × Cursor) :=
  let room := match indent with
    | some n => min (n - c.column) (c.text.takeWhile (· = ' ')).length
    | none => (c.text.takeWhile (· = ' ')).length
  let d := c.advance room
  let widest := max widest d.column
  if indent.all (d.column < ·) && startsWith (· = '\t') d.text then none
  else
    match d.lineEnd? with
    | some (e, next) =>
      if _h : next.text.length < c.text.length then blockGap indent (e :: ends) widest next
      else none
    | none => some (ends, widest, d)
  termination_by c.text.length

/-- A block that is being read: its characters so far, the end of its last line and the ends of the
empty lines after that, last one first, and whether its last line began with a blank. -/
structure Block where
  done : List Char := []
  lineEnd : Option Char := none
  gap : List Char := []
  blank : Bool := false

/-- The characters of a block before its next line, which may begin with a blank.  A folded block
turns a line feed between two lines into a space, unless one of them begins with a blank or there
are empty lines between them. -/
def Block.joined (b : Block) (literal blank : Bool) : List Char :=
  if !literal && b.lineEnd = some '\n' && !b.blank && !blank then
    b.gap ++ (if b.gap.isEmpty then [' '] else []) ++ b.done
  else b.gap ++ b.lineEnd.toList ++ b.done

/-- Reads the lines of a block with a known width. -/
def readBlockLines (literal : Bool) (indent : Nat) (b : Block) (c : Cursor) :
    Option (Block × Cursor) :=
  if c.column = indent && !c.text.isEmpty then
    let blank := startsWith isBlank c.text
    let line := c.text.takeWhile fun ch => !isBreak ch
    let done := line.reverse ++ b.joined literal blank
    let d := c.advance line.length
    let (lineEnd, d) := match d.lineEnd? with
      | some (e, next) => (some e, next)
      | none => (none, d)
    match blockGap (some indent) [] 0 d with
    | some (gap, _, next) =>
      if _h : next.text.length < c.text.length then
        readBlockLines literal indent { done, lineEnd, gap, blank } next
      else none
    | none => none
  else some (b, c)
  termination_by c.text.length

/-- The characters of a block after chomping. -/
def Block.chomped (b : Block) (how : Chomping) : String :=
  String.ofList (match how with
    | .strip => b.done
    | .clip => b.lineEnd.toList ++ b.done
    | .keep => b.gap ++ b.lineEnd.toList ++ b.done).reverse

/-- Reads a block scalar after its indicator, inside a collection with some indentation.  Without a
width in its header it is as wide as its first line that is not empty, or as the widest empty line
before that. -/
def readBlock (literal : Bool) (parent : Int) (c : Cursor) : Option (String × Cursor) := do
  let (how, width, c) ← blockHeader? c
  let c ← c.restOfLine?
  let indent := width.map fun w => if 0 ≤ parent then parent.toNat + w else w
  let (gap, widest, c) ← blockGap indent [] 0 c
  let indent := indent.getD (max widest (max (parent + 1).toNat 1))
  let (b, c) ← readBlockLines literal indent { gap } c
  return (b.chomped how, c)

end Moderation.Yaml
