import Moderation.Yaml.Tag
/-!
# Tokens of YAML texts

A YAML text as a sequence of tokens.  What indentation says is made explicit: block collections have
tokens where they begin and end, and a **simple key**, which is known as a key only by the colon
after it, gets a token in front of it.  A simple key stands on one line and has at most 1024
characters before its colon; for each collection in flow style that is open, and for the block
context around them, one possible simple key is kept.
-/

namespace Moderation.Yaml

/-- A token. -/
inductive Token where
  | directive (d : Directive)
  | documentStart
  | documentEnd
  | blockSequenceStart
  | blockMappingStart
  | blockEnd
  | flowSequenceStart
  | flowSequenceEnd
  | flowMappingStart
  | flowMappingEnd
  | blockEntry
  | flowEntry
  | key
  | value
  | reference (name : String)
  | anchor (name : String)
  | tag (t : TagText)
  | scalar (plain : Bool) (text : String)
  deriving DecidableEq, Repr

/-- A place where a simple key may have begun: how many tokens stand before it, where it is, and
whether it has to be a key because nothing else may stand there. -/
structure SavedKey where
  tokensBefore : Nat
  line : Nat
  column : Nat
  index : Nat
  required : Bool
  deriving DecidableEq, Repr

/-- A lexer: its place, the tokens so far, last one first, and its context. -/
structure Lexer where
  cursor : Cursor
  tokens : List Token := []
  count : Nat := 0
  /-- The column of the innermost block collection, or -1. -/
  indent : Int := -1
  /-- The columns of the block collections around it, innermost first. -/
  outer : List Int := []
  /-- The possible simple key of the innermost context. -/
  saved : Option SavedKey := none
  /-- Those of the contexts around it, innermost first; there is one for each flow collection that
  is open. -/
  savedOuter : List (Option SavedKey) := []
  /-- Whether a simple key may begin at the next token. -/
  keyAllowed : Bool := true

namespace Lexer

/-- Whether a flow collection is open. -/
def inFlow (x : Lexer) : Bool := !x.savedOuter.isEmpty

/-- Adds a token at the end. -/
def push (t : Token) (x : Lexer) : Lexer := { x with tokens := t :: x.tokens, count := x.count + 1 }

/-- Inserts a token after some tokens. -/
def insert (t : Token) (before : Nat) (x : Lexer) : Lexer :=
  let after := x.count - before
  { x with tokens := x.tokens.take after ++ t :: x.tokens.drop after, count := x.count + 1 }

/-- Moves to a place. -/
def goTo (c : Cursor) (x : Lexer) : Lexer := { x with cursor := c }

/-- Adds a token of some characters at the place. -/
def pushOver (t : Token) (width : Nat) (x : Lexer) : Lexer :=
  (x.push t).goTo (x.cursor.advance width)

/-- Says whether a simple key may begin at the next token. -/
def allowKey (allowed : Bool) (x : Lexer) : Lexer := { x with keyAllowed := allowed }

/-- Whether a possible simple key is out of reach of the place. -/
def isStale (x : Lexer) (k : SavedKey) : Bool :=
  k.line < x.cursor.line || k.index + 1024 < x.cursor.index

/-- Gives up a possible simple key; one that is required cannot be given up. -/
def dropKey : Option SavedKey → Option (Option SavedKey)
  | some k => if k.required then none else some none
  | none => some none

/-- Gives up the possible simple keys that are out of reach. -/
def dropStale (x : Lexer) : Option Lexer := do
  let check (k : Option SavedKey) : Option (Option SavedKey) :=
    if k.any x.isStale then dropKey k else some k
  let saved ← check x.saved
  let savedOuter ← x.savedOuter.mapM check
  return { x with saved, savedOuter }

/-- Gives up the possible simple key of the innermost context. -/
def forget (x : Lexer) : Option Lexer := (dropKey x.saved).map fun saved => { x with saved }

/-- Remembers the place as that of a possible simple key, where one may begin. -/
def remember (x : Lexer) : Option Lexer :=
  if x.keyAllowed then
    (dropKey x.saved).map fun _ =>
      { x with
        saved := some
          { tokensBefore := x.count
            line := x.cursor.line
            column := x.cursor.column
            index := x.cursor.index
            required := !x.inFlow && x.indent == (x.cursor.column : Int) } }
  else some x

/-- Opens a block collection at a column, if the column lies deeper than the innermost one.  Its
token goes after some tokens. -/
def openBlock (column : Nat) (start : Token) (before : Nat) (x : Lexer) : Lexer :=
  if x.inFlow || (column : Int) ≤ x.indent then x
  else { x.insert start before with indent := column, outer := x.indent :: x.outer }

/-- Closes the block collections that lie deeper than a column. -/
def closeBlocks (column indent : Int) (x : Lexer) : List Int → Lexer
  | [] => { x with indent, outer := [] }
  | around :: outer =>
    if column < indent then closeBlocks column around (x.push .blockEnd) outer
    else { x with indent, outer := around :: outer }

/-- Closes the block collections that lie deeper than a column, outside of flow collections. -/
def unroll (column : Int) (x : Lexer) : Lexer :=
  if x.inFlow then x else closeBlocks column x.indent x x.outer

/-- Closes every block collection and gives up the possible simple key, before a directive, a marker
of a document or the end of the text. -/
def reset (x : Lexer) : Option Lexer := ((x.unroll (-1)).forget).map (allowKey false)

/-- The token of a marker of a document. -/
def marker (t : Token) (x : Lexer) : Option Lexer := x.reset.map (pushOver t 3)

/-- A directive. -/
def directive (x : Lexer) : Option Lexer := do
  let x ← x.reset
  let (d, c) ← readDirective x.cursor
  return (x.push (.directive d)).goTo c

/-- The beginning of a flow collection. -/
def flowStart (t : Token) (x : Lexer) : Option Lexer := do
  let x ← x.remember
  let x := { x with saved := none, savedOuter := x.saved :: x.savedOuter }
  return (x.allowKey true).pushOver t 1

/-- The end of a flow collection. -/
def flowEnd (t : Token) (x : Lexer) : Option Lexer := do
  let x ← x.forget
  let x := match x.savedOuter with
    | [] => x
    | saved :: savedOuter => { x with saved, savedOuter }
  return (x.allowKey false).pushOver t 1

/-- The comma in a flow collection. -/
def flowEntry (x : Lexer) : Option Lexer :=
  x.forget.map fun x => (x.allowKey true).pushOver .flowEntry 1

/-- The hyphen of an item of a sequence. -/
def blockEntry (x : Lexer) : Option Lexer := do
  let x ← if x.inFlow then some x
    else if x.keyAllowed then some (x.openBlock x.cursor.column .blockSequenceStart x.count)
    else none
  let x ← x.forget
  return (x.allowKey true).pushOver .blockEntry 1

/-- The question mark of a key. -/
def keyMark (x : Lexer) : Option Lexer := do
  let x ← if x.inFlow then some x
    else if x.keyAllowed then some (x.openBlock x.cursor.column .blockMappingStart x.count)
    else none
  let x ← x.forget
  return (x.allowKey !x.inFlow).pushOver .key 1

/-- The colon of a value: after a simple key, or in a place of its own. -/
def valueMark (x : Lexer) : Option Lexer :=
  match x.saved with
  | some k =>
    let x := (x.insert .key k.tokensBefore).openBlock k.column .blockMappingStart k.tokensBefore
    some (({ x with saved := none }.allowKey false).pushOver .value 1)
  | none => do
    let x ← if x.inFlow then some x
      else if x.keyAllowed then some (x.openBlock x.cursor.column .blockMappingStart x.count)
      else none
    return (x.allowKey !x.inFlow).pushOver .value 1

/-- An anchor or an alias; its name is followed by a gap or an indicator. -/
def named (make : String → Token) (x : Lexer) : Option Lexer := do
  let x ← x.remember
  let c := x.cursor.advance 1
  let name := c.text.takeWhile isWordChar
  let d := c.skipWhile isWordChar
  if name.isEmpty || !(atGap d.text || startsWith ("?:,]\x7d%@`".toList.contains ·) d.text) then
    none
  else return ((x.allowKey false).push (make (String.ofList name))).goTo d

/-- A tag. -/
def tag (x : Lexer) : Option Lexer := do
  let x ← x.remember
  let (t, c) ← readTag x.inFlow x.cursor
  return ((x.allowKey false).push (.tag t)).goTo c

/-- A block scalar. -/
def block (literal : Bool) (x : Lexer) : Option Lexer := do
  let x ← x.forget
  let (s, c) ← readBlock literal x.indent (x.cursor.advance 1)
  return ((x.allowKey true).push (.scalar false s)).goTo c

/-- A quoted scalar. -/
def quoted (single : Bool) (x : Lexer) : Option Lexer := do
  let x ← x.remember
  let (s, c) ← readQuoted single {} (x.cursor.advance 1)
  return ((x.allowKey false).push (.scalar false s)).goTo c

/-- A plain scalar; a simple key may begin after it if a line has ended. -/
def plain (x : Lexer) : Option Lexer := do
  let x ← x.remember
  let (s, broken, c) ← readPlain x.inFlow (x.indent + 1).toNat {} x.cursor
  return ((x.allowKey broken).push (.scalar true s)).goTo c

/-- Whether a plain scalar may begin with a character that is followed by some text. -/
def beginsPlain (inFlow : Bool) (c : Char) (rest : List Char) : Bool :=
  if c = '-' then !startsWith isBlank rest
  else if c = '?' || c = ':' then !inFlow && !Yaml.atGap rest
  else !(isBlank c || ",[]\x7b\x7d#&*!|>\"%@`".toList.contains c || c.toNat = 39)

/-- Reads the token at the place, which is not the end of the text. -/
def token (x : Lexer) : Option Lexer :=
  match x.cursor.text with
  | [] => none
  | c :: rest =>
    if x.cursor.column = 0 && c = '%' then x.directive
    else if x.cursor.atMarker '-' then x.marker .documentStart
    else if x.cursor.atMarker '.' then x.marker .documentEnd
    else if c = '[' then x.flowStart .flowSequenceStart
    else if c = '\x7b' then x.flowStart .flowMappingStart
    else if c = ']' then x.flowEnd .flowSequenceEnd
    else if c = '\x7d' then x.flowEnd .flowMappingEnd
    else if c = ',' then x.flowEntry
    else if c = '-' && atGap rest then x.blockEntry
    else if c = '?' && (x.inFlow || atGap rest) then x.keyMark
    else if c = ':' && (x.inFlow || atGap rest) then x.valueMark
    else if c = '*' then x.named .reference
    else if c = '&' then x.named .anchor
    else if c = '!' then x.tag
    else if c = '|' && !x.inFlow then x.block true
    else if c = '>' && !x.inFlow then x.block false
    else if c.toNat = 39 then x.quoted true
    else if c = '"' then x.quoted false
    else if beginsPlain x.inFlow c rest then x.plain
    else none

/-- The tokens from the place to the end of the text. -/
def run (x : Lexer) : Option (List Token) := do
  let (keyAllowed, c) := x.cursor.toToken x.inFlow x.keyAllowed
  let y ← ((x.goTo c).allowKey keyAllowed).dropStale
  if c.text.isEmpty then
    let y ← (y.unroll c.column).reset
    return y.tokens.reverse
  else
    let next ← (y.unroll c.column).token
    if _h : next.cursor.text.length < x.cursor.text.length then next.run else none
  termination_by x.cursor.text.length

end Lexer

/-- The tokens of a text, if it can be cut into tokens. -/
def Token.ofText? (s : String) : Option (List Token) :=
  if s.toList.all isPermitted then Lexer.run { cursor := { text := s.toList } } else none

end Moderation.Yaml
