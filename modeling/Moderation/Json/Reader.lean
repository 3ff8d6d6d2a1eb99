import Moderation.Json.Draft
/-!
# Reading JSON text

A text is read from left to right with the containers that are open kept on a stack, so nesting is
bounded by the text alone.  Reading never fails: `Draft.read` gives the draft that a text begins
with and says whether anything but white space follows it.
-/

namespace Moderation.Json

/-- White space between the tokens of a JSON text. -/
def isSpace (c : Char) : Bool := c = ' ' || c = '\n' || c = '\t' || c = '\r'

/-- A text without the white space in front of it. -/
def skipSpace (cs : List Char) : List Char := cs.dropWhile isSpace

theorem skipSpace_length (cs : List Char) : (skipSpace cs).length ≤ cs.length :=
  (List.dropWhile_suffix isSpace).length_le

/-- The value of a hexadecimal digit. -/
def hexValue? (c : Char) : Option Nat :=
  if '0' ≤ c && c ≤ '9' then some (c.toNat - 48)
  else if 'a' ≤ c && c ≤ 'f' then some (c.toNat - 87)
  else if 'A' ≤ c && c ≤ 'F' then some (c.toNat - 55)
  else none

/-- The code unit that four hexadecimal digits spell, and what follows them. -/
def codeUnit? : List Char → Option (Nat × List Char)
  | a :: b :: c :: d :: rest => do
    let w ← hexValue? a
    let x ← hexValue? b
    let y ← hexValue? c
    let z ← hexValue? d
    some (((w * 16 + x) * 16 + y) * 16 + z, rest)
  | _ => none

theorem codeUnit?_length {cs rest : List Char} {n : Nat} (h : codeUnit? cs = some (n, rest)) :
    rest.length < cs.length := by
  unfold codeUnit? at h
  split at h
  · simp only [Option.bind_eq_bind, Option.bind_eq_some_iff, Option.some.injEq, Prod.mk.injEq] at h
    obtain ⟨_, _, _, _, _, _, _, _, _, rfl⟩ := h
    simp only [List.length_cons]
    omega
  · simp at h

/-- The character that a letter after a backslash stands for. -/
def escaped? (c : Char) : Option Char :=
  if c = '"' || c = '\\' || c = '/' then some c
  else if c = 'b' then some (Char.ofNat 8)
  else if c = 'f' then some (Char.ofNat 12)
  else if c = 'n' then some '\n'
  else if c = 'r' then some '\r'
  else if c = 't' then some '\t'
  else none

/-- What the next piece of a string is: its closing quote, a character, or half of a character that
nothing completes. -/
inductive Piece where
  | close
  | char (c : Char)
  | half
  deriving DecidableEq, Repr

/-- The piece that a code unit begins, with the text after the unit: the first half of a pair takes
the second half that follows it. -/
def unitPiece (unit : Nat) (rest : List Char) : Piece × List Char :=
  if unit < 0xD800 || 0xE000 ≤ unit then (.char (Char.ofNat unit), rest)
  else if 0xDC00 ≤ unit then (.half, rest)
  else match rest with
    | '\\' :: 'u' :: next =>
      match codeUnit? next with
      | some (low, after) =>
        if 0xDC00 ≤ low && low < 0xE000 then
          (.char (Char.ofNat (0x10000 + (unit - 0xD800) * 0x400 + (low - 0xDC00))), after)
        else (.half, rest)
      | none => (.half, rest)
    | _ => (.half, rest)

/-- The next piece of a string and what follows it; nothing where no string goes on. -/
def piece? : List Char → Option (Piece × List Char)
  | [] => none
  | [c] =>
    if c = '"' then some (.close, [])
    else if c = '\\' || c.toNat < 0x20 then none
    else some (.char c, [])
  | c :: e :: rest =>
    if c = '"' then some (.close, e :: rest)
    else if c = '\\' then
      if e = 'u' then (codeUnit? rest).map fun (unit, after) => unitPiece unit after
      else (escaped? e).map fun d => (.char d, rest)
    else if c.toNat < 0x20 then none
    else some (.char c, e :: rest)

theorem unitPiece_length (unit : Nat) (rest : List Char) :
    (unitPiece unit rest).2.length ≤ rest.length := by
  unfold unitPiece
  split
  · exact Nat.le_refl _
  · split
    · exact Nat.le_refl _
    · split
      · split
        · next hu =>
          split
          · have := codeUnit?_length hu
            simp only [List.length_cons]
            omega
          · exact Nat.le_refl _
        · exact Nat.le_refl _
      · exact Nat.le_refl _

theorem piece?_length {cs rest : List Char} {p : Piece} (h : piece? cs = some (p, rest)) :
    rest.length < cs.length := by
  unfold piece? at h
  split at h
  · simp at h
  · grind
  · split at h
    · grind
    · split at h
      · split at h
        · obtain ⟨⟨unit, after⟩, hu, he⟩ := Option.map_eq_some_iff.1 h
          have hl := codeUnit?_length hu
          have hp := unitPiece_length unit after
          simp only at he
          rw [he] at hp
          simp only [List.length_cons] at hp ⊢
          omega
        · obtain ⟨_, _, he⟩ := Option.map_eq_some_iff.1 h
          grind
      · grind

/-- Reads a string up to its closing quote.  `done` holds its characters so far, last one first;
`text` is false once an escape has named half a character.  The answer is the string and what
follows it. -/
def readString (done : List Char) (text : Bool) (cs : List Char) :
    Option (Option String × List Char) :=
  match _h : piece? cs with
  | none => none
  | some (.close, rest) => some (if text then some (String.ofList done.reverse) else none, rest)
  | some (.char c, rest) => readString (c :: done) text rest
  | some (.half, rest) => readString done false rest
  termination_by cs.length
  decreasing_by all_goals exact piece?_length (by assumption)

theorem readString_length {done : List Char} {text : Bool} {cs rest : List Char} {s : Option String}
    (h : readString done text cs = some (s, rest)) : rest.length < cs.length := by
  fun_induction readString done text cs with
  | case1 => simp at h
  | case2 _ _ _ _ hp => have := piece?_length hp; grind
  | case3 _ _ _ _ _ hp ih => have := piece?_length hp; have := ih h; omega
  | case4 _ _ _ _ hp ih => have := piece?_length hp; have := ih h; omega

/-- A numeral: its sign, its digits before and after the point, and the exponent that was
written. -/
structure Numeral where
  negative : Bool
  whole : List Char
  fraction : Option (List Char)
  exponent : Option (Bool × List Char)

/-- The number that decimal digits spell. -/
def digitsValue (ds : List Char) : Nat := ds.foldl (fun n c => 10 * n + (c.toNat - 48)) 0

/-- The exponent of a numeral, or a stand-in beyond every double for one of more than eight
digits. -/
def Numeral.power (n : Numeral) : Int :=
  match n.exponent with
  | none => 0
  | some (negative, ds) =>
    let ds := ds.dropWhile (· = '0')
    let size : Nat := if ds.length ≤ 8 then digitsValue ds else 100000000
    if negative then -(size : Int) else size

/-- The value of a numeral: an integer where it is written as one and fits into sixty-four bits,
with or without a sign, and the nearest double elsewhere.  Negative zero is no integer. -/
def Numeral.draft (n : Numeral) : Draft :=
  let fraction := n.fraction.getD []
  let digits := digitsValue (n.whole ++ fraction)
  let float := Draft.float (Double.ofDecimal? n.negative digits (n.power - fraction.length))
  if n.fraction.isSome || n.exponent.isSome then float
  else if n.negative then
    if digits = 0 || UInt64.size / 2 < digits then float else .int (-(digits : Int))
  else if digits < UInt64.size then .int digits else float

/-- The fraction that may follow the whole part of a numeral: nothing without a point, a failure if
no digit follows it. -/
def fraction? : List Char → Option (Option (List Char) × List Char)
  | '.' :: rest =>
    let ds := rest.takeWhile Char.isDigit
    if ds.isEmpty then none else some (some ds, rest.dropWhile Char.isDigit)
  | cs => some (none, cs)

/-- The exponent that may follow a numeral, with its sign. -/
def exponent? : List Char → Option (Option (Bool × List Char) × List Char)
  | c :: rest =>
    if c = 'e' || c = 'E' then
      let (negative, rest) := match rest with
        | '-' :: rest => (true, rest)
        | '+' :: rest => (false, rest)
        | rest => (false, rest)
      let ds := rest.takeWhile Char.isDigit
      if ds.isEmpty then none else some (some (negative, ds), rest.dropWhile Char.isDigit)
    else some (none, c :: rest)
  | [] => some (none, [])

/-- The numeral at the front of a text and what follows it.  A zero is not followed by another
digit. -/
def readNumeral (cs : List Char) : Option (Numeral × List Char) :=
  let (negative, cs) := match cs with
    | '-' :: rest => (true, rest)
    | cs => (false, cs)
  let whole := cs.takeWhile Char.isDigit
  if whole.isEmpty || (whole.head? = some '0' && whole.length ≠ 1) then none
  else do
    let (fraction, rest) ← fraction? (cs.dropWhile Char.isDigit)
    let (exponent, rest) ← exponent? rest
    some (⟨negative, whole, fraction, exponent⟩, rest)

theorem fraction?_length {cs rest : List Char} {f : Option (List Char)}
    (h : fraction? cs = some (f, rest)) : rest.length ≤ cs.length := by
  unfold fraction? at h
  split at h
  · next r =>
    have := (List.dropWhile_suffix (l := r) Char.isDigit).length_le
    grind
  · grind

theorem exponent?_length {cs rest : List Char} {e : Option (Bool × List Char)}
    (h : exponent? cs = some (e, rest)) : rest.length ≤ cs.length := by
  have drop : ∀ l : List Char, (l.dropWhile Char.isDigit).length ≤ l.length :=
    fun l => (List.dropWhile_suffix Char.isDigit).length_le
  unfold exponent? at h
  split at h
  · split at h
    · split at h
      all_goals next heq =>
        split at heq <;>
        · simp only [Prod.mk.injEq] at heq
          obtain ⟨rfl, rfl⟩ := heq
          grind
    · grind
  · grind

theorem readNumeral_length {cs rest : List Char} {n : Numeral}
    (h : readNumeral cs = some (n, rest)) : rest.length < cs.length := by
  have drop : ∀ l : List Char, (l.takeWhile Char.isDigit).isEmpty = false →
      (l.dropWhile Char.isDigit).length < l.length := by
    intro l hl
    have := congrArg List.length (List.takeWhile_append_dropWhile (p := Char.isDigit) (l := l))
    have : 0 < (l.takeWhile Char.isDigit).length := by
      cases hw : l.takeWhile Char.isDigit with
      | nil => simp [hw] at hl
      | cons => simp
    simp only [List.length_append] at *
    omega
  unfold readNumeral at h
  split at h
  next negative cs' heq =>
    have hcs : cs'.length ≤ cs.length := by split at heq <;> grind
    simp only [Option.bind_eq_bind] at h
    split at h
    · simp at h
    · next hw =>
      simp only [Bool.or_eq_true, not_or, Bool.not_eq_true] at hw
      have := drop cs' hw.1
      simp only [Option.bind_eq_some_iff, Option.some.injEq, Prod.mk.injEq] at h
      obtain ⟨⟨f, r⟩, hf, ⟨e, r'⟩, he, _, rfl⟩ := h
      have := fraction?_length hf
      have := exponent?_length he
      simp only at *
      omega

/-- A container that is open: the items of an array so far, last one first, or the members of an
object and the name that the next value belongs to. -/
inductive Frame where
  | array (done : List Draft)
  | object (done : List (Option String × Draft)) (name : Option String)

/-- The container with one more value at its end. -/
def Frame.finish (closed : Bool) (v : Draft) : Frame → Draft
  | .array done => .array (v :: done).reverse closed
  | .object done name => .object ((name, v) :: done).reverse closed

/-- The draft of a text that breaks off inside some containers, innermost first, after a value. -/
def abandon (v : Draft) (stack : List Frame) : Draft :=
  stack.foldl (fun v frame => frame.finish false v) v

/-- What a reader does next: read a value, go on after one, or read the name of a member. -/
inductive Task where
  | value
  | after (v : Draft)
  | name (done : List (Option String × Draft))

/-- A reader: its task, the containers that are open and the text that is left. -/
structure Reader where
  task : Task
  stack : List Frame
  text : List Char

/-- What a text holds: the draft it begins with, and whether anything but white space follows. -/
structure Document where
  root : Draft
  trailing : Bool

/-- The reader goes on after a value. -/
def Reader.deliver (v : Draft) (stack : List Frame) (text : List Char) : Document ⊕ Reader :=
  .inr ⟨.after v, stack, text⟩

/-- The text breaks off. -/
def Reader.giveUp (v : Draft) (stack : List Frame) : Document ⊕ Reader :=
  .inl ⟨abandon v stack, false⟩

/-- The literal at the front of a text, if it is one. -/
def literal? : List Char → Option (Draft × List Char)
  | 'n' :: 'u' :: 'l' :: 'l' :: rest => some (.null, rest)
  | 't' :: 'r' :: 'u' :: 'e' :: rest => some (.bool true, rest)
  | 'f' :: 'a' :: 'l' :: 's' :: 'e' :: rest => some (.bool false, rest)
  | _ => none

/-- A value that is no container, at the front of a text. -/
def scalar? (cs : List Char) : Option (Draft × List Char) :=
  match cs with
  | '"' :: rest => (readString [] true rest).map fun (s, after) => (.string s, after)
  | cs => (literal? cs).or ((readNumeral cs).map fun (n, after) => (n.draft, after))

/-- Reads the beginning of a value. -/
def Reader.beginValue (stack : List Frame) (text : List Char) : Document ⊕ Reader :=
  match skipSpace text with
  | '[' :: rest =>
    match skipSpace rest with
    | ']' :: rest => deliver (.array [] true) stack rest
    | rest => .inr ⟨.value, .array [] :: stack, rest⟩
  | '\x7b' :: rest =>
    match skipSpace rest with
    | '\x7d' :: rest => deliver (.object [] true) stack rest
    | rest => .inr ⟨.name [], stack, rest⟩
  | text =>
    match scalar? text with
    | some (v, rest) => deliver v stack rest
    | none => giveUp .broken stack

/-- Goes on after a value: the text ends, or the innermost container does, or it holds another
value. -/
def Reader.goOn (v : Draft) (stack : List Frame) (text : List Char) : Document ⊕ Reader :=
  match stack with
  | [] => .inl ⟨v, !(skipSpace text).isEmpty⟩
  | .array done :: stack =>
    match skipSpace text with
    | ',' :: rest => .inr ⟨.value, .array (v :: done) :: stack, rest⟩
    | ']' :: rest => deliver (.array (v :: done).reverse true) stack rest
    | _ => giveUp (.array (v :: done).reverse false) stack
  | .object done name :: stack =>
    match skipSpace text with
    | ',' :: rest => .inr ⟨.name ((name, v) :: done), stack, rest⟩
    | '\x7d' :: rest => deliver (.object ((name, v) :: done).reverse true) stack rest
    | _ => giveUp (.object ((name, v) :: done).reverse false) stack

/-- Reads the name of a member and the colon after it. -/
def Reader.readName (done : List (Option String × Draft)) (stack : List Frame) (text : List Char) :
    Document ⊕ Reader :=
  match skipSpace text with
  | '"' :: rest =>
    match readString [] true rest with
    | some (name, rest) =>
      match skipSpace rest with
      | ':' :: rest => .inr ⟨.value, .object done name :: stack, rest⟩
      | _ => giveUp .broken (.object done name :: stack)
    | none => giveUp (.object done.reverse false) stack
  | _ => giveUp (.object done.reverse false) stack

/-- One step of a reader. -/
def Reader.step (r : Reader) : Document ⊕ Reader :=
  match r.task with
  | .value => beginValue r.stack r.text
  | .after v => goOn v r.stack r.text
  | .name done => readName done r.stack r.text

theorem literal?_length {cs rest : List Char} {v : Draft} (h : literal? cs = some (v, rest)) :
    rest.length < cs.length := by
  unfold literal? at h
  grind

theorem scalar?_length {cs rest : List Char} {v : Draft} (h : scalar? cs = some (v, rest)) :
    rest.length < cs.length := by
  unfold scalar? at h
  split at h
  · obtain ⟨⟨s, after⟩, hs, he⟩ := Option.map_eq_some_iff.1 h
    have := readString_length hs
    grind
  · rcases Option.or_eq_some_iff.1 h with h | ⟨_, h⟩
    · exact literal?_length h
    · obtain ⟨⟨n, after⟩, hn, he⟩ := Option.map_eq_some_iff.1 h
      have := readNumeral_length hn
      grind

/-- Every step of a reader takes something off its text. -/
theorem Reader.step_length {r t : Reader} (h : r.step = .inr t) :
    t.text.length < r.text.length := by
  have hs := skipSpace_length r.text
  unfold step at h
  split at h
  · unfold beginValue deliver giveUp at h
    split at h
    · next rest _ =>
      have := skipSpace_length rest
      grind
    · next rest _ =>
      have := skipSpace_length rest
      grind
    · split at h
      · next hv =>
        have := scalar?_length hv
        grind
      · simp at h
  · unfold goOn deliver giveUp at h
    grind
  · unfold readName giveUp at h
    split at h
    · split at h
      · next hr =>
        have := readString_length hr
        split at h
        · next rest _ _ _ =>
          have := skipSpace_length rest
          grind
        · simp at h
      · simp at h
    · simp at h

/-- Runs a reader to the end of its document. -/
def Reader.run (r : Reader) : Document :=
  match _h : r.step with
  | .inl document => document
  | .inr next => next.run
  termination_by r.text.length
  decreasing_by exact step_length (by assumption)

/-- The document that a text holds. -/
def Document.ofText (s : String) : Document := Reader.run ⟨.value, [], s.toList⟩

/-- The value that a text spells, if it is JSON throughout and nests no deeper than the limit. -/
def parse? (s : String) : Option Json :=
  let document := Document.ofText s
  match document.root.value Draft.depthLimit with
  | .ok j => if document.trailing then none else some j
  | .error _ => none

end Moderation.Json
