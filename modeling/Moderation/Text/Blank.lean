/-!
# Blank characters, words and lines

Which characters separate words, and the two ways a text is cut: into **words**, the maximal runs of
characters that are not blank, and into **lines**.  Both scans run over the characters from the
right, so that each step says what one more character in front of a text does to its words or lines.
-/

namespace Moderation.Text

/-- The characters with the Unicode property `White_Space`. -/
def isBlank (c : Char) : Bool :=
  let n := c.toNat
  (9 ≤ n && n ≤ 13) || n == 0x20 || n == 0x85 || n == 0xA0 || n == 0x1680 ||
    (0x2000 ≤ n && n ≤ 0x200A) || n == 0x2028 || n == 0x2029 || n == 0x202F || n == 0x205F ||
    n == 0x3000

/-- A text that holds blank characters only, or nothing. -/
def isBlankText (s : String) : Bool := s.toList.all isBlank

/-- Puts a run of characters in front of the words after it; the empty run is no word. -/
def flushWord (run : List Char) (rest : List (List Char)) : List (List Char) :=
  if run.isEmpty then rest else run :: rest

/-- One character of the scan for words, from the right: the run being read and the words after
it. -/
def scanWord (c : Char) (state : List Char × List (List Char)) : List Char × List (List Char) :=
  if isBlank c then ([], flushWord state.1 state.2) else (c :: state.1, state.2)

/-- The maximal runs of characters that are not blank, in order. -/
def wordsOf (cs : List Char) : List (List Char) :=
  let state := cs.foldr scanWord ([], [])
  flushWord state.1 state.2

/-- The words of a text, in order. -/
def words (s : String) : List String := (wordsOf s.toList).map String.ofList

/-- Words joined by single spaces. -/
def unwords (ws : List String) : String := " ".intercalate ws

/-- One character of the scan for lines, from the right.  A line is kept with whether a line feed
ended it. -/
def scanLine (c : Char) (lines : List (List Char × Bool)) : List (List Char × Bool) :=
  if c = '\n' then ([], true) :: lines
  else match lines with
    | [] => [([c], false)]
    | (line, ended) :: rest => (c :: line, ended) :: rest

/-- A line without the carriage return that stood before its line feed. -/
def dropReturn : List Char × Bool → List Char
  | (line, true) => if line.getLast? = some '\r' then line.dropLast else line
  | (line, false) => line

/-- The lines of a text.  A line ends with a line feed, or with a carriage return and a line feed;
what follows the last line feed is a line of its own unless it is empty, and keeps a carriage return
it may end with. -/
def linesOf (cs : List Char) : List (List Char) := (cs.foldr scanLine []).map dropReturn

/-- The lines of a text, without their ends. -/
def lines (s : String) : List String := (linesOf s.toList).map String.ofList

@[simp] theorem wordsOf_nil : wordsOf [] = [] := rfl

theorem flushWord_of_ne {run : List Char} (h : run ≠ []) (rest : List (List Char)) :
    flushWord run rest = run :: rest := by
  simp [flushWord, h]

end Moderation.Text
