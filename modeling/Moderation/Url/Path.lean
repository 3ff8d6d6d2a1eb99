import Moderation.Text.Parts
import Moderation.Url.Percent
/-!
# Paths of URLs

A path is a sequence of segments, each after a slash.  Two segments stand for a place in the path
itself: a single dot for the place it is at, two dots for the one above, and either leaves an empty
segment if it comes last.  The segment of a drive is not gone above.

Segments can be added one by one.  Then the two are left out if they are given as they are, and what
would end a segment is encoded; tabs and the ends of lines are dropped, as they are anywhere in a
URL.
-/

namespace Moderation.Url

/-- The characters that are dropped wherever they stand in a URL. -/
def isDropped (c : Char) : Bool := c = '\t' || c = '\n' || c = '\r'

/-- The segments of a path, encoded. -/
abbrev Segments := List (List Char)

/-- An encoded segment with encoded dots in it written out. -/
def plainDots : List Char → List Char
  | '%' :: '2' :: 'e' :: rest => '.' :: plainDots rest
  | '%' :: '2' :: 'E' :: rest => '.' :: plainDots rest
  | c :: rest => c :: plainDots rest
  | [] => []

/-- Whether a segment stands for the place it is at. -/
def isSingleDot (segment : List Char) : Bool := plainDots segment = ['.']

/-- Whether a segment stands for the place above. -/
def isDoubleDot (segment : List Char) : Bool := plainDots segment = ['.', '.']

/-- Whether a segment names a drive. -/
def isDrive : List Char → Bool
  | [letter, mark] => letter.isAlpha && (mark = ':' || mark = '|')
  | _ => false

namespace Segments

/-- A path without its last segment, unless that names a drive. -/
def above (path : Segments) : Segments := if path.getLast?.any isDrive then path else path.dropLast

/-- Adds a segment that others follow. -/
def step (path : Segments) (segment : List Char) : Segments :=
  if isDoubleDot segment then above path
  else if isSingleDot segment then path
  else path ++ [segment]

/-- Adds the last segment. -/
def finish (path : Segments) (segment : List Char) : Segments :=
  if isDoubleDot segment then above path ++ [[]]
  else if isSingleDot segment then path ++ [[]]
  else path ++ [segment]

/-- Reads the segments of a path after its first slash. -/
def ofParts (parts : List (List Char)) : Segments :=
  let encoded := parts.map (Percent.encodeChars Percent.inPath)
  finish (encoded.dropLast.foldl step []) (encoded.getLastD [])

/-- A path without the empty segment at its end; a path of one segment is left as it is. -/
def popEmpty (path : Segments) : Segments :=
  if 1 < path.length && path.getLast? = some [] then path.dropLast else path

/-- A path with a segment at its end, which goes in the place of the empty one of a path that is a
slash alone. -/
def append (special : Bool) (path : Segments) (segment : String) : Segments :=
  if segment = "." || segment = ".." then path
  else
    finish (if path = [[]] then [] else path)
      (Percent.encodeChars (Percent.inSegment special)
        (segment.toList.filter fun c => !isDropped c))

/-- The text of a path. -/
def chars (path : Segments) : List Char := path.flatMap ('/' :: ·)

end Segments
end Moderation.Url
