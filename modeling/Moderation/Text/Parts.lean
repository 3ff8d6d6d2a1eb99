/-!
# Parts of a text

A text is cut wherever a character stands.  There is always one part more than there are places to
cut, so an empty text has one part, which is empty.
-/

namespace Moderation.Text

/-- The parts of a text between the places where a character stands. -/
def parts (c : Char) : List Char → List (List Char)
  | [] => [[]]
  | x :: rest =>
    if x = c then [] :: parts c rest
    else match parts c rest with
      | [] => [[x]]
      | part :: others => (x :: part) :: others

theorem parts_ne_nil (c : Char) (cs : List Char) : parts c cs ≠ [] := by
  cases cs with
  | nil => simp [parts]
  | cons x rest => grind [parts]

end Moderation.Text
