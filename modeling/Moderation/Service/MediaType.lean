/-!
# Media types

Whether a body is said to be JSON.  A media type is a type, a slash and a subtype, each made of
token characters; the part of the subtype after its last plus sign is its suffix.  Parameters may
follow, after semicolons, each a name, an equals sign and a value, which is a token or a quoted text
of at least one character.  Letter case does not count.
-/

namespace Moderation.MediaType

/-- The characters of tokens. -/
def isToken (c : Char) : Bool := c.isAlphanum || "!#$%&'*+-.^_`|~".toList.contains c

/-- The characters of quoted texts; as anywhere in a header, they are ASCII. -/
def isQuotable (c : Char) : Bool := 31 < c.toNat && c.toNat < 127

/-- A text after the quote that closes a quoted text, which starts after its opening quote and is
not empty. -/
def afterQuoted : List Char → Option (List Char)
  | [] => none
  | first :: rest =>
    if isQuotable first then
      match rest.dropWhile fun c => isQuotable c && c ≠ '"' with
      | '"' :: after => some after
      | _ => none
    else none

theorem afterQuoted_length {cs after : List Char} (h : afterQuoted cs = some after) :
    after.length < cs.length := by
  unfold afterQuoted at h
  split at h
  · simp at h
  · next first rest =>
    split at h
    · split at h
      · next heq =>
        have := (List.dropWhile_suffix (l := rest) fun c => isQuotable c && c ≠ '"').length_le
        rw [heq] at this
        grind
      · simp at h
    · simp at h

/-- What follows the value of a parameter: nothing, or the parameters after a semicolon; no answer
if it is neither. -/
def afterValue (cs : List Char) : Option (List Char) :=
  match cs with
  | '"' :: quoted =>
    match afterQuoted quoted with
    | none => none
    | some after =>
      match after.dropWhile (· = ' ') with
      | [] => some []
      | ';' :: rest => some rest
      | _ => none
  | cs =>
    match cs.dropWhile isToken with
    | [] => some []
    | ';' :: rest => if (cs.takeWhile isToken).isEmpty then none else some rest
    | _ => none

theorem afterValue_length {cs after : List Char} (h : afterValue cs = some after) :
    after.length ≤ cs.length := by
  unfold afterValue at h
  split at h
  · next quoted =>
    split at h
    · simp at h
    · next after' hq =>
      have h1 := afterQuoted_length hq
      have h2 := (List.dropWhile_suffix (l := after') (· = ' ')).length_le
      grind
  · have drop : ∀ l : List Char, (l.dropWhile isToken).length ≤ l.length :=
      fun l => (List.dropWhile_suffix isToken).length_le
    split at h <;> grind

/-- Whether a text is a sequence of parameters, with spaces in front of any of them. -/
def areParameters (cs : List Char) : Bool :=
  match cs with
  | [] => true
  | ' ' :: rest => areParameters rest
  | c :: rest =>
    if isToken c then
      match _h : rest.dropWhile isToken with
      | '=' :: value =>
        match _hv : afterValue value with
        | some after => areParameters after
        | none => false
      | _ => false
    else false
  termination_by cs.length
  decreasing_by
    · simp
    · have h1 := (List.dropWhile_suffix (l := rest) isToken).length_le
      have h2 := afterValue_length _hv
      rw [_h] at h1
      simp only [List.length_cons] at *
      omega

/-- The subtype of some characters and its suffix, parted at the last plus sign that is not the
first character. -/
def partSubtype (cs : List Char) : List Char × Option (List Char) :=
  let suffix := (cs.reverse.takeWhile (· ≠ '+')).reverse
  let before := cs.take (cs.length - suffix.length - 1)
  if before.isEmpty then (cs, none) else (before, some suffix)

/-- Whether a content type is JSON: `application` with the subtype or the suffix `json`. -/
def isJson (contentType : String) : Bool :=
  let cs := contentType.toList.map Char.toLower
  match cs.dropWhile isToken with
  | '/' :: rest =>
    let (subtype, suffix) := partSubtype (rest.takeWhile isToken)
    let wellFormed := match rest.dropWhile isToken with
      | [] => true
      | ';' :: parameters => areParameters parameters
      | _ => false
    wellFormed && cs.takeWhile isToken = "application".toList &&
      (subtype = "json".toList || suffix = some "json".toList)
  | _ => false

end Moderation.MediaType
