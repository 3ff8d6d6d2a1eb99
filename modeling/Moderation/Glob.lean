/-!
# Globs

A pattern over identifiers: `*` stands for any run of characters, `?` for one character, and neither
for a line feed; every other character stands for itself, and the pattern covers the whole
identifier.

`Matches` says this as a relation on the pieces of a pattern.  `accepts` decides it without
backtracking: it goes through the pattern from its end and keeps, for every place in the identifier,
whether the rest of the pattern matches the rest of the identifier from there.
-/

namespace Moderation

/-- One character of a pattern. -/
inductive GlobPiece where
  | any
  | one
  | literal (c : Char)
  deriving DecidableEq, Repr

namespace GlobPiece

/-- The piece that a character of a pattern stands for. -/
def ofChar (c : Char) : GlobPiece :=
  if c = '*' then .any else if c = '?' then .one else .literal c

end GlobPiece

/-- A pattern that can be matched. -/
structure Glob where
  pattern : String
  deriving DecidableEq, Repr

namespace Glob

/-- The pieces of the pattern `p` match the characters `s`, the whole of them. -/
inductive Matches : List GlobPiece → List Char → Prop
  | nil : Matches [] []
  | literal {c p s} : Matches p s → Matches (.literal c :: p) (c :: s)
  | one {c p s} : c ≠ '\n' → Matches p s → Matches (.one :: p) (c :: s)
  | anyDone {p s} : Matches p s → Matches (.any :: p) s
  | anyMore {c p s} : c ≠ '\n' → Matches (.any :: p) s → Matches (.any :: p) (c :: s)

/-- The memory that a pattern may take when it is made ready for matching, in bytes. -/
def sizeLimit : Nat := 10485760

/-- The memory that one wildcard takes, in bytes, as a rough measure: what a pattern really takes
depends on how it is compiled, and on its other characters as well.  So where exactly a pattern gets
too large is only approximated here, and no theorem depends on it. -/
def wildcardSize : Nat := 1024

/-- Whether a text has a wildcard in it. -/
def isGlob (s : String) : Bool := s.toList.any fun c => c = '*' || c = '?'

/-- Why a pattern cannot be matched. -/
inductive CompileError where
  | tooLarge
  deriving DecidableEq, Repr

/-- The text of an error. -/
def CompileError.message : CompileError → String
  | .tooLarge => "Compiled regex exceeds size limit of " ++ toString sizeLimit ++ " bytes."

/-- Makes a pattern ready for matching, unless it has too many wildcards. -/
def compile (pattern : String) : Except CompileError Glob :=
  let wildcards := pattern.toList.countP fun c => c = '*' || c = '?'
  if sizeLimit < wildcards * wildcardSize then .error .tooLarge else .ok ⟨pattern⟩

/-- The pieces of a pattern. -/
def pieces (g : Glob) : List GlobPiece := g.pattern.toList.map GlobPiece.ofChar

/-- One piece in front of a pattern.  `later` says for every place of the identifier, its end
included, whether the pattern matches from there; the answer says it for the pattern with the
piece. -/
def accept (piece : GlobPiece) (s : List Char) (later : List Bool) : List Bool :=
  match piece with
  | .any =>
    (s.zip later).foldr
      (fun (c, here) answer => (here || (c ≠ '\n' && answer.headD false)) :: answer)
      [later.getLastD false]
  | .one => (s.zip later.tail).map (fun (c, next) => c ≠ '\n' && next) ++ [false]
  | .literal d => (s.zip later.tail).map (fun (c, next) => c = d && next) ++ [false]

/-- For every place of an identifier, its end included, whether a pattern matches from there. -/
def accepts (p : List GlobPiece) (s : List Char) : List Bool :=
  p.foldr (fun piece later => accept piece s later) (List.replicate s.length false ++ [true])

/-- Whether a pattern matches an identifier. -/
def isMatch (g : Glob) (s : String) : Bool := (accepts g.pieces s.toList).headD false

end Glob
end Moderation
