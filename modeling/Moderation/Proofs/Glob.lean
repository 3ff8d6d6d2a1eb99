import Mathlib.Data.List.Forall2
import Moderation.Glob.Expression
import Moderation.Proofs.Regex
/-!
# What a pattern matches

A pattern matches a text that is **cut** into runs, one for each character of the pattern, each of
which takes its run: `*` any run without a line feed, `?` one character but the line feed, and any
other character itself (`Cut`).

`isMatch` goes through the pattern from its end.  What it keeps is an answer for every place of the
text (`Answers`), which each character of the pattern makes anew (`Answers.accept`), so that it
finds out whether the text can be cut (`isMatch_iff`).  The regular expression that a pattern is
written as is found where the text can be cut, too (`foundIn_iff`): the two anchors leave nothing
before its run and nothing after it.
-/

namespace Moderation.Glob

/-- What a character of a pattern takes. -/
def Takes (c : Char) (run : List Char) : Prop :=
  if c = '*' then '\n' ∉ run else if c = '?' then ∃ d, d ≠ '\n' ∧ run = [d] else run = [c]

/-- A text is cut into runs, one for each character of a pattern, which takes it. -/
def Cut (pattern text : List Char) : Prop :=
  ∃ runs, List.Forall₂ Takes pattern runs ∧ runs.flatten = text

theorem cut_nil {text : List Char} : Cut [] text ↔ text = [] := by
  simp [Cut, eq_comm]

theorem cut_cons {c : Char} {pattern text : List Char} :
    Cut (c :: pattern) text ↔
      ∃ first rest, text = first ++ rest ∧ Takes c first ∧ Cut pattern rest := by
  constructor
  · rintro ⟨runs, hruns, rfl⟩
    obtain ⟨first, runs, hfirst, hrest, rfl⟩ := List.forall₂_cons_left_iff.1 hruns
    exact ⟨first, runs.flatten, List.flatten_cons, hfirst, runs, hrest, rfl⟩
  · rintro ⟨first, _, rfl, hfirst, runs, hruns, rfl⟩
    exact ⟨first :: runs, .cons hfirst hruns, List.flatten_cons⟩

/-! ## Matching as a relation -/

section Matches

variable {c : Char} {p : List GlobPiece} {s : List Char}

theorem matches_nil : Matches [] s ↔ s = [] := by
  constructor
  · rintro ⟨⟩
    rfl
  · rintro rfl
    exact .nil

theorem matches_literal : Matches (.literal c :: p) s ↔ ∃ rest, s = c :: rest ∧ Matches p rest := by
  constructor
  · rintro ⟨⟩
    exact ⟨_, rfl, ‹_›⟩
  · rintro ⟨rest, rfl, h⟩
    exact .literal h

theorem matches_one :
    Matches (.one :: p) s ↔ ∃ d rest, d ≠ '\n' ∧ s = d :: rest ∧ Matches p rest := by
  constructor
  · rintro ⟨⟩
    exact ⟨_, _, ‹_›, rfl, ‹_›⟩
  · rintro ⟨d, rest, hd, rfl, h⟩
    exact .one hd h

/-- A star takes a first character and goes on, or it is done. -/
theorem matches_any_cons :
    Matches (.any :: p) (c :: s) ↔ Matches p (c :: s) ∨ (c ≠ '\n' ∧ Matches (.any :: p) s) := by
  constructor
  · intro h
    cases h with
    | anyDone h => exact .inl h
    | anyMore hc h => exact .inr ⟨hc, h⟩
  · rintro (h | ⟨hc, h⟩)
    · exact .anyDone h
    · exact .anyMore hc h

theorem matches_any_nil : Matches (.any :: p) [] ↔ Matches p [] := by
  constructor
  · rintro ⟨⟩
    assumption
  · exact .anyDone

/-- A star takes a run without a line feed. -/
theorem matches_any : Matches (.any :: p) s ↔
    ∃ first rest, s = first ++ rest ∧ '\n' ∉ first ∧ Matches p rest := by
  induction s with
  | nil =>
    rw [matches_any_nil]
    constructor
    · exact fun h => ⟨[], [], rfl, by simp, h⟩
    · rintro ⟨first, rest, hs, -, h⟩
      rwa [(List.append_eq_nil_iff.1 hs.symm).2] at h
  | cons c s ih =>
    rw [matches_any_cons, ih]
    constructor
    · rintro (h | ⟨hc, first, rest, rfl, hfirst, h⟩)
      · exact ⟨[], c :: s, rfl, by simp, h⟩
      · exact ⟨c :: first, rest, rfl, by simp [hfirst, hc.symm], h⟩
    · rintro ⟨_ | ⟨d, first⟩, rest, hs, hfirst, h⟩
      · exact .inl (hs ▸ h)
      · obtain ⟨rfl, rfl⟩ := List.cons_eq_cons.1 hs
        simp only [List.mem_cons, not_or] at hfirst
        exact .inr ⟨Ne.symm hfirst.1, first, rest, rfl, hfirst.2, h⟩

/-- **Matching cuts a text into the runs that its characters take.** -/
theorem matches_iff_cut {pattern : List Char} :
    Matches (pattern.map GlobPiece.ofChar) s ↔ Cut pattern s := by
  induction pattern generalizing s with
  | nil => exact matches_nil.trans cut_nil.symm
  | cons c pattern ih =>
    rw [List.map_cons, cut_cons, GlobPiece.ofChar]
    unfold Takes
    split
    · simp only [matches_any, ih]
    · split
      · simp only [matches_one, ih]
        constructor
        · rintro ⟨d, rest, hd, rfl, h⟩
          exact ⟨[d], rest, rfl, ⟨d, hd, rfl⟩, h⟩
        · rintro ⟨_, rest, rfl, ⟨d, hd, rfl⟩, h⟩
          exact ⟨d, rest, hd, rfl, h⟩
      · simp only [matches_literal, ih]
        constructor
        · rintro ⟨rest, rfl, h⟩
          exact ⟨[c], rest, rfl, rfl, h⟩
        · rintro ⟨_, rest, rfl, rfl, h⟩
          exact ⟨rest, rfl, h⟩

end Matches

/-! ## Matching by going through a pattern from its end -/

/-- The answers say for every place of a text, its end included, whether a pattern matches there. -/
inductive Answers (p : List GlobPiece) : List Char → List Bool → Prop
  | finish {here : Bool} (h : here = true ↔ Matches p []) : Answers p [] [here]
  | place {c s here later} (h : here = true ↔ Matches p (c :: s)) (rest : Answers p s later) :
      Answers p (c :: s) (here :: later)

namespace Answers

variable {p : List GlobPiece} {s : List Char} {later : List Bool}

theorem ne_nil (h : Answers p s later) : later ≠ [] := by
  cases h <;> exact List.cons_ne_nil _ _

theorem head (h : Answers p s later) : later.headD false = true ↔ Matches p s := by
  cases h <;> assumption

/-- The empty pattern matches at the end alone. -/
theorem nil (s : List Char) : Answers [] s (List.replicate s.length false ++ [true]) := by
  induction s with
  | nil => exact .finish (by simp [matches_nil])
  | cons c s ih => exact .place (by simp [matches_nil]) ih

theorem any (h : Answers p s later) : Answers (.any :: p) s (accept .any s later) := by
  induction h with
  | finish h => exact .finish (h.trans matches_any_nil.symm)
  | @place c s here later h rest ih =>
    -- The answer for the end is the last of those that were given, which a place in front keeps.
    have hlast : (here :: later).getLastD false = later.getLastD false := by
      cases later with
      | nil => exact absurd rfl rest.ne_nil
      | cons => rfl
    have haccept : accept .any (c :: s) (here :: later) =
        (here || (c ≠ '\n' && (accept .any s later).headD false)) :: accept .any s later := by
      simp only [accept, hlast]
      rfl
    rw [haccept]
    refine .place ?_ ih
    rw [matches_any_cons, ← h, ← ih.head]
    simp

/-- A piece takes one character, which passes a test, and the answers are those of the places after
it. -/
theorem one_of_test {piece : GlobPiece} (test : Char → Bool)
    (htest : ∀ s, Matches (piece :: p) s ↔ ∃ d rest, test d ∧ s = d :: rest ∧ Matches p rest)
    (h : Answers p s later) :
    Answers (piece :: p) s
      ((s.zip later.tail).map (fun (c, next) => test c && next) ++ [false]) := by
  induction h with
  | finish => exact .finish (by simp [htest])
  | @place c s here later h rest ih =>
    cases later with
    | nil => exact absurd rfl rest.ne_nil
    | cons next later =>
      refine .place ?_ ih
      have hnext : next = true ↔ Matches p s := rest.head
      rw [Bool.and_eq_true, hnext, htest]
      constructor
      · exact fun ⟨hc, hs⟩ => ⟨c, s, hc, rfl, hs⟩
      · rintro ⟨_, _, hc, heq, hs⟩
        cases heq
        exact ⟨hc, hs⟩

/-- **The answers for a pattern give those for the pattern with a piece before it.** -/
theorem accept (piece : GlobPiece) (h : Answers p s later) :
    Answers (piece :: p) s (Glob.accept piece s later) := by
  cases piece with
  | any => exact h.any
  | one => exact one_of_test (· ≠ '\n') (fun s => by simp [matches_one]) h
  | literal d => exact one_of_test (· = d) (fun s => by simp [matches_literal]) h

end Answers

/-- The answers that are found for a text are right. -/
theorem answers_accepts (p : List GlobPiece) (s : List Char) : Answers p s (accepts p s) := by
  induction p with
  | nil => exact .nil s
  | cons piece p ih => exact ih.accept piece

/-- **A pattern matches the texts that can be cut.** -/
theorem isMatch_iff (g : Glob) (value : String) :
    g.isMatch value = true ↔ Cut g.pattern.toList value.toList :=
  (answers_accepts g.pieces value.toList).head.trans matches_iff_cut

theorem pattern_of_compile {pattern : String} {g : Glob} (h : compile pattern = .ok g) :
    g.pattern = pattern := by
  simp only [compile] at h
  split at h <;> cases h
  rfl

/-! ## The expression of a pattern -/

section Expression

open Regex

variable {c : Char} {before run after : List Char}

/-- The signs of a part. -/
def signs (p : Part) : List Token := .atom p.atom :: if p.starred then [.star] else []

/-- What a character of a pattern is in an expression. -/
def part (c : Char) : Part :=
  if c = '*' then ⟨.dot, true⟩ else if c = '?' then ⟨.dot, false⟩ else ⟨.literal c, false⟩

/-- A character that is written to stand for itself does so. -/
theorem tokens?_escape_append (c : Char) (rest : List Char) :
    tokens? (escape c ++ rest) = (tokens? rest).map (.atom (.literal c) :: ·) := by
  unfold escape
  by_cases hmeta : isMeta c = true
  · rw [if_pos hmeta]
    simp [tokens?, hmeta]
  · rw [if_neg hmeta]
    have hne (d : Char) (hd : isMeta d = true) : c ≠ d := by
      rintro rfl
      exact hmeta hd
    have htoken : Token.ofChar? c = some (.atom (.literal c)) := by
      simp [Token.ofChar?, hne '.' rfl, hne '^' rfl, hne '$' rfl, hne '*' rfl, hne '+' rfl, hmeta]
    -- It begins neither an escape nor a class, so it is a sign on its own.
    have hslash : c ≠ '\\' := hne '\\' rfl
    have hbracket : c ≠ '[' := hne '[' rfl
    cases hrest : tokens? rest <;> simp [tokens?, hslash, htoken, hrest]

theorem tokens?_translate_append (c : Char) (rest : List Char) :
    tokens? (translate c ++ rest) = (tokens? rest).map (signs (part c) ++ ·) := by
  unfold translate part
  split
  · cases hrest : tokens? rest <;> simp [tokens?, Token.ofChar?, signs, hrest]
  · split
    · cases hrest : tokens? rest <;> simp [tokens?, Token.ofChar?, signs, hrest]
    · exact tokens?_escape_append c rest

theorem tokens?_flatMap_translate (pattern rest : List Char) :
    tokens? (pattern.flatMap translate ++ rest) =
      (tokens? rest).map ((pattern.map part).flatMap signs ++ ·) := by
  induction pattern with
  | nil => simp
  | cons c pattern ih =>
    rw [List.flatMap_cons, List.append_assoc, tokens?_translate_append, ih, Option.map_map]
    simp [Function.comp_def]

/-- Parts are made up of their signs. -/
theorem parts?_flatMap_signs (parts : List Part) : parts? (parts.flatMap signs) = some parts := by
  induction parts with
  | nil => rfl
  | cons p parts ih =>
    obtain ⟨a, starred⟩ := p
    cases starred with
    | true => simp [signs, parts?, ih]
    | false =>
      -- No star or plus follows, as the next part begins with its atom.
      cases parts with
      | nil => rfl
      | cons q parts =>
        simp only [List.flatMap_cons, signs, List.cons_append] at ih ⊢
        simp [parts?, ih]

/-- **The expression of a pattern has one part for each character, between the anchors.** -/
theorem ofText?_expression (pattern : String) :
    Regex.ofText? (expression pattern) =
      some ⟨⟨.start, false⟩ :: (pattern.toList.map part ++ [⟨.finish, false⟩])⟩ := by
  have htokens : tokens? (expression pattern).toList =
      some
        ((⟨.start, false⟩ :: (pattern.toList.map part ++ [⟨.finish, false⟩])).flatMap signs) := by
    simp [expression, tokens?, Token.ofChar?, tokens?_flatMap_translate, signs]
  rw [Regex.ofText?, htokens, Option.bind_some, parts?_flatMap_signs, Option.map_some]

/-- A dot with a star takes a run without a line feed. -/
theorem repeats_dot : Atom.dot.Repeats before run after ↔ '\n' ∉ run :=
  takesOne_dot.repeats_iff.trans ⟨fun h hmem => h _ hmem rfl, fun h _ hc heq => h (heq ▸ hc)⟩

/-- A part takes what the character does that it is written for, wherever that stands. -/
theorem takes_part : (part c).Takes before run after ↔ Takes c run := by
  unfold part Takes
  split
  · exact repeats_dot
  · split
    · exact Iff.rfl
    · exact Iff.rfl

/-- The parts of a pattern take the runs that can be cut. -/
theorem takeInTurn_part {pattern : List Char} :
    TakeInTurn (pattern.map part) before run after ↔ Cut pattern run := by
  induction pattern generalizing before run with
  | nil => exact cut_nil.symm
  | cons c pattern ih =>
    rw [List.map_cons, cut_cons]
    simp only [TakeInTurn, takes_part, ih]

/-- **The expression of a pattern is found in the texts that can be cut.** -/
theorem foundIn_iff (pattern : List Char) (value : String) :
    FoundIn ⟨⟨.start, false⟩ :: (pattern.map part ++ [⟨.finish, false⟩])⟩ value ↔
      Cut pattern value.toList :=
  (foundIn_anchored _ value).trans takeInTurn_part

end Expression

/-- **What a pattern matches.**  A pattern that is made ready matches a text if and only if the text
is cut into runs, one for each character of the pattern, which takes it; and this is where the
regular expression that the pattern is written as is found. -/
theorem isMatch_iff_cut {pattern : String} {g : Glob} (h : compile pattern = .ok g)
    (value : String) :
    (g.isMatch value = true ↔ Cut pattern.toList value.toList) ∧
      ∃ r, Regex.ofText? (expression pattern) = some r ∧
        (r.FoundIn value ↔ g.isMatch value = true) := by
  have hcut : g.isMatch value = true ↔ Cut pattern.toList value.toList := by
    rw [isMatch_iff, pattern_of_compile h]
  exact ⟨hcut, _, ofText?_expression pattern, (foundIn_iff pattern.toList value).trans hcut.symm⟩

/-- Of two stars the first can take what the second could, and a dot in a pattern is a dot. -/
theorem isMatch_iff_cut_two_stars :
    let g : Glob := ⟨"@*a*?.x"⟩
    compile "@*a*?.x" = .ok g ∧ expression "@*a*?.x" = "^@.*a.*.\\.x$" ∧
      Cut "@*a*?.x".toList "@banana.x".toList ∧ ¬ Cut "@*a*?.x".toList "@bananax".toList := by
  have hcompile : compile "@*a*?.x" = .ok ⟨"@*a*?.x"⟩ := by decide +kernel
  have hyes := (isMatch_iff_cut hcompile "@banana.x").1
  have hno := (isMatch_iff_cut hcompile "@bananax").1
  exact ⟨hcompile, by decide +kernel, hyes.1 (by decide +kernel),
    fun hcut => absurd (hno.2 hcut) (by decide +kernel)⟩

end Moderation.Glob
