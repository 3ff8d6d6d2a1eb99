import Moderation.Entity
import Moderation.Proofs.Digest.Base64
import Moderation.Proofs.Regex
/-!
# Which texts name an entity

A text that starts with `@` names a user and one that starts with `!` a room.  A server name is made
of certain characters and has a dot in it, the last of which is neither its first character nor its
last (`HasServerForm`).

Such a name can be **cut** at its last dot, with a label after it that has no dot (`IsCut`).  To
read a name from its end finds this cut (`isServerName_iff_cut`).  The regular expression of server
names has two classes of characters that overlap, one before a dot and one after it; as only the
first has the dot, the dot between them is the last one, so the expression is found just where the
name can be cut (`foundIn_iff_cut`).

A digest has two spellings in Base64 (`digest?_eq_some_iff`).  No text that is read as a digest
names an entity, as it has neither a sigil nor a dot (`classify_eq_none_of_digest?`).
-/

namespace Moderation.Entity

/-- The characters of server names. -/
def IsServerNameChar (c : Char) : Prop :=
  ('a' ≤ c ∧ c ≤ 'z') ∨ ('A' ≤ c ∧ c ≤ 'Z') ∨ ('0' ≤ c ∧ c ≤ '9') ∨
    c = '.' ∨ c = '*' ∨ c = '?' ∨ c = '-'

/-- A server name has a dot, and its last dot is neither its first character nor its last. -/
def HasServerForm (s : List Char) : Prop :=
  (∀ c ∈ s, IsServerNameChar c) ∧
    ∃ before after, s = before ++ '.' :: after ∧ '.' ∉ after ∧ before ≠ [] ∧ after ≠ []

/-- A server name is cut at a dot, with something before it and a label after it. -/
def IsCut (s : List Char) : Prop :=
  ∃ before after, s = before ++ '.' :: after ∧
    before ≠ [] ∧ (∀ c ∈ before, isServerChar c = true) ∧
    after ≠ [] ∧ ∀ c ∈ after, isLabelChar c = true

section
variable {s : List Char} {c : Char}

theorem isAlphanum_iff :
    c.isAlphanum = true ↔
      ('a' ≤ c ∧ c ≤ 'z') ∨ ('A' ≤ c ∧ c ≤ 'Z') ∨ ('0' ≤ c ∧ c ≤ '9') := by
  have hclasses : c.isAlphanum = (decide ('A' ≤ c ∧ c ≤ 'Z') ||
      (decide ('a' ≤ c) && decide (c ≤ 'z')) || (decide ('0' ≤ c) && decide (c ≤ '9'))) :=
    rfl
  simp only [hclasses, Bool.or_eq_true, Bool.and_eq_true, decide_eq_true_eq]
  rw [← or_assoc, or_comm (a := 'a' ≤ c ∧ c ≤ 'z')]

theorem isServerChar_iff : isServerChar c = true ↔ IsServerNameChar c := by
  simp only [isServerChar, isLabelChar, IsServerNameChar, isAlphanum_iff, Bool.or_eq_true,
    decide_eq_true_eq]
  grind

theorem isLabelChar_iff : isLabelChar c = true ↔ isServerChar c = true ∧ c ≠ '.' := by
  constructor
  · intro h
    refine ⟨by simp [isServerChar, h], ?_⟩
    rintro rfl
    exact absurd h (by decide)
  · rintro ⟨h, hdot⟩
    simpa [isServerChar, hdot] using h

/-- A name that can be cut is cut at its last dot. -/
theorem hasServerForm_iff_cut : HasServerForm s ↔ IsCut s := by
  constructor
  · rintro ⟨hchars, before, after, rfl, hdot, hbefore, hafter⟩
    have hserver (c : Char) (hc : c ∈ before ++ '.' :: after) : isServerChar c = true :=
      isServerChar_iff.2 (hchars c hc)
    refine ⟨before, after, rfl, hbefore, fun c hc => hserver c (by simp [hc]), hafter, ?_⟩
    intro c hc
    have hne : c ≠ '.' := fun heq => hdot (heq ▸ hc)
    exact isLabelChar_iff.2 ⟨hserver c (by simp [hc]), hne⟩
  · rintro ⟨before, after, rfl, hbefore, hfront, hafter, hlabel⟩
    refine ⟨fun c hc => isServerChar_iff.1 ?_, before, after, rfl, ?_, hbefore, hafter⟩
    · rcases List.mem_append.1 hc with hc | hc
      · exact hfront c hc
      · rcases List.mem_cons.1 hc with rfl | hc
        · decide
        · exact (isLabelChar_iff.1 (hlabel c hc)).1
    · exact fun hdot => (isLabelChar_iff.1 (hlabel '.' hdot)).2 rfl

/-- **Reading a name from its end finds where it can be cut.** -/
theorem isServerName_iff_cut {s : String} : isServerName s = true ↔ IsCut s.toList := by
  unfold isServerName
  dsimp only
  constructor
  · intro h
    split at h
    · next before hdrop =>
      simp only [Bool.and_eq_true, decide_eq_true_eq, Bool.not_eq_true', List.all_eq_true] at h
      obtain ⟨⟨hlast, hbefore⟩, hfront⟩ := h
      have hlabel :=
        List.all_eq_true.1 (List.all_takeWhile (p := isLabelChar) (l := s.toList.reverse))
      have hreversed := List.takeWhile_append_dropWhile (p := isLabelChar) (l := s.toList.reverse)
      rw [hdrop] at hreversed
      generalize s.toList.reverse.takeWhile isLabelChar = label at hlabel hreversed
      refine ⟨before.reverse, label.reverse, ?_, by simpa using hbefore, by simpa using hfront, ?_,
        fun c hc => hlabel c (List.mem_reverse.1 hc)⟩
      · rw [← List.reverse_reverse s.toList, ← hreversed]
        simp
      · intro hnone
        rw [List.reverse_eq_nil_iff.1 hnone] at hreversed
        exact hlast (by rw [← hreversed]; rfl)
    · cases h
  · rintro ⟨before, after, hs, hbefore, hfront, hafter, hlabel⟩
    have hreversed : s.toList.reverse = after.reverse ++ '.' :: before.reverse := by
      rw [hs]
      simp
    have hdrop : s.toList.reverse.dropWhile isLabelChar = '.' :: before.reverse := by
      rw [hreversed, List.dropWhile_append_of_pos fun c hc => hlabel c (List.mem_reverse.1 hc)]
      rfl
    have hlast : s.toList.reverse.head? ≠ some '.' := by
      obtain ⟨front, last, rfl⟩ := (List.eq_nil_or_concat after).resolve_left hafter
      have hne : last ≠ '.' := (isLabelChar_iff.1 (hlabel last (by simp))).2
      rw [hreversed]
      simpa using hne
    have hname : (decide (s.toList.reverse.head? ≠ some '.') && !before.reverse.isEmpty &&
        before.reverse.all isServerChar) = true := by
      rw [Bool.and_eq_true, Bool.and_eq_true]
      exact ⟨⟨decide_eq_true hlast, by simpa using hbefore⟩, by simpa using hfront⟩
    rw [hdrop]
    exact hname

/-! ## The regular expression of server names -/

open Regex

/-- The characters before the last dot, as the expression has them. -/
def serverRanges : List (Char × Char) :=
  [('a', 'z'), ('A', 'Z'), ('0', '9'), ('.', '.'), ('*', '*'), ('?', '?'), ('-', '-')]

/-- The characters after the last dot, as the expression has them. -/
def labelRanges : List (Char × Char) :=
  [('a', 'z'), ('A', 'Z'), ('0', '9'), ('*', '*'), ('?', '?'), ('-', '-')]

/-- What the expression has between the anchors. -/
def serverParts : List Part :=
  [⟨.oneOf serverRanges, false⟩, ⟨.oneOf serverRanges, true⟩, ⟨.literal '.', false⟩,
    ⟨.oneOf labelRanges, false⟩, ⟨.oneOf labelRanges, true⟩]

theorem ofText?_serverExpression :
    Regex.ofText? serverExpression =
      some ⟨⟨.start, false⟩ :: (serverParts ++ [⟨.finish, false⟩])⟩ := by
  decide

theorem mem_range_singleton {d : Char} : d ≤ c ∧ c ≤ d ↔ c = d := by
  constructor
  · exact fun ⟨hlow, hhigh⟩ => Char.le_antisymm hhigh hlow
  · rintro rfl
    exact ⟨Char.le_refl _, Char.le_refl _⟩

theorem mem_serverRanges :
    (∃ r ∈ serverRanges, r.1 ≤ c ∧ c ≤ r.2) ↔ isServerChar c = true := by
  simp [serverRanges, isServerChar_iff, IsServerNameChar, mem_range_singleton]

theorem mem_labelRanges :
    (∃ r ∈ labelRanges, r.1 ≤ c ∧ c ≤ r.2) ↔ isLabelChar c = true := by
  simp [labelRanges, isLabelChar, isAlphanum_iff, mem_range_singleton, or_assoc]

/-- **The expression is found where a name can be cut.** -/
theorem foundIn_iff_cut (s : String) :
    FoundIn ⟨⟨.start, false⟩ :: (serverParts ++ [⟨.finish, false⟩])⟩ s ↔ IsCut s.toList := by
  rw [foundIn_anchored, serverParts, takeInTurn_plus (takesOne_oneOf serverRanges)]
  simp only [takeInTurn_one (takesOne_literal '.')]
  simp only [takeInTurn_plus (takesOne_oneOf labelRanges)]
  simp only [mem_serverRanges, mem_labelRanges, TakeInTurn]
  constructor
  · rintro ⟨before, _, hs, hbefore, hfront, _, _, rfl, rfl, after, _, rfl, hafter, hlabel, rfl⟩
    rw [List.append_nil] at hs
    exact ⟨before, after, hs, hbefore, hfront, hafter, hlabel⟩
  · rintro ⟨before, after, hs, hbefore, hfront, hafter, hlabel⟩
    exact ⟨before, _, hs, hbefore, hfront, '.', after, rfl, rfl, after, [], by simp, hafter,
      hlabel, rfl⟩

end

/-! ## The kinds of entity -/

section
variable {s : String}

/-- The three questions that are asked of a text, one after another. -/
theorem classify_eq (s : String) :
    classify s =
      if s.toList.head? = some '@' then some .user
      else if s.toList.head? = some '!' then some .room
      else if isServerName s then some .server
      else none := by
  unfold classify
  split
  · next hs => simp [hs]
  · next hs => simp [hs]
  · next huser hroom =>
    have hhead (c : Char) (hc : ∀ rest, s.toList ≠ c :: rest) : s.toList.head? ≠ some c := by
      intro hfirst
      obtain ⟨rest, hrest⟩ := List.head?_eq_some_iff.1 hfirst
      exact hc rest hrest
    rw [if_neg (hhead '@' huser), if_neg (hhead '!' hroom)]

/-- The first character of a server name is one of those that server names are made of. -/
theorem head?_ne_of_hasServerForm {c : Char} (hc : ¬ IsServerNameChar c)
    (h : HasServerForm s.toList) : s.toList.head? ≠ some c :=
  fun hfirst => hc (h.1 c (List.mem_of_head? hfirst))

theorem isServerName_iff : isServerName s = true ↔ HasServerForm s.toList :=
  isServerName_iff_cut.trans hasServerForm_iff_cut.symm

theorem classify_of_user (h : s.toList.head? = some '@') : classify s = some .user := by
  rw [classify_eq, if_pos h]

theorem classify_of_room (h : s.toList.head? = some '!') : classify s = some .room := by
  have huser : s.toList.head? ≠ some '@' := by rw [h]; decide
  rw [classify_eq, if_neg huser, if_pos h]

theorem classify_of_server (h : HasServerForm s.toList) : classify s = some .server := by
  have huser := head?_ne_of_hasServerForm (c := '@') (by simp [IsServerNameChar]) h
  have hroom := head?_ne_of_hasServerForm (c := '!') (by simp [IsServerNameChar]) h
  rw [classify_eq, if_neg huser, if_neg hroom, if_pos (isServerName_iff.2 h)]

theorem classify_of_nothing (huser : s.toList.head? ≠ some '@') (hroom : s.toList.head? ≠ some '!')
    (hform : ¬ HasServerForm s.toList) : classify s = none := by
  rw [classify_eq, if_neg huser, if_neg hroom, if_neg (fun h => hform (isServerName_iff.1 h))]

/-- A text without a sigil and without a dot names nothing. -/
theorem classify_eq_none_of_not_mem (huser : '@' ∉ s.toList) (hroom : '!' ∉ s.toList)
    (hdot : '.' ∉ s.toList) : classify s = none := by
  refine classify_of_nothing (fun h => huser (List.mem_of_head? h))
    (fun h => hroom (List.mem_of_head? h)) ?_
  rintro ⟨-, before, after, hs, -⟩
  exact hdot (by simp [hs])

/-- What a text names, by what it starts with and by its form. -/
theorem classify_iff (s : String) :
    (classify s = some .user ↔ s.toList.head? = some '@') ∧
    (classify s = some .room ↔ s.toList.head? = some '!') ∧
    (classify s = some .server ↔ HasServerForm s.toList) ∧
    (classify s = none ↔ s.toList.head? ≠ some '@' ∧ s.toList.head? ≠ some '!' ∧
      ¬ HasServerForm s.toList) := by
  by_cases hform : HasServerForm s.toList
  · have huser := head?_ne_of_hasServerForm (c := '@') (by simp [IsServerNameChar]) hform
    have hroom := head?_ne_of_hasServerForm (c := '!') (by simp [IsServerNameChar]) hform
    simp [classify_of_server hform, hform, huser, hroom]
  · by_cases huser : s.toList.head? = some '@'
    · simp [classify_of_user huser, hform, huser]
    · by_cases hroom : s.toList.head? = some '!'
      · simp [classify_of_room hroom, hform, hroom]
      · simp [classify_of_nothing huser hroom hform, hform, huser, hroom]

/-- **The kinds of entity are told apart by spelling.**  A text names a user if it starts with `@`,
a room if it starts with `!`, and a server if it has the form of a server name; any other text names
nothing, so one does that ends in a line feed and has neither sigil.  The regular expression of
server names is found in the texts of that form. -/
theorem classify_by_spelling (s : String) :
    (classify s = some .user ↔ s.toList.head? = some '@') ∧
    (classify s = some .room ↔ s.toList.head? = some '!') ∧
    (classify s = some .server ↔ HasServerForm s.toList) ∧
    (classify s = none ↔ s.toList.head? ≠ some '@' ∧ s.toList.head? ≠ some '!' ∧
      ¬ HasServerForm s.toList) ∧
    (s.toList.getLast? = some '\n' → s.toList.head? ≠ some '@' → s.toList.head? ≠ some '!' →
      classify s = none) ∧
    ∃ r, Regex.ofText? serverExpression = some r ∧ (r.FoundIn s ↔ HasServerForm s.toList) := by
  obtain ⟨huser, hroom, hserver, hnothing⟩ := classify_iff s
  refine ⟨huser, hroom, hserver, hnothing, fun hlast hnouser hnoroom => ?_, _,
    ofText?_serverExpression, (foundIn_iff_cut s).trans hasServerForm_iff_cut.symm⟩
  refine hnothing.2 ⟨hnouser, hnoroom, fun hform => ?_⟩
  have hfeed : IsServerNameChar '\n' := hform.1 '\n' (List.mem_of_getLast? hlast)
  simp [IsServerNameChar] at hfeed

/-- Two dots may stand side by side, but no line feed at the end. -/
theorem classify_by_spelling_line_feed :
    classify "a..b" = some .server ∧
      "a..b\n".toList.getLast? = some '\n' ∧ "a..b\n".toList.head? ≠ some '@' ∧
      "a..b\n".toList.head? ≠ some '!' ∧ classify "a..b\n" = none := by
  have hform : HasServerForm "a..b".toList :=
    ⟨by simp [IsServerNameChar], ['a', '.'], ['b'], by simp⟩
  have hserver := (classify_by_spelling "a..b").2.2.1.2 hform
  have hnothing := (classify_by_spelling "a..b\n").2.2.2.2.1
  exact ⟨hserver, by decide, by decide, by decide, hnothing (by decide) (by decide) (by decide)⟩

end

/-! ## Digests -/

section
variable {s : String} {digest : Digest}

/-- **A text is read as a digest if it is one of the two spellings of it.** -/
theorem digest?_eq_some_iff :
    digest? s = some digest ↔
      s = Base64.encode digest.toList ∨ s = String.ofList (Base64.digits digest.toList) := by
  rw [← Base64.decode_iff]
  unfold digest?
  cases (Base64.decode? s).or (Base64.decodeUnpadded? s) with
  | none => simp
  | some bytes =>
    simp only [Option.some.injEq]
    constructor
    · intro h
      split at h
      · cases h
        rfl
      · cases h
    · rintro rfl
      have hsize : digest.toList.toArray.size = 32 := by simp
      rw [dif_pos hsize]
      exact congrArg some (Vector.toList_inj.1 rfl)

theorem digest?_pseudonym (entity : String) :
    digest? (pseudonym entity) = some (sha256Text entity) :=
  digest?_eq_some_iff.2 (.inl rfl)

/-- The padded spelling of a digest is its digits and one sign of padding. -/
theorem encode_digest (digest : Digest) :
    Base64.encode digest.toList = String.ofList (Base64.digits digest.toList ++ ['=']) := by
  have hlength : (Base64.digits digest.toList).length = 43 := by
    rw [Base64.length_digits, Vector.length_toList]
  rw [Base64.encode, Base64.encodeChars, hlength]
  rfl

/-- Neither a sigil nor a dot is a digit. -/
theorem digit_ne_mark :
    ∀ n < 64, Base64.digit n ≠ '@' ∧ Base64.digit n ≠ '!' ∧ Base64.digit n ≠ '.' := by
  decide

/-- **No text that is read as a digest names an entity.** -/
theorem classify_eq_none_of_digest? (h : digest? s = some digest) : classify s = none := by
  have hmark (c : Char) (hc : c ∈ s.toList) : c ≠ '@' ∧ c ≠ '!' ∧ c ≠ '.' := by
    have hchar : (∃ n < 64, c = Base64.digit n) ∨ c = '=' := by
      rcases digest?_eq_some_iff.1 h with rfl | rfl
      · exact Base64.digit_or_padding_of_mem (by simpa [Base64.encode] using hc)
      · exact .inl (Base64.exists_digit_of_mem (by simpa using hc))
    rcases hchar with ⟨n, hn, rfl⟩ | rfl
    · exact digit_ne_mark n hn
    · decide
  exact classify_eq_none_of_not_mem (fun hc => (hmark '@' hc).1 rfl)
    (fun hc => (hmark '!' hc).2.1 rfl) (fun hc => (hmark '.' hc).2.2 rfl)

end

end Moderation.Entity
