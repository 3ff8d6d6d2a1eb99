import Mathlib.Data.List.Induction
import Moderation.Proofs.Url.Percent
import Moderation.Url.Basic
/-!
# Segments that are added to a path

A text is added to a path as a segment that spells it, unless it is one that paths have another use
for: a dot or two, or a text with a character that is dropped anywhere in a URL
(`Url.Segments.map_foldl_append_iff`).

The path of a special URL is one of segments that have no slash in them (`Url.segments_of_ofText`),
so its text, cut at the slashes, gives them back (`Url.pathParts_of_segments`).
-/

namespace Moderation

/-- What stands before every part of a text. -/
theorem Text.parts_flatMap {c : Char} {segments : List (List Char)}
    (h : ∀ segment ∈ segments, c ∉ segment) :
    Text.parts c (segments.flatMap (c :: ·)) = [] :: segments := by
  induction segments with
  | nil => rfl
  | cons segment rest ih =>
    have hrest := ih fun s hs => h s (List.mem_cons_of_mem _ hs)
    have hsegment : ∀ cs : List Char, c ∉ cs →
        Text.parts c (cs ++ rest.flatMap (c :: ·)) = cs :: rest := by
      intro cs hcs
      induction cs with
      | nil => exact hrest
      | cons x cs ihcs =>
        rw [List.mem_cons, not_or] at hcs
        rw [List.cons_append, Text.parts, if_neg (Ne.symm hcs.1), ihcs hcs.2]
    rw [List.flatMap_cons, List.cons_append, Text.parts, if_pos rfl,
      hsegment segment (h segment List.mem_cons_self)]

/-- No part of a text has the character where it is cut. -/
theorem Text.notMem_of_mem_parts {c : Char} {cs part : List Char} (h : part ∈ Text.parts c cs) :
    c ∉ part := by
  induction cs generalizing part with
  | nil => simp_all [Text.parts]
  | cons x cs ih =>
    rw [Text.parts] at h
    split at h
    · rcases List.mem_cons.1 h with rfl | h
      · simp
      · exact ih h
    · next hx =>
      split at h
      · next hparts => exact absurd hparts (Text.parts_ne_nil c cs)
      · next first others hparts =>
        rw [hparts] at ih
        rcases List.mem_cons.1 h with rfl | h
        · rw [List.mem_cons, not_or]
          exact ⟨Ne.symm hx, ih List.mem_cons_self⟩
        · exact ih (List.mem_cons_of_mem _ h)

namespace Url

/-! ## Dots -/

theorem decodeBytes_of_plainDots {cs : List Char} {n : Nat}
    (h : plainDots cs = List.replicate n '.') :
    Percent.decodeBytes cs = (List.replicate n '.').flatMap String.utf8EncodeChar := by
  induction cs using plainDots.induct generalizing n with
  | case1 rest ih | case2 rest ih =>
    -- The dot is written as a byte.
    cases n with
    | zero => simp [plainDots] at h
    | succ n =>
      rw [plainDots, List.replicate_succ, List.cons.injEq] at h
      rw [List.replicate_succ, List.flatMap_cons, ← ih h.2]
      rfl
  | case3 c rest hne hne' ih =>
    rw [plainDots] at h
    · cases n with
      | zero => simp at h
      | succ n =>
        rw [List.replicate_succ, List.cons.injEq] at h
        obtain ⟨rfl, h⟩ := h
        rw [Percent.decodeBytes_cons (by decide), List.replicate_succ, List.flatMap_cons, ih h]
    all_goals assumption
  | case4 =>
    cases n with
    | zero => rfl
    | succ n => simp [plainDots, List.replicate_succ] at h

/-- A segment that stands for a place in the path spells a dot or two. -/
theorem decode?_of_isSingleDot {cs : List Char} (h : isSingleDot cs = true) :
    Percent.decode? cs = some "." :=
  Percent.decode?_of_bytes (decodeBytes_of_plainDots (n := 1) (of_decide_eq_true h))

theorem decode?_of_isDoubleDot {cs : List Char} (h : isDoubleDot cs = true) :
    Percent.decode? cs = some ".." :=
  Percent.decode?_of_bytes (decodeBytes_of_plainDots (n := 2) (of_decide_eq_true h))

/-! ## Segments that are added -/

/-- Whether a text can be a segment of a path as it is. -/
def isPlain (s : String) : Bool :=
  s ≠ "." && s ≠ ".." && s.toList.all fun c => !isDropped c

theorem isPlain_iff {s : String} :
    isPlain s = true ↔ (s ≠ "." ∧ s ≠ "..") ∧ ∀ c ∈ s.toList, isDropped c = false := by
  simp [isPlain]

namespace Segments

variable {special : Bool} {path : Segments} {s : String}

/-- A path without the segment of a path that is a slash alone. -/
def bare (path : Segments) : Segments := if path = [[]] then [] else path

theorem bare_of_two_le (h : 2 ≤ path.length) : path.bare = path := by
  rw [bare, if_neg]
  rintro rfl
  simp at h

theorem bare_concat {segment : List Char} (h : segment ≠ []) :
    bare (path ++ [segment]) = path ++ [segment] := by
  rw [bare, if_neg]
  intro heq
  have happend : path ++ [segment] = [] ++ [[]] := heq
  have hlast : [segment] = [[]] := (List.append_inj' happend rfl).2
  exact h (List.cons.inj hlast).1

/-- What a text adds when it is neither a dot nor two. -/
theorem append_eq (h : s ≠ "." ∧ s ≠ "..") :
    append special path s = finish path.bare
      (Percent.encodeChars (Percent.inSegment special)
        (s.toList.filter fun c => !isDropped c)) := by
  rw [append, if_neg (by simpa using h)]
  rfl

theorem decode?_encoded (cs : List Char) :
    Percent.decode? (Percent.encodeChars (Percent.inSegment special) cs) =
      some (String.ofList cs) := by
  have h : Percent.decode? (Percent.encodeChars (Percent.inSegment special)
      (String.ofList cs).toList) = some (String.ofList cs) := Percent.decode?_encodeChars rfl _
  rwa [String.toList_ofList] at h

/-- A text that is plain is added as a segment that spells it. -/
theorem append_of_plain (h : isPlain s = true) :
    append special path s =
      path.bare ++ [Percent.encodeChars (Percent.inSegment special) s.toList] := by
  obtain ⟨⟨hdot, hdots⟩, hkept⟩ := isPlain_iff.1 h
  have hfilter : (s.toList.filter fun c => !isDropped c) = s.toList :=
    List.filter_eq_self.2 fun c hc => by rw [hkept c hc]; rfl
  have hdecode : Percent.decode? (Percent.encodeChars (Percent.inSegment special) s.toList) =
      some s := by rw [decode?_encoded, String.ofList_toList]
  rw [append_eq ⟨hdot, hdots⟩, hfilter, finish, if_neg, if_neg]
  · intro hsingle
    rw [decode?_of_isSingleDot hsingle, Option.some.injEq] at hdecode
    exact hdot hdecode.symm
  · intro hdouble
    rw [decode?_of_isDoubleDot hdouble, Option.some.injEq] at hdecode
    exact hdots hdecode.symm

/-- The last segment of what a text is added to spells nothing that the text has and that is
dropped. -/
theorem exists_append_last (h : s ≠ "." ∧ s ≠ "..") :
    ∃ front last, append special path s = front ++ [last] ∧
      ∃ cs, Percent.decode? last = some (String.ofList cs) ∧ ∀ c ∈ cs, isDropped c = false := by
  have hnil : Percent.decode? [] = some (String.ofList []) := Percent.decode?_of_bytes rfl
  rw [append_eq h, finish]
  split
  · exact ⟨_, _, rfl, [], hnil, by simp⟩
  split
  · exact ⟨_, _, rfl, [], hnil, by simp⟩
  · exact ⟨_, _, rfl, _, decode?_encoded _, by simp⟩

theorem length_above (path : Segments) :
    path.length - 1 ≤ (above path).length ∧ (above path).length ≤ path.length := by
  unfold above
  split <;> simp

theorem length_finish (path : Segments) (segment : List Char) :
    path.length ≤ (finish path segment).length ∧
      (finish path segment).length ≤ path.length + 1 := by
  have hlength := length_above path
  unfold finish
  split
  · rw [List.length_append, List.length_singleton]
    omega
  split <;> simp

theorem length_append (special : Bool) (h : 2 ≤ path.length) (s : String) :
    path.length ≤ (append special path s).length ∧
      (append special path s).length ≤ path.length + 1 := by
  by_cases hdots : s ≠ "." ∧ s ≠ ".."
  · rw [append_eq hdots, bare_of_two_le h]
    exact length_finish path _
  · rw [append, if_pos (by simpa [or_iff_not_imp_left] using hdots)]
    omega

theorem length_foldl_append (special : Bool) (h : 2 ≤ path.length) (ss : List String) :
    path.length ≤ (ss.foldl (append special) path).length ∧
      (ss.foldl (append special) path).length ≤ path.length + ss.length := by
  induction ss generalizing path with
  | nil => simp
  | cons s ss ih =>
    have hfirst := length_append special h s
    have hrest := @ih (append special path s) (by omega)
    rw [List.foldl_cons, List.length_cons]
    omega

/-- **Texts that are added to a path are its segments from there on exactly if all of them are
plain.** -/
theorem map_foldl_append_iff (special : Bool) (h : 2 ≤ path.length) (ss : List String) :
    (ss.foldl (append special) path).map Percent.decode? =
        path.map Percent.decode? ++ ss.map some ↔
      ∀ s ∈ ss, isPlain s = true := by
  induction ss using List.reverseRecOn with
  | nil => simp
  | append_singleton ss s ih =>
    have hlength := length_foldl_append special h ss
    have htwo : 2 ≤ (ss.foldl (append special) path).length := by omega
    rw [List.foldl_append, List.foldl_cons, List.foldl_nil, List.map_append, ← List.append_assoc]
    simp only [List.mem_append, List.mem_singleton, or_imp, forall_and, forall_eq, ← ih]
    by_cases hs : isPlain s = true
    · rw [append_of_plain hs, bare_of_two_le htwo, List.map_append, List.map_singleton,
        decode?_encoded, String.ofList_toList, List.map_singleton, List.append_left_inj]
      simp [hs]
    · refine ⟨fun heq => absurd heq ?_, fun h => absurd h.2 hs⟩
      intro heq
      by_cases hdots : s ≠ "." ∧ s ≠ ".."
      · -- Something in the text is dropped, so the last segment does not spell it.
        obtain ⟨front, last, happend, cs, hlast, hkept⟩ :
            ∃ front last, append special (ss.foldl (append special) path) s = front ++ [last] ∧
              ∃ cs, Percent.decode? last = some (String.ofList cs) ∧
                ∀ c ∈ cs, isDropped c = false := exists_append_last hdots
        rw [happend, List.map_append] at heq
        have hspells : [last].map Percent.decode? = [s].map some := (List.append_inj' heq rfl).2
        rw [List.map_singleton, List.map_singleton, hlast, List.cons.injEq, Option.some.injEq]
          at hspells
        refine hs (isPlain_iff.2 ⟨hdots, ?_⟩)
        rwa [← hspells.1, String.toList_ofList]
      · -- A dot or two add nothing, so a segment is missing.
        rw [append, if_pos (by simpa [or_iff_not_imp_left] using hdots)] at heq
        have hcount := congrArg List.length heq
        simp only [List.length_append, List.length_map, List.length_singleton] at hcount
        omega

/-! ## Segments without slashes -/

/-- No segment of a path has a slash in it. -/
def SlashFree (path : Segments) : Prop := ∀ segment ∈ path, '/' ∉ segment

namespace SlashFree

variable {segment : List Char}

theorem above (h : path.SlashFree) : path.above.SlashFree := by
  unfold Segments.above
  split
  · exact h
  · exact fun s hs => h s (List.dropLast_subset path hs)

theorem concat (h : path.SlashFree) (hsegment : '/' ∉ segment) :
    SlashFree (path ++ [segment]) := by
  intro s hs
  rcases List.mem_append.1 hs with hs | hs
  · exact h s hs
  · rwa [List.mem_singleton.1 hs]

theorem step (h : path.SlashFree) (hsegment : '/' ∉ segment) : (path.step segment).SlashFree := by
  unfold Segments.step
  split
  · exact h.above
  split
  · exact h
  · exact h.concat hsegment

theorem finish (h : path.SlashFree) (hsegment : '/' ∉ segment) :
    (path.finish segment).SlashFree := by
  unfold Segments.finish
  split
  · exact h.above.concat List.not_mem_nil
  split
  · exact h.concat List.not_mem_nil
  · exact h.concat hsegment

theorem append (h : path.SlashFree) (special : Bool) (s : String) :
    (path.append special s).SlashFree := by
  unfold Segments.append
  split
  · exact h
  · have hbare : SlashFree (if path = [[]] then [] else path) := by
      split
      · exact fun _ hs => absurd hs List.not_mem_nil
      · exact h
    exact hbare.finish (Percent.slash_notMem_encodeChars (.inl rfl))

theorem foldl_append (h : path.SlashFree) (special : Bool) (ss : List String) :
    SlashFree (ss.foldl (Segments.append special) path) := by
  induction ss generalizing path with
  | nil => exact h
  | cons s ss ih => exact ih (h.append special s)

theorem popEmpty (h : path.SlashFree) : path.popEmpty.SlashFree := by
  unfold Segments.popEmpty
  split
  · exact fun s hs => h s (List.dropLast_subset path hs)
  · exact h

end SlashFree

theorem slashFree_ofParts {parts : List (List Char)} (h : ∀ part ∈ parts, '/' ∉ part) :
    (ofParts parts).SlashFree := by
  have hencoded : ∀ segment ∈ parts.map (Percent.encodeChars Percent.inPath), '/' ∉ segment := by
    intro segment hsegment
    obtain ⟨part, hpart, rfl⟩ := List.mem_map.1 hsegment
    exact Percent.slash_notMem_encodeChars (.inr (h part hpart))
  have hfront : ∀ (segments : List (List Char)) (path : Segments), path.SlashFree →
      (∀ segment ∈ segments, '/' ∉ segment) → SlashFree (segments.foldl Segments.step path) := by
    intro segments
    induction segments with
    | nil => exact fun path hpath _ => hpath
    | cons segment rest ih =>
      intro path hpath hsegments
      exact ih _ (hpath.step (hsegments segment List.mem_cons_self))
        fun s hs => hsegments s (List.mem_cons_of_mem _ hs)
  refine SlashFree.finish (hfront _ [] (fun _ hs => absurd hs List.not_mem_nil) ?_) ?_
  · exact fun segment hs => hencoded segment (List.dropLast_subset _ hs)
  · rw [List.getLastD_eq_getLast?]
    cases hlast : (parts.map (Percent.encodeChars Percent.inPath)).getLast? with
    | none => exact List.not_mem_nil
    | some segment => exact hencoded segment (List.mem_of_getLast? hlast)

theorem finish_ne_nil (path : Segments) (segment : List Char) : path.finish segment ≠ [] := by
  unfold finish
  split
  · simp
  split <;> simp

end Segments

/-! ## The path of a URL -/

/-- The text of the path of a URL. -/
def pathChars (u : Url) : List Char :=
  match u.place with
  | .path segments => segments.chars
  | .text text => text

/-- The parts of the path of a URL between its slashes, without the empty one before the first. -/
def pathParts (u : Url) : List (List Char) := (Text.parts '/' u.pathChars).drop 1

theorem pathParts_of_segments {u : Url} {path : Segments} (hu : u.place = .path path)
    (hpath : path.SlashFree) : u.pathParts = path := by
  have hchars : u.pathChars = path.flatMap ('/' :: ·) := by
    rw [pathChars, hu]
    rfl
  rw [pathParts, hchars, Text.parts_flatMap hpath, List.drop_one, List.tail_cons]

section Reading

variable {u v : Url} {s : String} {cs : List Char}

/-- A special URL that is read to its end has a path of segments. -/
theorem finish_segments (hu : isSpecial u.scheme = true) :
    ∃ path, (u.finish cs).place = .path path ∧ path ≠ [] ∧ path.SlashFree := by
  refine ⟨_, rfl, ?_, ?_⟩ <;> simp only [hu, Bool.not_true, Bool.and_false]
  · exact Segments.finish_ne_nil _ _
  · exact Segments.slashFree_ofParts fun part hpart => Text.notMem_of_mem_parts hpart

/-- Whatever stands in the authority, the URL is read to its end after it. -/
theorem finishAuthority_eq_ok (h : u.finishAuthority cs = .ok v) :
    ∃ w rest, v = Url.finish w rest := by
  unfold finishAuthority at h
  simp only [bind, Except.bind, pure, Except.pure, throw, throwThe, MonadExceptOf.throw] at h
  -- Each way through it ends there or refuses.
  repeat' split at h
  all_goals cases h
  all_goals exact ⟨_, _, rfl⟩

theorem finishFile_eq_ok (h : u.finishFile cs = .ok v) :
    ∃ w rest, v = Url.finish w rest := by
  unfold finishFile at h
  simp only [bind, Except.bind, pure, Except.pure] at h
  repeat' split at h
  all_goals cases h
  all_goals exact ⟨_, _, rfl⟩

/-- **The path of a special URL is one of segments, and none of them has a slash in it.** -/
theorem segments_of_ofText (h : ofText s = .ok u) (hu : isSpecial u.scheme = true) :
    ∃ path, u.place = .path path ∧ path ≠ [] ∧ path.SlashFree := by
  -- A URL that is read to its end keeps its scheme, so it was special before.
  have hend : (∃ w rest, u = Url.finish w rest) →
      ∃ path, u.place = .path path ∧ path ≠ [] ∧ path.SlashFree := by
    rintro ⟨w, rest, rfl⟩
    exact finish_segments hu
  unfold ofText at h
  split at h
  · cases h
  next scheme rest _ =>
  dsimp only at h
  split at h
  · exact hend (finishFile_eq_ok h)
  split at h
  · exact hend (finishAuthority_eq_ok h)
  next hspecial =>
  split at h
  · exact hend (finishAuthority_eq_ok h)
  · obtain rfl := Except.ok.inj h
    exact hend ⟨_, _, rfl⟩
  · obtain rfl := Except.ok.inj h
    exact absurd hu hspecial

end Reading
end Url
end Moderation
