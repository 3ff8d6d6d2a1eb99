import Mathlib.Data.List.DropRight
import Moderation.Text.Blank
/-!
# Lines of texts that are put together

A text after one whose last line is ended adds its own lines and changes none (`lines_append`).  Any
text is cut in two by its last line feed: what stands before it is ended, what stands after it is a
line that is still open (`openLine`), which a text put at the end goes on with
(`lines_append_unlines`).
-/

namespace Moderation.Text

/-- A text that is empty or ends with a line feed. -/
def Ended (s : String) : Prop := ∀ c ∈ s.toList.getLast?, c = '\n'

/-- A text that can be a line: no line feed in it and no carriage return at its end. -/
structure IsLine (s : String) : Prop where
  noFeed : '\n' ∉ s.toList
  noReturn : s.toList.getLast? ≠ some '\r'

/-- Lines as a text, each ended by a line feed. -/
def unlines (ls : List String) : String := String.ofList (ls.flatMap fun l => l.toList ++ ['\n'])

/-- What stands after the last line feed of a text. -/
def openLine (s : String) : String := String.ofList (s.toList.rtakeWhile (· ≠ '\n'))

/-- A text up to its last line feed. -/
def endedPart (s : String) : String := String.ofList (s.toList.rdropWhile (· ≠ '\n'))

/-! ## The scan for lines -/

theorem foldr_scanLine_ne_nil {cs : List Char} (h : cs ≠ []) : cs.foldr scanLine [] ≠ [] := by
  cases cs with
  | nil => exact absurd rfl h
  | cons c cs =>
    rw [List.foldr_cons]
    unfold scanLine
    split
    · exact List.cons_ne_nil _ _
    · split <;> exact List.cons_ne_nil _ _

/-- What was scanned already is not touched by a text that ends with a line feed. -/
theorem foldr_scanLine_append {cs : List Char} (h : ∀ c ∈ cs.getLast?, c = '\n')
    (after : List (List Char × Bool)) :
    cs.foldr scanLine after = cs.foldr scanLine [] ++ after := by
  induction cs with
  | nil => rfl
  | cons c cs ih =>
    rcases eq_or_ne cs [] with rfl | hne
    · obtain rfl : c = '\n' := h c (by simp)
      rfl
    · rw [List.getLast?_cons_of_ne_nil hne] at h
      rw [List.foldr_cons, List.foldr_cons, ih h]
      cases hs : cs.foldr scanLine [] with
      | nil => exact absurd hs (foldr_scanLine_ne_nil hne)
      | cons first rest =>
        simp only [scanLine, List.cons_append]
        split <;> rfl

/-- Characters other than the line feed go on with the line they stand in front of. -/
theorem foldr_scanLine_line {cs : List Char} (h : '\n' ∉ cs) (line : List Char) (ended : Bool) :
    cs.foldr scanLine [(line, ended)] = [(cs ++ line, ended)] := by
  induction cs with
  | nil => rfl
  | cons c cs ih =>
    rw [List.mem_cons, not_or] at h
    rw [List.foldr_cons, ih h.2, scanLine, if_neg (Ne.symm h.1)]
    rfl

theorem foldr_scanLine_open {cs : List Char} (h : '\n' ∉ cs) (hne : cs ≠ []) :
    cs.foldr scanLine [] = [(cs, false)] := by
  obtain ⟨front, c, rfl⟩ := (List.eq_nil_or_concat' cs).resolve_left hne
  simp only [List.mem_append, List.mem_singleton, not_or] at h
  rw [List.foldr_append, List.foldr_cons, List.foldr_nil, scanLine, if_neg (Ne.symm h.2)]
  exact foldr_scanLine_line h.1 [c] false

/-! ## Lines -/

/-- **A text after one that is ended adds its own lines.** -/
theorem lines_append {s : String} (h : Ended s) (t : String) :
    lines (s ++ t) = lines s ++ lines t := by
  simp only [lines, linesOf, String.toList_append, List.foldr_append]
  rw [foldr_scanLine_append h]
  simp only [List.map_append]

theorem lines_of_isLine {l : String} (h : IsLine l) : lines (unlines [l]) = [l] := by
  have hscan : (l.toList ++ ['\n']).foldr scanLine [] = [(l.toList, true)] := by
    rw [List.foldr_append]
    simpa [scanLine] using foldr_scanLine_line h.noFeed [] true
  simp only [lines, linesOf, unlines, List.flatMap_cons, List.flatMap_nil, List.append_nil,
    String.toList_ofList, hscan, List.map_cons, List.map_nil, dropReturn, if_neg h.noReturn,
    String.ofList_toList]

theorem lines_of_open {l : String} (h : '\n' ∉ l.toList) (hne : l ≠ "") : lines l = [l] := by
  have hchars : l.toList ≠ [] := fun he => hne (String.toList_eq_nil_iff.1 he)
  simp only [lines, linesOf, foldr_scanLine_open h hchars, List.map_cons, List.map_nil, dropReturn,
    String.ofList_toList]

theorem unlines_append (ls ms : List String) : unlines (ls ++ ms) = unlines ls ++ unlines ms := by
  simp [unlines]

theorem unlines_cons (l : String) (ls : List String) :
    unlines (l :: ls) = unlines [l] ++ unlines ls :=
  unlines_append [l] ls

theorem ended_unlines (ls : List String) : Ended (unlines ls) := by
  intro c hc
  rcases List.eq_nil_or_concat' ls with rfl | ⟨front, l, rfl⟩
  · simp [unlines] at hc
  · have hlast : (unlines (front ++ [l])).toList.getLast? = some '\n' := by simp [unlines]
    rw [hlast] at hc
    exact (Option.mem_some_iff.1 hc).symm

/-- **Lines that are written are read back.** -/
theorem lines_unlines {ls : List String} (h : ∀ l ∈ ls, IsLine l) : lines (unlines ls) = ls := by
  induction ls with
  | nil => rfl
  | cons l ls ih =>
    rw [unlines_cons, lines_append (ended_unlines [l]), lines_of_isLine (h l List.mem_cons_self),
      ih fun m hm => h m (List.mem_cons_of_mem l hm), List.singleton_append]

/-! ## The line that is open -/

theorem endedPart_append_openLine (s : String) : endedPart s ++ openLine s = s := by
  apply String.toList_inj.1
  simp [endedPart, openLine, List.rdropWhile_append_rtakeWhile]

theorem ended_endedPart (s : String) : Ended (endedPart s) := by
  intro c hc
  rw [endedPart, String.toList_ofList] at hc
  have hne : s.toList.rdropWhile (· ≠ '\n') ≠ [] := by
    intro he
    rw [he] at hc
    cases hc
  have hlast := List.rdropWhile_last_not (· ≠ '\n') s.toList hne
  rw [List.getLast?_eq_some_getLast hne, Option.mem_some_iff] at hc
  rw [hc] at hlast
  simpa using hlast

theorem feed_notMem_openLine (s : String) : '\n' ∉ (openLine s).toList := by
  intro hmem
  rw [openLine, String.toList_ofList] at hmem
  simpa using List.mem_rtakeWhile_imp hmem

theorem openLine_of_ended {s : String} (h : Ended s) : openLine s = "" := by
  have hnone : s.toList.rtakeWhile (· ≠ '\n') = [] := by
    refine List.rtakeWhile_eq_nil_iff.2 fun hne => ?_
    simpa using h _ (List.getLast?_eq_some_getLast hne)
  rw [openLine, hnone, String.ofList_nil]

theorem openLine_of_open {s : String} (h : '\n' ∉ s.toList) : openLine s = s := by
  have hall : s.toList.rtakeWhile (· ≠ '\n') = s.toList := by
    refine List.rtakeWhile_eq_self_iff.2 fun c hc => ?_
    simpa using ne_of_mem_of_not_mem hc h
  rw [openLine, hall, String.ofList_toList]

theorem endedPart_of_open {s : String} (h : '\n' ∉ s.toList) : endedPart s = "" := by
  have hwhole := congrArg String.toList (endedPart_append_openLine s)
  rw [openLine_of_open h] at hwhole
  simpa using hwhole

/-- The lines of a text are those before its last line feed and, unless it is empty, the one that is
open. -/
theorem lines_eq (s : String) :
    lines s = lines (endedPart s) ++ if openLine s = "" then [] else [openLine s] := by
  conv_lhs => rw [← endedPart_append_openLine s, lines_append (ended_endedPart s)]
  split
  · next h => rw [h]; rfl
  · next h => rw [lines_of_open (feed_notMem_openLine s) h]

/-- **Lines that are written at the end of a text go on with the line that is open there.** -/
theorem lines_append_unlines (s : String) {l : String} {ls : List String} (hl : IsLine l)
    (hne : l ≠ "") (hls : ∀ m ∈ ls, IsLine m) :
    lines (s ++ unlines (l :: ls)) = lines (endedPart s) ++ (openLine s ++ l) :: ls := by
  have hfirst : IsLine (openLine s ++ l) := by
    refine ⟨?_, ?_⟩
    · rw [String.toList_append, List.mem_append, not_or]
      exact ⟨feed_notMem_openLine s, hl.noFeed⟩
    · have hchars : l.toList ≠ [] := fun he => hne (String.toList_eq_nil_iff.1 he)
      rw [String.toList_append, List.getLast?_append_of_ne_nil _ hchars]
      exact hl.noReturn
  have hwhole : s ++ unlines (l :: ls) = endedPart s ++ unlines ((openLine s ++ l) :: ls) := by
    conv_lhs => rw [← endedPart_append_openLine s]
    simp [unlines, String.append_assoc]
  rw [hwhole, lines_append (ended_endedPart s), lines_unlines]
  intro m hm
  rcases List.mem_cons.1 hm with rfl | hm
  · exact hfirst
  · exact hls m hm

end Moderation.Text
