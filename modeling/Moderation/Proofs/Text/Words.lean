import Moderation.Text.Blank
/-!
# Words that are put together

Words that are joined by single spaces are read back as they were (`words_unwords`), and what is
read from any text are words (`isWord_of_mem_words`).
-/

namespace Moderation.Text

/-- A text that can be a word: it is not empty and has no blank character in it. -/
structure IsWord (s : String) : Prop where
  ne_empty : s ≠ ""
  noBlank : ∀ c ∈ s.toList, isBlank c = false

theorem isWord_iff {s : String} :
    IsWord s ↔ s ≠ "" ∧ s.toList.all (fun c => !isBlank c) = true := by
  constructor
  · intro h
    exact ⟨h.ne_empty, by simpa using h.noBlank⟩
  · rintro ⟨hne, hall⟩
    exact ⟨hne, by simpa using hall⟩

instance (s : String) : Decidable (IsWord s) := decidable_of_iff _ isWord_iff.symm

/-- Characters that are not blank go in front of the run that is being read. -/
theorem foldr_scanWord {cs : List Char} (h : ∀ c ∈ cs, isBlank c = false)
    (state : List Char × List (List Char)) :
    cs.foldr scanWord state = (cs ++ state.1, state.2) := by
  induction cs with
  | nil => rfl
  | cons c cs ih =>
    have hc : isBlank c = false := h c List.mem_cons_self
    rw [List.foldr_cons, ih fun d hd => h d (List.mem_cons_of_mem c hd), scanWord, hc,
      if_neg Bool.false_ne_true, List.cons_append]

theorem wordsOf_word {cs : List Char} (hne : cs ≠ []) (h : ∀ c ∈ cs, isBlank c = false) :
    wordsOf cs = [cs] := by
  rw [wordsOf, foldr_scanWord h, List.append_nil, flushWord_of_ne hne]

/-- A blank character ends the word before it. -/
theorem wordsOf_word_append {cs : List Char} (hne : cs ≠ []) (h : ∀ c ∈ cs, isBlank c = false)
    {blank : Char} (hblank : isBlank blank = true) (rest : List Char) :
    wordsOf (cs ++ blank :: rest) = cs :: wordsOf rest := by
  have hscan : (blank :: rest).foldr scanWord ([], []) = ([], wordsOf rest) := by
    rw [List.foldr_cons, scanWord, if_pos hblank, wordsOf]
  rw [wordsOf, List.foldr_append, hscan, foldr_scanWord h, List.append_nil, flushWord_of_ne hne]

theorem IsWord.toList_ne_nil {s : String} (h : IsWord s) : s.toList ≠ [] := by
  simpa using h.ne_empty

theorem eq_or_mem_of_mem_flushWord {run first : List Char} {rest : List (List Char)}
    (h : run ∈ flushWord first rest) : (run = first ∧ first ≠ []) ∨ run ∈ rest := by
  by_cases hempty : first = []
  · rw [flushWord, hempty] at h
    exact .inr h
  · rw [flushWord_of_ne hempty] at h
    exact (List.mem_cons.1 h).imp_left fun heq => ⟨heq, hempty⟩

/-- The scan puts together runs without blank characters, and none but the first can be empty. -/
theorem foldr_scanWord_noBlank (cs : List Char) :
    let state := cs.foldr scanWord ([], [])
    (∀ c ∈ state.1, isBlank c = false) ∧
      ∀ run ∈ state.2, run ≠ [] ∧ ∀ c ∈ run, isBlank c = false := by
  induction cs with
  | nil => simp
  | cons c cs ih =>
    obtain ⟨hfirst, hrest⟩ := ih
    rw [List.foldr_cons, scanWord]
    split
    · refine ⟨by simp, fun run hrun => ?_⟩
      rcases eq_or_mem_of_mem_flushWord hrun with ⟨rfl, hne⟩ | hrun
      · exact ⟨hne, hfirst⟩
      · exact hrest run hrun
    · next hblank =>
      refine ⟨fun d hd => ?_, hrest⟩
      rcases List.mem_cons.1 hd with rfl | hd
      · simpa using hblank
      · exact hfirst d hd

/-- **What is read from a text are words.** -/
theorem isWord_of_mem_words {s word : String} (h : word ∈ words s) : IsWord word := by
  obtain ⟨run, hrun, rfl⟩ := List.mem_map.1 h
  obtain ⟨hfirst, hrest⟩ := foldr_scanWord_noBlank s.toList
  have hgood : run ≠ [] ∧ ∀ c ∈ run, isBlank c = false := by
    rcases eq_or_mem_of_mem_flushWord hrun with ⟨rfl, hne⟩ | hrun
    · exact ⟨hne, hfirst⟩
    · exact hrest run hrun
  exact ⟨by simpa using hgood.1, by simpa using hgood.2⟩

theorem unwords_cons (word : String) {ws : List String} (h : ws ≠ []) :
    unwords (word :: ws) = word ++ " " ++ unwords ws :=
  String.intercalate_cons_of_ne_nil h

/-- **Words that are joined by single spaces are read back.** -/
theorem words_unwords {ws : List String} (h : ∀ word ∈ ws, IsWord word) :
    words (unwords ws) = ws := by
  induction ws with
  | nil => rfl
  | cons word ws ih =>
    have hword := h word List.mem_cons_self
    have hrest := ih fun other hother => h other (List.mem_cons_of_mem word hother)
    cases ws with
    | nil =>
      have hone : unwords [word] = word := String.intercalate_singleton
      rw [hone, words, wordsOf_word hword.toList_ne_nil hword.noBlank]
      simp
    | cons next ws =>
      have hsplit : (unwords (word :: next :: ws)).toList =
          word.toList ++ ' ' :: (unwords (next :: ws)).toList := by
        rw [unwords_cons word (List.cons_ne_nil next ws)]
        simp
      rw [words, hsplit, wordsOf_word_append hword.toList_ne_nil hword.noBlank (by decide),
        List.map_cons, String.ofList_toList]
      exact congrArg (word :: ·) hrest

theorem eq_nil_of_unwords_eq_empty {ws : List String} (h : ∀ word ∈ ws, IsWord word)
    (hempty : unwords ws = "") : ws = [] := by
  have hread := words_unwords h
  rw [hempty] at hread
  exact hread.symm

/-- Joined words that are joined to others are joined with them. -/
theorem unwords_append_unwords (before : List String) {ws : List String} (h : ws ≠ []) :
    unwords (before ++ [unwords ws]) = unwords (before ++ ws) := by
  induction before with
  | nil => exact String.intercalate_singleton
  | cons word before ih =>
    rw [List.cons_append, List.cons_append, unwords_cons word (by simp),
      unwords_cons word (by simp [h]), ih]

end Moderation.Text
