import Mathlib.Data.List.TakeWhile
import Moderation.Proofs.Json.Reading
import Moderation.Text.Blank
/-!
# What stands around a value

White space in front of a text does not show in what it holds (`Document.ofText_append`).  Of the
blank characters only four are white space between tokens; a text that begins with another one holds
no value (`Document.ofText_of_blank`).  What follows a value, white space aside, is noticed
(`Document.ofText_render_append`).
-/

namespace Moderation.Json

/-- A text that holds nothing but white space between tokens. -/
def IsSpacing (s : String) : Prop := ∀ c ∈ s.toList, isSpace c = true

instance (s : String) : Decidable (IsSpacing s) :=
  List.decidableBAll (fun c => isSpace c = true) s.toList

theorem isBlank_of_isSpace {c : Char} (h : isSpace c = true) : Text.isBlank c = true := by
  have hmem : c ∈ [' ', '\n', '\t', '\r'] := by simpa [isSpace, or_assoc] using h
  have hall : [' ', '\n', '\t', '\r'].all Text.isBlank = true := by decide
  exact List.all_eq_true.1 hall c hmem

theorem IsSpacing.isBlankText {s : String} (h : IsSpacing s) : Text.isBlankText s = true :=
  List.all_eq_true.2 fun c hc => isBlank_of_isSpace (h c hc)

theorem Reader.run_skipSpace {stack : List Frame} {cs ds : List Char}
    (h : skipSpace cs = skipSpace ds) :
    Reader.run ⟨.value, stack, cs⟩ = Reader.run ⟨.value, stack, ds⟩ := by
  have hstep : Reader.step ⟨.value, stack, cs⟩ = Reader.step ⟨.value, stack, ds⟩ := by
    simp only [Reader.step, Reader.beginValue, h]
  cases hs : Reader.step ⟨.value, stack, ds⟩ with
  | inl d => rw [Reader.run_of_done (hstep.trans hs), Reader.run_of_done hs]
  | inr t => rw [Reader.run_of_step (hstep.trans hs), Reader.run_of_step hs]

/-- White space in front of a text does not show. -/
theorem Document.ofText_append {space : String} (h : IsSpacing space) (s : String) :
    Document.ofText (space ++ s) = Document.ofText s := by
  have hskip : skipSpace (space ++ s).toList = skipSpace s.toList := by
    rw [skipSpace, String.toList_append, List.dropWhile_append_of_pos h]
    rfl
  exact Reader.run_skipSpace hskip

theorem Decoder.ofText_append {α : Type} (d : Decoder α) {space : String} (h : IsSpacing space)
    (s : String) :
    d.ofText (space ++ s) = d.ofText s := by
  rw [Decoder.ofText, Document.ofText_append h, Decoder.ofText]

/-- A blank character stands at the front of no value. -/
theorem scalar?_of_blank {c : Char} (h : Text.isBlank c = true) (cs : List Char) :
    scalar? (c :: cs) = none := by
  have hdigit : c.isDigit = false := by
    cases hd : c.isDigit with
    | false => rfl
    | true =>
      have hrange : 48 ≤ c.toNat ∧ c.toNat ≤ 57 := by
        simpa [Char.isDigit, UInt32.le_iff_toNat_le] using hd
      simp only [Text.isBlank, Bool.or_eq_true, Bool.and_eq_true, decide_eq_true_eq,
        beq_iff_eq] at h
      omega
  have hother : ['"', 'n', 't', 'f', '-'].all (fun d => !Text.isBlank d) = true := by decide
  have hne {d : Char} (hd : d ∈ ['"', 'n', 't', 'f', '-']) : c ≠ d := by
    rintro rfl
    simpa [h] using List.all_eq_true.1 hother c hd
  have hliteral : literal? (c :: cs) = none := by
    unfold literal?
    split <;> simp_all
  have hnumeral : readNumeral (c :: cs) = none := by
    have hsign : c ≠ '-' := hne (by simp)
    unfold readNumeral
    simp [hsign, hdigit]
  unfold scalar?
  split
  · next heq => exact absurd (List.cons.inj heq).1 (hne (by simp))
  · rw [hliteral, hnumeral]
    rfl

/-- **A text that begins with a blank character which is no white space holds no value.** -/
theorem Document.ofText_of_blank {blank : String} (hblank : Text.isBlankText blank = true)
    (h : ¬IsSpacing blank) (s : String) :
    Document.ofText (blank ++ s) = ⟨.broken, false⟩ := by
  obtain ⟨c, cs, hcs, hspace, hc⟩ : ∃ c cs, skipSpace (blank ++ s).toList = c :: cs ∧
      isSpace c = false ∧ Text.isBlank c = true := by
    have hall : ∀ c ∈ blank.toList, Text.isBlank c = true := List.all_eq_true.1 hblank
    cases hd : blank.toList.dropWhile isSpace with
    | nil => exact absurd (List.dropWhile_eq_nil_iff.1 hd) h
    | cons c cs =>
      have hfirst := List.head?_dropWhile_not isSpace blank.toList
      have hmem : c ∈ blank.toList :=
        (List.dropWhile_suffix isSpace).subset (hd.symm ▸ List.mem_cons_self)
      rw [hd] at hfirst
      refine ⟨c, cs ++ s.toList, ?_, hfirst, hall c hmem⟩
      rw [String.toList_append, skipSpace, List.dropWhile_append, hd]
      rfl
  have harray : c ≠ '[' := by rintro rfl; exact absurd hc (by decide)
  have hobject : c ≠ '\x7b' := by rintro rfl; exact absurd hc (by decide)
  apply Reader.run_of_done
  simp only [Reader.step, Reader.beginValue, hcs]
  split
  · simp_all
  · simp_all
  · rw [scalar?_of_blank hc]
    rfl

/-- **What follows the text of a value is noticed**, unless it is white space. -/
theorem Document.ofText_render_append (j : Json) (hj : j.isExact = true) {s : String}
    (hend : EndsNumeral s.toList) (hs : ¬IsSpacing s) :
    Document.ofText (j.render ++ s) = ⟨j.toDraft, true⟩ := by
  have hrun := run_chars j hj [] hend
  rw [Document.ofText, String.toList_append, render, String.toList_ofList, hrun]
  have hrest : skipSpace s.toList ≠ [] := fun hnil => hs (List.dropWhile_eq_nil_iff.1 hnil)
  apply Reader.run_of_done
  simp [Reader.step, Reader.goOn, hrest]

end Moderation.Json
