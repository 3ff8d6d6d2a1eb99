import Moderation.Proofs.Json.Beginning
/-!
# An object that follows something else

An object that is glued to the end of a text makes no value with it, whatever the text is, unless
that is white space (`Document.ofText_append_object`).  A reader that comes to the object either
reads it as a value inside a container, and then nothing is left that could close the container; or
it is not ready for a value.  Or it is in the middle of a string, which the first quotation mark of
the object ends, and then it cannot go on with what comes after that mark.
-/

namespace Moderation.Json

/-! ## Reading that stops at a brace -/

/-- What is left of a text when some characters have been read, none of them a brace. -/
def Unbraced (cs rest : List Char) : Prop := ∃ read, cs = read ++ rest ∧ '\x7b' ∉ read

namespace Unbraced

theorem refl (cs : List Char) : Unbraced cs cs := ⟨[], rfl, by simp⟩

theorem cons {c : Char} (hc : c ≠ '\x7b') {cs rest : List Char} (h : Unbraced cs rest) :
    Unbraced (c :: cs) rest := by
  obtain ⟨read, rfl, hread⟩ := h
  exact ⟨c :: read, rfl, by simp [hread, hc.symm]⟩

theorem trans {cs ds rest : List Char} (h : Unbraced cs ds) (h' : Unbraced ds rest) :
    Unbraced cs rest := by
  obtain ⟨read, rfl, hread⟩ := h
  obtain ⟨read', rfl, hread'⟩ := h'
  exact ⟨read ++ read', (List.append_assoc _ _ _).symm, by simp [hread, hread']⟩

theorem dropWhile {p : Char → Bool} (hp : p '\x7b' = false) (cs : List Char) :
    Unbraced cs (cs.dropWhile p) := by
  refine ⟨cs.takeWhile p, List.takeWhile_append_dropWhile.symm, fun hmem => ?_⟩
  have hall := List.mem_takeWhile_imp hmem
  rw [hp] at hall
  cases hall

end Unbraced

theorem codeUnit?_unbraced {cs rest : List Char} {n : Nat} (h : codeUnit? cs = some (n, rest)) :
    Unbraced cs rest := by
  have hbrace : hexValue? '\x7b' = none := by decide
  have hne {c : Char} {v : Nat} (hc : hexValue? c = some v) : c ≠ '\x7b' := by
    rintro rfl
    rw [hbrace] at hc
    cases hc
  unfold codeUnit? at h
  split at h
  · simp only [Option.bind_eq_bind, Option.bind_eq_some_iff, Option.some.injEq, Prod.mk.injEq] at h
    obtain ⟨_, ha, _, hb, _, hc, _, hd, _, rfl⟩ := h
    exact .cons (hne ha) (.cons (hne hb) (.cons (hne hc) (.cons (hne hd) (.refl _))))
  · cases h

theorem unitPiece_unbraced (unit : Nat) (cs : List Char) : Unbraced cs (unitPiece unit cs).2 := by
  unfold unitPiece
  split
  · exact .refl cs
  · split
    · exact .refl cs
    · split
      · split
        · next hnext =>
          split
          · exact .cons (by decide) (.cons (by decide) (codeUnit?_unbraced hnext))
          · exact .refl _
        · exact .refl _
      · exact .refl _

/-- A brace is read only as a character of a string. -/
theorem piece?_unbraced {cs rest : List Char} {p : Piece} (h : piece? cs = some (p, rest)) :
    Unbraced cs rest ∨ p = .char '\x7b' ∧ cs = '\x7b' :: rest := by
  have hplain {c : Char} {rest : List Char} :
      Unbraced (c :: rest) rest ∨ Piece.char c = .char '\x7b' ∧ c :: rest = '\x7b' :: rest := by
    by_cases hc : c = '\x7b'
    · exact .inr ⟨by rw [hc], by rw [hc]⟩
    · exact .inl (.cons hc (.refl _))
  unfold piece? at h
  split at h
  · cases h
  · split at h
    · next hquote =>
      obtain ⟨rfl, rfl⟩ := Prod.mk.inj (Option.some.inj h)
      exact .inl (.cons (by rw [hquote]; decide) (.refl _))
    · split at h
      · cases h
      · obtain ⟨rfl, rfl⟩ := Prod.mk.inj (Option.some.inj h)
        exact hplain
  · split at h
    · next hquote =>
      obtain ⟨rfl, rfl⟩ := Prod.mk.inj (Option.some.inj h)
      exact .inl (.cons (by rw [hquote]; decide) (.refl _))
    · split at h
      · next hslash =>
        refine .inl (.cons (by rw [hslash]; decide) ?_)
        split at h
        · next hu =>
          obtain ⟨⟨unit, after⟩, hunit, hpiece⟩ := Option.map_eq_some_iff.1 h
          have hafter := unitPiece_unbraced unit after
          dsimp only at hpiece
          rw [hpiece] at hafter
          exact .cons (by rw [hu]; decide) ((codeUnit?_unbraced hunit).trans hafter)
        · obtain ⟨d, hd, hpair⟩ := Option.map_eq_some_iff.1 h
          obtain ⟨-, rfl⟩ := Prod.mk.inj hpair
          refine .cons ?_ (.refl _)
          rintro rfl
          have hnone : escaped? '\x7b' = none := by decide
          rw [hnone] at hd
          cases hd
      · split at h
        · cases h
        · obtain ⟨rfl, rfl⟩ := Prod.mk.inj (Option.some.inj h)
          exact hplain

theorem literal?_unbraced {cs rest : List Char} {v : Draft} (h : literal? cs = some (v, rest)) :
    Unbraced cs rest := by
  unfold literal? at h
  split at h
  · obtain ⟨-, rfl⟩ := Prod.mk.inj (Option.some.inj h)
    exact ⟨['n', 'u', 'l', 'l'], rfl, by decide⟩
  · obtain ⟨-, rfl⟩ := Prod.mk.inj (Option.some.inj h)
    exact ⟨['t', 'r', 'u', 'e'], rfl, by decide⟩
  · obtain ⟨-, rfl⟩ := Prod.mk.inj (Option.some.inj h)
    exact ⟨['f', 'a', 'l', 's', 'e'], rfl, by decide⟩
  · cases h

theorem fraction?_unbraced {cs rest : List Char} {f : Option (List Char)}
    (h : fraction? cs = some (f, rest)) : Unbraced cs rest := by
  unfold fraction? at h
  split at h
  · dsimp only at h
    split at h
    · cases h
    · obtain ⟨-, rfl⟩ := Prod.mk.inj (Option.some.inj h)
      exact .cons (by decide) (.dropWhile (by decide) _)
  · obtain ⟨-, rfl⟩ := Prod.mk.inj (Option.some.inj h)
    exact .refl _

theorem exponent?_unbraced {cs rest : List Char} {e : Option (Bool × List Char)}
    (h : exponent? cs = some (e, rest)) : Unbraced cs rest := by
  unfold exponent? at h
  split at h
  · next c cs =>
    split at h
    · next hc =>
      have hne : c ≠ '\x7b' := by
        rintro rfl
        exact absurd hc (by decide)
      refine .cons hne ?_
      split at h
      next negative ds heq =>
      have hsign : Unbraced cs ds := by
        split at heq
        all_goals
          obtain ⟨-, rfl⟩ := Prod.mk.inj heq
        · exact .cons (by decide) (.refl _)
        · exact .cons (by decide) (.refl _)
        · exact .refl _
      refine hsign.trans ?_
      dsimp only at h
      split at h
      · cases h
      · obtain ⟨-, rfl⟩ := Prod.mk.inj (Option.some.inj h)
        exact .dropWhile (by decide) _
    · obtain ⟨-, rfl⟩ := Prod.mk.inj (Option.some.inj h)
      exact .refl _
  · obtain ⟨-, rfl⟩ := Prod.mk.inj (Option.some.inj h)
    exact .refl _

theorem readNumeral_unbraced {cs rest : List Char} {n : Numeral}
    (h : readNumeral cs = some (n, rest)) : Unbraced cs rest := by
  unfold readNumeral at h
  split at h
  next negative ds heq =>
  have hsign : Unbraced cs ds := by
    split at heq
    all_goals
      obtain ⟨-, rfl⟩ := Prod.mk.inj heq
    · exact .cons (by decide) (.refl _)
    · exact .refl _
  simp only [Option.bind_eq_bind] at h
  split at h
  · cases h
  · simp only [Option.bind_eq_some_iff, Option.some.injEq, Prod.mk.injEq] at h
    obtain ⟨⟨f, fs⟩, hf, ⟨e, es⟩, he, -, rfl⟩ := h
    have hwhole : Unbraced ds (ds.dropWhile Char.isDigit) := .dropWhile (by decide) ds
    exact hsign.trans (hwhole.trans ((fraction?_unbraced hf).trans (exponent?_unbraced he)))

theorem scalar?_cons {c : Char} {cs rest : List Char} {v : Draft} (hc : c ≠ '"')
    (h : scalar? (c :: cs) = some (v, rest)) : Unbraced (c :: cs) rest := by
  unfold scalar? at h
  split at h
  · next heq => exact absurd (List.cons.inj heq).1 hc
  · rcases Option.or_eq_some_iff.1 h with hliteral | ⟨-, hnumeral⟩
    · exact literal?_unbraced hliteral
    · obtain ⟨⟨n, after⟩, hn, hpair⟩ := Option.map_eq_some_iff.1 hnumeral
      obtain ⟨-, rfl⟩ := Prod.mk.inj hpair
      exact readNumeral_unbraced hn

/-! ## A text in which an object follows -/

/-- A text in which an object follows after some characters; `tail` is what comes after the first
quotation mark of the object. -/
def glued (cs tail : List Char) : List Char := cs ++ '\x7b' :: '"' :: tail

variable {cs tail rest : List Char}

/-- What is read of such a text without a brace stands in front of the object. -/
theorem Unbraced.glued (h : Unbraced (glued cs tail) rest) : ∃ ds, rest = Json.glued ds tail := by
  obtain ⟨read, hsplit, hread⟩ := h
  rcases List.append_eq_append_iff.1 hsplit with ⟨after, hafter, hrest⟩ | ⟨after, -, hrest⟩
  · cases after with
    | nil => exact ⟨[], hrest.symm⟩
    | cons c after =>
      obtain ⟨rfl, -⟩ := List.cons.inj hrest
      exact absurd (by simp [hafter]) hread
  · exact ⟨after, hrest⟩

theorem skipSpace_glued (cs tail : List Char) :
    skipSpace (glued cs tail) = glued (skipSpace cs) tail := by
  unfold skipSpace glued
  rw [List.dropWhile_append]
  cases hd : cs.dropWhile isSpace with
  | nil => rfl
  | cons c ds => rfl

theorem readString_quote (done : List Char) (text : Bool) (tail : List Char) :
    ∃ s, readString done text ('"' :: tail) = some (s, tail) := by
  have hclose : piece? ('"' :: tail) = some (.close, tail) := by cases tail <;> rfl
  refine ⟨if text then some (String.ofList done.reverse) else none, ?_⟩
  rw [readString]
  split <;> simp_all

/-- **A string that begins in front of the object** ends there, or at the first quotation mark of
the object. -/
theorem readString_glued {done : List Char} {text : Bool} {s : Option String}
    (h : readString done text (glued cs tail) = some (s, rest)) :
    (∃ ds, rest = glued ds tail) ∨ rest = tail := by
  generalize htext : glued cs tail = whole at h
  fun_induction readString done text whole generalizing cs with
  | case1 => cases h
  | case2 done text whole after hp =>
    obtain ⟨-, rfl⟩ := Prod.mk.inj (Option.some.inj h)
    rcases piece?_unbraced hp with hun | ⟨hchar, -⟩
    · subst htext
      exact .inl hun.glued
    · cases hchar
  | case3 done text whole c after hp ih =>
    rcases piece?_unbraced hp with hun | ⟨-, hbrace⟩
    · subst htext
      obtain ⟨ds, rfl⟩ := hun.glued
      exact ih rfl h
    · -- The brace is the one of the object, or another one in front of it.
      rw [← htext] at hbrace
      cases cs with
      | nil =>
        obtain rfl : '"' :: tail = after := (List.cons.inj hbrace).2
        obtain ⟨s', hquote⟩ := readString_quote (c :: done) text tail
        rw [hquote] at h
        exact .inr (Prod.mk.inj (Option.some.inj h)).2.symm
      | cons d cs => exact ih (List.cons.inj hbrace).2 h
  | case4 done text whole after hp ih =>
    rcases piece?_unbraced hp with hun | ⟨hchar, -⟩
    · subst htext
      obtain ⟨ds, rfl⟩ := hun.glued
      exact ih rfl h
    · cases hchar

/-- So does a value that is no container. -/
theorem scalar?_glued {c : Char} {v : Draft} (h : scalar? (c :: glued cs tail) = some (v, rest)) :
    (∃ ds, rest = glued ds tail) ∨ rest = tail := by
  by_cases hc : c = '"'
  · subst hc
    obtain ⟨⟨s, after⟩, hs, hpair⟩ := Option.map_eq_some_iff.1 h
    obtain ⟨-, rfl⟩ := Prod.mk.inj hpair
    exact readString_glued hs
  · have hun : Unbraced (glued (c :: cs) tail) rest := scalar?_cons hc h
    exact .inl hun.glued

/-! ## The reader comes to the object -/

/-- A draft that is no container which the text closes. -/
def Draft.IsUnclosed : Draft → Prop
  | .array _ closed => closed = false
  | .object _ closed => closed = false
  | _ => True

/-- A document that holds no container and nothing else. -/
def Document.IsUnfit (d : Document) : Prop := d.trailing = false → d.root.IsUnclosed

theorem abandon_isUnclosed {v : Draft} (hv : v.IsUnclosed) (stack : List Frame) :
    (abandon v stack).IsUnclosed := by
  unfold abandon
  induction stack generalizing v with
  | nil => exact hv
  | cons frame stack ih =>
    refine ih ?_
    cases frame <;> rfl

theorem giveUp_unfit {v : Draft} (hv : v.IsUnclosed) {stack : List Frame} {d : Document}
    (h : Reader.giveUp v stack = .inl d) : d.IsUnfit := by
  obtain rfl := Sum.inl.inj h
  exact fun _ => abandon_isUnclosed hv stack

/-- A text that begins with a character which neither goes on after a value nor is white space. -/
def IsStuck (tail : List Char) : Prop :=
  ∃ c ds, tail = c :: ds ∧ isSpace c = false ∧ c ∉ [',', ':', ']', '\x7d']

/-- After a value the reader cannot go on with a text that it is stuck at. -/
theorem run_stuck (htail : IsStuck tail) (v : Draft) (stack : List Frame) :
    (Reader.run ⟨.after v, stack, tail⟩).IsUnfit := by
  obtain ⟨c, ds, rfl, hspace, hc⟩ := htail
  simp only [List.mem_cons, List.not_mem_nil, or_false, not_or] at hc
  obtain ⟨hcomma, -, hbracket, hbrace⟩ := hc
  have hskip := skipSpace_cons hspace ds
  cases stack with
  | nil =>
    have hstep : Reader.step ⟨.after v, [], c :: ds⟩ = .inl ⟨v, true⟩ := by
      simp only [Reader.step, Reader.goOn, hskip]
      rfl
    rw [Reader.run_of_done hstep]
    intro htrailing
    cases htrailing
  | cons frame stack =>
    obtain ⟨u, hu, hstep⟩ : ∃ u : Draft, u.IsUnclosed ∧
        Reader.step ⟨.after v, frame :: stack, c :: ds⟩ = Reader.giveUp u stack := by
      cases frame with
      | array done =>
        refine ⟨.array (v :: done).reverse false, rfl, ?_⟩
        simp only [Reader.step, Reader.goOn, hskip]
        split <;> simp_all
      | object done name =>
        refine ⟨.object ((name, v) :: done).reverse false, rfl, ?_⟩
        simp only [Reader.step, Reader.goOn, hskip]
        split <;> simp_all
    rw [Reader.run_of_done hstep]
    exact giveUp_unfit hu rfl

/-- A reader that still has the object before it and cannot take it for the whole text. -/
def Reader.IsBehind (tail : List Char) (r : Reader) : Prop :=
  ∃ cs, r.text = glued cs tail ∧ (r.task = .value → r.stack ≠ [] ∨ skipSpace cs ≠ [])

/-- What becomes of a reader that has the object before it: it gives up, or it still has the object
before it, or it is stuck after a value in the object. -/
def GoesOn (tail : List Char) : Document ⊕ Reader → Prop
  | .inl d => d.IsUnfit
  | .inr r => r.IsBehind tail ∨ ∃ v, r.task = .after v ∧ r.text = tail

theorem goesOn_giveUp {v : Draft} (hv : v.IsUnclosed) (stack : List Frame) :
    GoesOn tail (Reader.giveUp v stack) := giveUp_unfit hv rfl

theorem goesOn_deliver (v : Draft) (stack : List Frame) (cs : List Char) :
    GoesOn tail (Reader.deliver v stack (glued cs tail)) :=
  .inl ⟨cs, rfl, fun h => by cases h⟩

/-- A character in front of the object. -/
theorem glued_cons {c : Char} (h : glued cs tail = c :: rest) (hc : c ≠ '\x7b') :
    ∃ ds, rest = glued ds tail := by
  have hun : Unbraced (glued cs tail) rest := by
    rw [h]
    exact .cons hc (.refl rest)
  exact hun.glued

theorem beginValue_goesOn {c : Char} {ds : List Char} (hcs : skipSpace cs = c :: ds)
    (stack : List Frame) : GoesOn tail (Reader.beginValue stack (glued cs tail)) := by
  have htext : skipSpace (glued cs tail) = c :: glued ds tail := by
    rw [skipSpace_glued, hcs]
    rfl
  unfold Reader.beginValue
  rw [htext]
  split
  · next rest heq =>
    obtain rfl := (List.cons.inj heq).2
    rw [skipSpace_glued]
    split
    · next rest hclose =>
      obtain ⟨es, rfl⟩ := glued_cons hclose (by decide)
      exact goesOn_deliver _ _ _
    · exact .inl ⟨_, rfl, fun _ => .inl (by simp)⟩
  · next rest heq =>
    obtain rfl := (List.cons.inj heq).2
    rw [skipSpace_glued]
    split
    · next rest hclose =>
      obtain ⟨es, rfl⟩ := glued_cons hclose (by decide)
      exact goesOn_deliver _ _ _
    · exact .inl ⟨_, rfl, fun h => by cases h⟩
  · split
    · next v rest hscalar =>
      rcases scalar?_glued hscalar with ⟨es, rfl⟩ | rfl
      · exact goesOn_deliver v stack es
      · exact .inr ⟨v, rfl, rfl⟩
    · exact goesOn_giveUp (by trivial) stack

theorem goOn_goesOn (v : Draft) (stack : List Frame) (cs : List Char) :
    GoesOn tail (Reader.goOn v stack (glued cs tail)) := by
  unfold Reader.goOn
  split
  · -- The object is still to come, so something follows the value.
    intro htrailing
    rw [skipSpace_glued] at htrailing
    simp [glued] at htrailing
  · rw [skipSpace_glued]
    split
    · next rest hcomma =>
      obtain ⟨es, rfl⟩ := glued_cons hcomma (by decide)
      exact .inl ⟨es, rfl, fun _ => .inl (by simp)⟩
    · next rest hclose =>
      obtain ⟨es, rfl⟩ := glued_cons hclose (by decide)
      exact goesOn_deliver _ _ _
    · exact goesOn_giveUp (by trivial) _
  · rw [skipSpace_glued]
    split
    · next rest hcomma =>
      obtain ⟨es, rfl⟩ := glued_cons hcomma (by decide)
      exact .inl ⟨es, rfl, fun h => by cases h⟩
    · next rest hclose =>
      obtain ⟨es, rfl⟩ := glued_cons hclose (by decide)
      exact goesOn_deliver _ _ _
    · exact goesOn_giveUp (by trivial) _

theorem readName_goesOn (htail : IsStuck tail) (done : List (Option String × Draft))
    (stack : List Frame) (cs : List Char) :
    GoesOn tail (Reader.readName done stack (glued cs tail)) := by
  unfold Reader.readName
  rw [skipSpace_glued]
  split
  · next rest hquote =>
    obtain ⟨es, rfl⟩ := glued_cons hquote (by decide)
    split
    · next name rest hname =>
      rcases readString_glued hname with ⟨es, rfl⟩ | rfl
      · rw [skipSpace_glued]
        split
        · next rest hcolon =>
          obtain ⟨fs, rfl⟩ := glued_cons hcolon (by decide)
          exact .inl ⟨fs, rfl, fun _ => .inl (by simp)⟩
        · exact goesOn_giveUp (by trivial) _
      · -- After the first quotation mark of the object there is no colon.
        obtain ⟨c, ds, rfl, hspace, hc⟩ := htail
        rw [skipSpace_cons hspace]
        split
        · next rest hcolon =>
          obtain rfl := (List.cons.inj hcolon).1
          simp at hc
        · exact goesOn_giveUp (by trivial) _
    · exact goesOn_giveUp (by trivial) _
  · exact goesOn_giveUp (by trivial) _

/-- Inside a container the object is a value, after which the text is at its end. -/
theorem run_object {j : Json} (hj : j.isExact = true) (hchars : j.chars = glued [] tail)
    (hcs : skipSpace cs = []) {stack : List Frame} (hstack : stack ≠ []) :
    (Reader.run ⟨.value, stack, glued cs tail⟩).IsUnfit := by
  have hskip : skipSpace (glued cs tail) = skipSpace (j.chars ++ []) := by
    rw [skipSpace_glued, hcs, List.append_nil, hchars, skipSpace_glued]
    rfl
  rw [Reader.run_skipSpace hskip, run_chars j hj stack (fun c hc => by cases hc)]
  obtain ⟨frame, stack, rfl⟩ := List.exists_cons_of_ne_nil hstack
  cases frame with
  | array done =>
    have hstep : Reader.step ⟨.after j.toDraft, .array done :: stack, []⟩ =
      Reader.giveUp (.array (j.toDraft :: done).reverse false) stack := rfl
    rw [Reader.run_of_done hstep]
    exact giveUp_unfit (by trivial) rfl
  | object done name =>
    have hstep : Reader.step ⟨.after j.toDraft, .object done name :: stack, []⟩ =
      Reader.giveUp (.object ((name, j.toDraft) :: done).reverse false) stack := rfl
    rw [Reader.run_of_done hstep]
    exact giveUp_unfit (by trivial) rfl

/-- **A reader that has the object before it** does not come to a container that is the whole
text. -/
theorem run_isUnfit (htail : IsStuck tail) {j : Json} (hj : j.isExact = true)
    (hchars : j.chars = glued [] tail) {r : Reader} (h : r.IsBehind tail) : r.run.IsUnfit := by
  induction hlength : r.text.length using Nat.strongRecOn generalizing r with
  | ind n ih =>
    obtain ⟨cs, htext, hready⟩ := h
    obtain ⟨task, stack, text⟩ := r
    dsimp only at htext hready
    subst htext
    by_cases hstart : task = .value ∧ skipSpace cs = []
    · obtain ⟨rfl, hcs⟩ := hstart
      exact run_object hj hchars hcs ((hready rfl).resolve_right (not_not.2 hcs))
    · have hgoes : GoesOn tail (Reader.step ⟨task, stack, glued cs tail⟩) := by
        cases task with
        | value =>
          obtain ⟨c, ds, hcs⟩ := List.exists_cons_of_ne_nil fun hcs => hstart ⟨rfl, hcs⟩
          exact beginValue_goesOn hcs stack
        | after v => exact goOn_goesOn v stack cs
        | name done => exact readName_goesOn htail done stack cs
      cases hstep : Reader.step ⟨task, stack, glued cs tail⟩ with
      | inl d =>
        rw [hstep] at hgoes
        rw [Reader.run_of_done hstep]
        exact hgoes
      | inr next =>
        rw [hstep] at hgoes
        rw [Reader.run_of_step hstep]
        rcases hgoes with hbehind | ⟨v, htask, hnext⟩
        · exact ih _ (hlength ▸ Reader.step_length hstep) hbehind rfl
        · obtain ⟨_, stack', _⟩ := next
          obtain rfl := htask
          obtain rfl := hnext
          exact run_stuck htail v stack'

/-- **An object that is glued to a text makes no value with it**, unless the text is white space. -/
theorem Document.ofText_append_object (htail : IsStuck tail) {j : Json} (hj : j.isExact = true)
    (hchars : j.chars = glued [] tail) {front : String} (hfront : ¬IsSpacing front) :
    (Document.ofText (front ++ j.render)).IsUnfit := by
  refine run_isUnfit htail hj hchars ⟨front.toList, ?_, fun _ => .inr fun hnil => hfront ?_⟩
  · rw [String.toList_append, render, String.toList_ofList, hchars]
    rfl
  · exact List.dropWhile_eq_nil_iff.1 hnil

end Moderation.Json
