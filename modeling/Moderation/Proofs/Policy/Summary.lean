import Mathlib.Data.List.Perm.Basic
import Moderation.Policy.Summary
/-!
# Which rule decides

A summary is made in one pass, which keeps the rule that decides so far.  What a rule does to it
depends on what it recommends (`decideWith_eq`), and a whole pass finds the first unban, or else the
rule it started with, or else the first ban or takedown (`foldl_decideWith`).

So the first unban decides, or else the first ban or takedown (`deciding_ofRecords`).  Whether a
rule decides, and whether it is an unban, is a matter of which recommendations there are and not of
their order, and the summary of two parts is the summary of one of them (`ofRecords_append`).
-/

namespace Moderation.PolicySummary

variable {r : PolicyRecord} {records : List PolicyRecord}

theorem ext {s t : PolicySummary} (h : s.deciding = t.deciding) : s = t := congrArg mk h

/-- What a rule does to the one that decides so far. -/
theorem decideWith_eq (deciding : Option PolicyRecord) (r : PolicyRecord) :
    decideWith deciding r =
      if deciding.any recommendsUnban then deciding
      else if recommendsUnban r then some r
      else deciding.or (if recommendsBan r then some r else none) := by
  cases deciding with
  | none =>
    cases hr : r.recommendation with
    | none => simp [decideWith, recommendsUnban, recommendsBan, hr]
    | some recommendation =>
      cases recommendation <;>
        simp [decideWith, recommendsUnban, recommendsBan, hr, Recommendation.isBanLike]
  | some standing =>
    cases hr : r.recommendation with
    | none => simp [decideWith, recommendsUnban, hr]
    | some recommendation =>
      cases recommendation <;> simp [decideWith, recommendsUnban, hr]

/-- **A pass over some rules.**  The rule it starts with is kept if it is an unban; else the first
unban decides, then the rule it starts with, then the first ban or takedown. -/
theorem foldl_decideWith (records : List PolicyRecord) (deciding : Option PolicyRecord) :
    records.foldl decideWith deciding =
      if deciding.any recommendsUnban then deciding
      else (records.find? recommendsUnban).or (deciding.or (records.find? recommendsBan)) := by
  induction records generalizing deciding with
  | nil => simp
  | cons r records ih =>
    rw [List.foldl_cons, ih, decideWith_eq]
    by_cases hstanding : deciding.any recommendsUnban = true
    · simp only [hstanding, if_true]
    · by_cases hunban : recommendsUnban r = true
      · simp [hstanding, hunban]
      · -- The rule that decides next is no unban either, so the pass goes on as before.
        have hnext : (deciding.or (if recommendsBan r then some r else none)).any
            recommendsUnban = false := by
          cases deciding with
          | some standing => simpa using hstanding
          | none => split <;> simp [hunban]
        rw [if_neg hstanding, if_neg hunban, hnext, if_neg hstanding,
          List.find?_cons_of_neg hunban, List.find?_cons]
        cases deciding <;> cases recommendsBan r <;> simp

/-- **The first unban decides, or else the first ban or takedown.** -/
theorem deciding_ofRecords (records : List PolicyRecord) :
    (ofRecords records).deciding =
      (records.find? recommendsUnban).or (records.find? recommendsBan) :=
  foldl_decideWith records none

theorem mem_of_deciding (h : (ofRecords records).deciding = some r) : r ∈ records := by
  rw [deciding_ofRecords] at h
  rcases Option.or_eq_some_iff.1 h with h | ⟨-, h⟩
  · exact List.mem_of_find?_eq_some h
  · exact List.mem_of_find?_eq_some h

/-- A rule that decides recommends an unban, a ban or a takedown. -/
theorem recommends_of_deciding (h : (ofRecords records).deciding = some r) :
    r.recommendation = some .unban ∨ recommendsBan r = true := by
  rw [deciding_ofRecords] at h
  rcases Option.or_eq_some_iff.1 h with h | ⟨-, h⟩
  · exact .inl (by simpa [recommendsUnban] using List.find?_some h)
  · exact .inr (List.find?_some h)

/-! ## The order of the rules -/

theorem isUnban_eq (s : PolicySummary) : s.isUnban = s.deciding.any recommendsUnban := by
  obtain ⟨deciding⟩ := s
  cases deciding <;> rfl

/-- The summary is an unban if some rule recommends one. -/
theorem isUnban_ofRecords (records : List PolicyRecord) :
    (ofRecords records).isUnban = records.any recommendsUnban := by
  rw [isUnban_eq, deciding_ofRecords]
  cases hunban : records.find? recommendsUnban with
  | some u =>
    have hu : recommendsUnban u = true := List.find?_some hunban
    have hany : records.any recommendsUnban = true :=
      List.any_eq_true.2 ⟨u, List.mem_of_find?_eq_some hunban, hu⟩
    simp [hu, hany]
  | none =>
    have hany : records.any recommendsUnban = false := by
      simpa [List.find?_eq_none] using hunban
    rw [hany, Option.none_or, Option.any_eq_false]
    intro r hban
    have hr : recommendsUnban r ≠ true :=
      List.find?_eq_none.1 hunban r (List.mem_of_find?_eq_some hban)
    simpa using hr

/-- A rule decides if some rule recommends an unban, a ban or a takedown. -/
theorem isSome_deciding (records : List PolicyRecord) :
    (ofRecords records).deciding.isSome =
      (records.any recommendsUnban || records.any recommendsBan) := by
  rw [deciding_ofRecords, Option.isSome_or, List.isSome_find?, List.isSome_find?]

/-! ## The rules of two parts -/

/-- The pass over the second part starts with the rule that decides in the first. -/
theorem deciding_append (records more : List PolicyRecord) :
    (ofRecords (records ++ more)).deciding =
      if (ofRecords records).isUnban then (ofRecords records).deciding
      else (more.find? recommendsUnban).or
        ((ofRecords records).deciding.or (more.find? recommendsBan)) := by
  have hpass : (ofRecords (records ++ more)).deciding =
      more.foldl decideWith (ofRecords records).deciding :=
    List.foldl_append
  rw [hpass, foldl_decideWith, isUnban_eq]

/-- The summary of two parts is that of the second if nothing decides in the first, or if the
second is an unban and the first is not. -/
theorem ofRecords_append (records more : List PolicyRecord) :
    ofRecords (records ++ more) =
      if ((ofRecords more).isUnban = true ∧ (ofRecords records).isUnban = false) ∨
        (ofRecords records).deciding = none
      then ofRecords more else ofRecords records := by
  have happend := deciding_append records more
  have hmore := deciding_ofRecords more
  have hlater : (ofRecords more).isUnban = (more.find? recommendsUnban).isSome := by
    rw [isUnban_ofRecords, List.isSome_find?]
  cases hfirst : (ofRecords records).deciding with
  | none =>
    have hnot : (ofRecords records).isUnban = false := by rw [isUnban_eq, hfirst]; rfl
    rw [if_pos (.inr rfl)]
    exact ext (by rw [happend, hmore, hnot, hfirst]; simp)
  | some r =>
    cases hunban : (ofRecords records).isUnban with
    | true =>
      rw [if_neg (by simp)]
      exact ext (by rw [happend, hunban]; rfl)
    | false =>
      cases hfind : more.find? recommendsUnban with
      | some u =>
        rw [hfind] at hlater
        rw [if_pos (.inl ⟨hlater, rfl⟩)]
        exact ext (by rw [happend, hmore, hunban, hfind]; simp)
      | none =>
        rw [hfind] at hlater
        rw [if_neg (by simp [hlater])]
        exact ext (by rw [happend, hunban, hfind, hfirst]; simp)

/-! ## What decides among some rules -/

/-- **The first unban decides, or else the first ban or takedown, or else nothing.**  In whatever
order the rules are, it is the same whether one decides and whether it is an unban; and the summary
of two parts is that of the second where that is an unban and the first is not, or where nothing
decides in the first, and that of the first otherwise. -/
theorem first_unban_or_else_first_ban (records : List PolicyRecord) :
    (ofRecords records).deciding =
      (records.find? (·.recommendation = some .unban)).or
        (records.find? fun r => r.recommendation = some .ban ∨ r.recommendation = some .takedown) ∧
    (∀ others, records.Perm others →
      (ofRecords others).deciding.isSome = (ofRecords records).deciding.isSome ∧
      (ofRecords others).isUnban = (ofRecords records).isUnban) ∧
    ∀ more, ofRecords (records ++ more) =
      if ((ofRecords more).isUnban = true ∧ (ofRecords records).isUnban = false) ∨
        (ofRecords records).deciding = none
      then ofRecords more else ofRecords records := by
  refine ⟨?_, fun others hperm => ⟨?_, ?_⟩, ofRecords_append records⟩
  · have hbans : recommendsBan = fun r =>
        decide (r.recommendation = some .ban ∨ r.recommendation = some .takedown) := by
      funext r
      cases hr : r.recommendation with
      | none => simp [recommendsBan, hr]
      | some recommendation =>
        cases recommendation <;> simp [recommendsBan, hr, Recommendation.isBanLike]
    rw [deciding_ofRecords, hbans]
    rfl
  · rw [isSome_deciding, isSome_deciding, hperm.any_eq, hperm.any_eq]
  · rw [isUnban_ofRecords, isUnban_ofRecords, hperm.any_eq]

/-- An unban decides behind a tombstone and a takedown; the other way round it does, too. -/
theorem first_unban_or_else_first_ban_mixed :
    let rule (key : String) (recommendation : Option Recommendation) : PolicyRecord :=
      { listRoom := "!l:x", kind := .user, stateKey := key, sender := "@m:x",
        content := { entity := "@a:b", recommendation } }
    let front := [rule "a" none, rule "b" (some .takedown)]
    let back := [rule "c" (some .unban), rule "d" (some .ban)]
    (ofRecords (front ++ back)).deciding = some (rule "c" (some .unban)) ∧
      (front ++ back).Perm (back ++ front) ∧
      (ofRecords (back ++ front)).isUnban = (ofRecords (front ++ back)).isUnban ∧
      (ofRecords front).deciding = some (rule "b" (some .takedown)) ∧
      ofRecords (front ++ back) = ofRecords back := by
  intro rule front back
  have hperm : (front ++ back).Perm (back ++ front) := List.perm_append_comm
  obtain ⟨hdecides, horder, -⟩ := first_unban_or_else_first_ban (front ++ back)
  obtain ⟨hfront, -, hparts⟩ := first_unban_or_else_first_ban front
  exact ⟨hdecides.trans (by decide), hperm, (horder _ hperm).2, hfront.trans (by decide),
    (hparts back).trans (if_pos (by decide))⟩

end Moderation.PolicySummary
