import Moderation.Regex
/-!
# What the parts of an expression take

Most atoms take one character, which passes a test (`Atom.TakesOne`); such an atom with a star takes
a run of characters that pass it, and with a plus a run that is not empty.  The anchors take
nothing.  An expression that stands between the two anchors is found in a text just if its parts
take the whole of it, from its first character to its last (`foundIn_anchored`).
-/

namespace Moderation.Regex

variable {a : Atom} {test : Char → Prop} {parts : List Part} {before run after : List Char}

/-- An atom takes one character, which passes a test, wherever that stands. -/
def Atom.TakesOne (a : Atom) (test : Char → Prop) : Prop :=
  ∀ before run after, a.Takes before run after ↔ ∃ c, test c ∧ run = [c]

theorem takesOne_literal (c : Char) : (Atom.literal c).TakesOne (· = c) := fun _ _ _ => by
  simp [Atom.Takes]

theorem takesOne_dot : Atom.dot.TakesOne (· ≠ '\n') := fun _ _ _ => Iff.rfl

theorem takesOne_oneOf (ranges : List (Char × Char)) :
    (Atom.oneOf ranges).TakesOne fun c => ∃ r ∈ ranges, r.1 ≤ c ∧ c ≤ r.2 :=
  fun _ _ _ => Iff.rfl

/-- With a star, an atom takes a run of characters that pass its test. -/
theorem Atom.TakesOne.repeats_iff (h : a.TakesOne test) :
    a.Repeats before run after ↔ ∀ c ∈ run, test c := by
  constructor
  · intro hrun
    induction hrun with
    | done => exact List.forall_mem_nil _
    | more hfirst _ ih =>
      obtain ⟨c, hc, rfl⟩ := (h _ _ _).1 hfirst
      exact List.forall_mem_cons.2 ⟨hc, ih⟩
  · intro hrun
    induction run generalizing before with
    | nil => exact .done
    | cons c run ih =>
      obtain ⟨hc, hrest⟩ := List.forall_mem_cons.1 hrun
      exact .more ((h before [c] (run ++ after)).2 ⟨c, hc, rfl⟩) (ih hrest)

theorem takeInTurn_one (h : a.TakesOne test) :
    TakeInTurn (⟨a, false⟩ :: parts) before run after ↔
      ∃ c rest, run = c :: rest ∧ test c ∧ TakeInTurn parts (before ++ [c]) rest after := by
  constructor
  · rintro ⟨first, rest, rfl, hfirst, hrest⟩
    obtain ⟨c, hc, rfl⟩ := (h _ _ _).1 hfirst
    exact ⟨c, rest, rfl, hc, hrest⟩
  · rintro ⟨c, rest, rfl, hc, hrest⟩
    exact ⟨[c], rest, rfl, (h _ _ _).2 ⟨c, hc, rfl⟩, hrest⟩

theorem takeInTurn_star (h : a.TakesOne test) :
    TakeInTurn (⟨a, true⟩ :: parts) before run after ↔
      ∃ first rest, run = first ++ rest ∧ (∀ c ∈ first, test c) ∧
        TakeInTurn parts (before ++ first) rest after := by
  simp only [TakeInTurn, Part.Takes, if_true, h.repeats_iff]

/-- With a plus, an atom takes a run of characters that pass its test, at least one. -/
theorem takeInTurn_plus (h : a.TakesOne test) :
    TakeInTurn (⟨a, false⟩ :: ⟨a, true⟩ :: parts) before run after ↔
      ∃ first rest, run = first ++ rest ∧ first ≠ [] ∧ (∀ c ∈ first, test c) ∧
        TakeInTurn parts (before ++ first) rest after := by
  rw [takeInTurn_one h]
  simp only [takeInTurn_star h]
  constructor
  · rintro ⟨c, _, rfl, hc, more, rest, rfl, hmore, hrest⟩
    refine ⟨c :: more, rest, rfl, List.cons_ne_nil _ _, List.forall_mem_cons.2 ⟨hc, hmore⟩, ?_⟩
    rwa [List.append_assoc] at hrest
  · rintro ⟨_ | ⟨c, more⟩, rest, rfl, hne, hfirst, hrest⟩
    · exact absurd rfl hne
    · obtain ⟨hc, hmore⟩ := List.forall_mem_cons.1 hfirst
      refine ⟨c, more ++ rest, rfl, hc, more, rest, rfl, hmore, ?_⟩
      rwa [List.append_assoc]

/-- The last anchor leaves nothing after what the parts take. -/
theorem takeInTurn_finish :
    TakeInTurn (parts ++ [⟨.finish, false⟩]) before run after ↔
      after = [] ∧ TakeInTurn parts before run after := by
  induction parts generalizing before run with
  | nil => simp [TakeInTurn, Part.Takes, Atom.Takes]
  | cons p parts ih =>
    simp only [List.cons_append, TakeInTurn, ih]
    constructor
    · rintro ⟨first, rest, hrun, hfirst, hafter, hrest⟩
      exact ⟨hafter, first, rest, hrun, hfirst, hrest⟩
    · rintro ⟨hafter, first, rest, hrun, hfirst, hrest⟩
      exact ⟨first, rest, hrun, hfirst, hafter, hrest⟩

/-- The first anchor leaves nothing before what the parts take. -/
theorem takeInTurn_start :
    TakeInTurn (⟨.start, false⟩ :: parts) before run after ↔
      before = [] ∧ TakeInTurn parts [] run after := by
  constructor
  · rintro ⟨first, rest, rfl, ⟨rfl, rfl⟩, h⟩
    exact ⟨rfl, h⟩
  · rintro ⟨rfl, h⟩
    exact ⟨[], run, rfl, ⟨rfl, rfl⟩, h⟩

/-- **Between the anchors, an expression is found where its parts take the whole text.** -/
theorem foundIn_anchored (parts : List Part) (s : String) :
    FoundIn ⟨⟨.start, false⟩ :: (parts ++ [⟨.finish, false⟩])⟩ s ↔
      TakeInTurn parts [] s.toList [] := by
  simp only [FoundIn, takeInTurn_start, takeInTurn_finish]
  constructor
  · rintro ⟨_, run, _, hs, rfl, rfl, htake⟩
    rw [hs]
    simpa using htake
  · exact fun htake => ⟨[], s.toList, [], by simp, rfl, rfl, htake⟩

end Moderation.Regex
