import Moderation.Command.Parser
import Moderation.Proofs.Text.Words
/-!
# The grammar of commands

A command has a verb and then words: the flag it may be given, the names it needs, and a reason.
What a message is read as depends on its **fields** alone, which are its words with the first in
lower case (`parse_eq`).

A command is **well-formed** if its names and the parts of its reason are words and its first name
is not taken for the flag that it lacks.  The commands that are read are those that are well-formed
(`wellFormed_of_parse`), and each is read from its own text (`WellFormed.parse_text`).  Where the
verb is known and too few arguments follow its flag, it is said how the verb is used, and nowhere
else (`ofVerb_eq_error_iff`).
-/

namespace Moderation.Command

/-- The words of a message, the first in lower case. -/
def fields (body : String) : List String :=
  match Text.words body with
  | [] => []
  | verb :: args => Text.lower verb :: args

/-- A message is read by its fields. -/
theorem parse_eq (body : String) :
    parse body = match fields body with
      | [] => .ok none
      | verb :: args => ofVerb verb args := by
  unfold parse fields
  cases Text.words body <;> rfl

/-! ## Verbs and how they are used -/

/-- How a verb is used: the flag it may be given, how many arguments it needs after that, and what
is said where they are missing. -/
structure Usage where
  flag : Option String := none
  needed : Nat
  text : String
  deriving DecidableEq, Repr

/-- The verbs that are known. -/
def usages : List (String × Usage) :=
  [("!join", { needed := 1, text := "!join <room ID>..." }),
    ("!leave", { needed := 1, text := "!leave <room ID>..." }),
    ("!redact", { needed := 1, text := "!redact <user ID> [reason]" }),
    ("!kick",
      { flag := some "--force", needed := 1,
        text := "!kick [--force] <user ID or glob> [reason]" }),
    ("!ban",
      { flag := some "--hash", needed := 2,
        text := "!ban [--hash] <list shortcode> <entity> [reason]" }),
    ("!takedown",
      { flag := some "--hash", needed := 2,
        text := "!takedown [--hash] <list shortcode> <entity> [reason]" }),
    ("!remove-ban", { needed := 2, text := "!remove-ban <list shortcode> <entity>" }),
    ("!remove-unban", { needed := 2, text := "!remove-unban <list shortcode> <entity>" }),
    ("!remove-policy", { needed := 2, text := "!remove-policy <list shortcode> <entity>" }),
    ("!add-unban", { needed := 2, text := "!add-unban <list shortcode> <entity> <reason>" }),
    ("!match", { needed := 1, text := "!match <entity or hash>" })]

/-- The arguments that are left after a flag, if it stands first. -/
def Usage.given (u : Usage) (args : List String) : List String :=
  if args.head? = u.flag then args.tail else args

theorem verb_mem_usages (c : Command) : c.verb ∈ usages.map (·.1) := by
  cases c with
  | ban takedown => cases takedown <;> simp [verb, usages]
  | remove kind => cases kind <;> simp [verb, usages]
  | _ => simp [verb, usages]

/-- The verb of a command is a word in lower case. -/
theorem isWord_lower_verb (c : Command) : Text.IsWord c.verb ∧ Text.lower c.verb = c.verb := by
  have hall : ∀ verb ∈ usages.map (·.1), Text.IsWord verb ∧ Text.lower verb = verb := by
    decide +kernel
  exact hall c.verb c.verb_mem_usages

/-! ## The parts of a command -/

/-- The flag of a command, if it is set. -/
def flags : Command → List String
  | .kick true _ _ => ["--force"]
  | .ban _ true _ _ _ => ["--hash"]
  | _ => []

/-- The flag that a command could have but has not. -/
def unsetFlag? : Command → Option String
  | .kick false _ _ => some "--force"
  | .ban _ false _ _ _ => some "--hash"
  | _ => none

/-- What a command names: rooms, a user, a pattern, or a list and an entity. -/
def names : Command → List String
  | .join rooms => rooms
  | .leave targets => targets
  | .redact user _ => [user]
  | .kick _ pattern _ => [pattern]
  | .ban _ _ list target _ => [list, target]
  | .remove _ list target => [list, target]
  | .addUnban list target _ => [list, target]
  | .lookUp target => [target]

/-- The reason of a command, empty where none is given. -/
def reason : Command → String
  | .redact _ reason => reason
  | .kick _ _ reason => reason
  | .ban _ _ _ _ reason => reason
  | .addUnban _ _ reason => reason
  | _ => ""

/-- The first name of a command is not taken for the flag that it lacks. -/
def Unmistaken (c : Command) : Prop := ∀ flag, c.unsetFlag? = some flag → c.names.head? ≠ some flag

/-- A command that can be typed. -/
structure WellFormed (c : Command) : Prop where
  named : c.names ≠ []
  names_word : ∀ name ∈ c.names, Text.IsWord name
  reason_words : ∃ ws, (∀ word ∈ ws, Text.IsWord word) ∧ c.reason = Text.unwords ws
  unmistaken : c.Unmistaken

theorem isWord_of_mem_flags {c : Command} {flag : String} (h : flag ∈ c.flags) :
    Text.IsWord flag := by
  have hall : ∀ flag ∈ ["--force", "--hash"], Text.IsWord flag := by decide
  refine hall flag ?_
  unfold flags at h
  split at h <;> simp_all

theorem arguments_eq (c : Command) : c.arguments = c.flags ++ c.names ++ reasonWords c.reason := by
  cases c with
  | join rooms | leave rooms => exact (List.append_nil rooms).symm
  | kick force => cases force <;> rfl
  | ban _ hashed => cases hashed <;> rfl
  | _ => rfl

theorem unwords_reasonWords (before : List String) {ws : List String}
    (h : ∀ word ∈ ws, Text.IsWord word) :
    Text.unwords (before ++ reasonWords (Text.unwords ws)) = Text.unwords (before ++ ws) := by
  by_cases hempty : ws = []
  · subst hempty
    rfl
  · have hreason : Text.unwords ws ≠ "" := fun he => hempty (Text.eq_nil_of_unwords_eq_empty h he)
    rw [reasonWords, if_neg (by simpa using hreason), Text.unwords_append_unwords before hempty]

/-- **The fields of a command's text** are its verb, its flag, its names and the words of its
reason. -/
theorem fields_text {c : Command} {ws : List String} (hnames : ∀ name ∈ c.names, Text.IsWord name)
    (hws : ∀ word ∈ ws, Text.IsWord word) (hreason : c.reason = Text.unwords ws) :
    fields c.text = c.verb :: (c.flags ++ c.names ++ ws) := by
  obtain ⟨hverb, hlower⟩ := c.isWord_lower_verb
  have htext : c.text = Text.unwords (c.verb :: (c.flags ++ c.names ++ ws)) := by
    rw [text, arguments_eq, hreason]
    exact unwords_reasonWords (c.verb :: (c.flags ++ c.names)) hws
  have hwords : Text.words c.text = c.verb :: (c.flags ++ c.names ++ ws) := by
    rw [htext]
    refine Text.words_unwords fun word hword => ?_
    simp only [List.mem_cons, List.mem_append] at hword
    rcases hword with rfl | (hword | hword) | hword
    · exact hverb
    · exact isWord_of_mem_flags hword
    · exact hnames word hword
    · exact hws word hword
  rw [fields, hwords]
  exact congrArg (· :: _) hlower

/-! ## What is read -/

theorem takeFlag_of_ne {flag word : String} (h : word ≠ flag) (rest : List String) :
    takeFlag flag (word :: rest) = (false, word :: rest) := by
  rw [takeFlag, if_neg h]

/-- **A command is read from its parts.** -/
theorem ofVerb_parts {c : Command} (hnamed : c.names ≠ []) (hunmistaken : c.Unmistaken)
    {ws : List String} (hws : ∀ word ∈ ws, Text.IsWord word)
    (hreason : c.reason = Text.unwords ws) :
    ofVerb c.verb (c.flags ++ c.names ++ ws) = .ok (some c) := by
  cases c with
  | join rooms | leave rooms =>
    -- There is no reason, so nothing stands after the rooms.
    obtain rfl : ws = [] := Text.eq_nil_of_unwords_eq_empty hws hreason.symm
    have hrooms : rooms ≠ [] := hnamed
    simp [ofVerb, verb, flags, names, hrooms]
  | redact user given | addUnban list target given =>
    obtain rfl : given = Text.unwords ws := hreason
    rfl
  | kick force pattern given =>
    obtain rfl : given = Text.unwords ws := hreason
    cases force with
    | true => rfl
    | false =>
      have hne : pattern ≠ "--force" := fun heq => hunmistaken _ rfl (congrArg some heq)
      simp only [ofVerb, verb, flags, names, List.nil_append, List.cons_append,
        takeFlag_of_ne hne]
  | ban takedown hashed list target given =>
    obtain rfl : given = Text.unwords ws := hreason
    cases hashed with
    | true => cases takedown <;> rfl
    | false =>
      have hne : list ≠ "--hash" := fun heq => hunmistaken _ rfl (congrArg some heq)
      cases takedown <;>
        simp only [ofVerb, parseBan, verb, flags, names, List.nil_append, List.cons_append,
          takeFlag_of_ne hne] <;>
        rfl
  | remove kind list target => cases kind <;> rfl
  | lookUp target => rfl

/-- **Commands are read from their own text.** -/
theorem WellFormed.parse_text {c : Command} (h : c.WellFormed) : parse c.text = .ok (some c) := by
  obtain ⟨ws, hws, hreason⟩ := h.reason_words
  rw [parse_eq, fields_text h.names_word hws hreason]
  exact ofVerb_parts h.named h.unmistaken hws hreason

/-- What a command is read from: its flag, its names and the words of its reason.  A command that
takes no reason drops what stands after its names. -/
structure ReadFrom (c : Command) (args : List String) : Prop where
  named : c.names ≠ []
  unmistaken : c.Unmistaken
  parts : ∃ ws dropped, args = c.flags ++ c.names ++ ws ++ dropped ∧ c.reason = Text.unwords ws

theorem parts_of_takeFlag {flag : String} {args rest : List String} {set : Bool}
    (h : takeFlag flag args = (set, rest)) :
    args = (if set then [flag] else []) ++ rest ∧ (set = false → rest.head? ≠ some flag) := by
  cases args with
  | nil =>
    cases h
    simp
  | cons word others =>
    by_cases heq : word = flag
    · rw [takeFlag, if_pos heq] at h
      cases h
      simp [heq]
    · rw [takeFlag_of_ne heq] at h
      cases h
      simpa using heq

theorem readFrom_kick {args : List String} {c : Command}
    (h : ofVerb "!kick" args = .ok (some c)) : c.ReadFrom args := by
  rcases htake : takeFlag "--force" args with ⟨force, rest⟩
  obtain ⟨hargs, hunset⟩ := parts_of_takeFlag htake
  simp only [ofVerb, htake] at h
  split at h
  · next pattern given =>
    cases h
    refine ⟨by simp [names], ?_, given, [], ?_, rfl⟩
    · cases force with
      | true => nofun
      | false =>
        rintro _ ⟨⟩
        exact hunset rfl
    · cases force <;> simpa [flags, names] using hargs
  · cases h

theorem readFrom_ban {verb : String} {takedown : Bool} {args : List String} {c : Command}
    (h : (parseBan verb takedown args).map some = .ok (some c)) : c.ReadFrom args := by
  rcases htake : takeFlag "--hash" args with ⟨hashed, rest⟩
  obtain ⟨hargs, hunset⟩ := parts_of_takeFlag htake
  simp only [parseBan, htake] at h
  split at h
  · next list target given =>
    cases h
    refine ⟨by simp [names], ?_, given, [], ?_, rfl⟩
    · cases hashed with
      | true => nofun
      | false =>
        rintro _ ⟨⟩
        exact hunset rfl
    · cases hashed <;> simpa [flags, names] using hargs
  · cases h

theorem readFrom_remove {verb : String} {kind : RemovalKind} {args : List String} {c : Command}
    (h : (parseRemoval verb kind args).map some = .ok (some c)) : c.ReadFrom args := by
  unfold parseRemoval at h
  split at h
  · next list target dropped =>
    cases h
    exact ⟨by simp [names], nofun, [], dropped, by simp [flags, names], rfl⟩
  · cases h

/-- **What is read has the arguments for its parts.** -/
theorem readFrom_of_ofVerb {verb : String} {args : List String} {c : Command}
    (h : ofVerb verb args = .ok (some c)) : c.ReadFrom args := by
  by_cases hkick : verb = "!kick"
  · subst hkick
    exact readFrom_kick h
  unfold ofVerb at h
  split at h
  -- Rooms to join or to leave.
  iterate 2
    · split at h
      · cases h
      · next hargs =>
        cases h
        exact ⟨by simpa [names] using hargs, nofun, [], [], by simp [flags, names], rfl⟩
  · split at h
    · next user given =>
      cases h
      exact ⟨by simp [names], nofun, given, [], by simp [flags, names], rfl⟩
    · cases h
  · exact absurd rfl hkick
  iterate 2
    · exact readFrom_ban h
  iterate 3
    · exact readFrom_remove h
  · split at h
    · next list target given =>
      cases h
      exact ⟨by simp [names], nofun, given, [], by simp [flags, names], rfl⟩
    · cases h
  · split at h
    · next target dropped =>
      cases h
      exact ⟨by simp [names], nofun, [], dropped, by simp [flags, names], rfl⟩
    · cases h
  · cases h

/-- **Commands that are read are well-formed.** -/
theorem wellFormed_of_parse {body : String} {c : Command} (h : parse body = .ok (some c)) :
    c.WellFormed := by
  unfold parse ofWords at h
  split at h
  · cases h
  · next verb args hwords =>
    obtain ⟨hnamed, hunmistaken, ws, dropped, hargs, hreason⟩ := readFrom_of_ofVerb h
    have hword (word : String) (hmem : word ∈ args) : Text.IsWord word :=
      Text.isWord_of_mem_words (hwords ▸ List.mem_cons_of_mem verb hmem)
    refine ⟨hnamed, fun name hname => hword name ?_, ⟨ws, fun word hmem => hword word ?_, hreason⟩,
      hunmistaken⟩
    · simp [hargs, hname]
    · simp [hargs, hmem]

/-! ## When it is said how a verb is used -/

theorem Usage.given_of_none {u : Usage} (h : u.flag = none) (args : List String) :
    u.given args = args := by
  cases args <;> simp [given, h]

theorem takeFlag_snd (flag : String) (args : List String) (u : Usage) (h : u.flag = some flag) :
    (takeFlag flag args).2 = u.given args := by
  cases args with
  | nil => simp [takeFlag, Usage.given, h]
  | cons word rest => by_cases heq : word = flag <;> simp [takeFlag, Usage.given, h, heq]

variable {verb : String} {args : List String} {e : UsageError}

theorem ofVerb_kick_eq_error_iff {u : Usage} (h : ("!kick", u) ∈ usages) :
    ofVerb "!kick" args = .error e ↔ (u.given args).length < u.needed ∧ e = ⟨u.text⟩ := by
  obtain rfl : u = ⟨some "--force", 1, "!kick [--force] <user ID or glob> [reason]"⟩ := by
    simpa [usages] using h
  rw [← takeFlag_snd "--force" args _ rfl]
  rcases htake : takeFlag "--force" args with ⟨force, rest⟩
  cases rest <;> simp [ofVerb, htake, eq_comm]

/-- A list and an entity are enough. -/
theorem not_lacking (list target : String) (given : List String) :
    ¬(list :: target :: given).length < 2 :=
  Nat.not_lt.2 (Nat.le_add_left 2 given.length)

theorem parseBan_eq_error_iff {takedown : Bool} {u : Usage} (hflag : u.flag = some "--hash")
    (hneeded : u.needed = 2)
    (htext : u.text = verb ++ " [--hash] <list shortcode> <entity> [reason]") :
    (parseBan verb takedown args).map some = .error e ↔
      (u.given args).length < u.needed ∧ e = ⟨u.text⟩ := by
  rw [← takeFlag_snd "--hash" args u hflag, hneeded, htext]
  rcases htake : takeFlag "--hash" args with ⟨hashed, rest⟩
  rcases rest with _ | ⟨list, _ | ⟨target, given⟩⟩
  · simp [parseBan, htake, Except.map, eq_comm]
  · simp [parseBan, htake, Except.map, eq_comm]
  · exact iff_of_false (by simp [parseBan, htake, Except.map])
      fun h => not_lacking list target given h.1

theorem parseRemoval_eq_error_iff {kind : RemovalKind} {u : Usage} (hflag : u.flag = none)
    (hneeded : u.needed = 2) (htext : u.text = verb ++ " <list shortcode> <entity>") :
    (parseRemoval verb kind args).map some = .error e ↔
      (u.given args).length < u.needed ∧ e = ⟨u.text⟩ := by
  rw [u.given_of_none hflag, hneeded, htext]
  rcases args with _ | ⟨list, _ | ⟨target, dropped⟩⟩
  · simp [parseRemoval, Except.map, eq_comm]
  · simp [parseRemoval, Except.map, eq_comm]
  · exact iff_of_false (by simp [parseRemoval, Except.map])
      fun h => not_lacking list target dropped h.1

/-- **A known verb is explained exactly where it lacks arguments.** -/
theorem ofVerb_eq_error_iff_of_mem {u : Usage} (h : (verb, u) ∈ usages) :
    ofVerb verb args = .error e ↔ (u.given args).length < u.needed ∧ e = ⟨u.text⟩ := by
  have hmem := h
  simp only [usages, List.mem_cons, Prod.mk.injEq, List.not_mem_nil, or_false] at hmem
  rcases hmem with ⟨rfl, rfl⟩ | ⟨rfl, rfl⟩ | ⟨rfl, rfl⟩ | ⟨rfl, rfl⟩ | ⟨rfl, rfl⟩ | ⟨rfl, rfl⟩ |
    ⟨rfl, rfl⟩ | ⟨rfl, rfl⟩ | ⟨rfl, rfl⟩ | ⟨rfl, rfl⟩ | ⟨rfl, rfl⟩
  iterate 3
    · rw [Usage.given_of_none rfl]
      cases args <;> simp [ofVerb, eq_comm]
  · exact ofVerb_kick_eq_error_iff h
  iterate 2
    · exact parseBan_eq_error_iff rfl rfl (by decide)
  iterate 3
    · exact parseRemoval_eq_error_iff rfl rfl (by decide)
  · rw [Usage.given_of_none rfl]
    rcases args with _ | ⟨list, _ | ⟨target, given⟩⟩
    · simp [ofVerb, eq_comm]
    · simp [ofVerb, eq_comm]
    · exact iff_of_false (by simp [ofVerb]) fun h => not_lacking list target given h.1
  · rw [Usage.given_of_none rfl]
    cases args <;> simp [ofVerb, eq_comm]

theorem ofVerb_of_unknown (h : verb ∉ usages.map (·.1)) : ofVerb verb args = .ok none := by
  unfold ofVerb
  split <;> simp_all [usages]

/-- A verb is explained exactly where it is known and lacks arguments. -/
theorem ofVerb_eq_error_iff :
    ofVerb verb args = .error e ↔
      ∃ u, (verb, u) ∈ usages ∧ (u.given args).length < u.needed ∧ e = ⟨u.text⟩ := by
  constructor
  · intro h
    by_cases hknown : verb ∈ usages.map (·.1)
    · obtain ⟨⟨_, u⟩, hmem, rfl⟩ := List.mem_map.1 hknown
      exact ⟨u, hmem, (ofVerb_eq_error_iff_of_mem hmem).1 h⟩
    · rw [ofVerb_of_unknown hknown] at h
      cases h
  · rintro ⟨u, hmem, hfew⟩
    exact (ofVerb_eq_error_iff_of_mem hmem).2 hfew

/-- **The grammar of commands.**  What a message is read as depends on its fields alone.  A command
that is read is well-formed, and is read again from its own text; so is every command that is
well-formed.  And it is said how a verb is used exactly where the verb is known and too few
arguments follow the flag that it may be given. -/
theorem grammar :
    (∀ body body', fields body = fields body' → parse body = parse body') ∧
      (∀ body c, parse body = .ok (some c) → c.WellFormed ∧ parse c.text = .ok (some c)) ∧
      (∀ c : Command, c.WellFormed → parse c.text = .ok (some c)) ∧
      ∀ body e, parse body = .error e ↔
        ∃ verb args u, fields body = verb :: args ∧ (verb, u) ∈ usages ∧
          (u.given args).length < u.needed ∧ e = ⟨u.text⟩ := by
  refine ⟨fun body body' h => ?_, fun body c h => ?_, fun c h => h.parse_text, fun body e => ?_⟩
  · rw [parse_eq, parse_eq, h]
  · have hwell := wellFormed_of_parse h
    exact ⟨hwell, hwell.parse_text⟩
  · rw [parse_eq]
    cases hfields : fields body with
    | nil => simp
    | cons verb args =>
      refine ofVerb_eq_error_iff.trans ⟨?_, ?_⟩
      · rintro ⟨u, hmem, hfew⟩
        exact ⟨verb, args, u, rfl, hmem, hfew⟩
      · rintro ⟨_, _, u, heq, hmem, hfew⟩
        cases heq
        exact ⟨u, hmem, hfew⟩

/-- A ban with its flag is read, whatever its spacing, and is read again from its own text. -/
theorem grammar_hashed_ban :
    let c : Command := .ban false true "spam" "@u:x" "flooding rooms"
    parse "  !BAN --hash  spam @u:x flooding\trooms" = .ok (some c) ∧
      c.text = "!ban --hash spam @u:x flooding rooms" ∧ parse c.text = .ok (some c) := by
  have hread : parse "  !BAN --hash  spam @u:x flooding\trooms" =
      .ok (some (.ban false true "spam" "@u:x" "flooding rooms")) := by
    rfl
  exact ⟨hread, by decide +kernel, (grammar.2.1 _ _ hread).2⟩

end Moderation.Command
