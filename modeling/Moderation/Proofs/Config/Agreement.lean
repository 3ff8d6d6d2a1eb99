import Moderation.Proofs.Config.Accepted
import Moderation.Proofs.Json.Agreeing
/-!
# The schema and the decoder of configurations

The schema and the decoder describe one format.  They differ in one thing: the schema takes a number
for an integer by its value, the decoder by the way it is written, and the decoder has sixty-four
bits for it.  A configuration that the schema accepts is therefore read exactly if the numbers in
it that should be integers are words (`Config.malformed_iff`), and 2.0 is one that is not.
-/

namespace Moderation
open Json Json.Schema

/-! ## Sections -/

theorem ServerConfig.agrees : Config.serverSchema.AgreesWith ServerConfig.decoder :=
  (Matches.map ServerConfig.mk (.required (by decide) (agrees_text _ _))).record (by decide)

theorem HomeserverConfig.agrees : Config.homeserverSchema.AgreesWith HomeserverConfig.decoder :=
  (Matches.map HomeserverConfig.mk (.required (by decide) (agrees_text _ _))
    |>.seq (.required (by decide) (agrees_text _ _))
    |>.seq (.required (by decide) (agrees_text _ _))
    |>.seq (.required (by decide) (agrees_text _ _))).record (by decide)

theorem Trust.agrees : (Schema.choice (Trust.all.map Trust.name)).AgreesWith Trust.decoder := by
  intro j _ hj
  obtain ⟨s, hs, rfl⟩ := choice_of_accepts hj
  obtain ⟨t, -, rfl⟩ := List.mem_map.1 hs
  refine iff_of_true ⟨t, ?_⟩ rfl
  simp only [toDraft, decoder, Decoder.name, ofName?_name]

theorem CommandConfig.agrees : Config.commandSchema.AgreesWith CommandConfig.decoder :=
  (Matches.map CommandConfig.mk (.defaulted "require_encryption" _ agrees_truth)
    |>.seq (.defaulted "min_trust_state" _ Trust.agrees)).record (by decide)

theorem EnforcementConfig.agrees : Config.enforcementSchema.AgreesWith EnforcementConfig.decoder :=
  (Matches.map EnforcementConfig.mk (.defaulted "dry_run" _ agrees_truth)
    |>.seq (.defaulted "kick_safety_threshold" _ (agrees_word 0))
    |>.seq (.defaulted "kick_concurrency" _ (agrees_word 1))).record (by decide)

theorem WatchedList.agrees : Config.watchedSchema.AgreesWith WatchedList.decoder :=
  (Matches.map WatchedList.mk (.required (by decide) (agrees_text _ _))
    |>.seq (.required (by decide) (agrees_text _ _))
    |>.seq (.required (by decide) (agrees_text _ _))).record (by decide)

theorem ProtectedRoom.agrees : Config.protectedSchema.AgreesWith ProtectedRoom.decoder :=
  (Matches.map ProtectedRoom.mk (.required (by decide) (agrees_text _ _))
    |>.seq (.defaulted "name" _ (agrees_text _ _))).record (by decide)

theorem StoreKind.agrees :
    (Schema.choice [memory.name, database.name]).AgreesWith StoreKind.decoder := by
  intro j _ hj
  obtain ⟨s, hs, rfl⟩ := choice_of_accepts hj
  rcases List.mem_pair.1 hs with rfl | rfl
  · exact iff_of_true ⟨memory, rfl⟩ rfl
  · exact iff_of_true ⟨database, rfl⟩ rfl

theorem StoreConfig.agrees : Config.storeSchema.AgreesWith StoreConfig.decoder :=
  (Matches.map StoreConfig.mk (.required (by decide) StoreKind.agrees)
    |>.seq (.optional "sqlite_path" ((agrees_text _ _).option rfl))).record (by decide)

theorem AuditConfig.agrees : Config.auditSchema.AgreesWith AuditConfig.decoder :=
  (Matches.map AuditConfig.mk (.required (by decide) (agrees_text _ _))
    |>.seq (.defaulted "immutable_mirror_path" _ ((agrees_text _ _).option rfl))).record (by decide)

theorem Config.agrees : schema.AgreesWith decoder :=
  (Matches.map Config.mk (.required (by decide) ServerConfig.agrees)
    |>.seq (.required (by decide) HomeserverConfig.agrees)
    |>.seq (.defaulted "commands" _ CommandConfig.agrees)
    |>.seq (.defaulted "enforcement" _ EnforcementConfig.agrees)
    |>.seq (.defaulted "admins" _ (agrees_text _ _).list)
    |>.seq (.defaulted "watched_lists" _ WatchedList.agrees.list)
    |>.seq (.defaulted "protected_rooms" _ ProtectedRoom.agrees.list)
    |>.seq (.required (by decide) StoreConfig.agrees)
    |>.seq (.required (by decide) AuditConfig.agrees)).record (by decide)

namespace Config

theorem ofJson_eq_malformed_iff {j : Json} (hj : schema.accepts j = true) :
    ofJson j = .error .malformed ↔ ¬decoder.Takes j := by
  rw [← Decoder.ofJson_eq_none_iff, ofJson, hj]
  cases decoder.ofJson j with
  | none => simp
  | some c => cases hc : c.unsupported? <;> simp [hc]

/-- **What the schema accepts is decoded exactly if each number in it that should be an integer is
written as one of sixty-four bits**, whether it is given as a value or as the text of a file. -/
theorem malformed_iff {j : Json} (haccepts : schema.accepts j = true) :
    (j.Distinct → ((decoder.ofJson j).isSome = true ↔ schema.hasWords j = true)) ∧
      ∀ text, Yaml.value? text = some j →
        (ofText text = .error .malformed ↔ schema.hasWords j = false) := by
  constructor
  · intro hdistinct
    rw [← agrees j hdistinct haccepts, Option.isSome_iff_ne_none, ne_eq,
      Decoder.ofJson_eq_none_iff, not_not]
  · intro text hvalue
    have hread : ofText text = ofJson j := by rw [ofText, hvalue]
    rw [hread, ofJson_eq_malformed_iff haccepts,
      agrees j (distinct_of_value? hvalue haccepts) haccepts, Bool.not_eq_true]

/-- A configuration with a number of kicks at once. -/
def withConcurrency (concurrency : Json) : Json :=
  .object
    [("server", .object [("listen_addr", .string "a")]),
      ("homeserver", .object [("url", .string "http://h"), ("user_id", .string "@b"),
        ("access_token", .string "t"), ("management_room", .string "!m")]),
      ("enforcement", .object [("kick_concurrency", concurrency)]),
      ("store", .object [("type", .string "memory")]),
      ("audit", .object [("jsonl_path", .string "l")])]

theorem distinct_withConcurrency {concurrency : Json} (h : concurrency.Distinct) :
    (withConcurrency concurrency).Distinct := by
  simp [withConcurrency, Distinct, eachObject_object_iff, EachObject.string, h]

/-- Two kicks at once are read if they are written as an integer. -/
theorem malformed_iff_two :
    schema.accepts (withConcurrency (.int 2)) = true ∧
      (decoder.ofJson (withConcurrency (.int 2))).isSome = true := by
  have haccepts : schema.accepts (withConcurrency (.int 2)) = true := by decide
  exact ⟨haccepts,
    ((malformed_iff haccepts).1 (distinct_withConcurrency (.int 2))).2 (by decide)⟩

/-- Two kicks at once are accepted but not read if they are written as 2.0. -/
theorem two_as_float : ∃ x, Yaml.decimal? "2.0".toList = some x ∧
    (withConcurrency (.float x)).Distinct ∧ schema.accepts (withConcurrency (.float x)) = true ∧
      ofJson (withConcurrency (.float x)) = .error .malformed :=
  ⟨{ mantissa := 2 ^ 52, exponent := -51 }, by decide +kernel, distinct_withConcurrency (.float _),
    by decide, by decide⟩

end Config
end Moderation
