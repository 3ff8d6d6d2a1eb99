import Moderation.Config.Load
import Moderation.Moderator.World
import Moderation.Proofs.Audit.Log
import Moderation.Proofs.Json.Decoded
import Moderation.Proofs.Lookup
import Moderation.Proofs.Yaml.Keys
/-!
# Configurations that are loaded

A configuration that is loaded has passed three checks that know nothing of each other: the schema,
the decoder and the look at what is supported.  What the bot relies on comes from all three of them
(`Config.load_sound`).

What the schema says of the texts goes over to the configuration field by field (`Gives`), and so
does what the file says (`KeptBy`): written as JSON again, the configuration is what the file stands
for with the defaults of what is left out.  There is a lemma of each sort for a section, so a
section that changes is one definition and two lemmas.
-/

namespace Moderation
open Json Json.Schema

/-- What a member of a configuration is when it is left out. -/
def Config.defaultOf : String → Json
  | "commands" | "enforcement" => .object []
  | "admins" | "watched_lists" | "protected_rooms" => .array []
  | "require_encryption" => .bool true
  | "min_trust_state" => .string "cross_signed_tofu"
  | "dry_run" => .bool false
  | "kick_safety_threshold" => .int 10
  | "kick_concurrency" => .int 4
  | "name" => .string ""
  | _ => .null

theorem ServerConfig.kept :
    Config.serverSchema.KeptBy Config.defaultOf ServerConfig.decoder ServerConfig.toJson := by
  refine .record fun entries c h hb => ?_
  obtain ⟨listen, hlisten, rfl⟩ := Fields.build_map_eq_ok.1 hb
  exact completedMembers_cons (h.completed_required (by decide) rfl (kept_text _ _) hlisten) rfl

theorem HomeserverConfig.kept :
    Config.homeserverSchema.KeptBy Config.defaultOf HomeserverConfig.decoder
      HomeserverConfig.toJson := by
  refine .record fun entries c h hb => ?_
  simp only [Fields.build_map_eq_ok, Fields.build_seq_eq_ok] at hb
  obtain ⟨_, room, ⟨_, token, ⟨_, user, ⟨url, hurl, rfl⟩, huser, rfl⟩, htoken, rfl⟩, hroom, rfl⟩ :=
    hb
  exact completedMembers_cons (h.completed_required (by decide) rfl (kept_text _ _) hurl) <|
    completedMembers_cons (h.completed_required (by decide) rfl (kept_text _ _) huser) <|
    completedMembers_cons (h.completed_required (by decide) rfl (kept_text _ _) htoken) <|
    completedMembers_cons (h.completed_required (by decide) rfl (kept_text _ _) hroom) rfl

theorem Trust.kept : (Schema.choice (Trust.all.map Trust.name)).KeptBy Config.defaultOf
    Trust.decoder Trust.toJson := by
  intro j t hj ht
  obtain ⟨s, hs, rfl⟩ := choice_of_accepts hj
  obtain ⟨u, -, rfl⟩ := List.mem_map.1 hs
  have hread : Trust.decoder (Json.string u.name).toDraft = .ok u := by
    simp only [toDraft, decoder, Decoder.name, ofName?_name]
  rw [hread] at ht
  rw [← Except.ok.inj ht, completed_string, toJson]

theorem CommandConfig.kept :
    Config.commandSchema.KeptBy Config.defaultOf CommandConfig.decoder CommandConfig.toJson := by
  refine .record fun entries c h hb => ?_
  simp only [Fields.build_map_eq_ok, Fields.build_seq_eq_ok] at hb
  obtain ⟨_, trust, ⟨encryption, hencryption, rfl⟩, htrust, rfl⟩ := hb
  exact completedMembers_cons (h.completed_defaulted (by decide) rfl kept_truth rfl hencryption) <|
    completedMembers_cons (h.completed_defaulted (by decide) rfl Trust.kept rfl htrust) rfl

theorem EnforcementConfig.kept :
    Config.enforcementSchema.KeptBy Config.defaultOf EnforcementConfig.decoder
      EnforcementConfig.toJson := by
  refine .record fun entries c h hb => ?_
  simp only [Fields.build_map_eq_ok, Fields.build_seq_eq_ok] at hb
  obtain ⟨_, concurrency, ⟨_, threshold, ⟨dry, hdry, rfl⟩, hthreshold, rfl⟩, hconcurrency, rfl⟩ :=
    hb
  have hword (bound : Int) : (Schema.integer bound).KeptBy Config.defaultOf Decoder.word64
      fun n => .int n.toNat := kept_word bound
  have hthreshold := h.completed_defaulted (by decide) rfl (hword 0) rfl hthreshold
  have hconcurrency := h.completed_defaulted (by decide) rfl (hword 1) rfl hconcurrency
  exact completedMembers_cons (h.completed_defaulted (by decide) rfl kept_truth rfl hdry) <|
    completedMembers_cons hthreshold <| completedMembers_cons hconcurrency rfl

theorem WatchedList.kept :
    Config.watchedSchema.KeptBy Config.defaultOf WatchedList.decoder WatchedList.toJson := by
  refine .record fun entries l h hb => ?_
  simp only [fields, Fields.build_map_eq_ok, Fields.build_seq_eq_ok] at hb
  obtain ⟨_, name, ⟨_, shortcode, ⟨room, hroom, rfl⟩, hshortcode, rfl⟩, hname, rfl⟩ := hb
  exact completedMembers_cons (h.completed_required (by decide) rfl (kept_text _ _) hroom) <|
    completedMembers_cons (h.completed_required (by decide) rfl (kept_text _ _) hshortcode) <|
    completedMembers_cons (h.completed_required (by decide) rfl (kept_text _ _) hname) rfl

theorem ProtectedRoom.kept :
    Config.protectedSchema.KeptBy Config.defaultOf ProtectedRoom.decoder ProtectedRoom.toJson := by
  refine .record fun entries r h hb => ?_
  simp only [fields, Fields.build_map_eq_ok, Fields.build_seq_eq_ok] at hb
  obtain ⟨_, name, ⟨room, hroom, rfl⟩, hname, rfl⟩ := hb
  exact completedMembers_cons (h.completed_required (by decide) rfl (kept_text _ _) hroom) <|
    completedMembers_cons (h.completed_defaulted (by decide) rfl (kept_text _ _) rfl hname) rfl

theorem StoreKind.kept : (Schema.choice [memory.name, database.name]).KeptBy Config.defaultOf
    StoreKind.decoder fun kind => .string kind.name := by
  intro j kind hj hkind
  obtain ⟨s, hs, rfl⟩ := choice_of_accepts hj
  rw [completed_string]
  rcases List.mem_pair.1 hs with rfl | rfl <;> rw [← Except.ok.inj hkind]

theorem StoreConfig.kept :
    Config.storeSchema.KeptBy Config.defaultOf StoreConfig.decoder StoreConfig.toJson := by
  refine .record fun entries c h hb => ?_
  simp only [Fields.build_map_eq_ok, Fields.build_seq_eq_ok] at hb
  obtain ⟨_, path, ⟨kind, hkind, rfl⟩, hpath, rfl⟩ := hb
  have hkind := h.completed_required (by decide) rfl StoreKind.kept hkind
  exact completedMembers_cons hkind <|
    completedMembers_cons
      (h.completed_defaulted (by decide) rfl ((kept_text _ _).option rfl) rfl hpath) rfl

theorem AuditConfig.kept :
    Config.auditSchema.KeptBy Config.defaultOf AuditConfig.decoder AuditConfig.toJson := by
  refine .record fun entries c h hb => ?_
  simp only [Fields.build_map_eq_ok, Fields.build_seq_eq_ok] at hb
  obtain ⟨_, mirror, ⟨path, hpath, rfl⟩, hmirror, rfl⟩ := hb
  exact completedMembers_cons (h.completed_required (by decide) rfl (kept_text _ _) hpath) <|
    completedMembers_cons
      (h.completed_defaulted (by decide) rfl ((kept_text _ _).option rfl) rfl hmirror) rfl

theorem Config.kept : schema.KeptBy defaultOf decoder toJson := by
  refine .record fun entries c h hb => ?_
  simp only [Fields.build_map_eq_ok, Fields.build_seq_eq_ok] at hb
  obtain ⟨_, audit, ⟨_, store, ⟨_, rooms, ⟨_, lists, ⟨_, admins, ⟨_, enforcement, ⟨_, commands,
    ⟨_, homeserver, ⟨server, hserver, rfl⟩, hhomeserver, rfl⟩, hcommands, rfl⟩, henforcement, rfl⟩,
    hadmins, rfl⟩, hlists, rfl⟩, hrooms, rfl⟩, hstore, rfl⟩, haudit, rfl⟩ := hb
  have husers : (Schema.list userSchema).KeptBy defaultOf Decoder.string.list textArray :=
    (kept_text _ _).list
  have hadmins := h.completed_defaulted (by decide) rfl husers rfl hadmins
  have hlists := h.completed_defaulted (by decide) rfl WatchedList.kept.list rfl hlists
  have hrooms := h.completed_defaulted (by decide) rfl ProtectedRoom.kept.list rfl hrooms
  exact completedMembers_cons (h.completed_required (by decide) rfl ServerConfig.kept hserver) <|
    completedMembers_cons
      (h.completed_required (by decide) rfl HomeserverConfig.kept hhomeserver) <|
    completedMembers_cons
      (h.completed_defaulted (by decide) rfl CommandConfig.kept rfl hcommands) <|
    completedMembers_cons
      (h.completed_defaulted (by decide) rfl EnforcementConfig.kept rfl henforcement) <|
    completedMembers_cons hadmins <| completedMembers_cons hlists <|
    completedMembers_cons hrooms <|
    completedMembers_cons (h.completed_required (by decide) rfl StoreConfig.kept hstore) <|
    completedMembers_cons (h.completed_required (by decide) rfl AuditConfig.kept haudit) rfl

/-! ## What the schema gives -/

theorem gives_user : Config.userSchema.Gives Decoder.string (·.startsWith "@" = true) := by
  intro j s hj hs
  simpa using gives_text _ _ j s hj hs

theorem gives_room : Config.roomSchema.Gives Decoder.string (·.startsWith "!" = true) := by
  intro j s hj hs
  simpa using gives_text _ _ j s hj hs

theorem HomeserverConfig.given : Config.homeserverSchema.Gives HomeserverConfig.decoder fun c =>
    (c.url.startsWith "http://" = true ∨ c.url.startsWith "https://" = true) ∧
      c.userId.startsWith "@" = true := by
  intro j c hj hc
  obtain ⟨entries, rfl, h, hb⟩ := admitted_of_record hj hc
  simp only [Fields.build_map_eq_ok, Fields.build_seq_eq_ok] at hb
  obtain ⟨_, room, ⟨_, token, ⟨_, user, ⟨url, hurl, rfl⟩, huser, rfl⟩, htoken, rfl⟩, hroom, rfl⟩ :=
    hb
  have hscheme := h.given_required (by decide) rfl (gives_text _ _) hurl
  have hsigil := h.given_required (by decide) rfl gives_user huser
  exact ⟨by simpa using hscheme, hsigil⟩

theorem WatchedList.given :
    Config.watchedSchema.Gives WatchedList.decoder (·.roomId.startsWith "!" = true) := by
  intro j l hj hl
  obtain ⟨entries, rfl, h, hb⟩ := admitted_of_record hj hl
  simp only [fields, Fields.build_map_eq_ok, Fields.build_seq_eq_ok] at hb
  obtain ⟨_, name, ⟨_, shortcode, ⟨room, hroom, rfl⟩, hshortcode, rfl⟩, hname, rfl⟩ := hb
  have hsigil := h.given_required (by decide) rfl gives_room hroom
  exact hsigil

theorem ProtectedRoom.given :
    Config.protectedSchema.Gives ProtectedRoom.decoder (·.roomId.startsWith "!" = true) := by
  intro j r hj hr
  obtain ⟨entries, rfl, h, hb⟩ := admitted_of_record hj hr
  simp only [fields, Fields.build_map_eq_ok, Fields.build_seq_eq_ok] at hb
  obtain ⟨_, name, ⟨room, hroom, rfl⟩, hname, rfl⟩ := hb
  have hsigil := h.given_required (by decide) rfl gives_room hroom
  exact hsigil

namespace Config

/-- What the schema has to say of the texts in a configuration. -/
structure WellSpelled (c : Config) : Prop where
  url : c.homeserver.url.startsWith "http://" = true ∨ c.homeserver.url.startsWith "https://" = true
  user : c.homeserver.userId.startsWith "@" = true
  admins : ∀ user ∈ c.admins, user.startsWith "@" = true
  lists : ∀ l ∈ c.lists, l.roomId.startsWith "!" = true
  rooms : ∀ r ∈ c.rooms, r.roomId.startsWith "!" = true

theorem wellSpelled : schema.Gives decoder WellSpelled := by
  intro j c hj hc
  obtain ⟨entries, rfl, h, hb⟩ := admitted_of_record hj hc
  simp only [Fields.build_map_eq_ok, Fields.build_seq_eq_ok] at hb
  obtain ⟨_, audit, ⟨_, store, ⟨_, rooms, ⟨_, lists, ⟨_, admins, ⟨_, enforcement, ⟨_, commands,
    ⟨_, homeserver, ⟨server, hserver, rfl⟩, hhomeserver, rfl⟩, hcommands, rfl⟩, henforcement, rfl⟩,
    hadmins, rfl⟩, hlists, rfl⟩, hrooms, rfl⟩, hstore, rfl⟩, haudit, rfl⟩ := hb
  obtain ⟨hurl, huser⟩ := h.given_required (by decide) rfl HomeserverConfig.given hhomeserver
  exact {
    url := hurl
    user := huser
    admins := h.given_defaulted (by decide) rfl gives_user.list (by simp) hadmins
    lists := h.given_defaulted (by decide) rfl WatchedList.given.list (by simp) hlists
    rooms := h.given_defaulted (by decide) rfl ProtectedRoom.given.list (by simp) hrooms }

/-! ## What is supported -/

theorem firstRepeated_eq_none_iff {seen texts : List String} :
    firstRepeated seen texts = none ↔ texts.Nodup ∧ ∀ s ∈ texts, s ∉ seen := by
  induction texts generalizing seen with
  | nil => simp [firstRepeated]
  | cons s rest ih =>
    rw [firstRepeated]
    split
    · next hs => simp [hs]
    · next hs =>
      rw [ih, List.nodup_cons]
      simp only [List.mem_cons, not_or, forall_eq_or_imp]
      constructor
      · rintro ⟨hnodup, hrest⟩
        exact ⟨⟨fun hmem => (hrest s hmem).1 rfl, hnodup⟩, hs, fun t ht => (hrest t ht).2⟩
      · rintro ⟨⟨hnew, hnodup⟩, -, hrest⟩
        exact ⟨hnodup, fun t ht => ⟨fun heq => hnew (heq ▸ ht), hrest t ht⟩⟩

/-- The settings of a configuration that the bot supports. -/
structure Supported (c : Config) : Prop where
  store : c.store = { kind := .memory, path := none } ∨
    ∃ path, c.store = { kind := .database, path := some path } ∧ Text.isBlankText path = false
  concurrency : 1 ≤ c.enforcement.kickConcurrency
  managementRoom : c.homeserver.managementRoom.startsWith "!" = true
  shortcodes : (c.lists.map (·.shortcode)).Nodup

theorem supported_of_unsupported? {c : Config} (h : c.unsupported? = none) : c.Supported := by
  unfold unsupported? at h
  split at h
  · cases h
  next hmemory =>
  split at h
  · cases h
  next hdatabase =>
  split at h
  · cases h
  next hconcurrency =>
  split at h
  · cases h
  next hroom =>
  rw [Option.map_eq_none_iff, firstRepeated_eq_none_iff] at h
  refine ⟨?_, ?_, by simpa using hroom, h.1⟩
  · rcases hstore : c.store with ⟨_ | _, _ | path⟩
    · exact .inl rfl
    · simp [hstore] at hmemory
    · simp [hstore] at hdatabase
    · exact .inr ⟨path, rfl, by simpa [hstore] using hdatabase⟩
  · have hne : c.enforcement.kickConcurrency.toNat ≠ 0 :=
      fun h0 => hconcurrency (UInt64.toNat.inj h0)
    exact UInt64.le_iff_toNat_le.2 (Nat.one_le_iff_ne_zero.2 hne)

/-! ## Loading -/

theorem of_ofJson {j : Json} {c : Config} (h : ofJson j = .ok c) :
    schema.accepts j = true ∧ decoder j.toDraft = .ok c ∧ c.unsupported? = none := by
  unfold ofJson at h
  split at h
  · cases h
  next haccepts =>
  split at h
  · cases h
  next d hread =>
  split at h
  · cases h
  next hsupported =>
  obtain rfl := Except.ok.inj h
  exact ⟨by simpa using haccepts, Decoder.ofJson_eq_some_iff.1 hread, hsupported⟩

/-- A configuration that is loaded is read off what the text of its file stands for. -/
theorem of_load {file : FileState} {c : Config} (h : load file = .ok c) :
    ∃ text j, file.readText = .ok text ∧ Yaml.value? text = some j ∧ ofJson j = .ok c := by
  unfold load at h
  split at h
  · next text htext =>
    unfold ofText at h
    split at h
    · next j hj => exact ⟨text, j, htext, hj, h⟩
    · cases h
  · cases h

/-- What stands for a configuration that the schema accepts has no two members of one name. -/
theorem distinct_of_value? {text : String} {j : Json} (hvalue : Yaml.value? text = some j)
    (haccepts : schema.accepts j = true) : j.Distinct := by
  have hnames : schema.namesAll Yaml.isTextual = true := by decide
  exact Yaml.distinct_of_accepts hnames haccepts (Yaml.eachObject_value? hvalue)

/-- **A configuration that is loaded is safe to run, and is what its file says.**  Its settings are
supported and its texts are spelled as they should be, so each list goes by its short code alone;
and written as JSON it is the value that the file stands for, which has no members but those of the
schema and each of them once, with the defaults of those that are left out. -/
theorem load_sound {file : FileState} {c : Config} (h : load file = .ok c) :
    c.Supported ∧ c.WellSpelled ∧
      (∀ (σ : Type) (ctx : Context σ), ctx.lists = c.lists →
        ∀ l ∈ c.lists, ctx.listNamed l.shortcode = some l) ∧
      ∃ text j, file.readText = .ok text ∧ Yaml.value? text = some j ∧ j.Distinct ∧
        schema.knows j = true ∧ c.toJson = schema.completed defaultOf j := by
  obtain ⟨text, j, htext, hvalue, hread⟩ := of_load h
  obtain ⟨haccepts, hdecoded, hsupported⟩ := of_ofJson hread
  have hs := supported_of_unsupported? hsupported
  refine ⟨hs, wellSpelled j c haccepts hdecoded, fun σ ctx hlists l hl => ?_,
    text, j, htext, hvalue, distinct_of_value? hvalue haccepts, knows_of_accepts haccepts,
    (kept j c haccepts hdecoded).symm⟩
  rw [Context.listNamed, hlists]
  exact find?_of_nodup hs.shortcodes hl

/-- The text of a configuration that leaves out most of what it can. -/
def briefText : String :=
  "server: \x7blisten_addr: a\x7d\n" ++
    "homeserver: \x7burl: http://h, user_id: '@b', access_token: t, management_room: '!m'\x7d\n" ++
    "watched_lists: [\x7broom_id: '!l', shortcode: s, name: n\x7d]\n" ++
    "store: \x7btype: memory\x7d\naudit: \x7bjsonl_path: l\x7d\n"

/-- The configuration that the text describes. -/
def brief : Config where
  server := { listenAddress := "a" }
  homeserver := { url := "http://h", userId := "@b", accessToken := "t", managementRoom := "!m" }
  lists := [{ roomId := "!l", shortcode := "s", name := "n" }]
  store := { kind := .memory }
  audit := { path := "l" }

theorem load_sound_brief :
    load (.file briefText.toUTF8) = .ok brief ∧ brief.Supported ∧
      ∀ ctx : Context Unit, ctx.lists = brief.lists →
        ctx.listNamed "s" = some { roomId := "!l", shortcode := "s", name := "n" } := by
  have hload : load (.file briefText.toUTF8) = .ok brief := by
    rw [load, FileState.readText_file]
    decide +kernel
  obtain ⟨hsupported, -, hnamed, -⟩ := load_sound hload
  exact ⟨hload, hsupported, fun ctx hctx => hnamed Unit ctx hctx _ List.mem_cons_self⟩

end Config
end Moderation
