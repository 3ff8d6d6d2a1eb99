import Moderation.Config.Basic
import Moderation.File
import Moderation.Json.Schema
import Moderation.Text.Blank
import Moderation.Yaml.Document
/-!
# Loading a configuration

A configuration is written in YAML.  Its file is read, and what the text stands for is held against
a schema, decoded, and checked for what the bot does not support; the first step that fails says why
there is no configuration.
-/

namespace Moderation
open Json

/-- What a configuration may ask for but the bot does not support. -/
inductive UnsupportedSetting where
  | pathWithoutDatabase
  | databaseWithoutPath
  | noKicksAtOnce
  | managementRoom
  | repeatedShortcode (shortcode : String)
  deriving DecidableEq, Repr

/-- The text of what is not supported. -/
def UnsupportedSetting.text : UnsupportedSetting → String
  | .pathWithoutDatabase => "store.sqlite_path is not supported when store.type=memory"
  | .databaseWithoutPath => "store.sqlite_path is required when store.type=sqlite"
  | .noKicksAtOnce => "enforcement.kick_concurrency must be >= 1"
  | .managementRoom => "homeserver.management_room must be a room ID"
  | .repeatedShortcode shortcode =>
    "watched_lists shortcode " ++ shortcode ++ " is used more than once"

/-- Why there is no configuration. -/
inductive ConfigError where
  | unreadable (fault : FileFault)
  | malformed
  | schema
  | unsupported (setting : UnsupportedSetting)
  deriving DecidableEq, Repr

/-- The text of an error, as far as it is the bot's own. -/
def ConfigError.message? : ConfigError → Option String
  | .unreadable fault => some ("read config failed: " ++ fault.message)
  | .unsupported setting => some ("unsupported config: " ++ setting.text)
  | _ => none

namespace Config

/-- The identifier of a user begins with an at sign. -/
def userSchema : Schema := .text 0 ["@"]

/-- The identifier of a room begins with an exclamation mark. -/
def roomSchema : Schema := .text 0 ["!"]

/-- The section on the server. -/
def serverSchema : Schema := .record ["listen_addr"] [("listen_addr", .someText)]

/-- The section on the homeserver. -/
def homeserverSchema : Schema :=
  .record ["url", "user_id", "access_token", "management_room"]
    [ ("url", .text 0 ["http://", "https://"]),
      ("user_id", userSchema),
      ("access_token", .someText),
      ("management_room", .someText) ]

/-- The section on commands. -/
def commandSchema : Schema :=
  .record [] [("require_encryption", .truth),
    ("min_trust_state", .choice (Trust.all.map Trust.name))]

/-- The section on enforcement. -/
def enforcementSchema : Schema :=
  .record []
    [("dry_run", .truth), ("kick_safety_threshold", .integer 0), ("kick_concurrency", .integer 1)]

/-- A list that is watched. -/
def watchedSchema : Schema :=
  .record ["room_id", "shortcode", "name"]
    [("room_id", roomSchema), ("shortcode", .someText), ("name", .anyText)]

/-- A room that is looked after. -/
def protectedSchema : Schema := .record ["room_id"] [("room_id", roomSchema), ("name", .anyText)]

/-- The section on the store. -/
def storeSchema : Schema :=
  .record ["type"]
    [("type", .choice [StoreKind.memory.name, StoreKind.database.name]), ("sqlite_path", .anyText)]

/-- The section on the audit log. -/
def auditSchema : Schema :=
  .record ["jsonl_path"] [("jsonl_path", .someText), ("immutable_mirror_path", .anyText)]

/-- What a configuration has to look like. -/
def schema : Schema :=
  .record ["server", "homeserver", "store", "audit"]
    [ ("server", serverSchema),
      ("homeserver", homeserverSchema),
      ("commands", commandSchema),
      ("enforcement", enforcementSchema),
      ("admins", .list userSchema),
      ("watched_lists", .list watchedSchema),
      ("protected_rooms", .list protectedSchema),
      ("store", storeSchema),
      ("audit", auditSchema) ]

/-- The first text in a list that stands there before. -/
def firstRepeated (seen : List String) : List String → Option String
  | [] => none
  | s :: rest => if s ∈ seen then some s else firstRepeated (s :: seen) rest

/-- The first setting that is not supported. -/
def unsupported? (c : Config) : Option UnsupportedSetting :=
  if c.store.kind = .memory && c.store.path.isSome then some .pathWithoutDatabase
  else if c.store.kind = .database && c.store.path.all Text.isBlankText then
    some .databaseWithoutPath
  else if c.enforcement.kickConcurrency = 0 then some .noKicksAtOnce
  else if !c.homeserver.managementRoom.startsWith "!" then some .managementRoom
  else (firstRepeated [] (c.lists.map (·.shortcode))).map .repeatedShortcode

/-- Reads a configuration off a JSON value. -/
def ofJson (j : Json) : Except ConfigError Config :=
  if !schema.accepts j then .error .schema
  else match decoder.ofJson j with
    | none => .error .malformed
    | some c =>
      match c.unsupported? with
      | some setting => .error (.unsupported setting)
      | none => .ok c

/-- Reads a configuration off a YAML text. -/
def ofText (text : String) : Except ConfigError Config :=
  match Yaml.value? text with
  | some j => ofJson j
  | none => .error .malformed

/-- Loads a configuration from a file. -/
def load (file : FileState) : Except ConfigError Config :=
  match file.readText with
  | .ok text => ofText text
  | .error fault => .error (.unreadable fault)

end Config
end Moderation
