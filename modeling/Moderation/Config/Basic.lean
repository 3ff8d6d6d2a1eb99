import Moderation.Wire.Inbound
import Moderation.Wire.Policy
/-!
# Configuration

What the bot is configured with, and how a configuration is written as JSON and read back.  The
sections on commands and enforcement, the administrators, the lists and the rooms have defaults.
-/

namespace Moderation
open Json

/-- Where the service listens. -/
structure ServerConfig where
  listenAddress : String
  deriving DecidableEq, Repr

/-- The homeserver, the bot's account on it and its management room. -/
structure HomeserverConfig where
  url : String
  userId : String
  accessToken : String
  managementRoom : String
  deriving DecidableEq, Repr

/-- What commands are asked for. -/
structure CommandConfig where
  requireEncryption : Bool := true
  leastTrust : Trust := .crossSignedTofu
  deriving DecidableEq, Repr

/-- How kicks are carried out. -/
structure EnforcementConfig where
  dryRun : Bool := false
  kickThreshold : UInt64 := 10
  kickConcurrency : UInt64 := 4
  deriving DecidableEq, Repr

/-- The kinds of store. -/
inductive StoreKind where
  | memory
  | database
  deriving DecidableEq, Repr

/-- The store, and the path of its database. -/
structure StoreConfig where
  kind : StoreKind
  path : Option String := none
  deriving DecidableEq, Repr

/-- The files of the audit log. -/
structure AuditConfig where
  path : String
  mirrorPath : Option String := none
  deriving DecidableEq, Repr

/-- A configuration. -/
structure Config where
  server : ServerConfig
  homeserver : HomeserverConfig
  commands : CommandConfig := {}
  enforcement : EnforcementConfig := {}
  admins : List String := []
  lists : List WatchedList := []
  rooms : List ProtectedRoom := []
  store : StoreConfig
  audit : AuditConfig
  deriving DecidableEq, Repr

namespace ServerConfig

/-- Reads the section on the server. -/
def decoder : Decoder ServerConfig :=
  Decoder.record false
    ((fun listenAddress => { listenAddress }) <$> Fields.required "listen_addr" Decoder.string)

/-- Writes the section on the server. -/
def toJson (c : ServerConfig) : Json := .object [("listen_addr", .string c.listenAddress)]

end ServerConfig

namespace HomeserverConfig

/-- Reads the section on the homeserver. -/
def decoder : Decoder HomeserverConfig :=
  Decoder.record false <|
    (fun url userId accessToken managementRoom => { url, userId, accessToken, managementRoom })
      <$> Fields.required "url" Decoder.string
      <*> Fields.required "user_id" Decoder.string
      <*> Fields.required "access_token" Decoder.string
      <*> Fields.required "management_room" Decoder.string

/-- Writes the section on the homeserver. -/
def toJson (c : HomeserverConfig) : Json :=
  .object [("url", .string c.url), ("user_id", .string c.userId),
    ("access_token", .string c.accessToken), ("management_room", .string c.managementRoom)]

end HomeserverConfig

namespace CommandConfig

/-- Reads the section on commands. -/
def decoder : Decoder CommandConfig :=
  Decoder.record false <|
    (fun requireEncryption leastTrust => { requireEncryption, leastTrust })
      <$> Fields.defaulted "require_encryption" Decoder.bool true
      <*> Fields.defaulted "min_trust_state" Trust.decoder .crossSignedTofu

/-- Writes the section on commands. -/
def toJson (c : CommandConfig) : Json :=
  .object [("require_encryption", .bool c.requireEncryption),
    ("min_trust_state", c.leastTrust.toJson)]

end CommandConfig

namespace EnforcementConfig

/-- Reads the section on enforcement. -/
def decoder : Decoder EnforcementConfig :=
  Decoder.record false <|
    (fun dryRun kickThreshold kickConcurrency => { dryRun, kickThreshold, kickConcurrency })
      <$> Fields.defaulted "dry_run" Decoder.bool false
      <*> Fields.defaulted "kick_safety_threshold" Decoder.word64 10
      <*> Fields.defaulted "kick_concurrency" Decoder.word64 4

/-- Writes the section on enforcement. -/
def toJson (c : EnforcementConfig) : Json :=
  .object [("dry_run", .bool c.dryRun), ("kick_safety_threshold", .int c.kickThreshold.toNat),
    ("kick_concurrency", .int c.kickConcurrency.toNat)]

end EnforcementConfig

namespace StoreKind

/-- The name of a kind of store. -/
def name : StoreKind → String
  | .memory => "memory"
  | .database => "sqlite"

/-- Reads a kind of store by its name. -/
def decoder : Decoder StoreKind := fun d => do
  match ← Decoder.string d with
  | "memory" => .ok .memory
  | "sqlite" => .ok .database
  | _ => .error .mistyped

end StoreKind

namespace StoreConfig

/-- Reads the section on the store. -/
def decoder : Decoder StoreConfig :=
  Decoder.record false <|
    (fun kind path => { kind, path })
      <$> Fields.required "type" StoreKind.decoder
      <*> Fields.optional "sqlite_path" Decoder.string

/-- Writes the section on the store. -/
def toJson (c : StoreConfig) : Json :=
  .object [("type", .string c.kind.name), ("sqlite_path", nullableText c.path)]

end StoreConfig

namespace AuditConfig

/-- Reads the section on the audit log. -/
def decoder : Decoder AuditConfig :=
  Decoder.record false <|
    (fun path mirrorPath => { path, mirrorPath })
      <$> Fields.required "jsonl_path" Decoder.string
      <*> Fields.defaulted "immutable_mirror_path" Decoder.string.option none

/-- Writes the section on the audit log. -/
def toJson (c : AuditConfig) : Json :=
  .object [("jsonl_path", .string c.path), ("immutable_mirror_path", nullableText c.mirrorPath)]

end AuditConfig

namespace Config

/-- Reads a configuration. -/
def decoder : Decoder Config :=
  Decoder.record false <|
    (fun server homeserver commands enforcement admins lists rooms store audit =>
        { server, homeserver, commands, enforcement, admins, lists, rooms, store, audit })
      <$> Fields.required "server" ServerConfig.decoder
      <*> Fields.required "homeserver" HomeserverConfig.decoder
      <*> Fields.defaulted "commands" CommandConfig.decoder {}
      <*> Fields.defaulted "enforcement" EnforcementConfig.decoder {}
      <*> Fields.defaulted "admins" Decoder.string.list []
      <*> Fields.defaulted "watched_lists" WatchedList.decoder.list []
      <*> Fields.defaulted "protected_rooms" ProtectedRoom.decoder.list []
      <*> Fields.required "store" StoreConfig.decoder
      <*> Fields.required "audit" AuditConfig.decoder

/-- Writes a configuration, defaults filled in. -/
def toJson (c : Config) : Json :=
  .object [("server", c.server.toJson), ("homeserver", c.homeserver.toJson),
    ("commands", c.commands.toJson), ("enforcement", c.enforcement.toJson),
    ("admins", textArray c.admins),
    ("watched_lists", .array (c.lists.map WatchedList.toJson)),
    ("protected_rooms", .array (c.rooms.map ProtectedRoom.toJson)), ("store", c.store.toJson),
    ("audit", c.audit.toJson)]

end Config
end Moderation
