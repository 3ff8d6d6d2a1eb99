import Moderation.Audit.Chain
import Moderation.Audit.Log
import Moderation.Audit.Record
import Moderation.Calendar
import Moderation.Command.Basic
import Moderation.Command.Parser
import Moderation.CommandLine
import Moderation.Config.Basic
import Moderation.Config.Load
import Moderation.Digest.Base64
import Moderation.Digest.Sha256
import Moderation.Double
import Moderation.Entity
import Moderation.File
import Moderation.Glob
import Moderation.Glob.Expression
import Moderation.Homeserver.Basic
import Moderation.Homeserver.Client
import Moderation.Inbound
import Moderation.Json.Canonical
import Moderation.Json.Decoder
import Moderation.Json.Draft
import Moderation.Json.Reader
import Moderation.Json.Schema
import Moderation.Json.Value
import Moderation.Main
import Moderation.Membership
import Moderation.Moderator.Commands
import Moderation.Moderator.Interleaving
import Moderation.Moderator.Kick
import Moderation.Moderator.KickSweep
import Moderation.Moderator.KickWindow
import Moderation.Moderator.Lock
import Moderation.Moderator.LookUp
import Moderation.Moderator.Mutation
import Moderation.Moderator.Reports
import Moderation.Moderator.Setup
import Moderation.Moderator.World
import Moderation.Network.Address
import Moderation.Policy.Decision
import Moderation.Policy.Publication
import Moderation.Policy.Record
import Moderation.Policy.Summary
import Moderation.Proofs.Audit.Chain
import Moderation.Proofs.Audit.Continuation
import Moderation.Proofs.Audit.Growth
import Moderation.Proofs.Audit.Log
import Moderation.Proofs.Audit.Record
import Moderation.Proofs.Command.Grammar
import Moderation.Proofs.Digest.Base64
import Moderation.Proofs.Digest.Hex
import Moderation.Proofs.Digest.Spelling
import Moderation.Proofs.Entity
import Moderation.Proofs.Glob
import Moderation.Proofs.Homeserver.Answers
import Moderation.Proofs.Json.Beginning
import Moderation.Proofs.Json.Glued
import Moderation.Proofs.Json.Members
import Moderation.Proofs.Json.Reading
import Moderation.Proofs.Json.Values
import Moderation.Proofs.Json.Written
import Moderation.Proofs.Membership
import Moderation.Proofs.Membership.History
import Moderation.Proofs.Moderator.Act
import Moderation.Proofs.Moderator.Agreement
import Moderation.Proofs.Moderator.AllOrNothing
import Moderation.Proofs.Moderator.BanReports
import Moderation.Proofs.Moderator.Carrying
import Moderation.Proofs.Moderator.Commanding
import Moderation.Proofs.Moderator.Concurrency
import Moderation.Proofs.Moderator.Contention
import Moderation.Proofs.Moderator.Deeds
import Moderation.Proofs.Moderator.Disclosure
import Moderation.Proofs.Moderator.Escalation
import Moderation.Proofs.Moderator.Independence
import Moderation.Proofs.Moderator.Index
import Moderation.Proofs.Moderator.KickOrder
import Moderation.Proofs.Moderator.Kicking
import Moderation.Proofs.Moderator.Likeness
import Moderation.Proofs.Moderator.Linearizability
import Moderation.Proofs.Moderator.Locks
import Moderation.Proofs.Moderator.LookingUp
import Moderation.Proofs.Moderator.Noninterference
import Moderation.Proofs.Moderator.Operations
import Moderation.Proofs.Moderator.Placing
import Moderation.Proofs.Moderator.Planning
import Moderation.Proofs.Moderator.Pseudonyms
import Moderation.Proofs.Moderator.Removal
import Moderation.Proofs.Moderator.Repetition
import Moderation.Proofs.Moderator.Replacing
import Moderation.Proofs.Moderator.Reporting
import Moderation.Proofs.Moderator.Requests
import Moderation.Proofs.Moderator.Restart
import Moderation.Proofs.Moderator.Sent
import Moderation.Proofs.Moderator.Session
import Moderation.Proofs.Moderator.SideBySide
import Moderation.Proofs.Moderator.StandingUnban
import Moderation.Proofs.Moderator.Succession
import Moderation.Proofs.Moderator.Unreadable
import Moderation.Proofs.Moderator.Upkeep
import Moderation.Proofs.Moderator.Verdict
import Moderation.Proofs.Policy.StateKey
import Moderation.Proofs.Policy.Summary
import Moderation.Proofs.Policy.Tidy
import Moderation.Proofs.Regex
import Moderation.Proofs.Service.Atomic
import Moderation.Proofs.Store.Backends
import Moderation.Proofs.Store.Contents
import Moderation.Proofs.Store.History
import Moderation.Proofs.Store.Kinds
import Moderation.Proofs.Store.Orderly
import Moderation.Proofs.Store.Publishing
import Moderation.Proofs.Store.Republishing
import Moderation.Proofs.Store.RowOrder
import Moderation.Proofs.Store.Undated
import Moderation.Proofs.Text.ByteOrder
import Moderation.Proofs.Text.Lines
import Moderation.Proofs.Text.Words
import Moderation.Proofs.Url.Percent
import Moderation.Proofs.Wire.Content
import Moderation.Proofs.Wire.RoundTrip
import Moderation.Regex
import Moderation.Report.Command
import Moderation.Report.Outcome
import Moderation.Service.MediaType
import Moderation.Service.Message
import Moderation.Service.Router
import Moderation.Service.Start
import Moderation.Store.Basic
import Moderation.Store.Cached
import Moderation.Store.Database
import Moderation.Store.Memory
import Moderation.Store.Query
import Moderation.Text.Blank
import Moderation.Text.CaseTable
import Moderation.Text.Hex
import Moderation.Text.Lowercase
import Moderation.Text.Parts
import Moderation.Text.PrintTable
import Moderation.Text.Quoted
import Moderation.Text.Utf8
import Moderation.Trust
import Moderation.Url.Basic
import Moderation.Url.Host
import Moderation.Url.Path
import Moderation.Url.Percent
import Moderation.Url.Punycode
import Moderation.Wire.Inbound
import Moderation.Wire.Outcome
import Moderation.Wire.Policy
import Moderation.Yaml.Cursor
import Moderation.Yaml.Document
import Moderation.Yaml.Node
import Moderation.Yaml.Plain
import Moderation.Yaml.Scalar
import Moderation.Yaml.Tag
import Moderation.Yaml.Token
import Moderation.Proofs.Url.Path
import Moderation.Proofs.Homeserver.Paths
import Moderation.Proofs.Json.Fields
import Moderation.Proofs.Json.Schema
import Moderation.Proofs.Json.Agreeing
import Moderation.Proofs.Config.Accepted
import Moderation.Proofs.Yaml.Keys
import Moderation.Proofs.Config.Agreement
