import Moderation.Audit.Record
import Moderation.File
import Moderation.Text.Blank
import Moderation.Text.Quoted
/-!
# Audit chains

The text of an audit log holds one record a line; blank lines do not count.  It is a **chain** when
every record names the hash of the one before it, the first none, and has the hash it should have.
-/

namespace Moderation

/-- Why a text is no audit chain.  Lines are counted from one. -/
inductive ChainFault where
  | unreadable (fault : FileFault)
  | noRecord (line : Nat)
  | wrongLink (line : Nat) (expected found : Option String)
  | wrongHash (line : Nat) (expected found : String)
  deriving DecidableEq, Repr

/-- The text of a fault. -/
def ChainFault.message : ChainFault → String
  | .unreadable fault => fault.message
  | .noRecord line => s!"line {line} parse failed"
  | .wrongLink line expected found =>
    s!"line {line} prev_hash mismatch: expected {Text.quoteOption expected}, " ++
      s!"got {Text.quoteOption found}"
  | .wrongHash line expected found =>
    s!"line {line} record_hash mismatch: expected {expected}, got {found}"

namespace AuditChain

/-- A record on a line, if it is linked to the hash before it and has its own. -/
def recordOn (line : Nat) (previous : Option String) (text : String) :
    Except ChainFault AuditRecord :=
  match AuditRecord.decoder.ofText text with
  | .error _ => .error (.noRecord line)
  | .ok r =>
    if r.previous ≠ previous then .error (.wrongLink line previous r.previous)
    else if r.hash ≠ r.expectedHash then .error (.wrongHash line r.expectedHash r.hash)
    else .ok r

/-- The chain on some lines, after a record with a hash. -/
def recordsOn (line : Nat) (previous : Option String) : List String →
    Except ChainFault (List AuditRecord)
  | [] => .ok []
  | text :: rest =>
    if Text.isBlankText text then recordsOn (line + 1) previous rest
    else do
      let r ← recordOn line previous text
      let rs ← recordsOn (line + 1) (some r.hash) rest
      return r :: rs

/-- The records of a chain. -/
def records (text : String) : Except ChainFault (List AuditRecord) :=
  recordsOn 1 none (Text.lines text)

/-- The number of records in a chain. -/
def verify (text : String) : Except ChainFault Nat := (records text).map List.length

/-- The number of records in the chain that a file holds. -/
def verifyFile (file : FileState) : Except ChainFault Nat :=
  match file.readText with
  | .ok text => verify text
  | .error fault => .error (.unreadable fault)

/-- What is said of a chain. -/
def verifiedText (count : Nat) : String := s!"audit chain verified: {count} records"

end AuditChain
end Moderation
