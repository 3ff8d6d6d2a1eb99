/-!
# Trust in the sender of a command

How far the device that sent a message is trusted, weakest first, and the gate that commands pass: a
message that was not encrypted passes only where encryption is not required, an encrypted one only
with enough trust.
-/

namespace Moderation

/-- How far a device is trusted, weakest first. -/
inductive Trust where
  | blacklisted
  | unset
  | unknownDevice
  | forwarded
  | crossSignedUntrusted
  | crossSignedTofu
  | crossSignedVerified
  | verified
  deriving DecidableEq, Repr

namespace Trust

/-- The name of a state of trust. -/
def name : Trust → String
  | .blacklisted => "blacklisted"
  | .unset => "unset"
  | .unknownDevice => "unknown_device"
  | .forwarded => "forwarded"
  | .crossSignedUntrusted => "cross_signed_untrusted"
  | .crossSignedTofu => "cross_signed_tofu"
  | .crossSignedVerified => "cross_signed_verified"
  | .verified => "verified"

/-- Every state of trust, weakest first. -/
def all : List Trust :=
  [.blacklisted, .unset, .unknownDevice, .forwarded, .crossSignedUntrusted, .crossSignedTofu,
    .crossSignedVerified, .verified]

/-- The state of trust with a name. -/
def ofName? (s : String) : Option Trust := all.find? (·.name = s)

/-- The rank of a state of trust, the weakest being zero. -/
def rank : Trust → Nat
  | .blacklisted => 0
  | .unset => 1
  | .unknownDevice => 2
  | .forwarded => 3
  | .crossSignedUntrusted => 4
  | .crossSignedTofu => 5
  | .crossSignedVerified => 6
  | .verified => 7

instance : LT Trust := ⟨fun a b => a.rank < b.rank⟩

instance (a b : Trust) : Decidable (a < b) := inferInstanceAs (Decidable (a.rank < b.rank))

@[simp] theorem ofName?_name (t : Trust) : ofName? t.name = some t := by cases t <;> rfl

end Trust

/-- What the gate does with a command. -/
inductive GateDecision where
  | pass
  | dropUnencrypted
  | dropUntrusted (trust : Trust)
  deriving DecidableEq, Repr

/-- The gate: whether a command is looked at, given how it was sent and what is asked for. -/
def gate (encrypted : Bool) (trust : Trust) (requireEncryption : Bool) (least : Trust) :
    GateDecision :=
  if encrypted then
    if trust < least then .dropUntrusted trust else .pass
  else if requireEncryption then .dropUnencrypted
  else .pass

/-- Whether a kick of so many users has to be forced. -/
def requiresForce (candidates threshold : Nat) (force : Bool) : Bool :=
  threshold < candidates && !force

end Moderation
