import Moderation.Network.Address
import Moderation.Text.Blank
import Moderation.Url.Percent
import Moderation.Url.Punycode
/-!
# Hosts in URLs

The host of a special URL is a domain, or an address in either version of the internet protocol.  A
domain whose last label is a number has to be an address of version 4, which may have fewer than
four numbers, the last of them filling the rest, in decimal, octal or hexadecimal.  Labels in other
scripts are kept as they are written.
-/

namespace Moderation

/-- Why a text is no URL. -/
inductive UrlError where
  | relative
  | emptyHost
  | domainName
  | domainCharacter
  | port
  | v4
  | v6
  deriving DecidableEq, Repr

/-- The text of an error. -/
def UrlError.message : UrlError → String
  | .relative => "relative URL without a base"
  | .emptyHost => "empty host"
  | .domainName => "invalid international domain name"
  | .domainCharacter => "invalid domain character"
  | .port => "invalid port number"
  | .v4 => "invalid IPv4 address"
  | .v6 => "invalid IPv6 address"

/-- A host. -/
inductive Host where
  | domain (name : String)
  | v4 (address : Ipv4Address)
  | v6 (address : Ipv6Address)
  deriving DecidableEq, Repr

namespace Host

/-- The characters that no domain has: control characters, blanks and what means something in a
URL. -/
def isForbidden (c : Char) : Bool :=
  c.toNat ≤ 0x20 || (0x7F ≤ c.toNat && c.toNat < 0xA0) || Text.isBlank c ||
    "%#/:<>?@[\\]^|".toList.contains c

/-- The characters that no other host has. -/
def isForbiddenElsewhere (c : Char) : Bool :=
  c.toNat = 0 || "\t\n\r #/:<>?@[\\]^|".toList.contains c

/-- A number in an address of version 4, in the base that its beginning tells. -/
def number? (cs : List Char) : Option Nat :=
  let inBase (base : Nat) (digits : List Char) : Option Nat :=
    if digits.isEmpty then some 0 else Address.numberOf? base digits
  match cs with
  | [] => none
  | '0' :: 'x' :: digits => inBase 16 digits
  | '0' :: 'X' :: digits => inBase 16 digits
  | '0' :: c :: digits => inBase 8 (c :: digits)
  | cs => inBase 10 cs

/-- The labels of a domain, without the empty one after a dot at its end. -/
def labels (cs : List Char) : List (List Char) :=
  let parts := Text.parts '.' cs
  if parts.getLast? = some [] then parts.dropLast else parts

/-- Whether the last label of a domain is a number. -/
def endsInNumber (cs : List Char) : Bool :=
  match (labels cs).getLast? with
  | some last => !last.isEmpty && (last.all Char.isDigit || (number? last).isSome)
  | none => false

/-- The address of version 4 that a domain is.  The last of its numbers fills what the others
leave. -/
def v4? (cs : List Char) : Option Ipv4Address := do
  let numbers ← (labels cs).mapM number?
  let last ← numbers.getLast?
  let front := numbers.dropLast
  let room := Nat.pow 256 (4 - front.length)
  if 4 < numbers.length || front.any (255 < ·) || room ≤ last then none
  else some ⟨UInt32.ofNat (front.foldl (fun n octet => 256 * n + octet) 0 * room + last)⟩

/-- Reads an address of version 6 in square brackets. -/
def bracketed (cs : List Char) : Except UrlError Host :=
  match cs.getLast?, Ipv6Address.ofChars? (cs.drop 1).dropLast with
  | some ']', some address => .ok (.v6 address)
  | _, _ => .error .v6

/-- Reads the host of a special URL. -/
def ofSpecial (cs : List Char) : Except UrlError Host :=
  if cs.head? = some '[' then bracketed cs
  else match Percent.decode? cs with
    | none => .error .domainName
    | some s =>
      let name := s.toList.map Char.toLower
      if name.any isForbidden || !(Text.parts '.' name).all Punycode.isLabel then .error .domainName
      else if name.isEmpty then .error .emptyHost
      else if endsInNumber name then
        match v4? name with
        | some address => .ok (.v4 address)
        | none => .error .v4
      else .ok (.domain (String.ofList name))

/-- Reads the host of another URL, which is not looked into. -/
def ofOther (cs : List Char) : Except UrlError Host :=
  if cs.head? = some '[' then bracketed cs
  else if cs.any isForbiddenElsewhere then .error .domainCharacter
  else .ok (.domain (String.ofList (Percent.encodeChars Percent.inControls cs)))

end Host
end Moderation
