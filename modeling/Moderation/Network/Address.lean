import Moderation.Text.Hex
import Moderation.Text.Parts
/-!
# Addresses

Addresses of the internet protocol in either version, and **socket addresses**, which are an address
and a port.  An address of version 4 has four decimal numbers; one of version 6 has eight pieces in
hexadecimal, of which a run of zeros may be left out once and the last two may be written as an
address of version 4.
-/

namespace Moderation

/-- An address of version 4. -/
structure Ipv4Address where
  number : UInt32
  deriving DecidableEq, Repr

/-- An address of version 6, as its eight pieces. -/
structure Ipv6Address where
  pieces : List UInt16
  deriving DecidableEq, Repr

namespace Address

/-- The number that some digits spell. -/
def numberOf? (base : Nat) (cs : List Char) : Option Nat :=
  if cs.isEmpty then none
  else cs.foldlM
    (fun n c => (Text.hexValue? c).bind fun d => if d < base then some (base * n + d) else none) 0

/-- A number of some size in decimal. -/
def decimal? (size : Nat) (cs : List Char) : Option Nat := (numberOf? 10 cs).filter (· < size)

/-- One of the four numbers of an address, which has no needless zeros. -/
def octet? (cs : List Char) : Option Nat :=
  if 1 < cs.length && cs.head? = some '0' then none else decimal? 256 cs

/-- A piece of an address of version 6: up to four digits. -/
def piece? (cs : List Char) : Option Nat := if cs.length ≤ 4 then numberOf? 16 cs else none

end Address

open Address

/-- Reads an address of version 4. -/
def Ipv4Address.ofChars? (cs : List Char) : Option Ipv4Address :=
  match (Text.parts '.' cs).mapM octet? with
  | some [a, b, c, d] => some ⟨UInt32.ofNat (((a * 256 + b) * 256 + c) * 256 + d)⟩
  | _ => none

namespace Ipv6Address

/-- The pieces in a text, the last two of which may be an address of version 4. -/
def pieces? (cs : List Char) : Option (List UInt16) := do
  let parts := Text.parts ':' cs
  let last := parts.getLastD []
  match Ipv4Address.ofChars? last with
  | some v4 => do
    let front ← parts.dropLast.mapM piece?
    return front.map UInt16.ofNat ++ [(v4.number >>> 16).toUInt16, v4.number.toUInt16]
  | none => do
    let all ← parts.mapM piece?
    return all.map UInt16.ofNat

/-- A text before its first pair of colons, and after it. -/
def atGap? : List Char → Option (List Char × List Char)
  | ':' :: ':' :: rest => some ([], rest)
  | c :: rest => (atGap? rest).map fun (before, after) => (c :: before, after)
  | [] => none

/-- The pieces on one side of a gap, where there may be none. -/
def sidePieces? (cs : List Char) : Option (List UInt16) :=
  if cs.isEmpty then some [] else pieces? cs

/-- Reads an address of version 6.  A gap stands for one piece at least, and no address of version 4
stands in front of it. -/
def ofChars? (cs : List Char) : Option Ipv6Address :=
  match atGap? cs with
  | none => ((pieces? cs).filter (·.length = 8)).map (⟨·⟩)
  | some (before, after) =>
    match sidePieces? before, sidePieces? after with
    | some front, some back =>
      if before.contains '.' || 8 ≤ front.length + back.length then none
      else some ⟨front ++ List.replicate (8 - front.length - back.length) 0 ++ back⟩
    | _, _ => none

end Ipv6Address

/-- An address and a port; one of version 6 may name the zone that it is valid in. -/
inductive SocketAddress where
  | v4 (address : Ipv4Address) (port : UInt16)
  | v6 (address : Ipv6Address) (zone : UInt32) (port : UInt16)
  deriving DecidableEq, Repr

namespace SocketAddress

/-- The port in a text. -/
def port? (cs : List Char) : Option UInt16 := (decimal? UInt16.size cs).map UInt16.ofNat

/-- Reads the address and the zone between square brackets. -/
def bracketed? (cs : List Char) : Option (Ipv6Address × UInt32) :=
  match Text.parts '%' cs with
  | [address] => (Ipv6Address.ofChars? address).map (·, 0)
  | [address, zone] => do
    let address ← Ipv6Address.ofChars? address
    let zone ← decimal? UInt32.size zone
    return (address, UInt32.ofNat zone)
  | _ => none

/-- Reads a socket address. -/
def ofText? (s : String) : Option SocketAddress :=
  match s.toList with
  | '[' :: rest =>
    match rest.dropWhile (· ≠ ']') with
    | ']' :: ':' :: port => do
      let (address, zone) ← bracketed? (rest.takeWhile (· ≠ ']'))
      return .v6 address zone (← port? port)
    | _ => none
  | cs =>
    match Text.parts ':' cs with
    | [address, port] => do return .v4 (← Ipv4Address.ofChars? address) (← port? port)
    | _ => none

/-- The text about a text that is no socket address. -/
def syntaxText : String := "invalid socket address syntax"

end SocketAddress
end Moderation
