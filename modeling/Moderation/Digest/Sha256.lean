/-!
# SHA-256

The secure hash of FIPS 180-4 with 256-bit digests, over lists of bytes.  A message is padded to
whole blocks of sixteen words; each block is mixed into eight words of state by sixty-four rounds;
the state after the last block, in big-endian bytes, is the digest.  The size of a digest is part of
its type.
-/

namespace Moderation

/-- A SHA-256 digest: thirty-two bytes. -/
abbrev Digest := Vector UInt8 32

namespace Sha256

/-- The first thirty-two bits of the fractional parts of the cube roots of the first sixty-four
primes. -/
def roundConstants : List UInt32 := [
  0x428a2f98, 0x71374491, 0xb5c0fbcf, 0xe9b5dba5, 0x3956c25b, 0x59f111f1, 0x923f82a4, 0xab1c5ed5,
  0xd807aa98, 0x12835b01, 0x243185be, 0x550c7dc3, 0x72be5d74, 0x80deb1fe, 0x9bdc06a7, 0xc19bf174,
  0xe49b69c1, 0xefbe4786, 0x0fc19dc6, 0x240ca1cc, 0x2de92c6f, 0x4a7484aa, 0x5cb0a9dc, 0x76f988da,
  0x983e5152, 0xa831c66d, 0xb00327c8, 0xbf597fc7, 0xc6e00bf3, 0xd5a79147, 0x06ca6351, 0x14292967,
  0x27b70a85, 0x2e1b2138, 0x4d2c6dfc, 0x53380d13, 0x650a7354, 0x766a0abb, 0x81c2c92e, 0x92722c85,
  0xa2bfe8a1, 0xa81a664b, 0xc24b8b70, 0xc76c51a3, 0xd192e819, 0xd6990624, 0xf40e3585, 0x106aa070,
  0x19a4c116, 0x1e376c08, 0x2748774c, 0x34b0bcb5, 0x391c0cb3, 0x4ed8aa4a, 0x5b9cca4f, 0x682e6ff3,
  0x748f82ee, 0x78a5636f, 0x84c87814, 0x8cc70208, 0x90befffa, 0xa4506ceb, 0xbef9a3f7, 0xc67178f2]

/-- The eight working words. -/
structure State where
  a : UInt32
  b : UInt32
  c : UInt32
  d : UInt32
  e : UInt32
  f : UInt32
  g : UInt32
  h : UInt32

/-- The first thirty-two bits of the fractional parts of the square roots of the first eight
primes. -/
def State.initial : State :=
  ⟨0x6a09e667, 0xbb67ae85, 0x3c6ef372, 0xa54ff53a, 0x510e527f, 0x9b05688c, 0x1f83d9ab, 0x5be0cd19⟩

/-- Word-wise addition of two states. -/
def State.add (s t : State) : State :=
  ⟨s.a + t.a, s.b + t.b, s.c + t.c, s.d + t.d, s.e + t.e, s.f + t.f, s.g + t.g, s.h + t.h⟩

/-- Rotation to the right. -/
def rotateRight (x : UInt32) (n : UInt32) : UInt32 := (x >>> n) ||| (x <<< (32 - n))

/-- One round, with its constant and its word of the message schedule. -/
def State.round (s : State) (constant word : UInt32) : State :=
  let sum1 := rotateRight s.e 6 ^^^ rotateRight s.e 11 ^^^ rotateRight s.e 25
  let choice := (s.e &&& s.f) ^^^ ((s.e ^^^ 0xffffffff) &&& s.g)
  let t1 := s.h + sum1 + choice + constant + word
  let sum0 := rotateRight s.a 2 ^^^ rotateRight s.a 13 ^^^ rotateRight s.a 22
  let majority := (s.a &&& s.b) ^^^ (s.a &&& s.c) ^^^ (s.b &&& s.c)
  ⟨t1 + (sum0 + majority), s.a, s.b, s.c, s.d + t1, s.e, s.f, s.g⟩

/-- The word that follows a window of sixteen words of the message schedule. -/
def nextWord (window : Vector UInt32 16) : UInt32 :=
  let w1 := window[1]
  let w14 := window[14]
  let small0 := rotateRight w1 7 ^^^ rotateRight w1 18 ^^^ (w1 >>> 3)
  let small1 := rotateRight w14 17 ^^^ rotateRight w14 19 ^^^ (w14 >>> 10)
  window[0] + small0 + window[9] + small1

/-- The window moved on by one word. -/
def slide (window : Vector UInt32 16) : Vector UInt32 16 :=
  let next := nextWord window
  Vector.ofFn fun i => if h : i.val + 1 < 16 then window[i.val + 1] else next

/-- Mixes one block into the state. -/
def State.absorb (s : State) (block : Vector UInt32 16) : State :=
  let after := roundConstants.foldl
    (fun (acc : State × Vector UInt32 16) constant =>
      (acc.1.round constant acc.2[0], slide acc.2)) (s, block)
  s.add after.1

/-- The big-endian bytes of a natural number, modulo what `count` bytes can hold. -/
def bigEndian (count : Nat) (n : Nat) : List UInt8 :=
  (List.range count).map fun i => UInt8.ofNat (n >>> (8 * (count - 1 - i)))

/-- A message with its padding: a one bit, zeros up to a whole number of blocks, and the length in
bits. -/
def pad (message : List UInt8) : List UInt8 :=
  let zeros := (119 - message.length % 64) % 64
  message ++ [0x80] ++ List.replicate zeros 0 ++ bigEndian 8 (8 * message.length)

/-- The word of four bytes, most significant first. -/
def word (a b c d : UInt8) : UInt32 :=
  (a.toUInt32 <<< 24) ||| (b.toUInt32 <<< 16) ||| (c.toUInt32 <<< 8) ||| d.toUInt32

/-- Absorbs bytes by blocks of sixty-four; `block` holds the words of the block that is being
read. -/
def absorbAll (s : State) (block : Array UInt32) : List UInt8 → State
  | a :: b :: c :: d :: rest =>
    let block := block.push (word a b c d)
    if block.size = 16 then
      absorbAll (s.absorb (Vector.ofFn fun i => block.getD i.val 0)) #[] rest
    else absorbAll s block rest
  | _ => s

/-- The words of a state in order. -/
def State.words (s : State) : Vector UInt32 8 := #v[s.a, s.b, s.c, s.d, s.e, s.f, s.g, s.h]

/-- The digest that a state stands for: its words as big-endian bytes. -/
def State.digest (s : State) : Digest :=
  Vector.ofFn fun i =>
    ((s.words.get ⟨i.val / 4, by omega⟩) >>> (UInt32.ofNat (8 * (3 - i.val % 4)))).toUInt8

end Sha256

/-- The SHA-256 digest of a message. -/
def sha256 (message : List UInt8) : Digest :=
  (Sha256.absorbAll .initial #[] (Sha256.pad message)).digest

/-- The SHA-256 digest of a text in UTF-8. -/
def sha256Text (s : String) : Digest := sha256 s.toUTF8.toList

end Moderation
