import DnsView.Json.Basic
import DnsView.Text.Characters

/-!
# Fingerprints

A fingerprint is the digest of a sequence of parts.  The digest is SHA-256, and the parts are framed
before they are digested.
-/

/-!
## SHA-256

The digest of a sequence of bytes.  The bytes are padded to whole blocks of sixty-four, each block
is spread over sixty-four words, and each of these words takes part in one round over a state of
eight words.  The digest is the state after the last block.
-/

namespace DnsView.Sha256

/-- Eight words: the state between two blocks, and in the end the digest. -/
structure State where
  a : UInt32
  b : UInt32
  c : UInt32
  d : UInt32
  e : UInt32
  f : UInt32
  g : UInt32
  h : UInt32
deriving DecidableEq, Repr

def rotateRight (x : UInt32) (n : UInt32) : UInt32 :=
  (x >>> n) ||| (x <<< (32 - n))

def initial : State :=
  ⟨0x6A09E667, 0xBB67AE85, 0x3C6EF372, 0xA54FF53A, 0x510E527F, 0x9B05688C, 0x1F83D9AB, 0x5BE0CD19⟩

def roundConstants : List UInt32 :=
  [0x428A2F98, 0x71374491, 0xB5C0FBCF, 0xE9B5DBA5, 0x3956C25B, 0x59F111F1, 0x923F82A4, 0xAB1C5ED5,
    0xD807AA98, 0x12835B01, 0x243185BE, 0x550C7DC3, 0x72BE5D74, 0x80DEB1FE, 0x9BDC06A7, 0xC19BF174,
    0xE49B69C1, 0xEFBE4786, 0x0FC19DC6, 0x240CA1CC, 0x2DE92C6F, 0x4A7484AA, 0x5CB0A9DC, 0x76F988DA,
    0x983E5152, 0xA831C66D, 0xB00327C8, 0xBF597FC7, 0xC6E00BF3, 0xD5A79147, 0x06CA6351, 0x14292967,
    0x27B70A85, 0x2E1B2138, 0x4D2C6DFC, 0x53380D13, 0x650A7354, 0x766A0ABB, 0x81C2C92E, 0x92722C85,
    0xA2BFE8A1, 0xA81A664B, 0xC24B8B70, 0xC76C51A3, 0xD192E819, 0xD6990624, 0xF40E3585, 0x106AA070,
    0x19A4C116, 0x1E376C08, 0x2748774C, 0x34B0BCB5, 0x391C0CB3, 0x4ED8AA4A, 0x5B9CCA4F, 0x682E6FF3,
    0x748F82EE, 0x78A5636F, 0x84C87814, 0x8CC70208, 0x90BEFFFA, 0xA4506CEB, 0xBEF9A3F7, 0xC67178F2]

def bytes64 (n : Nat) : List UInt8 :=
  (List.range 8).map fun i => UInt8.ofNat (n / Nat.pow 256 (7 - i))

def bytes32 (x : UInt32) : List UInt8 :=
  [(x >>> 24).toUInt8, (x >>> 16).toUInt8, (x >>> 8).toUInt8, x.toUInt8]

/-- The bytes filled up to whole blocks: a one bit, zeros, and the number of bits. -/
def padded (bytes : List UInt8) : List UInt8 :=
  let zeros := (55 + 64 - bytes.length % 64) % 64
  bytes ++ 0x80 :: List.replicate zeros 0 ++ bytes64 (8 * bytes.length)

def words : List UInt8 → List UInt32
  | p :: q :: r :: s :: rest =>
      (p.toUInt32 <<< 24 ||| q.toUInt32 <<< 16 ||| r.toUInt32 <<< 8 ||| s.toUInt32) :: words rest
  | _ => []

/-- The next word of the spread of a block, from the sixteen before it, the nearest first. -/
def nextWord (latest : List UInt32) : UInt32 :=
  let w (i : Nat) : UInt32 := latest.getD (i - 1) 0
  let s0 := rotateRight (w 15) 7 ^^^ rotateRight (w 15) 18 ^^^ (w 15 >>> 3)
  let s1 := rotateRight (w 2) 17 ^^^ rotateRight (w 2) 19 ^^^ (w 2 >>> 10)
  w 16 + s0 + w 7 + s1

/-- Extends the spread of a block, held with the latest word first, by so many words. -/
def spread : Nat → List UInt32 → List UInt32
  | 0, latest => latest
  | n + 1, latest => spread n (nextWord latest :: latest)

def round (s : State) (input : UInt32 × UInt32) : State :=
  let s1 := rotateRight s.e 6 ^^^ rotateRight s.e 11 ^^^ rotateRight s.e 25
  let choice := (s.e &&& s.f) ^^^ (~~~s.e &&& s.g)
  let t1 := s.h + s1 + choice + input.2 + input.1
  let s0 := rotateRight s.a 2 ^^^ rotateRight s.a 13 ^^^ rotateRight s.a 22
  let majority := (s.a &&& s.b) ^^^ (s.a &&& s.c) ^^^ (s.b &&& s.c)
  ⟨t1 + (s0 + majority), s.a, s.b, s.c, s.d + t1, s.e, s.f, s.g⟩

def block (s : State) (ws : List UInt32) : State :=
  let all := (spread 48 ws.reverse).reverse
  let t := (all.zip roundConstants).foldl round s
  ⟨s.a + t.a, s.b + t.b, s.c + t.c, s.d + t.d, s.e + t.e, s.f + t.f, s.g + t.g, s.h + t.h⟩

def blocks : Nat → State → List UInt32 → State
  | 0, s, _ => s
  | n + 1, s, ws => blocks n (block s (ws.take 16)) (ws.drop 16)

def digest (bytes : List UInt8) : State :=
  let ws := words (padded bytes)
  blocks (ws.length / 16) initial ws

def State.bytes (s : State) : List UInt8 :=
  bytes32 s.a ++ bytes32 s.b ++ bytes32 s.c ++ bytes32 s.d ++
    bytes32 s.e ++ bytes32 s.f ++ bytes32 s.g ++ bytes32 s.h

end DnsView.Sha256

/-!
## Fingerprints

A fingerprint is the digest of a sequence of parts.  Each part is preceded by its length in eight
bytes, so no bytes can move from one part to the next unnoticed.
-/

namespace DnsView

inductive JsonFault where
  /-- A mapping has a key that is no string. -/
  | keyNotText
deriving DecidableEq, Repr

def JsonFault.message : JsonFault → String
  | .keyNotText => "key must be a string"

inductive Part where
  | bytes (bs : List UInt8)
  | text (s : String)
  | flag (b : Bool)
  /-- The compact JSON text of a value, or the reason why it has none. -/
  | json (value : Except JsonFault Json)

def Part.content : Part → List UInt8
  | .bytes bs => bs
  | .text s => Text.utf8 s
  | .flag b => [if b then 1 else 0]
  | .json (.ok j) => Text.utf8 j.compact
  | .json (.error fault) => Text.utf8 fault.message

/-- The stream of bytes that a sequence of parts gives: each part after its length. -/
def framed (parts : List (List UInt8)) : List UInt8 :=
  parts.flatMap fun part => Sha256.bytes64 part.length ++ part

/-- The digest of a sequence of parts. -/
structure Fingerprint where
  digest : Sha256.State
deriving DecidableEq, Repr

namespace Fingerprint

def ofParts (parts : List Part) : Fingerprint :=
  ⟨Sha256.digest (framed (parts.map Part.content))⟩

def text (f : Fingerprint) : String :=
  Text.encodeHex f.digest.bytes

end Fingerprint

end DnsView
