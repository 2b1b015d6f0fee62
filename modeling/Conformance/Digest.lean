import Conformance.Text.Utf8

/-!
# SHA-256

* `pad` : the message, a one bit, zeros, and the length in bits, to a whole number of blocks;
* `schedule` : the sixty-four words of one block;
* `compress` : one block folded into the chaining value;
* `sha256` : the digest; `sha256Hex` writes it in lower-case hexadecimal.
-/

namespace Conformance.Digest

/-- The round constants. -/
def roundConstants : List UInt32 := [
  0x428a2f98, 0x71374491, 0xb5c0fbcf, 0xe9b5dba5, 0x3956c25b, 0x59f111f1, 0x923f82a4, 0xab1c5ed5,
  0xd807aa98, 0x12835b01, 0x243185be, 0x550c7dc3, 0x72be5d74, 0x80deb1fe, 0x9bdc06a7, 0xc19bf174,
  0xe49b69c1, 0xefbe4786, 0x0fc19dc6, 0x240ca1cc, 0x2de92c6f, 0x4a7484aa, 0x5cb0a9dc, 0x76f988da,
  0x983e5152, 0xa831c66d, 0xb00327c8, 0xbf597fc7, 0xc6e00bf3, 0xd5a79147, 0x06ca6351, 0x14292967,
  0x27b70a85, 0x2e1b2138, 0x4d2c6dfc, 0x53380d13, 0x650a7354, 0x766a0abb, 0x81c2c92e, 0x92722c85,
  0xa2bfe8a1, 0xa81a664b, 0xc24b8b70, 0xc76c51a3, 0xd192e819, 0xd6990624, 0xf40e3585, 0x106aa070,
  0x19a4c116, 0x1e376c08, 0x2748774c, 0x34b0bcb5, 0x391c0cb3, 0x4ed8aa4a, 0x5b9cca4f, 0x682e6ff3,
  0x748f82ee, 0x78a5636f, 0x84c87814, 0x8cc70208, 0x90befffa, 0xa4506ceb, 0xbef9a3f7, 0xc67178f2]

/-- The eight words of a chaining value. -/
structure Chain where
  a : UInt32
  b : UInt32
  c : UInt32
  d : UInt32
  e : UInt32
  f : UInt32
  g : UInt32
  h : UInt32

/-- The value that hashing starts from. -/
def Chain.initial : Chain :=
  ⟨0x6a09e667, 0xbb67ae85, 0x3c6ef372, 0xa54ff53a, 0x510e527f, 0x9b05688c, 0x1f83d9ab, 0x5be0cd19⟩

/-- The words of a chaining value in order. -/
def Chain.words (s : Chain) : List UInt32 := [s.a, s.b, s.c, s.d, s.e, s.f, s.g, s.h]

/-- Wordwise sum. -/
def Chain.add (s t : Chain) : Chain :=
  ⟨s.a + t.a, s.b + t.b, s.c + t.c, s.d + t.d, s.e + t.e, s.f + t.f, s.g + t.g, s.h + t.h⟩

/-- Rotation of a word to the right. -/
def rotr (x : UInt32) (n : UInt32) : UInt32 := (x >>> n) ||| (x <<< (32 - n))

/-- The next word of the schedule from the words two, seven, fifteen and sixteen places back. -/
def extend (w2 w7 w15 w16 : UInt32) : UInt32 :=
  let s0 := rotr w15 7 ^^^ rotr w15 18 ^^^ (w15 >>> 3)
  let s1 := rotr w2 17 ^^^ rotr w2 19 ^^^ (w2 >>> 10)
  s1 + w7 + s0 + w16

/-- Appends `n` words to a schedule of at least sixteen. -/
def extendBy : Nat → Array UInt32 → Array UInt32
  | 0, w => w
  | n + 1, w =>
    let k := w.size
    extendBy n (w.push (extend (w.getD (k - 2) 0) (w.getD (k - 7) 0) (w.getD (k - 15) 0)
      (w.getD (k - 16) 0)))

/-- The words of a block, most significant octet first. -/
def blockWords : Bytes → List UInt32
  | p :: q :: r :: s :: rest =>
    ((p.toUInt32 <<< 24) ||| (q.toUInt32 <<< 16) ||| (r.toUInt32 <<< 8) ||| s.toUInt32) ::
      blockWords rest
  | _ => []

/-- The sixty-four words of a block. -/
def schedule (block : Bytes) : List UInt32 := (extendBy 48 (blockWords block).toArray).toList

/-- One round with schedule word `w` and constant `k`. -/
def round (s : Chain) (w k : UInt32) : Chain :=
  let s1 := rotr s.e 6 ^^^ rotr s.e 11 ^^^ rotr s.e 25
  let ch := (s.e &&& s.f) ^^^ ((~~~ s.e) &&& s.g)
  let t1 := s.h + s1 + ch + k + w
  let s0 := rotr s.a 2 ^^^ rotr s.a 13 ^^^ rotr s.a 22
  let maj := (s.a &&& s.b) ^^^ (s.a &&& s.c) ^^^ (s.b &&& s.c)
  ⟨t1 + (s0 + maj), s.a, s.b, s.c, s.d + t1, s.e, s.f, s.g⟩

/-- One block folded into the chaining value. -/
def compress (s : Chain) (block : Bytes) : Chain :=
  s.add (((schedule block).zip roundConstants).foldl (fun t wk => round t wk.1 wk.2) s)

/-- The `n` least significant octets of a number, most significant first. -/
def bigEndian : Nat → Nat → Bytes
  | 0, _ => []
  | n + 1, v => bigEndian n (v / 256) ++ [UInt8.ofNat (v % 256)]

/-- A message of `size` octets filled up to whole blocks. -/
def pad (message : Bytes) (size : Nat) : Bytes :=
  message ++ 0x80 :: (List.replicate ((119 - size % 64) % 64) 0 ++ bigEndian 8 (size * 8))

/-- The first `n` blocks of sixty-four octets. -/
def blocks : Nat → Bytes → List Bytes
  | 0, _ => []
  | n + 1, bs => bs.take 64 :: blocks n (bs.drop 64)

/-- The digest of a message. -/
def sha256 (message : Bytes) : Bytes :=
  let size := message.length
  let chain := (blocks ((size + 72) / 64) (pad message size)).foldl compress Chain.initial
  chain.words.flatMap fun w => bigEndian 4 w.toNat

/-- One octet as two lower-case hexadecimal digits. -/
def hexOctet (b : UInt8) : List Char :=
  [Nat.digitChar (b.toNat / 16), Nat.digitChar (b.toNat % 16)]

/-- The digest of a message in hexadecimal. -/
def sha256Hex (message : Bytes) : String := String.ofList ((sha256 message).flatMap hexOctet)

end Conformance.Digest
