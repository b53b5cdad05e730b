import ClusterArchive.Bytes

/-! SHA-256, fed byte by byte: a text split anywhere has the digest of the whole. -/

namespace ClusterArchive.Sha256

def roundConstants : Vector UInt32 64 := #v[
  0x428a2f98, 0x71374491, 0xb5c0fbcf, 0xe9b5dba5, 0x3956c25b, 0x59f111f1, 0x923f82a4, 0xab1c5ed5,
  0xd807aa98, 0x12835b01, 0x243185be, 0x550c7dc3, 0x72be5d74, 0x80deb1fe, 0x9bdc06a7, 0xc19bf174,
  0xe49b69c1, 0xefbe4786, 0x0fc19dc6, 0x240ca1cc, 0x2de92c6f, 0x4a7484aa, 0x5cb0a9dc, 0x76f988da,
  0x983e5152, 0xa831c66d, 0xb00327c8, 0xbf597fc7, 0xc6e00bf3, 0xd5a79147, 0x06ca6351, 0x14292967,
  0x27b70a85, 0x2e1b2138, 0x4d2c6dfc, 0x53380d13, 0x650a7354, 0x766a0abb, 0x81c2c92e, 0x92722c85,
  0xa2bfe8a1, 0xa81a664b, 0xc24b8b70, 0xc76c51a3, 0xd192e819, 0xd6990624, 0xf40e3585, 0x106aa070,
  0x19a4c116, 0x1e376c08, 0x2748774c, 0x34b0bcb5, 0x391c0cb3, 0x4ed8aa4a, 0x5b9cca4f, 0x682e6ff3,
  0x748f82ee, 0x78a5636f, 0x84c87814, 0x8cc70208, 0x90befffa, 0xa4506ceb, 0xbef9a3f7, 0xc67178f2]

structure Words where
  a : UInt32
  b : UInt32
  c : UInt32
  d : UInt32
  e : UInt32
  f : UInt32
  g : UInt32
  h : UInt32
deriving DecidableEq, Repr

def initialWords : Words :=
  ⟨0x6a09e667, 0xbb67ae85, 0x3c6ef372, 0xa54ff53a, 0x510e527f, 0x9b05688c, 0x1f83d9ab, 0x5be0cd19⟩

def rotateRight (x : UInt32) (n : UInt32) : UInt32 := (x >>> n) ||| (x <<< (32 - n))

def sigma0 (x : UInt32) : UInt32 := rotateRight x 7 ^^^ rotateRight x 18 ^^^ (x >>> 3)

def sigma1 (x : UInt32) : UInt32 := rotateRight x 17 ^^^ rotateRight x 19 ^^^ (x >>> 10)

def round (w : Words) (constant scheduled : UInt32) : Words :=
  let s1 := rotateRight w.e 6 ^^^ rotateRight w.e 11 ^^^ rotateRight w.e 25
  let choice := (w.e &&& w.f) ^^^ (~~~w.e &&& w.g)
  let t1 := w.h + s1 + choice + constant + scheduled
  let s0 := rotateRight w.a 2 ^^^ rotateRight w.a 13 ^^^ rotateRight w.a 22
  let majority := (w.a &&& w.b) ^^^ (w.a &&& w.c) ^^^ (w.b &&& w.c)
  ⟨t1 + (s0 + majority), w.a, w.b, w.c, w.d + t1, w.e, w.f, w.g⟩

def Words.add (x y : Words) : Words :=
  ⟨x.a + y.a, x.b + y.b, x.c + y.c, x.d + y.d, x.e + y.e, x.f + y.f, x.g + y.g, x.h + y.h⟩

def wordOf : Bytes → UInt32
  | [a, b, c, d] => (a.toUInt32 <<< 24) ||| (b.toUInt32 <<< 16) ||| (c.toUInt32 <<< 8) ||| d.toUInt32
  | _ => 0

def blockWords (block : Bytes) : Array UInt32 :=
  (Array.range 16).map fun i => wordOf ((block.drop (4 * i)).take 4)

/-- The words of a block, extended to one per round. -/
def schedule (block : Bytes) : Array UInt32 :=
  (List.range 48).foldl
    (fun words i =>
      let word (j : Nat) := words.getD (i + j) 0
      words.push (sigma1 (word 14) + word 9 + sigma0 (word 1) + word 0))
    (blockWords block)

def compress (words : Words) (block : Bytes) : Words :=
  let scheduled := schedule block
  let final := (List.range 64).foldl
    (fun w i => round w (roundConstants.toArray.getD i 0) (scheduled.getD i 0)) words
  words.add final

/-- What was read so far: the words after its full blocks, the bytes after those with the last one
first, and its length. -/
structure Hasher where
  words : Words
  pending : Bytes
  length : Nat

namespace Hasher

def start : Hasher := ⟨initialWords, [], 0⟩

def push (h : Hasher) (b : UInt8) : Hasher :=
  let length := h.length + 1
  if length % 64 = 0 then ⟨compress h.words (b :: h.pending).reverse, [], length⟩
  else ⟨h.words, b :: h.pending, length⟩

def update (h : Hasher) (bytes : Bytes) : Hasher := bytes.foldl push h

theorem update_append (h : Hasher) (first second : Bytes) :
    h.update (first ++ second) = (h.update first).update second := List.foldl_append ..

end Hasher

/-- The padding after a text of a given length: a one bit, zeros up to eight bytes before the end of
a block, and the length in bits. -/
def padding (length : Nat) : Bytes :=
  0x80 :: List.replicate ((119 - length % 64) % 64) 0 ++ Bytes.bigEndian 8 (8 * length)

def Words.bytes (w : Words) : Bytes :=
  [w.a, w.b, w.c, w.d, w.e, w.f, w.g, w.h].flatMap fun x => Bytes.bigEndian 4 x.toNat

def Hasher.digest (h : Hasher) : String := (h.update (padding h.length)).words.bytes.hex

end ClusterArchive.Sha256

namespace ClusterArchive

/-- The SHA-256 of bytes, in lower-case hexadecimal. -/
def sha256 (bytes : Bytes) : String := (Sha256.Hasher.start.update bytes).digest

end ClusterArchive
