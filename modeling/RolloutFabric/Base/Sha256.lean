/-
SHA-256, as the runtime's streaming hasher computes it. Every identifier and every digest the
runtime mints goes through `sha256`; no proof of this development looks inside it. A 32-bit word
is a natural number below 2^32, which keeps the function fast to evaluate.
-/
import RolloutFabric.Base.Bytes

namespace RolloutFabric

abbrev Digest256 := FixedBytes 32

/-! ## The compression function -/

/-- Arithmetic on words is modulo 2^32. -/
def kWordModulus : Nat := 0x100000000

def kRoundConstants : List Nat := [
  0x428a2f98, 0x71374491, 0xb5c0fbcf, 0xe9b5dba5, 0x3956c25b, 0x59f111f1, 0x923f82a4,
  0xab1c5ed5, 0xd807aa98, 0x12835b01, 0x243185be, 0x550c7dc3, 0x72be5d74, 0x80deb1fe,
  0x9bdc06a7, 0xc19bf174, 0xe49b69c1, 0xefbe4786, 0x0fc19dc6, 0x240ca1cc, 0x2de92c6f,
  0x4a7484aa, 0x5cb0a9dc, 0x76f988da, 0x983e5152, 0xa831c66d, 0xb00327c8, 0xbf597fc7,
  0xc6e00bf3, 0xd5a79147, 0x06ca6351, 0x14292967, 0x27b70a85, 0x2e1b2138, 0x4d2c6dfc,
  0x53380d13, 0x650a7354, 0x766a0abb, 0x81c2c92e, 0x92722c85, 0xa2bfe8a1, 0xa81a664b,
  0xc24b8b70, 0xc76c51a3, 0xd192e819, 0xd6990624, 0xf40e3585, 0x106aa070, 0x19a4c116,
  0x1e376c08, 0x2748774c, 0x34b0bcb5, 0x391c0cb3, 0x4ed8aa4a, 0x5b9cca4f, 0x682e6ff3,
  0x748f82ee, 0x78a5636f, 0x84c87814, 0x8cc70208, 0x90befffa, 0xa4506ceb, 0xbef9a3f7,
  0xc67178f2]

/-- The eight working variables, and the eight state words between blocks. -/
structure ShaWords where
  a : Nat
  b : Nat
  c : Nat
  d : Nat
  e : Nat
  f : Nat
  g : Nat
  h : Nat
deriving DecidableEq

def kInitialState : ShaWords :=
  ⟨0x6a09e667, 0xbb67ae85, 0x3c6ef372, 0xa54ff53a, 0x510e527f, 0x9b05688c, 0x1f83d9ab, 0x5be0cd19⟩

def rotr (value count : Nat) : Nat :=
  (value >>> count) ||| ((value <<< (32 - count)) % kWordModulus)

/-- `big_endian_load` of every four bytes of a block. -/
def bigEndianLoad : Bytes → List Nat
  | a :: b :: c :: d :: rest =>
    ((a.toNat <<< 24) ||| (b.toNat <<< 16) ||| (c.toNat <<< 8) ||| d.toNat) :: bigEndianLoad rest
  | _ => []

/-- Extends the message schedule by `n` words; the most recent word is the head. -/
def extendSchedule : Nat → List Nat → List Nat
  | 0, w => w
  | n + 1, w =>
    let w15 := w.getD 14 0
    let w2 := w.getD 1 0
    let s0 := rotr w15 7 ^^^ rotr w15 18 ^^^ (w15 >>> 3)
    let s1 := rotr w2 17 ^^^ rotr w2 19 ^^^ (w2 >>> 10)
    extendSchedule n (((w.getD 15 0 + s0 + w.getD 6 0 + s1) % kWordModulus) :: w)

/-- One of the sixty-four rounds, on a round constant and a schedule word. -/
def shaRound (s : ShaWords) (kw : Nat × Nat) : ShaWords :=
  let sigma1 := rotr s.e 6 ^^^ rotr s.e 11 ^^^ rotr s.e 25
  let choose := (s.e &&& s.f) ^^^ ((kWordModulus - 1 - s.e) &&& s.g)
  let temp1 := s.h + sigma1 + choose + kw.1 + kw.2
  let sigma0 := rotr s.a 2 ^^^ rotr s.a 13 ^^^ rotr s.a 22
  let majority := (s.a &&& s.b) ^^^ (s.a &&& s.c) ^^^ (s.b &&& s.c)
  let temp2 := sigma0 + majority
  ⟨(temp1 + temp2) % kWordModulus, s.a, s.b, s.c, (s.d + temp1) % kWordModulus, s.e, s.f, s.g⟩

/-- One block, as its sixteen words. -/
def compress (s : ShaWords) (block : List Nat) : ShaWords :=
  let schedule := (extendSchedule 48 block.reverse).reverse
  let t := (kRoundConstants.zip schedule).foldl shaRound s
  ⟨(s.a + t.a) % kWordModulus, (s.b + t.b) % kWordModulus, (s.c + t.c) % kWordModulus,
    (s.d + t.d) % kWordModulus, (s.e + t.e) % kWordModulus, (s.f + t.f) % kWordModulus,
    (s.g + t.g) % kWordModulus, (s.h + t.h) % kWordModulus⟩

/-- Compresses every whole block of a sequence of words. -/
def compressAll (s : ShaWords) : List Nat → ShaWords
  | w0 :: w1 :: w2 :: w3 :: w4 :: w5 :: w6 :: w7 :: w8 :: w9 :: w10 :: w11 :: w12 :: w13 :: w14
      :: w15 :: rest =>
    compressAll
      (compress s [w0, w1, w2, w3, w4, w5, w6, w7, w8, w9, w10, w11, w12, w13, w14, w15]) rest
  | _ => s

/-! ## The streaming hasher -/

structure Sha256 where
  state : ShaWords := kInitialState
  /-- The first `buffered_` bytes of `buffer_`. -/
  buffer : Bytes := []
  totalBytes : UInt64 := 0
  finalized : Bool := false
deriving DecidableEq

/-- Compresses the whole blocks of `data` and returns what is left of it. -/
def absorbBlocks (s : ShaWords) (data : Bytes) : ShaWords × Bytes :=
  (compressAll s (bigEndianLoad data), data.drop (data.length / 64 * 64))

namespace Sha256

def update (self : Sha256) (data : Bytes) : Sha256 :=
  let self := if self.finalized then {} else self
  let totalBytes := self.totalBytes + data.length.toUInt64
  if self.buffer.isEmpty then
    let (state, rest) := absorbBlocks self.state data
    { self with state, buffer := rest, totalBytes }
  else
    let want := min (64 - self.buffer.length) data.length
    let filled := self.buffer ++ data.take want
    if filled.length = 64 then
      let data := data.drop want
      let (state, rest) := absorbBlocks (compress self.state (bigEndianLoad filled)) data
      { self with state, buffer := rest, totalBytes }
    else
      { self with buffer := filled, totalBytes }

/-- Feeds zero bytes until fifty-six are buffered; at most sixty-four are needed. -/
def padZeros : Nat → Sha256 → Sha256
  | 0, self => self
  | fuel + 1, self => if self.buffer.length = 56 then self else padZeros fuel (self.update [0])

def wordBytes (w : Nat) : Bytes :=
  [(w >>> 24).toUInt8, (w >>> 16).toUInt8, (w >>> 8).toUInt8, w.toUInt8]

/-- The eight length bytes that close the last block, most significant first. -/
def lengthBytes (bitLength : UInt64) : Bytes :=
  ([56, 48, 40, 32, 24, 16, 8, 0] : List UInt64).map fun shift => (bitLength >>> shift).toUInt8

def finish (self : Sha256) : Digest256 :=
  let bitLength := self.totalBytes * 8
  let padded := padZeros 64 (self.update [0x80])
  let s := compress padded.state (bigEndianLoad (padded.buffer ++ lengthBytes bitLength))
  ⟨wordBytes s.a ++ wordBytes s.b ++ wordBytes s.c ++ wordBytes s.d
    ++ wordBytes s.e ++ wordBytes s.f ++ wordBytes s.g ++ wordBytes s.h, rfl⟩

end Sha256

def sha256 (data : Bytes) : Digest256 := (Sha256.update {} data).finish

example : (sha256 (text "abc")).data.take 4 = [0xba, 0x78, 0x16, 0xbf] := by decide +kernel

end RolloutFabric
