/-
SHA-256 as FIPS 180-4 defines it, on bit strings: the constants from the roots of the first primes,
padding to whole blocks, the message schedule, sixty-four rounds a block.
-/
import Mathlib

namespace Fips180

/-! ## Bit strings -/

/-- The low `n` bits of a number, most significant first. -/
def bitsOf : Nat → Nat → List Bool
  | 0, _ => []
  | n + 1, v => bitsOf n (v / 2) ++ [decide (v % 2 = 1)]

/-- The number that a bit string writes. -/
def natOf (bits : List Bool) : Nat := bits.foldl (fun n b => 2 * n + b.toNat) 0

/-- The bit string of a byte string. -/
def bytesBits (bytes : List UInt8) : List Bool := bytes.flatMap fun b => bitsOf 8 b.toNat

@[simp] theorem length_bitsOf (n v : Nat) : (bitsOf n v).length = n := by
  induction n generalizing v with
  | zero => rfl
  | succ n ih => rw [bitsOf, List.length_append, ih, List.length_singleton]

theorem bytesBits_cons (b : UInt8) (bytes : List UInt8) :
    bytesBits (b :: bytes) = bitsOf 8 b.toNat ++ bytesBits bytes :=
  List.flatMap_cons

@[simp] theorem length_bytesBits (bytes : List UInt8) :
    (bytesBits bytes).length = 8 * bytes.length := by
  induction bytes with
  | nil => rfl
  | cons b bytes ih =>
    rw [bytesBits_cons, List.length_append, length_bitsOf, ih, List.length_cons]
    omega

theorem bytesBits_append (a b : List UInt8) : bytesBits (a ++ b) = bytesBits a ++ bytesBits b :=
  List.flatMap_append

theorem foldl_bits (bits : List Bool) (m : Nat) :
    bits.foldl (fun n b => 2 * n + b.toNat) m = m * 2 ^ bits.length + natOf bits := by
  induction bits generalizing m with
  | nil => simp [natOf]
  | cons b bits ih =>
    rw [natOf, List.foldl_cons, List.foldl_cons, ih, ih (2 * 0 + b.toNat), List.length_cons,
      Nat.pow_succ]
    ring

theorem natOf_append (a b : List Bool) : natOf (a ++ b) = natOf a * 2 ^ b.length + natOf b := by
  rw [natOf, List.foldl_append, foldl_bits, ← natOf]

theorem natOf_bitsOf {n v : Nat} (h : v < 2 ^ n) : natOf (bitsOf n v) = v := by
  induction n generalizing v with
  | zero => simp [natOf, bitsOf]; omega
  | succ n ih =>
    rw [bitsOf, natOf_append, ih (by rw [Nat.pow_succ] at h; omega)]
    rcases Nat.mod_two_eq_zero_or_one v with hlast | hlast <;> simp [natOf, hlast] <;> omega

theorem bitsOf_add (m n v : Nat) : bitsOf (m + n) v = bitsOf m (v / 2 ^ n) ++ bitsOf n v := by
  induction n generalizing v with
  | zero => simp [bitsOf]
  | succ n ih =>
    rw [← Nat.add_assoc, bitsOf, bitsOf, ih, List.append_assoc, Nat.div_div_eq_div_mul,
      Nat.pow_succ, Nat.mul_comm]

theorem bitsOf_mod (n v : Nat) : bitsOf n (v % 2 ^ n) = bitsOf n v := by
  induction n generalizing v with
  | zero => rfl
  | succ n ih =>
    have hhalf : v % 2 ^ (n + 1) / 2 = v / 2 % 2 ^ n := by
      rw [Nat.pow_succ, Nat.mul_comm, Nat.mod_mul_right_div_self]
    have hlast : v % 2 ^ (n + 1) % 2 = v % 2 :=
      Nat.mod_mod_of_dvd v (Dvd.intro_left (2 ^ n) rfl)
    rw [bitsOf, bitsOf, hhalf, ih, hlast]

theorem natOf_lt (bits : List Bool) : natOf bits < 2 ^ bits.length := by
  induction bits with
  | nil => simp [natOf]
  | cons b bits ih =>
    rw [natOf, List.foldl_cons, foldl_bits, List.length_cons, Nat.pow_succ]
    cases b <;> simp <;> omega

theorem drop_bytesBits (bytes : List UInt8) (n : Nat) :
    (bytesBits bytes).drop (8 * n) = bytesBits (bytes.drop n) := by
  induction n generalizing bytes with
  | zero => rfl
  | succ n ih =>
    cases bytes with
    | nil => simp [bytesBits]
    | cons b bytes =>
      rw [List.drop_succ_cons, ← ih, Nat.mul_succ, Nat.add_comm, ← List.drop_drop, bytesBits_cons,
        List.drop_left' (length_bitsOf 8 _)]

theorem take_bytesBits (bytes : List UInt8) (n : Nat) :
    (bytesBits bytes).take (8 * n) = bytesBits (bytes.take n) := by
  induction n generalizing bytes with
  | zero => rfl
  | succ n ih =>
    cases bytes with
    | nil => simp [bytesBits]
    | cons b bytes =>
      have hlength : (bitsOf 8 b.toNat).length = 8 := length_bitsOf 8 _
      rw [List.take_succ_cons, bytesBits_cons, bytesBits_cons, Nat.mul_succ, Nat.add_comm,
        List.take_append, hlength, List.take_of_length_le (by omega), Nat.add_sub_cancel_left, ih]

/-! ## Functions and constants -/

abbrev Word := BitVec 32

def choose (x y z : Word) : Word := (x &&& y) ^^^ (~~~x &&& z)
def majority (x y z : Word) : Word := (x &&& y) ^^^ (x &&& z) ^^^ (y &&& z)
def bigSigma0 (x : Word) : Word := x.rotateRight 2 ^^^ x.rotateRight 13 ^^^ x.rotateRight 22
def bigSigma1 (x : Word) : Word := x.rotateRight 6 ^^^ x.rotateRight 11 ^^^ x.rotateRight 25
def smallSigma0 (x : Word) : Word := x.rotateRight 7 ^^^ x.rotateRight 18 ^^^ (x >>> 3)
def smallSigma1 (x : Word) : Word := x.rotateRight 17 ^^^ x.rotateRight 19 ^^^ (x >>> 10)

/-- The first sixty-four prime numbers: no number from two on and below them divides them. -/
def primes : List Nat :=
  (List.range' 2 310).filter fun n => (List.range' 2 (n - 2)).all fun d => n % d != 0

theorem primes_eq : primes = [2, 3, 5, 7, 11, 13, 17, 19, 23, 29, 31, 37, 41, 43, 47, 53, 59, 61, 67,
    71, 73, 79, 83, 89, 97, 101, 103, 107, 109, 113, 127, 131, 137, 139, 149, 151, 157, 163, 167,
    173, 179, 181, 191, 193, 197, 199, 211, 223, 227, 229, 233, 239, 241, 251, 257, 263, 269, 271,
    277, 281, 283, 293, 307, 311] := by
  decide +kernel

/-- The first thirty-two bits of the fractional part of the `degree`-th root of the prime `t`. -/
def fractionBits (degree t : Nat) : Word :=
  BitVec.ofNat 32 (Nat.nthRoot degree (primes.getD t 0 * 2 ^ (32 * degree)))

/-- The round constants `K`: cube roots. -/
def roundConstant (t : Nat) : Word := fractionBits 3 t

/-! ## The hash -/

/-- Eight words: the working variables, and the intermediate hash values. -/
structure Words where
  a : Word
  b : Word
  c : Word
  d : Word
  e : Word
  f : Word
  g : Word
  h : Word
deriving DecidableEq

/-- The initial hash value: square roots. -/
def initialHash : Words :=
  ⟨fractionBits 2 0, fractionBits 2 1, fractionBits 2 2, fractionBits 2 3, fractionBits 2 4,
    fractionBits 2 5, fractionBits 2 6, fractionBits 2 7⟩

/-- The padded message: a one, the least number of zeros, and the length in sixty-four bits, so
that there are whole blocks of 512 bits. -/
def pad (message : List Bool) : List Bool :=
  message ++ true :: List.replicate ((959 - message.length % 512) % 512) false
    ++ bitsOf 64 message.length

/-- Word `t` of block `i`. -/
def messageWord (padded : List Bool) (i t : Nat) : Word :=
  BitVec.ofNat 32 (natOf ((padded.drop (512 * i + 32 * t)).take 32))

/-- The message schedule `W` of a block. -/
def schedule (block : Nat → Word) (t : Nat) : Word :=
  if t < 16 then block t
  else smallSigma1 (schedule block (t - 2)) + schedule block (t - 7)
    + smallSigma0 (schedule block (t - 15)) + schedule block (t - 16)

/-- One round. -/
def round (s : Words) (k w : Word) : Words :=
  let t1 := s.h + bigSigma1 s.e + choose s.e s.f s.g + k + w
  let t2 := bigSigma0 s.a + majority s.a s.b s.c
  ⟨t1 + t2, s.a, s.b, s.c, s.d + t1, s.e, s.f, s.g⟩

def Words.add (s t : Words) : Words :=
  ⟨s.a + t.a, s.b + t.b, s.c + t.c, s.d + t.d, s.e + t.e, s.f + t.f, s.g + t.g, s.h + t.h⟩

/-- The sixty-four rounds of a block. -/
def rounds (s : Words) (block : Nat → Word) : Words :=
  (List.range 64).foldl (fun v t => round v (roundConstant t) (schedule block t)) s

/-- The intermediate hash value after one block more. -/
def compress (s : Words) (block : Nat → Word) : Words := s.add (rounds s block)

/-- The hash value after the first `n` blocks. -/
def hashBlocks (padded : List Bool) (n : Nat) : Words :=
  (List.range n).foldl (fun s i => compress s (messageWord padded i)) initialHash

def Words.bits (s : Words) : List Bool :=
  [s.a, s.b, s.c, s.d, s.e, s.f, s.g, s.h].flatMap fun w => bitsOf 32 w.toNat

/-- The digest of a message. -/
def sha256 (message : List Bool) : List Bool :=
  (hashBlocks (pad message) ((pad message).length / 512)).bits

/-- Padding gives whole blocks. -/
theorem length_pad (message : List Bool) : (pad message).length % 512 = 0 := by
  simp only [pad, List.length_append, List.length_cons, List.length_replicate, length_bitsOf]
  omega

end Fips180
