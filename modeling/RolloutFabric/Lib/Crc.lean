/-
Cyclic redundancy checks, reflected: a register takes a bit string one bit after the other, at its
low end. The register tells apart two strings that differ in a burst no longer than itself.
-/
import Mathlib

namespace Crc

variable {w : Nat} {poly : BitVec w}

/-! ## The register -/

/-- A shift of the register; the polynomial is added for the bit that leaves. -/
def shift (poly c : BitVec w) : BitVec w := if c.getLsbD 0 then (c >>> 1) ^^^ poly else c >>> 1

def shifts (poly : BitVec w) : Nat → BitVec w → BitVec w
  | 0, c => c
  | n + 1, c => shifts poly n (shift poly c)

/-- One bit at the low end. -/
def bit (w : Nat) (b : Bool) : BitVec w := BitVec.ofNat w b.toNat

def step (poly c : BitVec w) (b : Bool) : BitVec w := shift poly (c ^^^ bit w b)

/-- The register after a bit string. -/
def run (poly c : BitVec w) (bits : List Bool) : BitVec w := bits.foldl (step poly) c

/-- A bit string as a word, the first bit at the low end. -/
def word (w : Nat) : List Bool → BitVec w
  | [] => 0#w
  | b :: bits => bit w b ^^^ (word w bits <<< 1)

/-- The bits of a byte string, in the order in which the register takes them: the least significant
bit of a byte first. -/
def bytesBits (bytes : List UInt8) : List Bool :=
  bytes.flatMap fun b => (List.range 8).map b.toNat.testBit

theorem bytesBits_cons (b : UInt8) (bytes : List UInt8) :
    bytesBits (b :: bytes) = (List.range 8).map b.toNat.testBit ++ bytesBits bytes :=
  List.flatMap_cons

theorem bytesBits_append (a b : List UInt8) : bytesBits (a ++ b) = bytesBits a ++ bytesBits b :=
  List.flatMap_append

@[simp] theorem length_bytesBits (bytes : List UInt8) :
    (bytesBits bytes).length = 8 * bytes.length := by
  induction bytes with
  | nil => rfl
  | cons b bytes ih =>
    rw [bytesBits_cons, List.length_append, ih, List.length_map, List.length_range,
      List.length_cons]
    omega

theorem run_append (c : BitVec w) (x y : List Bool) :
    run poly c (x ++ y) = run poly (run poly c x) y :=
  List.foldl_append

/-- Two bit strings of one length that differ, but only in at most `n` consecutive bits. -/
def Burst (n : Nat) (x y : List Bool) : Prop :=
  ∃ before u v after, x = before ++ u ++ after ∧ y = before ++ v ++ after
    ∧ u.length = v.length ∧ u.length ≤ n ∧ u ≠ v

/-! ## Shifts -/

theorem shift_xor (c d : BitVec w) : shift poly (c ^^^ d) = shift poly c ^^^ shift poly d := by
  unfold shift
  simp only [BitVec.getLsbD_xor, BitVec.ushiftRight_xor_distrib]
  cases c.getLsbD 0 <;> cases d.getLsbD 0 <;> simp
  · ac_rfl
  · ac_rfl
  · rw [BitVec.xor_assoc, BitVec.xor_comm (d >>> 1), ← BitVec.xor_assoc poly, BitVec.xor_self,
      BitVec.zero_xor]

theorem shifts_xor (n : Nat) (c d : BitVec w) :
    shifts poly n (c ^^^ d) = shifts poly n c ^^^ shifts poly n d := by
  induction n generalizing c d with
  | zero => rfl
  | succ n ih => rw [shifts, shifts, shifts, shift_xor, ih]

/-- What has no bit at the low end only moves. -/
theorem shift_shiftLeft {c : BitVec w} (h : c.getLsbD (w - 1) = false) :
    shift poly (c <<< 1) = c := by
  have hlow : (c <<< 1).getLsbD 0 = false := by simp
  rw [shift, hlow, if_neg Bool.false_ne_true]
  refine BitVec.eq_of_getLsbD_eq fun i hi => ?_
  rw [BitVec.getLsbD_ushiftRight, BitVec.getLsbD_shiftLeft]
  by_cases hlast : 1 + i < w
  · simp [hlast]
  · rw [show i = w - 1 by omega, h]
    simp [h]

/-- Nothing is lost in a shift when the polynomial has its highest bit. -/
theorem shift_eq_zero (hpoly : poly.getLsbD (w - 1) = true) {c : BitVec w}
    (h : shift poly c = 0#w) : c = 0#w := by
  unfold shift at h
  split at h
  · have hlast := congrArg (fun x : BitVec w => x.getLsbD (w - 1)) h
    simp only [BitVec.getLsbD_xor, BitVec.getLsbD_ushiftRight, hpoly, BitVec.getLsbD_zero] at hlast
    rw [BitVec.getLsbD_of_ge c _ (by omega)] at hlast
    cases hlast
  · next hlow =>
    refine BitVec.eq_of_getLsbD_eq fun i hi => ?_
    rw [BitVec.getLsbD_zero]
    cases i with
    | zero => simpa using hlow
    | succ i =>
      have hbit := congrArg (fun x : BitVec w => x.getLsbD i) h
      simp only [BitVec.getLsbD_ushiftRight, BitVec.getLsbD_zero] at hbit
      rwa [Nat.add_comm] at hbit

/-- What has no bit at the low places only moves. -/
theorem shifts_shiftLeft (n : Nat) {c : BitVec w} (h : ∀ i, w ≤ i + n → c.getLsbD i = false) :
    shifts poly n (c <<< n) = c := by
  induction n with
  | zero => simp [shifts]
  | succ n ih =>
    have hhigh : (c <<< n).getLsbD (w - 1) = false := by
      rw [BitVec.getLsbD_shiftLeft, h (w - 1 - n) (by omega), Bool.and_false]
    rw [shifts, BitVec.shiftLeft_add, shift_shiftLeft hhigh]
    exact ih fun i hi => h i (by omega)

/-- `n` shifts of a word: those of its low places, beside the rest moved down. -/
theorem shifts_split (n : Nat) (c : BitVec w) :
    shifts poly n c = shifts poly n (c &&& BitVec.ofNat w (2 ^ n - 1)) ^^^ (c >>> n) := by
  have hsplit : c = (c &&& BitVec.ofNat w (2 ^ n - 1)) ^^^ ((c >>> n) <<< n) := by
    refine BitVec.eq_of_getLsbD_eq fun i hi => ?_
    rw [BitVec.getLsbD_xor, BitVec.getLsbD_and, BitVec.getLsbD_ofNat,
      Nat.testBit_two_pow_sub_one, BitVec.getLsbD_shiftLeft, BitVec.getLsbD_ushiftRight]
    by_cases hlow : i < n
    · simp [hi, hlow]
    · simp [hi, hlow, show n + (i - n) = i by omega]
  have hhigh : shifts poly n ((c >>> n) <<< n) = c >>> n := by
    refine shifts_shiftLeft n fun i hi => ?_
    rw [BitVec.getLsbD_ushiftRight, BitVec.getLsbD_of_ge _ _ (by omega)]
  calc shifts poly n c
      = shifts poly n ((c &&& BitVec.ofNat w (2 ^ n - 1)) ^^^ ((c >>> n) <<< n)) := by rw [← hsplit]
    _ = shifts poly n (c &&& BitVec.ofNat w (2 ^ n - 1)) ^^^ (c >>> n) := by
      rw [shifts_xor, hhigh]

theorem shift_inj (hpoly : poly.getLsbD (w - 1) = true) {c d : BitVec w}
    (h : shift poly c = shift poly d) : c = d := by
  have hzero : shift poly (c ^^^ d) = 0#w := by rw [shift_xor, h, BitVec.xor_self]
  exact BitVec.xor_eq_zero_iff.mp (shift_eq_zero hpoly hzero)

theorem shifts_inj (hpoly : poly.getLsbD (w - 1) = true) (n : Nat) {c d : BitVec w}
    (h : shifts poly n c = shifts poly n d) : c = d := by
  induction n generalizing c d with
  | zero => exact h
  | succ n ih => exact shift_inj hpoly (ih h)

theorem run_inj (hpoly : poly.getLsbD (w - 1) = true) (bits : List Bool) {c d : BitVec w}
    (h : run poly c bits = run poly d bits) : c = d := by
  induction bits generalizing c d with
  | nil => exact h
  | cons b bits ih => exact (BitVec.xor_left_inj _).mp (shift_inj hpoly (ih h))

/-! ## Words -/

theorem getLsbD_bit (b : Bool) (i : Nat) : (bit w b).getLsbD i = (decide (i = 0 ∧ i < w) && b) := by
  cases b with
  | false => simp [bit]
  | true =>
    have hone : Nat.testBit 1 i = decide (i = 0) := by
      rw [Bool.eq_iff_iff, Nat.testBit_one_eq_true_iff_self_eq_zero, decide_eq_true_iff]
    rw [bit, BitVec.getLsbD_ofNat, Bool.toNat_true, hone, Bool.and_true, Bool.decide_and,
      Bool.and_comm]

theorem getLsbD_word (bits : List Bool) {i : Nat} (hi : i < w) :
    (word w bits).getLsbD i = bits.getD i false := by
  induction bits generalizing i with
  | nil => simp [word]
  | cons b bits ih =>
    rw [word, BitVec.getLsbD_xor, getLsbD_bit, BitVec.getLsbD_shiftLeft]
    cases i with
    | zero => simp [hi]
    | succ i => simp [hi, ih (show i < w by omega)]

theorem word_inj {u v : List Bool} (hlength : u.length = v.length) (hu : u.length ≤ w)
    (h : word w u = word w v) : u = v := by
  refine List.ext_getElem hlength fun i hi hi' => ?_
  have hbit := congrArg (fun x : BitVec w => x.getLsbD i) h
  simp only [getLsbD_word _ (show i < w by omega)] at hbit
  simpa [hi, hi'] using hbit

/-- Up to its own length, the register takes a bit string as one word. -/
theorem run_word (c : BitVec w) {bits : List Bool} (h : bits.length ≤ w) :
    run poly c bits = shifts poly bits.length (c ^^^ word w bits) := by
  induction bits generalizing c with
  | nil => simp [run, shifts, word]
  | cons b bits ih =>
    rw [List.length_cons] at h
    have hhigh : (word w bits).getLsbD (w - 1) = false := by
      rw [getLsbD_word _ (by omega), List.getD_eq_getElem?_getD,
        List.getElem?_eq_none (by omega), Option.getD_none]
    calc run poly c (b :: bits)
        = shifts poly bits.length (step poly c b ^^^ word w bits) := ih _ (by omega)
      _ = shifts poly bits.length (shift poly (c ^^^ word w (b :: bits))) := by
        rw [word, ← BitVec.xor_assoc, shift_xor, shift_shiftLeft hhigh]
        rfl

/-! ## Bursts -/

theorem Burst.length_eq {n : Nat} {x y : List Bool} (h : Burst n x y) : x.length = y.length := by
  obtain ⟨before, u, v, after, rfl, rfl, hlength, -, -⟩ := h
  simp only [List.length_append, hlength]

/-- The register tells apart what differs in a burst no longer than itself. -/
theorem run_ne_of_burst (hpoly : poly.getLsbD (w - 1) = true) {x y : List Bool} (h : Burst w x y)
    (c : BitVec w) : run poly c x ≠ run poly c y := by
  obtain ⟨before, u, v, after, rfl, rfl, hlength, hw, hne⟩ := h
  intro hrun
  rw [run_append, run_append, run_append, run_append] at hrun
  have hmiddle : run poly (run poly c before) u = run poly (run poly c before) v :=
    run_inj hpoly after hrun
  rw [run_word (run poly c before) hw, run_word (run poly c before) (show v.length ≤ w by omega),
    hlength] at hmiddle
  exact hne (word_inj hlength hw ((BitVec.xor_right_inj _).mp (shifts_inj hpoly _ hmiddle)))

end Crc
