/-
The 128-bit products of the codec: the limbs of the two factors recombine to the exact product,
so two products are compared as natural numbers.
-/
import RolloutFabric.Codec.Wire

namespace RolloutFabric

/-- The natural number two words stand for. -/
def U128.toNat (u : U128) : Nat := u.high.toNat * 2 ^ 64 + u.low.toNat

theorem toNat_low_limb (x : UInt64) : (x &&& (0xFFFFFFFF : UInt64)).toNat = x.toNat % 2 ^ 32 := by
  rw [UInt64.toNat_and]
  exact Nat.and_two_pow_sub_one_eq_mod x.toNat 32

theorem toNat_high_limb (x : UInt64) : (x >>> (32 : UInt64)).toNat = x.toNat / 2 ^ 32 := by
  rw [UInt64.toNat_shiftRight]
  exact Nat.shiftRight_eq_div_pow x.toNat 32

theorem toNat_combine (x y : UInt64) :
    ((x &&& (0xFFFFFFFF : UInt64)) ||| (y <<< (32 : UInt64))).toNat
      = y.toNat % 2 ^ 32 * 2 ^ 32 + x.toNat % 2 ^ 32 := by
  rw [UInt64.toNat_or, toNat_low_limb, UInt64.toNat_shiftLeft]
  have hshift : y.toNat <<< ((32 : UInt64).toNat % 64) % 2 ^ 64 = 2 ^ 32 * (y.toNat % 2 ^ 32) := by
    show y.toNat <<< 32 % 2 ^ 64 = _
    rw [Nat.shiftLeft_eq]
    omega
  rw [hshift, Nat.or_comm,
    ← Nat.two_pow_add_eq_or_of_lt (Nat.mod_lt _ (by decide)) (y.toNat % 2 ^ 32)]
  omega

/-- The product of two words, from the products of their limbs. -/
theorem product_of_limbs (a b : Nat) : a * b
    = a / 2 ^ 32 * (b / 2 ^ 32) * 2 ^ 64
      + (a % 2 ^ 32 * (b / 2 ^ 32) + a / 2 ^ 32 * (b % 2 ^ 32)) * 2 ^ 32
      + a % 2 ^ 32 * (b % 2 ^ 32) := by
  conv_lhs => rw [← Nat.div_add_mod a (2 ^ 32), ← Nat.div_add_mod b (2 ^ 32)]
  ring

/-- `multiply_wide` is exact: no carry is lost. -/
theorem multiplyWide_toNat (lhs rhs : UInt64) :
    (multiplyWide lhs rhs).toNat = lhs.toNat * rhs.toNat := by
  have hlt {x y : Nat} (hx : x < 2 ^ 32) (hy : y < 2 ^ 32) : x * y ≤ (2 ^ 32 - 1) * (2 ^ 32 - 1) :=
    Nat.mul_le_mul (by omega) (by omega)
  have hlhs : lhs.toNat < 2 ^ 64 := lhs.toNat_lt
  have hrhs : rhs.toNat < 2 ^ 64 := rhs.toNat_lt
  have hproduct : lhs.toNat * rhs.toNat < 2 ^ 64 * 2 ^ 64 := Nat.mul_lt_mul'' hlhs hrhs
  have hlimbs := product_of_limbs lhs.toNat rhs.toNat
  rw [hlimbs] at hproduct ⊢
  have hp0 := hlt (Nat.mod_lt lhs.toNat (show 2 ^ 32 > 0 by decide))
    (Nat.mod_lt rhs.toNat (show 2 ^ 32 > 0 by decide))
  have hp1 := hlt (Nat.mod_lt lhs.toNat (show 2 ^ 32 > 0 by decide))
    (show rhs.toNat / 2 ^ 32 < 2 ^ 32 by omega)
  have hp2 := hlt (show lhs.toNat / 2 ^ 32 < 2 ^ 32 by omega)
    (Nat.mod_lt rhs.toNat (show 2 ^ 32 > 0 by decide))
  have hp3 := hlt (show lhs.toNat / 2 ^ 32 < 2 ^ 32 by omega)
    (show rhs.toNat / 2 ^ 32 < 2 ^ 32 by omega)
  unfold U128.toNat multiplyWide
  simp only [toNat_combine, UInt64.toNat_add, UInt64.toNat_mul, toNat_low_limb, toNat_high_limb]
  generalize lhs.toNat % 2 ^ 32 * (rhs.toNat % 2 ^ 32) = p0 at *
  generalize lhs.toNat % 2 ^ 32 * (rhs.toNat / 2 ^ 32) = p1 at *
  generalize lhs.toNat / 2 ^ 32 * (rhs.toNat % 2 ^ 32) = p2 at *
  generalize lhs.toNat / 2 ^ 32 * (rhs.toNat / 2 ^ 32) = p3 at *
  rw [Nat.mod_eq_of_lt (show p0 < 2 ^ 64 by omega), Nat.mod_eq_of_lt (show p1 < 2 ^ 64 by omega),
    Nat.mod_eq_of_lt (show p2 < 2 ^ 64 by omega), Nat.mod_eq_of_lt (show p3 < 2 ^ 64 by omega)]
  have hmiddle : ((p0 / 2 ^ 32 + p1 % 2 ^ 32) % 2 ^ 64 + p2 % 2 ^ 32) % 2 ^ 64
      = p0 / 2 ^ 32 + p1 % 2 ^ 32 + p2 % 2 ^ 32 := by omega
  rw [hmiddle]
  have hhigh : p3 + p1 / 2 ^ 32 + p2 / 2 ^ 32 + (p0 / 2 ^ 32 + p1 % 2 ^ 32 + p2 % 2 ^ 32) / 2 ^ 32
      < 2 ^ 64 := by omega
  rw [Nat.mod_eq_of_lt (show p3 + p1 / 2 ^ 32 < 2 ^ 64 by omega),
    Nat.mod_eq_of_lt (show p3 + p1 / 2 ^ 32 + p2 / 2 ^ 32 < 2 ^ 64 by omega),
    Nat.mod_eq_of_lt hhigh]
  omega

/-! ## Comparing -/

theorem compareWide_eq (lhs rhs : U128) : compareWide lhs rhs = compare lhs.toNat rhs.toNat := by
  have hl := lhs.low.toNat_lt
  have hr := rhs.low.toNat_lt
  unfold compareWide U128.toNat
  split
  · next hhigh =>
    rw [Ne, ← UInt64.toNat_inj] at hhigh
    split
    · next hlt =>
      rw [UInt64.lt_iff_toNat_lt] at hlt
      exact (compare_lt_iff_lt.2 (by omega)).symm
    · next hge =>
      rw [UInt64.lt_iff_toNat_lt] at hge
      exact (compare_gt_iff_gt.2 (by omega)).symm
  next hhigh =>
  rw [not_not] at hhigh
  rw [hhigh]
  split
  · next hlow =>
    rw [Ne, ← UInt64.toNat_inj] at hlow
    split
    · next hlt =>
      rw [UInt64.lt_iff_toNat_lt] at hlt
      exact (compare_lt_iff_lt.2 (by omega)).symm
    · next hge =>
      rw [UInt64.lt_iff_toNat_lt] at hge
      exact (compare_gt_iff_gt.2 (by omega)).symm
  · next hlow =>
    rw [not_not] at hlow
    rw [hlow]
    exact (compare_eq_iff_eq.2 rfl).symm

/-- `compare_products` compares the exact products. -/
theorem compareProducts_eq (lhsA lhsB rhsA rhsB : UInt64) :
    compareProducts lhsA lhsB rhsA rhsB
      = compare (lhsA.toNat * lhsB.toNat) (rhsA.toNat * rhsB.toNat) := by
  unfold compareProducts
  rw [compareWide_eq, multiplyWide_toNat, multiplyWide_toNat]

end RolloutFabric
