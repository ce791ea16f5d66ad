/-
What `Ratio` computes on 64-bit counts: the exact floor and ceiling of a fraction of a population,
for every population, without overflow, and the exact comparisons of two fractions.
-/
import RolloutFabric.Codec.Wide
import RolloutFabric.Domain.Policy

namespace RolloutFabric

namespace Ratio

variable {r : Ratio}

theorem validate_isOk : r.validate.isOk = true
    ↔ 0 < r.denominator.toNat ∧ r.numerator.toNat ≤ r.denominator.toNat := by
  unfold validate
  split
  · next h => simp [h, makeStatus, Status.isOk]
  next h =>
  have hpos : 0 < r.denominator.toNat := by
    rcases Nat.eq_zero_or_pos r.denominator.toNat with hzero | hpos
    · exact absurd (UInt32.toNat.inj hzero) h
    · exact hpos
  split
  · next hlt =>
    rw [UInt32.lt_iff_toNat_lt] at hlt
    simp only [makeStatus, Status.isOk]
    constructor
    · intro h
      cases h
    · rintro ⟨-, hle⟩
      omega
  · next hge =>
    rw [UInt32.lt_iff_toNat_lt] at hge
    exact iff_of_true rfl ⟨hpos, by omega⟩

/-- A product split at the divisor: the quotient and the remainder are scaled apart. -/
theorem div_scaled (v n : Nat) {d : Nat} (hd : 0 < d) :
    v * n / d = v / d * n + v % d * n / d := by
  have hv : v * n = v % d * n + d * (v / d * n) := by
    conv_lhs => rw [← Nat.mod_add_div v d]
    rw [Nat.add_mul, Nat.mul_assoc]
  rw [hv, Nat.add_mul_div_left _ _ hd, Nat.add_comm]

/-- The floor of the fraction of a population: nothing overflows on the way. -/
theorem applyFloor_toNat (h : r.validate.isOk = true) (value : UInt64) :
    (r.applyFloor value).toNat = value.toNat * r.numerator.toNat / r.denominator.toNat := by
  obtain ⟨hpos, hle⟩ := validate_isOk.1 h
  have hdenominator : r.denominator.toNat < 2 ^ 32 := r.denominator.toNat_lt
  have hvalue : value.toNat < 2 ^ 64 := value.toNat_lt
  have hsplit := div_scaled value.toNat r.numerator.toNat hpos
  unfold applyFloor
  split
  · next hzero => simp [hzero] at hpos
  split
  · next hzero => simp [hzero]
  split
  · next hge =>
    have hsame : r.numerator.toNat = r.denominator.toNat :=
      Nat.le_antisymm hle (UInt32.le_iff_toNat_le.1 hge)
    rw [hsame, Nat.mul_div_cancel _ hpos]
  have hremainder : value.toNat % r.denominator.toNat < r.denominator.toNat := Nat.mod_lt _ hpos
  have hproduct : value.toNat % r.denominator.toNat * r.numerator.toNat < 2 ^ 64 := by
    calc value.toNat % r.denominator.toNat * r.numerator.toNat
        ≤ r.denominator.toNat * r.denominator.toNat := Nat.mul_le_mul hremainder.le hle
      _ < 2 ^ 32 * 2 ^ 32 := Nat.mul_lt_mul'' hdenominator hdenominator
  have hwhole : value.toNat * r.numerator.toNat / r.denominator.toNat ≤ value.toNat :=
    Nat.div_le_of_le_mul (by rw [Nat.mul_comm]; exact Nat.mul_le_mul_right _ hle)
  have hquotient : value.toNat / r.denominator.toNat * r.numerator.toNat < 2 ^ 64 :=
    calc value.toNat / r.denominator.toNat * r.numerator.toNat
        ≤ value.toNat * r.numerator.toNat / r.denominator.toNat := hsplit ▸ Nat.le_add_right ..
      _ < 2 ^ 64 := by omega
  simp only [UInt64.toNat_add, UInt64.toNat_mul, UInt64.toNat_div, UInt64.toNat_mod,
    UInt32.toNat_toUInt64]
  rw [Nat.mod_eq_of_lt hquotient, Nat.mod_eq_of_lt hproduct, ← hsplit]
  exact Nat.mod_eq_of_lt (by omega)

/-- The ceiling: the least count whose share of the population is at least the ratio. -/
theorem applyCeil_le_iff (h : r.validate.isOk = true) (value : UInt64) (k : Nat) :
    (r.applyCeil value).toNat ≤ k
      ↔ value.toNat * r.numerator.toNat ≤ k * r.denominator.toNat := by
  obtain ⟨hpos, hle⟩ := validate_isOk.1 h
  have hdenominator : r.denominator.toNat < 2 ^ 32 := r.denominator.toNat_lt
  have hvalue : value.toNat < 2 ^ 64 := value.toNat_lt
  unfold applyCeil
  split
  · next hzero =>
    -- nothing is asked for, and nothing is the least number that suffices
    rcases hzero with hzero | hzero
    · simp [hzero] at hpos
    · simp [hzero]
  next hnonzero =>
  split
  · next hge =>
    have hsame : r.numerator.toNat = r.denominator.toNat :=
      Nat.le_antisymm hle (UInt32.le_iff_toNat_le.1 hge)
    rw [hsame, Nat.mul_le_mul_right_iff hpos]
  next hlt =>
  have hfloor := applyFloor_toNat h value
  have hbelow : r.numerator.toNat < r.denominator.toNat := by
    have := mt UInt32.le_iff_toNat_le.2 hlt
    omega
  -- what the floor leaves over is below the denominator, so a wrapped comparison finds it
  have hover := Nat.div_add_mod (value.toNat * r.numerator.toNat) r.denominator.toNat
  have hrest : value.toNat * r.numerator.toNat % r.denominator.toNat < r.denominator.toNat :=
    Nat.mod_lt _ hpos
  have hwhole : value.toNat * r.numerator.toNat / r.denominator.toNat < value.toNat + 1 := by
    rw [Nat.lt_succ_iff]
    exact Nat.div_le_of_le_mul (by rw [Nat.mul_comm]; exact Nat.mul_le_mul_right _ hle)
  rw [← hfloor] at hover hwhole
  generalize value.toNat * r.numerator.toNat % r.denominator.toNat = rest at hover hrest
  generalize r.applyFloor value = q at hover hfloor hwhole ⊢
  have hexact : q * r.denominator.toUInt64 = value * r.numerator.toUInt64 ↔ rest = 0 := by
    rw [← UInt64.toNat_inj, UInt64.toNat_mul, UInt64.toNat_mul, UInt32.toNat_toUInt64,
      UInt32.toNat_toUInt64, ← hover, Nat.mul_comm]
    constructor
    · intro heq
      omega
    · rintro rfl
      rw [Nat.add_zero]
  dsimp only
  split
  · next hsame =>
    rw [← hover, hexact.1 hsame, Nat.add_zero, Nat.mul_comm k, Nat.mul_le_mul_left_iff hpos]
  · next hdiffer =>
    -- the floor falls short, so one more is asked for, and that does not wrap
    have hpositive : 0 < rest := Nat.pos_of_ne_zero (mt hexact.2 hdiffer)
    have hq : q.toNat < value.toNat := by
      by_contra hge
      have hlow : r.denominator.toNat * value.toNat ≤ r.denominator.toNat * q.toNat :=
        Nat.mul_le_mul_left _ (by omega)
      have hhigh : value.toNat * r.numerator.toNat ≤ r.denominator.toNat * value.toNat := by
        rw [Nat.mul_comm]
        exact Nat.mul_le_mul_right _ hle
      omega
    have hnext : (q + 1).toNat = q.toNat + 1 := by
      rw [UInt64.toNat_add, UInt64.toNat_one]
      exact Nat.mod_eq_of_lt (by omega)
    rw [hnext, ← hover]
    constructor
    · intro hk
      calc r.denominator.toNat * q.toNat + rest
          ≤ r.denominator.toNat * (q.toNat + 1) := by rw [Nat.mul_succ]; omega
        _ ≤ k * r.denominator.toNat := by rw [Nat.mul_comm]; exact Nat.mul_le_mul_right _ hk
    · intro hk
      by_contra hlow
      have hbound : k * r.denominator.toNat ≤ r.denominator.toNat * q.toNat := by
        rw [Nat.mul_comm]
        exact Nat.mul_le_mul_left _ (by omega)
      omega

/-- The share of a population that a ratio asks for. -/
def ofPopulation (r : Ratio) (size : Nat) : Nat :=
  ⌈(r.numerator.toNat : ℚ) / r.denominator.toNat * size⌉₊

theorem applyCeil_toNat (h : r.validate.isOk = true) (value : UInt64) :
    (r.applyCeil value).toNat = r.ofPopulation value.toNat := by
  obtain ⟨hpos, -⟩ := validate_isOk.1 h
  have hden : (0 : ℚ) < r.denominator.toNat := by exact_mod_cast hpos
  refine eq_of_forall_ge_iff fun k => ?_
  rw [applyCeil_le_iff h, ofPopulation, Nat.ceil_le, div_mul_eq_mul_div, div_le_iff₀ hden,
    Nat.mul_comm]
  exact_mod_cast Iff.rfl

/-! ## Comparisons -/

/-- `Ratio::compare`. -/
protected def compare (r other : Ratio) : Ordering :=
  compareProducts r.numerator.toUInt64 other.denominator.toUInt64 other.numerator.toUInt64
    r.denominator.toUInt64

/-- The rational number. -/
def value (r : Ratio) : ℚ := r.numerator.toNat / r.denominator.toNat

theorem applyFloor_eq_floor (h : r.validate.isOk = true) (count : UInt64) :
    (r.applyFloor count).toNat = ⌊r.value * count.toNat⌋₊ := by
  rw [applyFloor_toNat h, value, div_mul_eq_mul_div, ← Nat.cast_mul, Nat.floor_div_eq_div,
    Nat.mul_comm]

theorem satisfiedBy_iff (h : r.validate.isOk = true) {part whole : UInt64} (hwhole : whole ≠ 0) :
    r.satisfiedBy part whole = true
      ↔ whole.toNat * r.numerator.toNat ≤ part.toNat * r.denominator.toNat := by
  obtain ⟨hpos, -⟩ := validate_isOk.1 h
  unfold satisfiedBy
  split
  · next hzero => simp [hzero] at hpos
  rw [bne_iff_ne, compareProducts_eq, Ne, compare_lt_iff_lt, Nat.not_lt]
  simp only [UInt32.toNat_toUInt64]

theorem compare_eq {other : Ratio} (h : r.validate.isOk = true) (hother : other.validate.isOk = true) :
    r.compare other = Ord.compare r.value other.value := by
  obtain ⟨hpos, -⟩ := validate_isOk.1 h
  obtain ⟨hother, -⟩ := validate_isOk.1 hother
  have hd : (0 : ℚ) < r.denominator.toNat := by exact_mod_cast hpos
  have hd' : (0 : ℚ) < other.denominator.toNat := by exact_mod_cast hother
  unfold Ratio.compare value
  rw [compareProducts_eq]
  simp only [UInt32.toNat_toUInt64]
  rcases lt_trichotomy (r.numerator.toNat * other.denominator.toNat)
    (other.numerator.toNat * r.denominator.toNat) with hlt | heq | hgt
  · rw [compare_lt_iff_lt.2 hlt]
    refine (compare_lt_iff_lt.2 ?_).symm
    rw [div_lt_div_iff₀ hd hd']
    exact_mod_cast hlt
  · rw [compare_eq_iff_eq.2 heq]
    refine (compare_eq_iff_eq.2 ?_).symm
    rw [div_eq_div_iff hd.ne' hd'.ne']
    exact_mod_cast heq
  · rw [compare_gt_iff_gt.2 hgt]
    refine (compare_gt_iff_gt.2 ?_).symm
    show _ < _
    rw [div_lt_div_iff₀ hd' hd]
    exact_mod_cast hgt

/-- Ratios are exact at every size. -/
theorem exact_at_every_size {other : Ratio} (h : r.validate.isOk = true)
    (hother : other.validate.isOk = true) (count part whole : UInt64) (hwhole : 0 < whole) :
    (r.applyFloor count).toNat = ⌊r.value * count.toNat⌋₊
      ∧ (r.applyCeil count).toNat = ⌈r.value * count.toNat⌉₊
      ∧ (r.satisfiedBy part whole = true
        ↔ whole.toNat * r.numerator.toNat ≤ part.toNat * r.denominator.toNat)
      ∧ r.compare other = Ord.compare r.value other.value := by
  refine ⟨applyFloor_eq_floor h count, applyCeil_toNat h count, satisfiedBy_iff h ?_,
    compare_eq h hother⟩
  rintro rfl
  exact absurd hwhole (by decide)

/-- Two thirds against one half, at the largest count there is. -/
theorem exact_at_every_size_largest :
    ((ratio 2 3).applyFloor 18446744073709551615).toNat
        = ⌊(ratio 2 3).value * (18446744073709551615 : UInt64).toNat⌋₊
      ∧ ((ratio 2 3).applyCeil 18446744073709551615).toNat
        = ⌈(ratio 2 3).value * (18446744073709551615 : UInt64).toNat⌉₊
      ∧ ((ratio 2 3).satisfiedBy 18446744073709551614 18446744073709551615 = true
        ↔ (18446744073709551615 : UInt64).toNat * (ratio 2 3).numerator.toNat
          ≤ (18446744073709551614 : UInt64).toNat * (ratio 2 3).denominator.toNat)
      ∧ (ratio 2 3).compare (ratio 1 2) = Ord.compare (ratio 2 3).value (ratio 1 2).value :=
  exact_at_every_size (by decide) (by decide) _ _ _ (by decide)

end Ratio

end RolloutFabric
