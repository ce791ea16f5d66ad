/-
Instants and durations as integers: where their 64-bit sums are exact, and what the freshness
test accepts.
-/
import RolloutFabric.Base.Time

namespace RolloutFabric

namespace Timestamp

variable (t : Timestamp) (d : Duration)

theorem toInt_bounds : -2 ^ 63 ≤ t.nanos.toInt ∧ t.nanos.toInt < 2 ^ 63 :=
  ⟨Int64.le_toInt t.nanos, Int64.toInt_lt t.nanos⟩

theorem toInt_since (u : Timestamp) :
    (t.since u).nanos.toInt = (t.nanos.toInt - u.nanos.toInt).bmod (2 ^ 64) :=
  Int64.toInt_sub ..

/-- A sum is exact where it is representable. -/
theorem toInt_add_eq_iff : (t.add d).nanos.toInt = t.nanos.toInt + d.nanos.toInt
    ↔ -2 ^ 63 ≤ t.nanos.toInt + d.nanos.toInt ∧ t.nanos.toInt + d.nanos.toInt < 2 ^ 63 := by
  constructor
  · intro h
    rw [← h]
    exact toInt_bounds _
  · rintro ⟨hlow, hhigh⟩
    show (t.nanos + d.nanos).toInt = _
    rw [Int64.toInt_add]
    exact Int.bmod_eq_of_le (by omega) (by omega)

end Timestamp

/-! ## Freshness -/

/-- What the freshness test compares: the difference as it is stored, a negative one negated and
saturated. -/
theorem evaluateFreshness_fresh (observedAt now : Timestamp) (maxAge maxFutureSkew : Duration) :
    (evaluateFreshness observedAt now maxAge maxFutureSkew).fresh = true
      ↔ observedAt.isNil = false
        ∧ ((now.since observedAt).nanos.toInt < 0 →
          min (-(now.since observedAt).nanos.toInt) (2 ^ 63 - 1) ≤ maxFutureSkew.nanos.toInt)
        ∧ (0 ≤ (now.since observedAt).nanos.toInt →
          (now.since observedAt).nanos.toInt ≤ maxAge.nanos.toInt) := by
  have hlow := Int64.le_toInt (now.since observedAt).nanos
  have hmin : (now.since observedAt).nanos = Int64.minValue
      ↔ (now.since observedAt).nanos.toInt = -2 ^ 63 := by
    rw [← Int64.toInt_inj]
    exact Iff.rfl
  unfold evaluateFreshness
  generalize now.since observedAt = age at hlow hmin ⊢
  have hnegative : age.isNegative = true ↔ age.nanos.toInt < 0 := by
    rw [Duration.isNegative, decide_eq_true_iff, Int64.lt_iff_toInt_lt]
    exact Iff.rfl
  split
  · next hnil => simp [hnil]
  next hnil =>
  rw [Bool.not_eq_true] at hnil
  dsimp only
  by_cases hneg : age.isNegative = true
  · rw [if_pos hneg]
    rw [hnegative] at hneg
    -- the age is turned around, but for the least one, which is cut off
    have hahead : (if age.nanos = Int64.minValue then Int64.maxValue else -age.nanos).toInt
        = min (-age.nanos.toInt) (2 ^ 63 - 1) := by
      split
      · next h =>
        rw [hmin.1 h]
        rfl
      · next h =>
        have hne := mt hmin.2 h
        rw [Int64.toInt_neg, Int.bmod_eq_of_le (by omega) (by omega)]
        omega
    generalize (if age.nanos = Int64.minValue then Int64.maxValue else -age.nanos) = ahead
      at hahead ⊢
    have hlt : maxFutureSkew < (⟨ahead⟩ : Duration)
        ↔ maxFutureSkew.nanos.toInt < min (-age.nanos.toInt) (2 ^ 63 - 1) := by
      rw [← hahead]
      exact Int64.lt_iff_toInt_lt
    split
    · next h =>
      rw [hlt] at h
      simp only [Bool.false_eq_true, false_iff]
      rintro ⟨-, hskew, -⟩
      have := hskew hneg
      omega
    · next h =>
      rw [hlt] at h
      simp only [true_iff]
      exact ⟨hnil, fun _ => by omega, fun hpos => absurd hneg (by omega)⟩
  · rw [if_neg hneg]
    rw [hnegative] at hneg
    have hlt : maxAge < age ↔ maxAge.nanos.toInt < age.nanos.toInt := Int64.lt_iff_toInt_lt
    split
    · next h =>
      rw [hlt] at h
      simp only [Bool.false_eq_true, false_iff]
      rintro ⟨-, -, hage⟩
      have := hage (by omega)
      omega
    · next h =>
      rw [hlt] at h
      simp only [true_iff]
      exact ⟨hnil, fun h' => absurd h' hneg, fun _ => by omega⟩

/-- Over the integers, an observation at most `maxFutureSkew` after `now` and at most `maxAge`
before it. -/
def Timestamp.Recent (observedAt now : Timestamp) (maxAge maxFutureSkew : Duration) : Prop :=
  observedAt.nanos.toInt - now.nanos.toInt ≤ maxFutureSkew.nanos.toInt
    ∧ now.nanos.toInt - observedAt.nanos.toInt ≤ maxAge.nanos.toInt

variable {observedAt now : Timestamp} {maxAge maxFutureSkew : Duration}

/-- Freshness is exact, the saturated age of the first instant at the epoch apart. -/
theorem fresh_exact_iff (hnil : observedAt.isNil = false) (hage : 0 ≤ maxAge.nanos.toInt)
    (hskew : 0 ≤ maxFutureSkew.nanos.toInt) (hnow : 0 ≤ now.nanos.toInt)
    (hbound : now.nanos.toInt < 2 ^ 63 - maxFutureSkew.nanos.toInt) :
    ((evaluateFreshness observedAt now maxAge maxFutureSkew).fresh = true
        ↔ observedAt.Recent now maxAge maxFutureSkew)
      ↔ ¬ (now.nanos.toInt = 0 ∧ maxFutureSkew.nanos.toInt = 2 ^ 63 - 1
        ∧ observedAt.nanos.toInt = -2 ^ 63) := by
  obtain ⟨hlow, hhigh⟩ := observedAt.toInt_bounds
  have hmax : maxAge.nanos.toInt < 2 ^ 63 := Int64.toInt_lt _
  have hskewmax : maxFutureSkew.nanos.toInt < 2 ^ 63 := Int64.toInt_lt _
  rw [evaluateFreshness_fresh, Timestamp.toInt_since, Timestamp.Recent]
  simp only [hnil, true_and]
  by_cases hwraps : now.nanos.toInt - observedAt.nanos.toInt < 2 ^ 63
  · -- the difference is exact
    rw [Int.bmod_eq_of_le (by omega) (by omega)]
    omega
  · -- the difference wraps to a negative one that is too far ahead, or saturates
    have hage : (now.nanos.toInt - observedAt.nanos.toInt).bmod (2 ^ 64)
        = now.nanos.toInt - observedAt.nanos.toInt - 2 ^ 64 := by
      rw [← Int.sub_bmod_right]
      exact Int.bmod_eq_of_le (by omega) (by omega)
    rw [hage]
    omega

/-- An observation one second before `now`, with a bound of two. -/
theorem fresh_exact_iff_second :
    ((evaluateFreshness ⟨1000000000⟩ ⟨2000000000⟩ (.fromSeconds 2) (.fromSeconds 0)).fresh = true
        ↔ Timestamp.Recent ⟨1000000000⟩ ⟨2000000000⟩ (.fromSeconds 2) (.fromSeconds 0))
      ↔ ¬ ((⟨2000000000⟩ : Timestamp).nanos.toInt = 0
        ∧ (Duration.fromSeconds 0).nanos.toInt = 2 ^ 63 - 1
        ∧ (⟨1000000000⟩ : Timestamp).nanos.toInt = -2 ^ 63) :=
  fresh_exact_iff rfl (by decide) (by decide) (by decide) (by decide)

/-- The age of the earliest instant at the epoch has no 64-bit value: it is stored negative and
saturated to the largest skew there is, which it does not exceed. -/
theorem saturated_age_is_fresh :
    (⟨Int64.minValue⟩ : Timestamp).isNil = false
      ∧ (0 : Int) < 2 ^ 63 - (⟨Int64.maxValue⟩ : Duration).nanos.toInt
      ∧ (evaluateFreshness ⟨Int64.minValue⟩ ⟨0⟩ ⟨0⟩ ⟨Int64.maxValue⟩).fresh = true
      ∧ ¬ Timestamp.Recent ⟨Int64.minValue⟩ ⟨0⟩ ⟨0⟩ ⟨Int64.maxValue⟩ := by
  refine ⟨rfl, by decide, by decide, ?_⟩
  rintro ⟨-, hage⟩
  revert hage
  decide

end RolloutFabric
