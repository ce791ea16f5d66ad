/-
Time. Instants and durations are signed 64-bit counts of nanoseconds; the freshness test
every gate and the admission filter share is here.
-/
import RolloutFabric.Base.Bytes

namespace RolloutFabric

structure Duration where
  nanos : Int64 := 0
deriving DecidableEq, Inhabited

namespace Duration

def fromNanos (nanos : Int64) : Duration := ⟨nanos⟩
def fromMillis (millis : Int64) : Duration := ⟨millis * 1000000⟩
def fromSeconds (seconds : Int64) : Duration := ⟨seconds * 1000000000⟩
def millis (d : Duration) : Int64 := d.nanos / 1000000
def isZero (d : Duration) : Bool := d.nanos == 0
def isNegative (d : Duration) : Bool := decide (d.nanos < 0)

instance : LT Duration := ⟨fun a b => a.nanos < b.nanos⟩
instance (a b : Duration) : Decidable (a < b) := inferInstanceAs (Decidable (a.nanos < b.nanos))

end Duration

/-- Nanoseconds since the Unix epoch. -/
structure Timestamp where
  nanos : Int64 := 0
deriving DecidableEq, Inhabited

namespace Timestamp

def isNil (t : Timestamp) : Bool := t.nanos == 0

instance : LT Timestamp := ⟨fun a b => a.nanos < b.nanos⟩
instance (a b : Timestamp) : Decidable (a < b) := inferInstanceAs (Decidable (a.nanos < b.nanos))

/-- `Timestamp + Duration`. -/
def add (t : Timestamp) (d : Duration) : Timestamp := ⟨t.nanos + d.nanos⟩

/-- `Timestamp - Timestamp`. -/
def since (t u : Timestamp) : Duration := ⟨t.nanos - u.nanos⟩

end Timestamp

/-- `std::to_string` of a signed 64-bit value. -/
def toStringInt64 (i : Int64) : Bytes := toStringInt i.toInt

structure Freshness where
  fresh : Bool := false
  age : Duration := {}
  reason : Bytes := []
deriving DecidableEq, Inhabited

/-- A sample is fresh when it is not older than `maxAge` and not further in the future than
`maxFutureSkew`. -/
def evaluateFreshness (observedAt now : Timestamp) (maxAge maxFutureSkew : Duration) : Freshness :=
  if observedAt.isNil then
    { reason := text "no observation time was recorded" }
  else
    let age := now.since observedAt
    if age.isNegative then
      -- the most negative age has no negation; the source saturates it
      let ahead : Duration := ⟨if age.nanos = Int64.minValue then Int64.maxValue else -age.nanos⟩
      if maxFutureSkew < ahead then
        { age, reason := text "observation is " ++ toStringInt64 ahead.millis
            ++ text " ms in the future, beyond the permitted clock skew of "
            ++ toStringInt64 maxFutureSkew.millis ++ text " ms" }
      else
        { fresh := true, age, reason := text "observation is within the permitted clock skew" }
    else if maxAge < age then
      { age, reason := text "observation is " ++ toStringInt64 age.millis
          ++ text " ms old, older than the permitted maximum of "
          ++ toStringInt64 maxAge.millis ++ text " ms" }
    else
      { fresh := true, age, reason := text "observation is " ++ toStringInt64 age.millis
          ++ text " ms old" }

/-- An observation that is not more than `maxAge` before `now` and not more than `maxFutureSkew`
after it. -/
structure Timestamp.Usable (observedAt now : Timestamp) (maxAge maxFutureSkew : Duration) : Prop where
  age : observedAt.nanos ≤ now.nanos →
    now.nanos.toInt - observedAt.nanos.toInt ≤ maxAge.nanos.toInt
  ahead : now.nanos < observedAt.nanos →
    observedAt.nanos.toInt - now.nanos.toInt ≤ maxFutureSkew.nanos.toInt

/-- Where the difference does not overflow, a fresh observation is usable. -/
theorem usable_of_fresh {observedAt now : Timestamp} {maxAge maxFutureSkew : Duration}
    (hlow : -2 ^ 63 < now.nanos.toInt - observedAt.nanos.toInt)
    (hhigh : now.nanos.toInt - observedAt.nanos.toInt < 2 ^ 63)
    (h : (evaluateFreshness observedAt now maxAge maxFutureSkew).fresh = true) :
    observedAt.isNil = false ∧ observedAt.Usable now maxAge maxFutureSkew := by
  have hage : (now.nanos - observedAt.nanos).toInt = now.nanos.toInt - observedAt.nanos.toInt := by
    rw [Int64.toInt_sub]
    exact Int.bmod_eq_of_le (by omega) (by omega)
  unfold evaluateFreshness at h
  split at h
  · cases h
  next hnil =>
  refine ⟨by simpa using hnil, ?_⟩
  dsimp only at h
  by_cases hnegative : (now.since observedAt).isNegative = true
  · -- the observation lies ahead of `now`
    rw [if_pos hnegative] at h
    have hneg : (now.nanos - observedAt.nanos).toInt < 0 := by
      simpa [Duration.isNegative, Timestamp.since, Int64.lt_iff_toInt_lt] using hnegative
    have hmin : now.nanos - observedAt.nanos ≠ Int64.minValue := by
      intro hmin
      rw [hmin] at hage
      have : Int64.minValue.toInt = -2 ^ 63 := by decide
      omega
    rw [if_neg (show ¬ (now.since observedAt).nanos = Int64.minValue from hmin)] at h
    split at h
    · cases h
    next hahead =>
    have hle : (-(now.nanos - observedAt.nanos)).toInt ≤ maxFutureSkew.nanos.toInt := by
      rw [← Int64.le_iff_toInt_le]
      exact Int64.not_lt.1 hahead
    rw [Int64.toInt_neg, Int.bmod_eq_of_le (by omega) (by omega)] at hle
    exact ⟨fun hbefore => by rw [Int64.le_iff_toInt_le] at hbefore; omega, fun _ => by omega⟩
  · rw [if_neg hnegative] at h
    have hpos : 0 ≤ (now.nanos - observedAt.nanos).toInt := by
      simpa [Duration.isNegative, Timestamp.since, Int64.lt_iff_toInt_lt] using hnegative
    split at h
    · cases h
    next hfresh =>
    have hle : (now.nanos - observedAt.nanos).toInt ≤ maxAge.nanos.toInt := by
      rw [← Int64.le_iff_toInt_le]
      exact Int64.not_lt.1 hfresh
    exact ⟨fun _ => by omega, fun hafter => by rw [Int64.lt_iff_toInt_lt] at hafter; omega⟩

end RolloutFabric
