/-
The civil calendar behind RFC 3339: the two conversions between a date and its count of days
since 1970-01-01, against a calendar that adds up the lengths of years and months.
-/
import Mathlib

namespace RolloutFabric

structure CivilDate where
  year : Int := 1970
  month : Nat := 1
  day : Nat := 1
deriving DecidableEq, Inhabited

/-! ## The conversions -/

/-- `days_from_civil`. The division of the year is the truncating one. -/
def daysFromCivil (year : Int) (month day : Nat) : Int :=
  let year := year - (if month ≤ 2 then 1 else 0)
  let era := (if 0 ≤ year then year else year - 399).tdiv 400
  let yearOfEra := (year - era * 400).toNat
  let monthPrime := if 2 < month then month - 3 else month + 9
  let dayOfYear := (153 * monthPrime + 2) / 5 + day - 1
  let dayOfEra := yearOfEra * 365 + yearOfEra / 4 - yearOfEra / 100 + dayOfYear
  era * 146097 + dayOfEra - 719468

/-- `civil_from_days`. -/
def civilFromDays (days : Int) : CivilDate :=
  let days := days + 719468
  let era := (if 0 ≤ days then days else days - 146096).tdiv 146097
  let dayOfEra := (days - era * 146097).toNat
  let yearOfEra := (dayOfEra - dayOfEra / 1460 + dayOfEra / 36524 - dayOfEra / 146096) / 365
  let year := yearOfEra + era * 400
  let dayOfYear := dayOfEra - (365 * yearOfEra + yearOfEra / 4 - yearOfEra / 100)
  let mp := (5 * dayOfYear + 2) / 153
  let day := dayOfYear - (153 * mp + 2) / 5 + 1
  let month := if mp < 10 then mp + 3 else mp - 9
  { year := year + if month ≤ 2 then 1 else 0, month, day }

/-! ## The proleptic Gregorian calendar -/

def IsLeap (year : Nat) : Prop := 4 ∣ year ∧ (¬ 100 ∣ year ∨ 400 ∣ year)

instance (year : Nat) : Decidable (IsLeap year) := inferInstanceAs (Decidable (_ ∧ _))

def yearLength (year : Nat) : Nat := if IsLeap year then 366 else 365

/-- The days of a month, January being the month 1. -/
def monthLength (year month : Nat) : Nat :=
  match month with
  | 4 | 6 | 9 | 11 => 30
  | 2 => if IsLeap year then 29 else 28
  | _ => 31

/-- The days of the calendar before a date, counted from the first of January of the year 0. -/
def dayNumber (year month day : Nat) : Nat :=
  ∑ y ∈ Finset.range year, yearLength y + ∑ m ∈ Finset.Ico 1 month, monthLength year m + (day - 1)

theorem sum_yearLength (year : Nat) : ∑ y ∈ Finset.range year, yearLength y
    = 365 * year + (year + 3) / 4 - (year + 99) / 100 + (year + 399) / 400 := by
  induction year with
  | zero => rfl
  | succ year ih =>
    rw [Finset.sum_range_succ, ih, yearLength]
    by_cases hleap : IsLeap year
    · rw [if_pos hleap]
      unfold IsLeap at hleap
      omega
    · rw [if_neg hleap]
      unfold IsLeap at hleap
      omega

theorem sum_monthLength (year : Nat) {month : Nat} (h : 1 ≤ month ∧ month ≤ 12) :
    ∑ m ∈ Finset.Ico 1 month, monthLength year m
      = if month ≤ 2 then 31 * (month - 1)
        else (153 * (month - 3) + 2) / 5 + 59 + if IsLeap year then 1 else 0 := by
  obtain ⟨hlow, hhigh⟩ := h
  interval_cases month <;> simp [Finset.sum_Ico_succ_top, monthLength] <;> split <;> rfl

/-- An era starts at the floor of the quotient: the source corrects the truncating division. -/
theorem era_eq (year : Int) : (if 0 ≤ year then year else year - 399).tdiv 400 = year / 400 := by
  split
  · next h => exact Int.tdiv_eq_ediv_of_nonneg h
  · next h =>
    rw [Int.tdiv_eq_ediv]
    split
    · omega
    · show _ + (1 : Int) = _
      omega

/-- The conversion counts the days of the calendar: the first of January of the year 0 is day
-719528. -/
theorem daysFromCivil_eq {year month day : Nat} (hmonth : 1 ≤ month ∧ month ≤ 12) (hday : 1 ≤ day) :
    daysFromCivil year month day = dayNumber year month day - 719528 := by
  unfold daysFromCivil dayNumber
  dsimp only
  rw [era_eq, sum_yearLength, sum_monthLength year hmonth]
  by_cases hearly : month ≤ 2
  · -- the source counts January and February to the year before
    rw [if_pos hearly, if_neg (show ¬ 2 < month by omega), if_pos hearly]
    omega
  · rw [if_neg hearly, if_pos (show 2 < month by omega), if_neg hearly]
    by_cases hleap : IsLeap year
    · rw [if_pos hleap]
      unfold IsLeap at hleap
      omega
    · rw [if_neg hleap]
      unfold IsLeap at hleap
      omega

/-! ## One undoes the other -/

/-- The year of the era that `civil_from_days` finds, and the day of that year. -/
theorem yearOfEra_spec {dayOfEra year : Nat} (h : dayOfEra < 146097)
    (hyear : (dayOfEra - dayOfEra / 1460 + dayOfEra / 36524 - dayOfEra / 146096) / 365 = year) :
    year < 400 ∧ 365 * year + year / 4 - year / 100 ≤ dayOfEra
      ∧ dayOfEra ≤ 365 * year + year / 4 - year / 100 + 365 := by
  obtain ⟨century, hcentury⟩ : ∃ century, dayOfEra / 36524 = century := ⟨_, rfl⟩
  have hc : century ≤ 4 := by omega
  rw [hcentury] at hyear
  rcases Nat.lt_or_ge dayOfEra 146096 with hlt | hge
  · -- the year lies in the century the day lies in
    have hlast : dayOfEra / 146096 = 0 := by omega
    rw [hlast] at hyear
    have hsame : year / 100 = century := by interval_cases century <;> omega
    rw [hsame]
    interval_cases century <;> omega
  · -- the last day of the era
    have hd : dayOfEra = 146096 := by omega
    subst hd hyear
    interval_cases century <;> omega

theorem eraOfDays_eq (days : Int) :
    (if 0 ≤ days then days else days - 146096).tdiv 146097 = days / 146097 := by
  split
  · next h => exact Int.tdiv_eq_ediv_of_nonneg h
  · next h =>
    rw [Int.tdiv_eq_ediv]
    split
    · omega
    · show _ + (1 : Int) = _
      omega

/-- The month whose place in a year that starts in March is `mp`. -/
def marchMonth (mp : Nat) : Nat := if mp < 10 then mp + 3 else mp - 9

theorem monthPrime_marchMonth {mp : Nat} (h : mp ≤ 11) :
    (if 2 < marchMonth mp then marchMonth mp - 3 else marchMonth mp + 9) = mp := by
  unfold marchMonth
  split
  · next hlow => rw [if_pos (by omega)]; omega
  · next hhigh => rw [if_neg (by omega)]; omega

/-- A date of an era counts from the start of the era. -/
theorem daysFromCivil_of_era {era : Int} {year mp day : Nat} (hyear : year < 400) (hmp : mp ≤ 11) :
    daysFromCivil (year + era * 400 + if marchMonth mp ≤ 2 then 1 else 0) (marchMonth mp) day
      = era * 146097
        + (year * 365 + year / 4 - year / 100 + ((153 * mp + 2) / 5 + day - 1) : Nat) - 719468 := by
  have hearly : (year + era * 400 + if marchMonth mp ≤ 2 then 1 else 0)
      - (if marchMonth mp ≤ 2 then 1 else 0) = year + era * 400 := by omega
  have hera : (year + era * 400) / 400 = era := by omega
  have hrest : (year + era * 400 - era * 400).toNat = year := by omega
  unfold daysFromCivil
  dsimp only
  rw [hearly, era_eq, hera, hrest, monthPrime_marchMonth hmp]

/-- What `civil_from_days` returns: a month and a day that a text can hold, and the date the days
were counted from. -/
theorem civilFromDays_spec (days : Int) :
    (1 ≤ (civilFromDays days).month ∧ (civilFromDays days).month ≤ 12)
      ∧ (1 ≤ (civilFromDays days).day ∧ (civilFromDays days).day ≤ 31)
      ∧ daysFromCivil (civilFromDays days).year (civilFromDays days).month (civilFromDays days).day
        = days := by
  unfold civilFromDays
  dsimp only
  rw [eraOfDays_eq]
  obtain ⟨dayOfEra, hday⟩ : ∃ n, (days + 719468 - (days + 719468) / 146097 * 146097).toNat = n :=
    ⟨_, rfl⟩
  obtain ⟨era, hera⟩ : ∃ era, (days + 719468) / 146097 = era := ⟨_, rfl⟩
  have hdays : days = era * 146097 + dayOfEra - 719468 := by omega
  have hinside : dayOfEra < 146097 := by omega
  rw [hday, hera]
  clear hday hera
  obtain ⟨year, hyear⟩ : ∃ year, (dayOfEra - dayOfEra / 1460 + dayOfEra / 36524
      - dayOfEra / 146096) / 365 = year := ⟨_, rfl⟩
  obtain ⟨hlt, hlow, hhigh⟩ := yearOfEra_spec hinside hyear
  rw [hyear]
  clear hyear
  obtain ⟨dayOfYear, hdayOfYear⟩ : ∃ n, dayOfEra - (365 * year + year / 4 - year / 100) = n :=
    ⟨_, rfl⟩
  rw [hdayOfYear]
  obtain ⟨mp, hmp⟩ : ∃ mp, (5 * dayOfYear + 2) / 153 = mp := ⟨_, rfl⟩
  have hmp11 : mp ≤ 11 := by omega
  rw [hmp]
  show (1 ≤ marchMonth mp ∧ marchMonth mp ≤ 12) ∧ _ ∧ daysFromCivil (year + era * 400
    + if marchMonth mp ≤ 2 then 1 else 0) (marchMonth mp) _ = days
  refine ⟨?_, by omega, ?_⟩
  · unfold marchMonth
    split <;> omega
  · rw [daysFromCivil_of_era hlt hmp11]
    omega

end RolloutFabric
