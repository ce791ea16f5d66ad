/-
Decimal digits: the digits of a number, the number of a text of digits, and `std::to_string`.
-/
import RolloutFabric.Base.Bytes

namespace RolloutFabric

def isDigit (c : UInt8) : Bool := decide (48 ≤ c) && decide (c ≤ 57)

def digitValue (c : UInt8) : Nat := c.toNat - 48

/-- The `n` last decimal digits of `v`. -/
def fixedDigits : Nat → Nat → Bytes
  | 0, _ => []
  | n + 1, v => fixedDigits n (v / 10) ++ [(48 + v % 10).toUInt8]

@[simp] theorem length_fixedDigits (n v : Nat) : (fixedDigits n v).length = n := by
  induction n generalizing v with
  | zero => rfl
  | succ n ih => simp [fixedDigits, ih]

/-- The number a text of digits stands for. -/
def digitsValue (ds : Bytes) : Nat := ds.foldl (fun value c => value * 10 + digitValue c) 0

theorem digitsValue_concat (ds : Bytes) (c : UInt8) :
    digitsValue (ds ++ [c]) = digitsValue ds * 10 + digitValue c := by
  simp [digitsValue]

theorem isDigit_iff {c : UInt8} : isDigit c = true ↔ 48 ≤ c.toNat ∧ c.toNat ≤ 57 := by
  simp [isDigit, UInt8.le_iff_toNat_le]

theorem digit_toNat (v : Nat) : (48 + v % 10).toUInt8.toNat = 48 + v % 10 := by
  simp only [Nat.toUInt8, UInt8.toNat_ofNat']
  omega

theorem isDigit_digit (v : Nat) : isDigit (48 + v % 10).toUInt8 = true := by
  rw [isDigit_iff, digit_toNat]
  omega

theorem digit_of_isDigit {c : UInt8} (h : isDigit c = true) (v : Nat) :
    c = (48 + (v * 10 + digitValue c) % 10).toUInt8 := by
  rw [isDigit_iff] at h
  rw [← UInt8.toNat_inj, digit_toNat, digitValue]
  omega

/-- Reading digits one by one finds the number they are the digits of. -/
theorem foldlM_digits {n v : Nat} {ds : Bytes} : (ds.length = n ∧ ds.foldlM
      (fun value c => if isDigit c then some (value * 10 + digitValue c) else none) 0 = some v)
    ↔ v < 10 ^ n ∧ ds = fixedDigits n v := by
  induction n generalizing v ds with
  | zero =>
    rw [List.length_eq_zero_iff]
    constructor
    · rintro ⟨rfl, h⟩
      cases h
      exact ⟨by decide, rfl⟩
    · rintro ⟨hv, rfl⟩
      rw [Nat.pow_zero, Nat.lt_one_iff] at hv
      exact ⟨rfl, congrArg some hv.symm⟩
  | succ n ih =>
    -- the last digit is the remainder, so the induction takes digits from the end
    rcases List.eq_nil_or_concat ds with rfl | ⟨ds, c, rfl⟩
    · refine iff_of_false (by simp) ?_
      rintro ⟨-, h⟩
      have := congrArg List.length h
      simp at this
    rw [List.concat_eq_append, List.length_append, List.foldlM_append]
    simp only [List.length_singleton, Nat.add_right_cancel_iff, fixedDigits, List.foldlM_cons,
      List.foldlM_nil, Option.bind_eq_bind, Option.bind_eq_some_iff]
    constructor
    · rintro ⟨hlen, w, hw, h⟩
      obtain ⟨hlt, rfl⟩ := ih.1 ⟨hlen, hw⟩
      split at h
      · next hc =>
        obtain ⟨x, hx, h⟩ := h
        cases hx
        cases h
        have hdigit := digit_of_isDigit hc w
        rw [isDigit_iff] at hc
        have hvalue : digitValue c < 10 := by
          unfold digitValue
          omega
        refine ⟨by rw [Nat.pow_succ]; omega, ?_⟩
        rw [← hdigit, show (w * 10 + digitValue c) / 10 = w by omega]
      · next hc =>
        obtain ⟨x, hx, -⟩ := h
        cases hx
    · rintro ⟨hlt, h⟩
      obtain ⟨rfl, hc⟩ := List.append_inj' h rfl
      cases hc
      rw [Nat.pow_succ] at hlt
      obtain ⟨hlen, hread⟩ := (@ih (v / 10) _).2 ⟨by omega, rfl⟩
      refine ⟨hlen, v / 10, hread, ?_⟩
      rw [if_pos (isDigit_digit v)]
      refine ⟨_, rfl, ?_⟩
      rw [digitValue, digit_toNat]
      exact congrArg some (by omega)

theorem fixedDigits_zero (n : Nat) : fixedDigits n 0 = List.replicate n 48 := by
  induction n with
  | zero => rfl
  | succ n ih =>
    rw [List.replicate_succ', ← ih]
    rfl

theorem padded_decimalRev {width fuel n : Nat} (hn : n < 10 ^ (width + 1)) (hfuel : width < fuel) :
    List.replicate (width + 1 - (decimalRev fuel n).length) 48 ++ (decimalRev fuel n).reverse
      = fixedDigits (width + 1) n := by
  induction width generalizing fuel n with
  | zero =>
    obtain ⟨fuel, rfl⟩ : ∃ k, fuel = k + 1 := ⟨fuel - 1, by omega⟩
    rw [decimalRev, if_pos (by simpa using hn)]
    rfl
  | succ width ih =>
    obtain ⟨fuel, rfl⟩ : ∃ k, fuel = k + 1 := ⟨fuel - 1, by omega⟩
    rw [decimalRev, fixedDigits]
    split
    · next hlt =>
      rw [Nat.div_eq_of_lt hlt, fixedDigits_zero]
      rfl
    · next hge =>
      have hnext := @ih fuel (n / 10) (by rw [Nat.pow_succ] at hn; omega) (by omega)
      rw [← hnext, List.length_cons, List.reverse_cons, List.append_assoc, Nat.add_sub_add_right]

theorem digitsValue_fixedDigits {n v : Nat} (h : v < 10 ^ n) :
    digitsValue (fixedDigits n v) = v := by
  induction n generalizing v with
  | zero => exact (Nat.lt_one_iff.1 h).symm
  | succ n ih =>
    rw [Nat.pow_succ] at h
    rw [fixedDigits, digitsValue_concat, ih (by omega), digitValue, digit_toNat]
    omega

theorem isDigit_of_mem_fixedDigits {n v : Nat} {c : UInt8} (h : c ∈ fixedDigits n v) :
    isDigit c = true := by
  induction n generalizing v with
  | zero => cases h
  | succ n ih =>
    rcases List.mem_append.1 h with h | h
    · exact ih h
    · rw [List.mem_singleton.1 h]
      exact isDigit_digit v

/-! ## `std::to_string` -/

theorem reverse_decimalRev {k fuel n : Nat} (hn : n < 10 ^ (k + 1)) (hk : k = 0 ∨ 10 ^ k ≤ n)
    (hfuel : k < fuel) : (decimalRev fuel n).reverse = fixedDigits (k + 1) n := by
  induction k generalizing fuel n with
  | zero =>
    obtain ⟨fuel, rfl⟩ : ∃ m, fuel = m + 1 := ⟨fuel - 1, by omega⟩
    rw [decimalRev, if_pos (by simpa using hn)]
    rfl
  | succ k ih =>
    obtain ⟨fuel, rfl⟩ : ∃ m, fuel = m + 1 := ⟨fuel - 1, by omega⟩
    have hle := hk.resolve_left (Nat.succ_ne_zero k)
    have hten : 10 ≤ 10 ^ (k + 1) := Nat.le_self_pow (Nat.succ_ne_zero k) 10
    rw [Nat.pow_succ] at hle hn
    rw [decimalRev, if_neg (by rw [Nat.pow_succ] at hten; omega), List.reverse_cons, fixedDigits,
      ih (by omega) (.inr (by omega)) (by omega)]

/-- As many digits as the number has: one for zero. -/
theorem toStringNat_eq {n : Nat} (hn : n < 10 ^ 20) :
    ∃ k, n < 10 ^ (k + 1) ∧ (k = 0 ∨ 10 ^ k ≤ n) ∧ toStringNat n = fixedDigits (k + 1) n := by
  have hlt : n < 10 ^ (Nat.log 10 n + 1) := Nat.lt_pow_succ_log_self (by decide) n
  have hle : Nat.log 10 n = 0 ∨ 10 ^ Nat.log 10 n ≤ n := by
    by_cases hzero : n = 0
    · exact .inl (by simp [hzero])
    · exact .inr (Nat.pow_log_le_self 10 hzero)
  have hlog : Nat.log 10 n < 20 := Nat.log_lt_of_lt_pow' (by decide) hn
  exact ⟨Nat.log 10 n, hlt, hle, reverse_decimalRev hlt hle hlog⟩

end RolloutFabric
