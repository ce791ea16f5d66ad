/-
RFC 3339: how an instant is written, and which texts are read as instants.
-/
import RolloutFabric.Base.Calendar
import RolloutFabric.Base.Digits
import RolloutFabric.Base.Status
import RolloutFabric.Base.Time
import RolloutFabric.Lib.Exact

namespace RolloutFabric

/-! ## Writing -/

/-- `%0<width>lld`, and `%0<width>u`, of a value that is not negative. -/
def zeroPadded (width n : Nat) : Bytes :=
  List.replicate (width - (toStringNat n).length) 48 ++ toStringNat n

/-- `%0<width>lld`: the sign counts for the width. -/
def zeroPaddedInt (width : Nat) (i : Int) : Bytes :=
  if i < 0 then 45 :: zeroPadded (width - 1) i.natAbs else zeroPadded width i.natAbs

/-- `Timestamp::to_rfc3339`. The divisions truncate, so an instant before the epoch is moved to
the floor of its second and of its day. -/
def Timestamp.toRfc3339 (t : Timestamp) : Bytes :=
  let totalSeconds := t.nanos.toInt.tdiv 1000000000
  let subsecondNanos := t.nanos.toInt.tmod 1000000000
  let (flooredSeconds, subsecondNanos) :=
    if subsecondNanos < 0 then (totalSeconds - 1, subsecondNanos + 1000000000)
    else (totalSeconds, subsecondNanos)
  let secondsOfDay := flooredSeconds.tmod 86400
  let days := flooredSeconds.tdiv 86400
  let (days, secondsOfDay) :=
    if secondsOfDay < 0 then (days - 1, secondsOfDay + 86400) else (days, secondsOfDay)
  let date := civilFromDays days
  let hour := (secondsOfDay.tdiv 3600).toNat
  let minute := ((secondsOfDay.tmod 3600).tdiv 60).toNat
  let second := (secondsOfDay.tmod 60).toNat
  let millis := subsecondNanos.tdiv 1000000
  zeroPaddedInt 4 date.year ++ text "-" ++ zeroPadded 2 date.month ++ text "-"
    ++ zeroPadded 2 date.day ++ text "T" ++ zeroPadded 2 hour ++ text ":" ++ zeroPadded 2 minute
    ++ text ":" ++ zeroPadded 2 second ++ text "." ++ zeroPaddedInt 3 millis ++ text "Z"

/-! ## Reading -/

/-- `parse_fixed`: exactly `count` digits at `offset`. -/
def parseFixed (t : Bytes) (offset count : Nat) : Option Nat :=
  if t.length < offset + count then none
  else ((t.drop offset).take count).foldlM
    (fun value c => if isDigit c then some (value * 10 + digitValue c) else none) 0

/-- The fields before the fraction. -/
structure CivilTime where
  year : Nat
  month : Nat
  day : Nat
  hour : Nat
  minute : Nat
  second : Nat
deriving DecidableEq

def parseCivilTime (t : Bytes) : Option CivilTime := do
  let year ← parseFixed t 0 4
  guard (t.getD 4 0 = 45)
  let month ← parseFixed t 5 2
  guard (t.getD 7 0 = 45)
  let day ← parseFixed t 8 2
  guard (t.getD 10 0 = 84 ∨ t.getD 10 0 = 116)
  let hour ← parseFixed t 11 2
  guard (t.getD 13 0 = 58)
  let minute ← parseFixed t 14 2
  guard (t.getD 16 0 = 58)
  let second ← parseFixed t 17 2
  return { year, month, day, hour, minute, second }

/-- The check of the fields: a day is only held against 31. -/
def CivilTime.outOfRange (c : CivilTime) : Bool :=
  c.month < 1 || 12 < c.month || c.day < 1 || 31 < c.day || 23 < c.hour || 59 < c.minute
    || 60 < c.second

/-- The loop over the digits of a fraction: how many there are, the nanoseconds the first nine
stand for and what follows. -/
def fractionLoop : Bytes → Nat → Nat → Nat → Nat × Nat × Bytes
  | [], digits, _, nanos => (digits, nanos, [])
  | c :: rest, digits, scale, nanos =>
    if isDigit c then
      if digits < 9 then
        fractionLoop rest (digits + 1) (scale / 10) (nanos + digitValue c * scale)
      else fractionLoop rest (digits + 1) scale nanos
    else (digits, nanos, c :: rest)

/-- The fraction, where there is one. -/
def parseFraction (rest : Bytes) : Result (Nat × Bytes) :=
  match rest with
  | 46 :: rest =>
    let (digits, nanos, rest) := fractionLoop rest 0 100000000 0
    if digits = 0 then
      .error (makeStatus .invalidArgument (text "timestamp has an empty fractional part"))
    else .ok (nanos, rest)
  | rest => .ok (0, rest)

/-- The offset from UTC in seconds. -/
def parseOffset (rest : Bytes) : Result (Int × Bytes) :=
  let malformed := makeStatus .invalidArgument (text "timestamp offset is malformed")
  match rest with
  | [] => .error (makeStatus .invalidArgument
      (text "timestamp must end with Z or a numeric UTC offset"))
  | c :: rest =>
    if c = 90 ∨ c = 122 then .ok (0, rest)
    else if c = 43 ∨ c = 45 then
      match parseFixed rest 0 2 with
      | none => .error malformed
      | some hour =>
        let rest := rest.drop 2
        -- the colon may be missing
        let rest := if rest.head? = some 58 then rest.tail else rest
        match parseFixed rest 0 2 with
        | none => .error malformed
        | some minute =>
          if 23 < hour ∨ 59 < minute then
            .error (makeStatus .invalidArgument (text "timestamp offset out of range"))
          else
            let offset : Int := hour * 3600 + minute * 60
            .ok (if c = 45 then -offset else offset, rest.drop 2)
    else .error (makeStatus .invalidArgument
      (text "timestamp must end with Z or a numeric UTC offset"))

/-- `Timestamp::parse_rfc3339`. The nanoseconds wrap at 64 bits. -/
def parseRfc3339 (t : Bytes) : Result Timestamp :=
  if t.length < 20 then
    .error (makeStatus .invalidArgument (text "timestamp is shorter than YYYY-MM-DDTHH:MM:SSZ"))
  else match parseCivilTime t with
  | none => .error (makeStatus .invalidArgument
      (text "timestamp '" ++ t ++ text "' is not an RFC 3339 instant"))
  | some c =>
    if c.outOfRange then
      .error (makeStatus .invalidArgument (text "timestamp field out of range"))
    else do
      let (nanos, rest) ← parseFraction (t.drop 19)
      let (offset, rest) ← parseOffset rest
      if !rest.isEmpty then
        throw (makeStatus .invalidArgument
          (text "timestamp has trailing characters: '" ++ rest ++ text "'"))
      let days := daysFromCivil c.year c.month c.day
      let seconds := days * 86400 + c.hour * 3600 + c.minute * 60 + c.second - offset
      return ⟨Int64.ofInt (seconds * 1000000000 + nanos)⟩

theorem parseFixed_eq_some {t : Bytes} {offset n v : Nat} : parseFixed t offset n = some v
    ↔ offset + n ≤ t.length ∧ v < 10 ^ n ∧ (t.drop offset).take n = fixedDigits n v := by
  unfold parseFixed
  split
  · next h =>
    refine iff_of_false (by simp) ?_
    rintro ⟨hle, -⟩
    omega
  · next h =>
    have hlen : ((t.drop offset).take n).length = n := by
      rw [List.length_take, List.length_drop]
      omega
    rw [← foldlM_digits]
    exact ⟨fun hread => ⟨by omega, hlen, hread⟩, fun hread => hread.2.2⟩

/-! ## What a text denotes -/

/-- How a text gives its offset from UTC. -/
inductive Zone
  | utc (lower : Bool)
  | offset (negative colon : Bool) (hour minute : Nat)
deriving DecidableEq

namespace Zone

def written : Zone → Bytes
  | .utc lower => [if lower then 122 else 90]
  | .offset negative colon hour minute =>
    (if negative then 45 else 43) :: (fixedDigits 2 hour ++ ((if colon then [58] else [])
      ++ fixedDigits 2 minute))

def Legible : Zone → Prop
  | .utc _ => True
  | .offset _ _ hour minute => hour ≤ 23 ∧ minute ≤ 59

def seconds : Zone → Int
  | .utc _ => 0
  | .offset negative _ hour minute =>
    if negative then -(hour * 3600 + minute * 60 : Int) else hour * 3600 + minute * 60

end Zone

/-- What a text of the grammar says: the fields, the digits of the fraction, none where there is
no fraction, and the offset. -/
structure Stamp where
  civil : CivilTime
  lower : Bool
  fraction : Bytes
  zone : Zone
deriving DecidableEq

def CivilTime.written (c : CivilTime) (lower : Bool) (rest : Bytes) : Bytes :=
  fixedDigits 4 c.year ++ 45 :: (fixedDigits 2 c.month ++ 45 :: (fixedDigits 2 c.day
    ++ (if lower then 116 else 84) :: (fixedDigits 2 c.hour ++ 58 :: (fixedDigits 2 c.minute
    ++ 58 :: (fixedDigits 2 c.second ++ rest)))))

/-- The fraction of a second in whole nanoseconds. -/
def fractionNanos (ds : Bytes) : Nat := digitsValue ds * 10 ^ 9 / 10 ^ ds.length

namespace Stamp

def afterFraction (s : Stamp) : Bytes :=
  (if s.fraction = [] then [] else 46 :: s.fraction) ++ s.zone.written

def written (s : Stamp) : Bytes := s.civil.written s.lower s.afterFraction

/-- The fields are within the ranges the grammar gives them. -/
structure Legible (s : Stamp) : Prop where
  year : s.civil.year < 10000
  month : 1 ≤ s.civil.month ∧ s.civil.month ≤ 12
  day : 1 ≤ s.civil.day ∧ s.civil.day ≤ 31
  hour : s.civil.hour ≤ 23
  minute : s.civil.minute ≤ 59
  second : s.civil.second ≤ 60
  fraction : ∀ c ∈ s.fraction, isDigit c = true
  zone : s.zone.Legible

/-- The instant in whole nanoseconds since 1970. The second 60 is the one after the second 59. -/
def nanos (s : Stamp) : Int :=
  (((dayNumber s.civil.year s.civil.month s.civil.day : Int) - 719528) * 86400
      + s.civil.hour * 3600 + s.civil.minute * 60 + s.civil.second - s.zone.seconds) * 1000000000
    + fractionNanos s.fraction

end Stamp

/-! ## The fields -/

theorem parseCivilTime_written {c : CivilTime} (lower : Bool) (rest : Bytes)
    (hyear : c.year < 10000) (hmonth : c.month < 100) (hday : c.day < 100) (hhour : c.hour < 100)
    (hminute : c.minute < 100) (hsecond : c.second < 100) :
    parseCivilTime (c.written lower rest) = some c := by
  have hlen : (c.written lower rest).length = rest.length + 19 := rfl
  have h0 : parseFixed (c.written lower rest) 0 4 = some c.year :=
    parseFixed_eq_some.2 ⟨by omega, hyear, rfl⟩
  have h5 : parseFixed (c.written lower rest) 5 2 = some c.month :=
    parseFixed_eq_some.2 ⟨by omega, hmonth, rfl⟩
  have h8 : parseFixed (c.written lower rest) 8 2 = some c.day :=
    parseFixed_eq_some.2 ⟨by omega, hday, rfl⟩
  have h11 : parseFixed (c.written lower rest) 11 2 = some c.hour :=
    parseFixed_eq_some.2 ⟨by omega, hhour, rfl⟩
  have h14 : parseFixed (c.written lower rest) 14 2 = some c.minute :=
    parseFixed_eq_some.2 ⟨by omega, hminute, rfl⟩
  have h17 : parseFixed (c.written lower rest) 17 2 = some c.second :=
    parseFixed_eq_some.2 ⟨by omega, hsecond, rfl⟩
  have hmarker : (c.written lower rest).getD 10 0 = 84 ∨ (c.written lower rest).getD 10 0 = 116 := by
    show (if lower then 116 else 84 : UInt8) = 84 ∨ (if lower then 116 else 84 : UInt8) = 116
    cases lower
    · exact .inl rfl
    · exact .inr rfl
  unfold parseCivilTime
  rw [h0, h5, h8, h11, h14, h17]
  simp only [show (c.written lower rest).getD 4 0 = 45 from rfl,
    show (c.written lower rest).getD 7 0 = 45 from rfl,
    show (c.written lower rest).getD 13 0 = 58 from rfl,
    show (c.written lower rest).getD 16 0 = 58 from rfl, hmarker, guard, if_true]
  rfl

theorem drop_eq_take_append (t : Bytes) (offset n : Nat) :
    t.drop offset = (t.drop offset).take n ++ t.drop (offset + n) := by
  rw [← List.drop_drop, List.take_append_drop]

theorem drop_eq_getD_cons {t : Bytes} {k : Nat} (h : k < t.length) :
    t.drop k = t.getD k 0 :: t.drop (k + 1) := by
  rw [List.drop_eq_getElem_cons h, List.getD_eq_getElem _ _ h]

theorem written_of_parseCivilTime {t : Bytes} {c : CivilTime} (hlen : 20 ≤ t.length)
    (h : parseCivilTime t = some c) : c.year < 10000 ∧ ∃ lower, t = c.written lower (t.drop 19) := by
  unfold parseCivilTime at h
  simp only [Option.bind_eq_bind, Option.bind_eq_some_iff, Option.guard_eq_some', Option.pure_def,
    Option.some.injEq, exists_const] at h
  obtain ⟨year, hyear, h4, month, hmonth, h7, day, hday, h10, hour, hhour, h13, minute, hminute, h16,
    second, hsecond, rfl⟩ := h
  rw [parseFixed_eq_some] at hyear hmonth hday hhour hminute hsecond
  refine ⟨hyear.2.1, t.getD 10 0 == 116, ?_⟩
  have hmarker : t.getD 10 0 = if (t.getD 10 0 == 116) = true then 116 else 84 := by
    rcases h10 with h10 | h10
    · rw [h10]
      rfl
    · rw [h10]
      rfl
  calc t = (t.drop 0).take 4 ++ t.drop 4 := (List.take_append_drop 4 t).symm
    _ = _ := by
      rw [hyear.2.2, drop_eq_getD_cons (show 4 < t.length by omega), h4,
        drop_eq_take_append t 5 2, hmonth.2.2, drop_eq_getD_cons (show 7 < t.length by omega), h7,
        drop_eq_take_append t 8 2, hday.2.2, drop_eq_getD_cons (show 10 < t.length by omega),
        drop_eq_take_append t 11 2, hhour.2.2, drop_eq_getD_cons (show 13 < t.length by omega), h13,
        drop_eq_take_append t 14 2, hminute.2.2, drop_eq_getD_cons (show 16 < t.length by omega),
        h16, drop_eq_take_append t 17 2, hsecond.2.2]
      unfold CivilTime.written
      rw [← hmarker]

/-! ## The fraction -/

theorem fractionNanos_concat_of_lt {ds : Bytes} (h : ds.length < 9) (c : UInt8) :
    fractionNanos (ds ++ [c]) = fractionNanos ds + digitValue c * (10 ^ 8 / 10 ^ ds.length) := by
  unfold fractionNanos
  rw [digitsValue_concat, List.length_append, List.length_singleton]
  generalize ds.length = k at h
  generalize digitsValue ds = v
  generalize digitValue c = d
  interval_cases k <;> norm_num <;> omega

theorem fractionNanos_concat_of_ge {ds : Bytes} (h : 9 ≤ ds.length) {c : UInt8}
    (hc : isDigit c = true) : fractionNanos (ds ++ [c]) = fractionNanos ds := by
  have hvalue : digitValue c < 10 := by
    rw [isDigit_iff] at hc
    unfold digitValue
    omega
  unfold fractionNanos
  rw [digitsValue_concat, List.length_append, List.length_singleton]
  obtain ⟨k, hk⟩ := Nat.exists_eq_add_of_le h
  rw [hk, show 10 ^ (9 + k + 1) = 10 * 10 ^ k * 10 ^ 9 by ring,
    show 10 ^ (9 + k) = 10 ^ k * 10 ^ 9 by ring, Nat.mul_div_mul_right _ _ (by decide),
    Nat.mul_div_mul_right _ _ (by decide), ← Nat.div_div_eq_div_mul]
  congr 1
  omega

theorem scale_next {k : Nat} (h : 9 ≤ k) : 10 ^ 8 / 10 ^ k = 0 := by
  refine Nat.div_eq_of_lt ?_
  calc 10 ^ 8 < 10 ^ 9 := by decide
    _ ≤ 10 ^ k := Nat.pow_le_pow_right (by decide) h

/-- The loop stops at what is not a digit; the first nine digits are the nanoseconds. -/
theorem fractionLoop_append (read : Bytes) {ds rest : Bytes} (hds : ∀ c ∈ ds, isDigit c = true)
    (hrest : ∀ c ∈ rest.head?, isDigit c = false) :
    fractionLoop (ds ++ rest) read.length (10 ^ 8 / 10 ^ read.length) (fractionNanos read)
      = ((read ++ ds).length, fractionNanos (read ++ ds), rest) := by
  induction ds generalizing read with
  | nil =>
    rw [List.append_nil]
    cases rest with
    | nil => rfl
    | cons c rest =>
      show (if isDigit c = true then _ else _) = _
      rw [if_neg (by rw [hrest c rfl]; exact Bool.false_ne_true)]
  | cons c ds ih =>
    have hc := hds c (List.mem_cons_self ..)
    have hnext := ih (read ++ [c]) fun c' h => hds c' (List.mem_cons_of_mem _ h)
    rw [List.length_append, List.length_singleton, List.append_assoc, List.singleton_append] at hnext
    rw [List.cons_append, fractionLoop, if_pos hc]
    split
    · next hlt =>
      rw [Nat.div_div_eq_div_mul, ← Nat.pow_succ, ← fractionNanos_concat_of_lt hlt]
      exact hnext
    · next hge =>
      rw [scale_next (show 9 ≤ read.length by omega), ← fractionNanos_concat_of_ge (by omega) hc]
      rw [scale_next (show 9 ≤ read.length + 1 by omega)] at hnext
      exact hnext

theorem parseFraction_written {ds rest : Bytes} (hds : ∀ c ∈ ds, isDigit c = true)
    (hrest : ∀ c ∈ rest.head?, isDigit c = false ∧ c ≠ 46) :
    parseFraction ((if ds = [] then [] else 46 :: ds) ++ rest) = .ok (fractionNanos ds, rest) := by
  by_cases hempty : ds = []
  · subst hempty
    rw [if_pos rfl, List.nil_append]
    unfold parseFraction
    split
    · next c rest => exact absurd rfl (hrest 46 rfl).2
    · rfl
  · rw [if_neg hempty]
    have hloop := fractionLoop_append [] hds fun c hc => (hrest c hc).1
    show (match fractionLoop (ds ++ rest) 0 100000000 0 with
      | (digits, nanos, rest) => if digits = 0 then _ else Except.ok (nanos, rest)) = _
    rw [show fractionLoop (ds ++ rest) 0 100000000 0 = _ from hloop]
    exact if_neg fun h => hempty (List.length_eq_zero_iff.1 h)

/-- What a fraction that is read looks like. -/
theorem written_of_parseFraction {t rest : Bytes} {nanos : Nat}
    (h : parseFraction t = .ok (nanos, rest)) : ∃ ds, (∀ c ∈ ds, isDigit c = true)
      ∧ t = (if ds = [] then [] else 46 :: ds) ++ rest ∧ nanos = fractionNanos ds := by
  unfold parseFraction at h
  split at h
  · next t =>
    have hdigits : ∀ c ∈ t.takeWhile isDigit, isDigit c = true :=
      List.all_eq_true.1 List.all_takeWhile
    have hrest : ∀ c ∈ (t.dropWhile isDigit).head?, isDigit c = false := fun c hc => by
      have := List.head?_dropWhile_not isDigit t
      rw [Option.mem_def.1 hc] at this
      exact this
    have hloop := fractionLoop_append [] hdigits hrest
    rw [List.takeWhile_append_dropWhile] at hloop
    rw [show fractionLoop t 0 100000000 0 = _ from hloop] at h
    dsimp only at h
    split at h
    · cases h
    next hnonempty =>
    cases h
    refine ⟨t.takeWhile isDigit, hdigits, ?_, rfl⟩
    rw [if_neg fun hnil => hnonempty (by rw [hnil]; rfl), List.cons_append,
      List.takeWhile_append_dropWhile]
  · cases h
    exact ⟨[], by simp, rfl, rfl⟩

/-! ## The offset -/

theorem Zone.head_written (z : Zone) : ∀ c ∈ z.written.head?, isDigit c = false ∧ c ≠ 46 := by
  intro c hc
  cases z with
  | utc lower =>
    cases lower <;> (cases hc; decide)
  | offset negative colon hour minute =>
    cases negative <;> (cases hc; decide)

theorem parseOffset_written {z : Zone} (h : z.Legible) :
    parseOffset z.written = .ok (z.seconds, []) := by
  cases z with
  | utc lower => cases lower <;> rfl
  | offset negative colon hour minute =>
    obtain ⟨hhour, hminute⟩ := h
    have hsign : ¬ ((if negative then 45 else 43 : UInt8) = 90
        ∨ (if negative then 45 else 43 : UInt8) = 122) := by
      cases negative <;> decide
    have hsign' : (if negative then 45 else 43 : UInt8) = 43
        ∨ (if negative then 45 else 43 : UInt8) = 45 := by
      cases negative <;> decide
    have hread (rest : Bytes) : parseFixed (fixedDigits 2 hour ++ rest) 0 2 = some hour :=
      parseFixed_eq_some.2 ⟨Nat.le_add_left .., by omega, rfl⟩
    have hread' : parseFixed (fixedDigits 2 minute) 0 2 = some minute :=
      parseFixed_eq_some.2 ⟨Nat.le_refl _, by omega, rfl⟩
    have hskip : (let rest := (fixedDigits 2 hour ++ ((if colon then [58] else [])
          ++ fixedDigits 2 minute)).drop 2
        if rest.head? = some 58 then rest.tail else rest) = fixedDigits 2 minute := by
      cases colon with
      | true => rfl
      | false =>
        refine if_neg ?_
        show ¬ some (48 + minute / 10 % 10).toUInt8 = some 58
        rw [Option.some.injEq, ← UInt8.toNat_inj, digit_toNat]
        show ¬ 48 + minute / 10 % 10 = 58
        omega
    unfold parseOffset Zone.written
    dsimp only at hskip ⊢
    rw [if_neg hsign, if_pos hsign', hread, hskip]
    dsimp only
    rw [hread']
    dsimp only
    rw [if_neg (by omega)]
    cases negative <;> rfl

theorem written_of_parseOffset {t rest : Bytes} {offset : Int}
    (h : parseOffset t = .ok (offset, rest)) :
    ∃ z : Zone, z.Legible ∧ t = z.written ++ rest ∧ offset = z.seconds := by
  unfold parseOffset at h
  dsimp only at h
  split at h
  · cases h
  next c t =>
  split at h
  · next hutc =>
    cases h
    rcases hutc with rfl | rfl
    · exact ⟨.utc false, trivial, rfl, rfl⟩
    · exact ⟨.utc true, trivial, rfl, rfl⟩
  split at h
  · next hsign =>
    split at h
    · cases h
    next hour hhour =>
    split at h
    · cases h
    next minute hminute =>
    split at h
    · cases h
    next hrange =>
    cases h
    rw [parseFixed_eq_some] at hhour hminute
    refine ⟨.offset (c == 45) ((t.drop 2).head? == some 58) hour minute, by constructor <;> omega, ?_, ?_⟩
    · have hc : c = if (c == 45) = true then 45 else 43 := by
        rcases hsign with rfl | rfl <;> rfl
      have hcolon : t.drop 2 = (if ((t.drop 2).head? == some 58) = true then [58] else [])
          ++ if (t.drop 2).head? = some 58 then (t.drop 2).tail else t.drop 2 := by
        by_cases h58 : (t.drop 2).head? = some 58
        · rw [if_pos h58, if_pos (beq_iff_eq.2 h58), List.singleton_append]
          exact (List.cons_head?_tail h58).symm
        · rw [if_neg h58, if_neg (mt beq_iff_eq.1 h58), List.nil_append]
      unfold Zone.written
      dsimp only
      rw [← hc, List.cons_append, List.append_assoc, List.append_assoc, ← hhour.2.2, ← hminute.2.2,
        List.drop_zero, List.drop_zero, List.take_append_drop, ← hcolon, List.take_append_drop]
    · unfold Zone.seconds
      dsimp only
      rcases hsign with rfl | rfl <;> rfl
  · cases h

/-! ## The texts that are read -/

theorem Stamp.Legible.parse {s : Stamp} (h : s.Legible) :
    parseCivilTime s.written = some s.civil ∧ s.civil.outOfRange = false
      ∧ parseFraction (s.written.drop 19) = .ok (fractionNanos s.fraction, s.zone.written)
      ∧ parseOffset s.zone.written = .ok (s.zone.seconds, []) := by
  have hhour := h.hour
  have hminute := h.minute
  have hsecond := h.second
  obtain ⟨hmonth, hmonth'⟩ := h.month
  obtain ⟨hday, hday'⟩ := h.day
  refine ⟨parseCivilTime_written _ _ h.year (by omega) (by omega) (by omega) (by omega) (by omega),
    ?_, parseFraction_written h.fraction s.zone.head_written, parseOffset_written h.zone⟩
  unfold CivilTime.outOfRange
  simp only [Bool.or_eq_false_iff, decide_eq_false_iff_not]
  omega

/-- A legible text is read as its instant, wrapped to 64 bits. -/
theorem parseRfc3339_written {s : Stamp} (h : s.Legible) :
    parseRfc3339 s.written = .ok ⟨Int64.ofInt s.nanos⟩ := by
  obtain ⟨hcivil, hrange, hfraction, hoffset⟩ := h.parse
  have hlen : ¬ s.written.length < 20 := by
    have hzone : 1 ≤ s.zone.written.length := by
      cases s.zone with
      | utc lower => exact Nat.le_refl 1
      | offset negative colon hour minute => exact Nat.le_add_left 1 _
    have : s.written.length = s.afterFraction.length + 19 := rfl
    rw [this, Stamp.afterFraction, List.length_append]
    omega
  unfold parseRfc3339
  rw [if_neg hlen, hcivil]
  dsimp only
  rw [hrange, if_neg Bool.false_ne_true, hfraction]
  show (do
    let (offset, rest) ← parseOffset s.zone.written
    _) = _
  rw [hoffset]
  rw [Stamp.nanos, ← daysFromCivil_eq h.month h.day.1]
  rfl

/-- Only a legible text is read. -/
theorem written_of_parseRfc3339 {t : Bytes} {u : Timestamp} (h : parseRfc3339 t = .ok u) :
    ∃ s : Stamp, s.Legible ∧ t = s.written := by
  unfold parseRfc3339 at h
  split at h
  · cases h
  next hlen =>
  split at h
  · cases h
  next c hcivil =>
  split at h
  · cases h
  next hrange =>
  obtain ⟨⟨nanos, rest⟩, hfraction, h⟩ := Decoding.except_bind_eq_ok.1 h
  obtain ⟨⟨offset, rest'⟩, hoffset, h⟩ := Decoding.except_bind_eq_ok.1 h
  dsimp only at hoffset h
  have hempty : rest' = [] := by
    cases rest' with
    | nil => rfl
    | cons c rest' => cases h
  subst hempty
  obtain ⟨hyear, lower, hcivil⟩ := written_of_parseCivilTime (by omega) hcivil
  obtain ⟨ds, hds, hwritten, -⟩ := written_of_parseFraction hfraction
  obtain ⟨z, hz, hzone, -⟩ := written_of_parseOffset hoffset
  rw [List.append_nil] at hzone
  unfold CivilTime.outOfRange at hrange
  simp only [Bool.or_eq_true, decide_eq_true_eq, not_or] at hrange
  have hmonth : 1 ≤ c.month ∧ c.month ≤ 12 := by omega
  have hday : 1 ≤ c.day ∧ c.day ≤ 31 := by omega
  have hhour : c.hour ≤ 23 := by omega
  have hminute : c.minute ≤ 59 := by omega
  have hsecond : c.second ≤ 60 := by omega
  refine ⟨⟨c, lower, ds, z⟩, ⟨hyear, hmonth, hday, hhour, hminute, hsecond, hds, hz⟩, ?_⟩
  rw [hwritten, hzone] at hcivil
  exact hcivil

/-- A text denotes one instant. -/
theorem Stamp.Legible.unique {s s' : Stamp} (h : s.Legible) (h' : s'.Legible)
    (heq : s.written = s'.written) : s.civil = s'.civil ∧ s.nanos = s'.nanos := by
  obtain ⟨hcivil, -, hfraction, hoffset⟩ := h.parse
  obtain ⟨hcivil', -, hfraction', hoffset'⟩ := h'.parse
  rw [heq, hcivil'] at hcivil
  rw [heq, hfraction'] at hfraction
  obtain ⟨hnanos, hzone⟩ := Prod.mk.inj (Except.ok.inj hfraction)
  rw [← hzone, hoffset'] at hoffset
  have hsame : s.civil = s'.civil := (Option.some.inj hcivil).symm
  refine ⟨hsame, ?_⟩
  unfold Stamp.nanos
  rw [hsame, ← hnanos, (Prod.mk.inj (Except.ok.inj hoffset)).1]

/-- What is read from the text is the instant it denotes, on a day that the calendar has. -/
def ReadsTrue (t : Bytes) : Prop :=
  ∀ u, parseRfc3339 t = .ok u → ∃ s : Stamp, s.Legible ∧ t = s.written
    ∧ s.civil.day ≤ monthLength s.civil.year s.civil.month ∧ u.nanos.toInt = s.nanos

/-- A text is read truly when its day is one of its month and its instant fits in 64 bits. -/
theorem readsTrue_iff (t : Bytes) : ReadsTrue t ↔ ∀ s : Stamp, s.Legible → t = s.written →
    s.civil.day ≤ monthLength s.civil.year s.civil.month ∧ -2 ^ 63 ≤ s.nanos ∧ s.nanos < 2 ^ 63 := by
  constructor
  · rintro h s hs rfl
    obtain ⟨s', hs', heq, hday, hnanos⟩ := h _ (parseRfc3339_written hs)
    obtain ⟨hcivil, hsame⟩ := hs.unique hs' heq
    rw [hcivil, hsame, ← hnanos]
    exact ⟨hday, Int64.le_toInt _, Int64.toInt_lt _⟩
  · intro h u hu
    obtain ⟨s, hs, rfl⟩ := written_of_parseRfc3339 hu
    obtain ⟨hday, hlow, hhigh⟩ := h s hs rfl
    rw [parseRfc3339_written hs] at hu
    cases hu
    exact ⟨s, hs, rfl, hday, Int64.toInt_ofInt_of_le (by omega) (by omega)⟩

/-- The thirtieth of February is read as the second of March. -/
theorem missing_day_is_read :
    parseRfc3339 (text "2023-02-30T00:00:00Z") = .ok ⟨1677715200000000000⟩
      ∧ ¬ ReadsTrue (text "2023-02-30T00:00:00Z") := by
  refine ⟨by decide +kernel, fun h => ?_⟩
  have hday := ((readsTrue_iff _).1 h ⟨⟨2023, 2, 30, 0, 0, 0⟩, false, [], .utc false⟩
    ⟨by decide, by decide, by decide, by decide, by decide, by decide, List.forall_mem_nil _,
      trivial⟩
    (by decide +kernel)).1
  exact absurd hday (by decide)

/-! ## The round trip -/

theorem zeroPadded_eq {width n : Nat} (hn : n < 10 ^ (width + 1)) (hwidth : width < 20) :
    zeroPadded (width + 1) n = fixedDigits (width + 1) n := by
  rw [← padded_decimalRev hn hwidth]
  unfold zeroPadded toStringNat
  rw [List.length_reverse]

/-- The truncating division and its remainder, moved to the floor. -/
theorem floored (a : Int) {n : Int} (hn : 0 < n) :
    (if a.tmod n < 0 then (a.tdiv n - 1, a.tmod n + n) else (a.tdiv n, a.tmod n))
      = (a / n, a % n) := by
  have hdiv := Int.mul_tdiv_add_tmod a n
  have hbound := Int.tmod_lt_of_pos a hn
  have hlow : -n < a.tmod n := Int.lt_tmod_of_pos a hn
  split
  · next h =>
    have hsum : a.tmod n + n + n * (a.tdiv n - 1) = a := by
      rw [Int.mul_sub, Int.mul_one]
      omega
    obtain ⟨hquotient, hrest⟩ := (Int.ediv_emod_unique hn).2 ⟨hsum, by omega, by omega⟩
    rw [hquotient, hrest]
  · next h =>
    have hsum : a.tmod n + n * a.tdiv n = a := by omega
    obtain ⟨hquotient, hrest⟩ := (Int.ediv_emod_unique hn).2 ⟨hsum, by omega, hbound⟩
    rw [hquotient, hrest]

/-- What the text of an instant says. -/
def Timestamp.stamp (t : Timestamp) : Stamp :=
  let seconds := t.nanos.toInt / 1000000000
  let date := civilFromDays (seconds / 86400)
  let secondsOfDay := (seconds % 86400).toNat
  { civil :=
      { year := date.year.toNat, month := date.month, day := date.day
        hour := secondsOfDay / 3600, minute := secondsOfDay % 3600 / 60, second := secondsOfDay % 60 }
    lower := false
    fraction := fixedDigits 3 (t.nanos.toInt % 1000000000 / 1000000).toNat
    zone := .utc false }

theorem civilFromDays_year {days : Int} (h : -719468 ≤ days ∧ days < 2000000) :
    0 ≤ (civilFromDays days).year ∧ (civilFromDays days).year < 10000 := by
  unfold civilFromDays
  dsimp only
  rw [eraOfDays_eq]
  obtain ⟨dayOfEra, hday⟩ : ∃ n, (days + 719468 - (days + 719468) / 146097 * 146097).toNat = n :=
    ⟨_, rfl⟩
  obtain ⟨era, hera⟩ : ∃ era, (days + 719468) / 146097 = era := ⟨_, rfl⟩
  have hinside : dayOfEra < 146097 := by omega
  have hlow : 0 ≤ era := by omega
  have hhigh : era ≤ 18 := by omega
  rw [hday, hera]
  clear hday hera
  obtain ⟨year, hyear⟩ : ∃ year, (dayOfEra - dayOfEra / 1460 + dayOfEra / 36524
      - dayOfEra / 146096) / 365 = year := ⟨_, rfl⟩
  obtain ⟨hlt, -, -⟩ := yearOfEra_spec hinside hyear
  rw [hyear]
  split <;> omega

theorem Timestamp.date_spec (t : Timestamp) :
    0 ≤ (civilFromDays (t.nanos.toInt / 1000000000 / 86400)).year
      ∧ (civilFromDays (t.nanos.toInt / 1000000000 / 86400)).year < 10000 := by
  have hlow := Int64.le_toInt t.nanos
  have hhigh := Int64.toInt_lt t.nanos
  exact civilFromDays_year (by omega)

theorem Timestamp.stamp_legible (t : Timestamp) : t.stamp.Legible := by
  obtain ⟨hmonth, hday, -⟩ := civilFromDays_spec (t.nanos.toInt / 1000000000 / 86400)
  obtain ⟨hlow, hhigh⟩ := t.date_spec
  refine ⟨?_, hmonth, hday, ?_, ?_, ?_, fun c => isDigit_of_mem_fixedDigits, trivial⟩
  · show (civilFromDays _).year.toNat < 10000
    omega
  · show (t.nanos.toInt / 1000000000 % 86400).toNat / 3600 ≤ 23
    omega
  · show (t.nanos.toInt / 1000000000 % 86400).toNat % 3600 / 60 ≤ 59
    omega
  · show (t.nanos.toInt / 1000000000 % 86400).toNat % 60 ≤ 60
    omega

theorem zeroPaddedInt_eq {width : Nat} {i : Int} (h : 0 ≤ i) (hi : i < 10 ^ (width + 1))
    (hwidth : width < 20) : zeroPaddedInt (width + 1) i = fixedDigits (width + 1) i.toNat := by
  obtain ⟨n, rfl⟩ := Int.eq_ofNat_of_zero_le h
  unfold zeroPaddedInt
  rw [if_neg (by omega), Int.natAbs_natCast, Int.toNat_natCast]
  exact zeroPadded_eq (by exact_mod_cast hi) hwidth

/-- An instant is written as the text of its stamp. -/
theorem Timestamp.toRfc3339_eq (t : Timestamp) : t.toRfc3339 = t.stamp.written := by
  obtain ⟨hmonth, hday, -⟩ := civilFromDays_spec (t.nanos.toInt / 1000000000 / 86400)
  obtain ⟨hlow, hhigh⟩ := t.date_spec
  unfold toRfc3339 stamp
  dsimp only
  rw [floored _ (by decide)]
  dsimp only
  rw [floored _ (by decide)]
  dsimp only
  generalize civilFromDays (t.nanos.toInt / 1000000000 / 86400) = date at *
  obtain ⟨day, hsod⟩ : ∃ n : Nat, t.nanos.toInt / 1000000000 % 86400 = n :=
    Int.eq_ofNat_of_zero_le (by omega)
  obtain ⟨sub, hsub⟩ : ∃ n : Nat, t.nanos.toInt % 1000000000 = n :=
    Int.eq_ofNat_of_zero_le (by omega)
  rw [hsod, hsub]
  have hhour : ((day : Int).tdiv 3600).toNat = day / 3600 := rfl
  have hminute : (((day : Int).tmod 3600).tdiv 60).toNat = day % 3600 / 60 := rfl
  have hsecond : ((day : Int).tmod 60).toNat = day % 60 := rfl
  have hmillis : (sub : Int).tdiv 1000000 = (sub / 1000000 : Nat) := rfl
  have hmillis' : ((sub : Int) / 1000000).toNat = sub / 1000000 := by omega
  rw [hhour, hminute, hsecond, hmillis, hmillis', Int.toNat_natCast,
    zeroPaddedInt_eq hlow hhigh (by decide),
    zeroPadded_eq (show date.month < 10 ^ 2 by omega) (by decide),
    zeroPadded_eq (show date.day < 10 ^ 2 by omega) (by decide),
    zeroPadded_eq (show day / 3600 < 10 ^ 2 by omega) (by decide),
    zeroPadded_eq (show day % 3600 / 60 < 10 ^ 2 by omega) (by decide),
    zeroPadded_eq (show day % 60 < 10 ^ 2 by omega) (by decide),
    zeroPaddedInt_eq (Int.natCast_nonneg _) (show ((sub / 1000000 : Nat) : Int) < 10 ^ 3 by omega)
      (by decide), Int.toNat_natCast]
  have hfraction (n : Nat) : fixedDigits 3 n ≠ [] := fun h => by
    have := congrArg List.length h
    rw [length_fixedDigits] at this
    cases this
  unfold Stamp.written Stamp.afterFraction CivilTime.written Zone.written
  dsimp only
  rw [if_neg (hfraction _), show text "-" = [45] from rfl, show text "T" = [84] from rfl,
    show text ":" = [58] from rfl, show text "." = [46] from rfl, show text "Z" = [90] from rfl]
  simp only [List.append_assoc, List.cons_append, List.nil_append, if_false, Nat.reduceAdd,
    Bool.false_eq_true]

theorem fractionNanos_millis {n : Nat} (h : n < 1000) : fractionNanos (fixedDigits 3 n) = n * 1000000 := by
  unfold fractionNanos
  rw [digitsValue_fixedDigits h, length_fixedDigits]
  omega

/-- The stamp of an instant denotes its floor to the millisecond. -/
theorem Timestamp.stamp_nanos (t : Timestamp) :
    t.stamp.nanos = t.nanos.toInt / 1000000 * 1000000 := by
  obtain ⟨hmonth, hday, hdays⟩ := civilFromDays_spec (t.nanos.toInt / 1000000000 / 86400)
  obtain ⟨hlow, -⟩ := t.date_spec
  rw [← Int.toNat_of_nonneg hlow, daysFromCivil_eq hmonth hday.1] at hdays
  have hfraction : fractionNanos t.stamp.fraction
      = (t.nanos.toInt % 1000000000 / 1000000).toNat * 1000000 := fractionNanos_millis (by omega)
  unfold Stamp.nanos
  rw [hfraction]
  show ((dayNumber (civilFromDays _).year.toNat (civilFromDays _).month (civilFromDays _).day
    - 719528 : Int) * 86400
    + ((t.nanos.toInt / 1000000000 % 86400).toNat / 3600 : Nat) * 3600
    + ((t.nanos.toInt / 1000000000 % 86400).toNat % 3600 / 60 : Nat) * 60
    + ((t.nanos.toInt / 1000000000 % 86400).toNat % 60 : Nat) - 0) * 1000000000
    + ((t.nanos.toInt % 1000000000 / 1000000).toNat * 1000000 : Nat) = _
  rw [hdays]
  omega

/-- An instant whose second is representable is read back from its text, to the millisecond. -/
theorem parseRfc3339_toRfc3339 (t : Timestamp)
    (h : -2 ^ 63 ≤ t.nanos.toInt / 1000000000 * 1000000000) :
    ∃ u, parseRfc3339 t.toRfc3339 = .ok u
      ∧ u.nanos.toInt = t.nanos.toInt / 1000000 * 1000000 := by
  have hhigh := Int64.toInt_lt t.nanos
  refine ⟨⟨Int64.ofInt t.stamp.nanos⟩, ?_, ?_⟩
  · rw [Timestamp.toRfc3339_eq]
    exact parseRfc3339_written t.stamp_legible
  · show (Int64.ofInt t.stamp.nanos).toInt = _
    rw [Timestamp.stamp_nanos]
    exact Int64.toInt_ofInt_of_le (by omega) (by omega)

/-- A quarter of a second before the epoch. -/
theorem parseRfc3339_toRfc3339_early :
    ∃ u, parseRfc3339 (Timestamp.toRfc3339 ⟨-250000000⟩) = .ok u
      ∧ u.nanos.toInt = (⟨-250000000⟩ : Timestamp).nanos.toInt / 1000000 * 1000000 :=
  parseRfc3339_toRfc3339 ⟨-250000000⟩ (by decide)

end RolloutFabric
