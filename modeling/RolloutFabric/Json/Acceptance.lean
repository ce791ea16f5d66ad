/-
The reader accepts its grammar: what it takes from the front of a text is a text of the grammar and
returns what that denotes, and every text of the grammar is taken.
-/
import RolloutFabric.Json.Grammar
import RolloutFabric.Lib.Exact

namespace RolloutFabric

open JsonGrammar

variable {size : Nat}

/-! ## White space -/

theorem isJsonSpace_iff {c : UInt8} : isJsonSpace c = true ↔ c = 32 ∨ c = 9 ∨ c = 10 ∨ c = 13 := by
  simp [isJsonSpace, or_assoc]

theorem skipWhitespace_split (rest : Bytes) :
    ∃ blank, rest = blank ++ skipWhitespace rest ∧ Blank blank := by
  refine ⟨rest.takeWhile isJsonSpace, (List.takeWhile_append_dropWhile).symm, fun c hc => ?_⟩
  exact isJsonSpace_iff.mp (List.mem_takeWhile_imp hc)

theorem skip_blank {blank rest : Bytes} (hblank : Blank blank)
    (hrest : ∀ c ∈ rest.head?, isJsonSpace c = false) : skipWhitespace (blank ++ rest) = rest := by
  have hskip : skipWhitespace (blank ++ rest) = skipWhitespace rest :=
    List.dropWhile_append_of_pos fun c hc => isJsonSpace_iff.mpr (hblank c hc)
  rw [hskip, skipWhitespace_of_head hrest]

/-! ## Strings -/

theorem hexValue_iff {c : UInt8} {n : Nat} : hexValue c = some n ↔ HexDigit c n := by
  unfold hexValue HexDigit
  simp only [UInt8.le_iff_toNat_le]
  show (if 48 ≤ c.toNat ∧ c.toNat ≤ 57 then _ else if 97 ≤ c.toNat ∧ c.toNat ≤ 102 then _
    else if 65 ≤ c.toNat ∧ c.toNat ≤ 70 then _ else _) = _ ↔ _
  split
  · simp only [Option.some.injEq]
    omega
  · split
    · simp only [Option.some.injEq]
      omega
    · split
      · simp only [Option.some.injEq]
        omega
      · simp only [reduceCtorEq, false_iff]
        omega

theorem parseHex4_sound {rest after : Bytes} {u : Nat} (h : parseHex4 size rest = .ok (u, after)) :
    ∃ t, rest = t ++ after ∧ Hex4 t u := by
  unfold parseHex4 at h
  split at h
  · cases h
  · next hlength =>
    split at h
    · cases h
    · next value hvalue =>
      cases h
      match rest with
      | [] | [_] | [_, _] | [_, _, _] => simp at hlength
      | a :: b :: c :: d :: after =>
        simp only [List.take_succ_cons, List.take_zero, List.foldlM_cons, List.foldlM_nil,
          Option.bind_eq_bind, Option.bind_eq_some_iff, Option.map_eq_some_iff] at hvalue
        obtain ⟨-, ⟨k, ha, rfl⟩, -, ⟨l, hb, rfl⟩, -, ⟨m, hc, rfl⟩, -, ⟨n, hd, rfl⟩, hu⟩ := hvalue
        cases hu
        exact ⟨[a, b, c, d], rfl, a, b, c, d, k, l, m, n, rfl, hexValue_iff.mp ha,
          hexValue_iff.mp hb, hexValue_iff.mp hc, hexValue_iff.mp hd, by omega⟩

theorem parseHex4_complete {t : Bytes} {u : Nat} (h : Hex4 t u) (after : Bytes) :
    parseHex4 size (t ++ after) = .ok (u, after) := by
  obtain ⟨a, b, c, d, k, l, m, n, rfl, ha, hb, hc, hd, rfl⟩ := h
  unfold parseHex4
  rw [if_neg (by simp)]
  simp only [List.cons_append, List.nil_append, List.take_succ_cons, List.take_zero,
    List.foldlM_cons, List.foldlM_nil, hexValue_iff.mpr ha, hexValue_iff.mpr hb,
    hexValue_iff.mpr hc, hexValue_iff.mpr hd, Option.map_some, Option.bind_eq_bind,
    Option.bind_some, Nat.zero_mul, Nat.zero_add]
  rfl

/-- `append_utf8` gives the encoding of a scalar value. -/
theorem utf8Bytes_eq (c : Char) : utf8Bytes c.toNat = String.utf8EncodeChar c := by
  have hscalar := scalar_cases c
  have htail (n : Nat) : 0x80 ||| n &&& 0x3F = n % 64 + 0x80 := by
    rw [Nat.and_two_pow_sub_one_eq_mod n 6, show (0x80 : Nat) = 2 ^ 6 * 2 from rfl,
      ← Nat.two_pow_add_eq_or_of_lt (Nat.mod_lt _ (by omega))]
    omega
  have hlead (k lead n : Nat) (hn : n < 2 ^ k) : 2 ^ k * lead ||| n = n + 2 ^ k * lead := by
    rw [← Nat.two_pow_add_eq_or_of_lt hn]
    omega
  unfold utf8Bytes String.utf8EncodeChar
  rw [show c.val.toNat = c.toNat from rfl]
  generalize c.toNat = v at hscalar ⊢
  simp only [htail, Nat.shiftRight_eq_div_pow]
  split
  · rfl
  · split
    · rw [show (0xC0 : Nat) = 2 ^ 6 * 3 from rfl, hlead 6 3 _ (by omega)]
      simp only [Nat.toUInt8_eq, List.cons.injEq, and_true, ← UInt8.toNat_inj,
        UInt8.toNat_ofNat']
      omega
    · split
      · rw [show (0xE0 : Nat) = 2 ^ 4 * 14 from rfl, hlead 4 14 _ (by omega)]
        simp only [Nat.toUInt8_eq, List.cons.injEq, and_true, ← UInt8.toNat_inj,
          UInt8.toNat_ofNat']
        omega
      · rw [show (0xF0 : Nat) = 2 ^ 3 * 30 from rfl, hlead 3 30 _ (by omega)]
        simp only [Nat.toUInt8_eq, List.cons.injEq, and_true, ← UInt8.toNat_inj,
          UInt8.toNat_ofNat']
        omega

/-- The scalar value of that number. -/
theorem char_of_scalar {n : Nat} (h : n < 0xD800 ∨ 0xDFFF < n ∧ n < 0x110000) :
    ∃ c : Char, c.toNat = n := by
  exact ⟨Char.ofNatAux n h, rfl⟩

theorem JsonGrammar.Hex4.lt {t : Bytes} {u : Nat} (h : Hex4 t u) : u < 0x10000 := by
  obtain ⟨a, b, c, d, k, l, m, n, rfl, ha, hb, hc, hd, rfl⟩ := h
  unfold HexDigit at ha hb hc hd
  omega

theorem parseUnicode_sound {rest out after : Bytes} (h : parseUnicode size rest = .ok (out, after)) :
    ∃ x, rest = x ++ after ∧ Escape (92 :: 117 :: x) out := by
  unfold parseUnicode at h
  obtain ⟨⟨unit, behind⟩, hunit, hthen⟩ := Decoding.except_bind_eq_ok.mp h
  obtain ⟨hex, rfl, hhex⟩ := parseHex4_sound hunit
  have hlt := hhex.lt
  dsimp only at hthen
  split at hthen
  · next hhigh =>
    split at hthen
    · cases hthen
    · next hprefix =>
      obtain ⟨⟨low, rest⟩, hlow, hend⟩ := Decoding.except_bind_eq_ok.mp hthen
      obtain ⟨lowHex, hdrop, hlowHex⟩ := parseHex4_sound hlow
      dsimp only at hend
      split at hend
      · cases hend
      · next hrange =>
        have hpair := Except.ok.inj hend
        rw [Prod.mk.injEq] at hpair
        obtain ⟨rfl, rfl⟩ := hpair
        obtain ⟨c, hc⟩ := char_of_scalar
          (n := 0x10000 + (unit - 0xD800) * 0x400 + (low - 0xDC00)) (by omega)
        refine ⟨hex ++ 92 :: 117 :: lowHex, ?_, ?_⟩
        · rw [List.append_assoc, List.cons_append, List.cons_append, ← hdrop]
          rw [ne_eq, not_not] at hprefix
          show hex ++ behind = hex ++ ([92, 117] ++ behind.drop 2)
          rw [← hprefix, List.take_append_drop]
        · rw [Nat.shiftLeft_eq, ← hc, utf8Bytes_eq]
          exact .pair hhex hlowHex hhigh (by omega) hc
  · next hhigh =>
    split at hthen
    · cases hthen
    · next hlow =>
      cases hthen
      obtain ⟨c, rfl⟩ := char_of_scalar (n := unit) (by omega)
      refine ⟨hex, rfl, ?_⟩
      rw [utf8Bytes_eq]
      exact .unit hhex

theorem parseUnicode_complete {x out : Bytes} (h : Escape (92 :: 117 :: x) out) (after : Bytes) :
    parseUnicode size (x ++ after) = .ok (out, after) := by
  generalize htext : 92 :: 117 :: x = t at h
  cases h with
  | short hc =>
    simp only [List.cons.injEq, true_and] at htext
    obtain ⟨rfl, rfl⟩ := htext
    simp [shortEscapes] at hc
  | @unit hex c hhex =>
    simp only [List.cons.injEq, true_and] at htext
    subst htext
    have hscalar := scalar_cases c
    unfold parseUnicode
    rw [parseHex4_complete hhex]
    show (if 0xD800 ≤ c.toNat ∧ c.toNat ≤ 0xDBFF then _ else _) = _
    rw [if_neg (by omega)]
    show (if 0xDC00 ≤ c.toNat ∧ c.toNat ≤ 0xDFFF then _ else _) = _
    rw [if_neg (by omega), utf8Bytes_eq]
    rfl
  | @pair high low u l c hhigh hlow hu hl hc =>
    simp only [List.cons.injEq, true_and] at htext
    subst htext
    unfold parseUnicode
    rw [List.append_assoc, parseHex4_complete hhigh]
    show (if 0xD800 ≤ u ∧ u ≤ 0xDBFF then _ else _) = _
    rw [if_pos hu]
    show (parseHex4 size (low ++ after) >>= _) = _
    rw [parseHex4_complete hlow]
    show (if l < 0xDC00 ∨ 0xDFFF < l then _ else _) = _
    rw [if_neg (by omega)]
    show Except.ok (utf8Bytes (0x10000 + (u - 0xD800) <<< 10 + (l - 0xDC00)), after) = _
    rw [Nat.shiftLeft_eq, ← hc, utf8Bytes_eq]

theorem parseEscape_sound {rest out after : Bytes} (h : parseEscape size rest = .ok (out, after)) :
    ∃ x, rest = x ++ after ∧ Escape (92 :: x) out := by
  unfold parseEscape at h
  split at h
  · cases h
  case h_10 rest =>
    obtain ⟨x, rfl, hx⟩ := parseUnicode_sound h
    exact ⟨117 :: x, rfl, hx⟩
  case h_11 => cases h
  all_goals
    cases h
    exact ⟨[_], rfl, .short (by decide)⟩

theorem parseEscape_complete {x out : Bytes} (h : Escape (92 :: x) out) (after : Bytes) :
    parseEscape size (x ++ after) = .ok (out, after) := by
  have hescape := h
  generalize htext : 92 :: x = t at h
  cases h with
  | short hc =>
    simp only [List.cons.injEq, true_and] at htext
    subst htext
    simp only [shortEscapes, List.mem_cons, Prod.mk.injEq, List.not_mem_nil, or_false] at hc
    rcases hc with ⟨rfl, rfl⟩ | ⟨rfl, rfl⟩ | ⟨rfl, rfl⟩ | ⟨rfl, rfl⟩ | ⟨rfl, rfl⟩ | ⟨rfl, rfl⟩
      | ⟨rfl, rfl⟩ | ⟨rfl, rfl⟩ <;> rfl
  | unit hhex =>
    simp only [List.cons.injEq, true_and] at htext
    subst htext
    exact parseUnicode_complete hescape after
  | pair hhigh hlow hu hl hc =>
    simp only [List.cons.injEq, true_and] at htext
    subst htext
    exact parseUnicode_complete hescape after

/-- A character, or an escape. -/
def readPiece (size : Nat) (c : UInt8) (rest : Bytes) : Result (Bytes × Bytes) :=
  if c ≠ 92 then .ok ([c], rest) else parseEscape size rest

/-- One iteration. -/
theorem parseChars_cons (fuel : Nat) (out : Bytes) (c : UInt8) (rest : Bytes) (hquote : c ≠ 34)
    (hcontrol : ¬ c < 0x20) :
    parseChars size (fuel + 1) out (c :: rest) = readPiece size c rest >>= fun read =>
      if kMaxJsonStringBytes < (out ++ read.1).length then
        .error (makeStatus .limitExceeded (text "a string exceeds the maximum of "
          ++ toStringNat kMaxJsonStringBytes ++ text " bytes"))
      else parseChars size fuel (out ++ read.1) read.2 := by
  rw [parseChars, if_neg hquote, if_neg hcontrol, readPiece]
  split <;> rfl

theorem readPiece_sound {c : UInt8} {rest piece after : Bytes} (hquote : c ≠ 34)
    (hcontrol : ¬ c < 0x20) (h : readPiece size c rest = .ok (piece, after)) :
    ∃ x, c :: rest = x ++ after
      ∧ ∀ {t out}, Chars AnyByte t out → Chars AnyByte (x ++ t) (piece ++ out) := by
  have hlow : 0x20 ≤ c.toNat := Nat.le_of_not_lt hcontrol
  unfold readPiece at h
  split at h
  · next hplain =>
    cases h
    refine ⟨[c], rfl, fun ht => .raw ⟨c, rfl, hlow, ?_, ?_⟩ ht⟩
    · exact fun h34 => hquote (UInt8.toNat_inj.mp h34)
    · exact fun h92 => hplain (UInt8.toNat_inj.mp h92)
  · next hbackslash =>
    obtain ⟨x, rfl, hx⟩ := parseEscape_sound h
    rw [ne_eq, not_not] at hbackslash
    exact ⟨92 :: x, by rw [hbackslash]; rfl, fun ht => .escape hx ht⟩

/-- The loop takes the characters up to the closing quote. -/
theorem parseChars_sound (fuel : Nat) {out rest result after : Bytes}
    (h : parseChars size fuel out rest = .ok (result, after))
    (hout : out.length ≤ kMaxJsonStringBytes) :
    ∃ body denoted, rest = body ++ 34 :: after ∧ Chars AnyByte body denoted
      ∧ result = out ++ denoted ∧ result.length ≤ kMaxJsonStringBytes := by
  induction fuel generalizing out rest with
  | zero =>
    cases rest with
    | nil => cases h
    | cons c rest => cases h
  | succ fuel ih =>
    cases rest with
    | nil => cases h
    | cons c rest =>
      by_cases hquote : c = 34
      · rw [parseChars, if_pos hquote] at h
        cases h
        exact ⟨[], [], by rw [hquote]; rfl, .nil, (List.append_nil _).symm, hout⟩
      by_cases hcontrol : c < 0x20
      · rw [parseChars, if_neg hquote, if_pos hcontrol] at h
        cases h
      rw [parseChars_cons _ _ _ _ hquote hcontrol] at h
      obtain ⟨⟨piece, behind⟩, hpiece, h⟩ := Decoding.except_bind_eq_ok.mp h
      obtain ⟨x, hx, hchars⟩ := readPiece_sound hquote hcontrol hpiece
      dsimp only at h
      split at h
      · cases h
      · next hlength =>
        obtain ⟨body, denoted, rfl, hbody, rfl, hresult⟩ := ih h (by omega)
        refine ⟨x ++ body, piece ++ denoted, ?_, hchars hbody, ?_, hresult⟩
        · rw [hx, List.append_assoc]
        · rw [List.append_assoc]

/-- What the loop does with a piece that fits. -/
theorem next_piece {out piece more rest : Bytes} {fuel : Nat} {result : Result (Bytes × Bytes)}
    (hlength : (out ++ piece ++ more).length ≤ kMaxJsonStringBytes)
    (h : parseChars size fuel (out ++ piece) rest = result) :
    ((.ok (piece, rest) : Result (Bytes × Bytes)) >>= fun read =>
      if kMaxJsonStringBytes < (out ++ read.1).length then
        .error (makeStatus .limitExceeded (text "a string exceeds the maximum of "
          ++ toStringNat kMaxJsonStringBytes ++ text " bytes"))
      else parseChars size fuel (out ++ read.1) read.2) = result := by
  show (if kMaxJsonStringBytes < (out ++ piece).length then _ else _) = _
  rw [List.length_append] at hlength
  rw [if_neg (by omega), h]

theorem parseChars_complete {body denoted : Bytes} (h : Chars AnyByte body denoted) (fuel : Nat)
    (hfuel : body.length < fuel) {out : Bytes}
    (hlength : (out ++ denoted).length ≤ kMaxJsonStringBytes) (after : Bytes) :
    parseChars size fuel out (body ++ 34 :: after) = .ok (out ++ denoted, after) := by
  induction h generalizing fuel out with
  | nil =>
    obtain ⟨fuel, rfl⟩ : ∃ k, fuel = k + 1 := ⟨fuel - 1, by omega⟩
    rw [List.append_nil]
    rfl
  | @raw piece t more hraw _ ih =>
    obtain ⟨fuel, rfl⟩ : ∃ k, fuel = k + 1 := ⟨fuel - 1, by omega⟩
    obtain ⟨c, rfl, hcontrol, hquote, hbackslash⟩ := hraw
    rw [List.length_append, List.length_singleton] at hfuel
    have hpiece : readPiece size c (t ++ 34 :: after) = .ok ([c], t ++ 34 :: after) :=
      if_pos fun h => hbackslash (congrArg UInt8.toNat h)
    rw [← List.append_assoc] at hlength ⊢
    rw [List.append_assoc, List.singleton_append, parseChars_cons _ _ _ _
      (fun h => hquote (congrArg UInt8.toNat h)) (Nat.not_lt.mpr hcontrol), hpiece]
    exact next_piece hlength (ih fuel (by omega) hlength)
  | @escape x piece t more hescape _ ih =>
    obtain ⟨fuel, rfl⟩ : ∃ k, fuel = k + 1 := ⟨fuel - 1, by omega⟩
    obtain ⟨⟨y, rfl⟩, -⟩ := hescape.ascii
    rw [List.length_append, List.length_cons] at hfuel
    have hpiece : readPiece size 92 (y ++ (t ++ 34 :: after)) = .ok (piece, t ++ 34 :: after) :=
      parseEscape_complete hescape _
    rw [← List.append_assoc] at hlength ⊢
    rw [List.append_assoc, List.cons_append, parseChars_cons _ _ _ _ (by decide) (by decide), hpiece]
    exact next_piece hlength (ih fuel (by omega) hlength)

theorem parseString_sound {rest out after : Bytes}
    (h : parseString size (34 :: rest) = .ok (out, after)) :
    ∃ t, 34 :: rest = t ++ after ∧ StringText AnyByte t out := by
  have hchars : parseChars size (34 :: rest).length [] rest = .ok (out, after) := h
  obtain ⟨body, denoted, rfl, hbody, rfl, hlength⟩ := parseChars_sound _ hchars (Nat.zero_le _)
  exact ⟨34 :: (body ++ [34]), by simp, body, rfl, hbody, hlength⟩

theorem parseString_complete {t out : Bytes} (h : StringText AnyByte t out) (after : Bytes) :
    parseString size (t ++ after) = .ok (out, after) := by
  obtain ⟨body, rfl, hbody, hlength⟩ := h
  have htail : List.tail (34 :: (body ++ [34]) ++ after) = body ++ 34 :: after := by simp
  unfold parseString
  rw [htail]
  refine @parseChars_complete size body out hbody _ ?_ [] hlength after
  simp only [List.cons_append, List.length_cons, List.length_append]
  omega

/-! ## Numbers -/

theorem isDigit_range {c : UInt8} : isDigit c = true ↔ 48 ≤ c ∧ c ≤ 57 := by
  simp [isDigit]

theorem parseMagnitude_sound {rest after : Bytes} {start magnitude : Nat}
    (h : parseMagnitude size start rest = .ok (magnitude, after)) :
    ∃ ds, rest = ds ++ after ∧ (∀ c ∈ ds, isDigit c = true)
      ∧ magnitude = ds.foldl (fun value c => value * 10 + digitValue c) start
      ∧ ∀ c ∈ after.head?, isDigit c = false := by
  induction rest generalizing start with
  | nil =>
    cases h
    exact ⟨[], rfl, by simp, rfl, by simp⟩
  | cons c rest ih =>
    rw [parseMagnitude] at h
    split at h
    · next hdigit =>
      split at h
      · cases h
      · obtain ⟨ds, rfl, hds, hmagnitude, hafter⟩ := ih h
        refine ⟨c :: ds, rfl, ?_, hmagnitude, hafter⟩
        intro x hx
        rcases List.mem_cons.mp hx with rfl | hx
        · exact hdigit
        · exact hds x hx
    · next hdigit =>
      cases h
      refine ⟨[], rfl, by simp, rfl, ?_⟩
      rintro x ⟨⟩
      exact Bool.not_eq_true _ ▸ hdigit

/-- The digits of a number. -/
theorem digits_iff {ds : Bytes} : Digits ds ↔ ds ≠ [] ∧ (∀ c ∈ ds, isDigit c = true)
    ∧ ¬ (1 < ds.length ∧ ds.head? = some 48) := by
  constructor
  · intro h
    cases h with
    | zero => exact ⟨by simp, List.forall_mem_singleton.mpr (by decide), by simp⟩
    | @more c ds hlow hhigh hds =>
      refine ⟨by simp, ?_, ?_⟩
      · intro x hx
        rcases List.mem_cons.mp hx with rfl | hx
        · exact isDigit_range.mpr ⟨UInt8.le_trans (by decide) hlow, hhigh⟩
        · exact isDigit_range.mpr (hds x hx)
      · rintro ⟨-, h48⟩
        rw [List.head?_cons, Option.some.injEq] at h48
        rw [h48] at hlow
        exact absurd hlow (by decide)
  · rintro ⟨hne, hds, hzero⟩
    match ds with
    | [] => exact absurd rfl hne
    | c :: ds =>
      obtain ⟨hlow, hhigh⟩ := isDigit_range.mp (hds c List.mem_cons_self)
      by_cases h48 : c = 48
      · cases ds with
        | nil =>
          rw [h48]
          exact .zero
        | cons d ds => exact absurd ⟨by simp, by rw [h48]; rfl⟩ hzero
      · refine .more ?_ hhigh fun d hd => isDigit_range.mp (hds d (List.mem_cons_of_mem c hd))
        have hne48 : c.toNat ≠ 48 := fun h => h48 (UInt8.toNat_inj.mp h)
        rw [UInt8.le_iff_toNat_le] at hlow ⊢
        show 49 ≤ c.toNat
        have hlow : 48 ≤ c.toNat := hlow
        omega

/-- The last checks on a number. -/
def finishNumber (size : Nat) (negative : Bool) (magnitude : Nat) (after : Bytes) :
    Result (JsonValue × Bytes) :=
  if after.head?.any fun c => c == 46 || c == 101 || c == 69 then
    .error (jsonSyntaxError size after
      (text "a number must be an integer; fractions and exponents are not accepted"))
  else if (if negative then 9223372036854775808 else 9223372036854775807) < magnitude then
    .error (jsonSyntaxError size after (text "number does not fit in a signed 64-bit integer"))
  else if !negative then .ok (.number (Int64.ofNat magnitude), after)
  else if magnitude = 9223372036854775808 then .ok (.number Int64.minValue, after)
  else .ok (.number (-(Int64.ofNat magnitude)), after)

theorem parseNumber_eq (negative : Bool) (digits rest : Bytes)
    (hrest : rest = if negative then 45 :: digits else digits)
    (hplain : negative = false → digits.head? ≠ some 45) :
    parseNumber size rest = if negative && !(digits.head?.any isDigit) then
        .error (jsonSyntaxError size digits (text "a '-' sign must be followed by a digit"))
      else parseMagnitude size 0 digits >>= fun read =>
        if 1 < digits.length - read.2.length ∧ digits.head? = some 48 then
          .error (jsonSyntaxError size read.2
            (text "leading zeros are not allowed in a JSON number"))
        else finishNumber size negative read.1 read.2 := by
  have hnegative : (rest.head? == some 45) = negative := by
    rw [hrest]
    cases negative with
    | false => exact beq_false_of_ne (hplain rfl)
    | true => rfl
  have hdigits : (if negative then rest.tail else rest) = digits := by
    rw [hrest]
    cases negative <;> rfl
  unfold parseNumber
  simp only [hnegative, hdigits]
  split
  · rfl
  · cases parseMagnitude size 0 digits with
    | error s => rfl
    | ok read =>
      obtain ⟨magnitude, after⟩ := read
      show (if _ then _ else _) = (if _ then _ else _)
      split
      · rfl
      · unfold finishNumber
        split
        · rfl
        · split
          · rfl
          · split
            · rfl
            · split <;> rfl

/-- The integer that a sign and a magnitude stand for. -/
def signed (negative : Bool) (magnitude : Nat) : Int :=
  if negative then -(magnitude : Int) else magnitude

theorem endsPlain_iff {after : Bytes} :
    (after.head?.any fun c => c == 46 || c == 101 || c == 69) = false
      ↔ ∀ c ∈ after.head?, c ≠ 46 ∧ c ≠ 101 ∧ c ≠ 69 := by
  cases after.head? <;> simp [and_assoc]

theorem toInt_ofNat_plain {magnitude : Nat} (h : magnitude ≤ 9223372036854775807) :
    (Int64.ofNat magnitude).toInt = magnitude := by
  rw [← Int64.ofInt_eq_ofNat, Int64.toInt_ofInt_of_le (by omega) (by omega)]

theorem toInt_ofNat_minus {magnitude : Nat} (h : magnitude ≤ 9223372036854775808) :
    (-(Int64.ofNat magnitude)).toInt = -(magnitude : Int) := by
  rw [← Int64.ofInt_eq_ofNat, ← Int64.ofInt_neg, Int64.toInt_ofInt_of_le (by omega) (by omega)]

/-- A number passes when it ends there and has a value of 64 bits, which it then is. -/
theorem finishNumber_ok {negative : Bool} {magnitude : Nat} {after rest : Bytes} {v : JsonValue} :
    finishNumber size negative magnitude after = .ok (v, rest)
      ↔ rest = after ∧ (∀ c ∈ after.head?, c ≠ 46 ∧ c ≠ 101 ∧ c ≠ 69)
        ∧ ∃ n : Int64, v = .number n ∧ n.toInt = signed negative magnitude := by
  have hread (n : Int64) (hn : n.toInt = signed negative magnitude)
      (hpoint : ∀ c ∈ after.head?, c ≠ 46 ∧ c ≠ 101 ∧ c ≠ 69) :
      (Except.ok (JsonValue.number n, after) : Result (JsonValue × Bytes)) = .ok (v, rest)
        ↔ rest = after ∧ (∀ c ∈ after.head?, c ≠ 46 ∧ c ≠ 101 ∧ c ≠ 69)
          ∧ ∃ n : Int64, v = .number n ∧ n.toInt = signed negative magnitude := by
    constructor
    · intro h
      cases h
      exact ⟨rfl, hpoint, n, rfl, hn⟩
    · rintro ⟨rfl, -, n', rfl, hn'⟩
      rw [Int64.toInt_inj.mp (hn.trans hn'.symm)]
  by_cases hpoint : ∀ c ∈ after.head?, c ≠ 46 ∧ c ≠ 101 ∧ c ≠ 69
  · have hany := endsPlain_iff.mpr hpoint
    cases negative with
    -- the largest number bounds what has no sign
    | false =>
      show (if _ then _ else if 9223372036854775807 < magnitude then _ else Except.ok _) = _ ↔ _
      rw [hany, if_neg Bool.false_ne_true]
      split
      · refine iff_of_false (by simp) ?_
        rintro ⟨-, -, n, -, hn⟩
        have := (int64_bounds n).2
        simp only [signed, Bool.false_eq_true, if_false] at hn
        omega
      · exact hread _ (toInt_ofNat_plain (by omega)) hpoint
    -- below a sign one more is allowed, and that one is read without being negated
    | true =>
      show (if _ then _ else if 9223372036854775808 < magnitude then _
        else if magnitude = 9223372036854775808 then Except.ok _ else Except.ok _) = _ ↔ _
      rw [hany, if_neg Bool.false_ne_true]
      split
      · refine iff_of_false (by simp) ?_
        rintro ⟨-, -, n, -, hn⟩
        have := (int64_bounds n).1
        simp only [signed, if_true] at hn
        omega
      · split
        · next hleast =>
          refine hread _ ?_ hpoint
          rw [hleast]
          rfl
        · exact hread _ (toInt_ofNat_minus (by omega)) hpoint
  · have hany : (after.head?.any fun c => c == 46 || c == 101 || c == 69) = true := by
      rw [← Bool.not_eq_false]
      exact fun h => hpoint (endsPlain_iff.mp h)
    unfold finishNumber
    rw [if_pos hany]
    exact iff_of_false (by simp) fun h => hpoint h.2.1

/-- What is taken behind the sign. -/
theorem magnitude_sound {negative : Bool} {digits after : Bytes} {v : JsonValue}
    (hfirst : digits.head?.any isDigit = true)
    (h : (parseMagnitude size 0 digits >>= fun read =>
        if 1 < digits.length - read.2.length ∧ digits.head? = some 48 then
          .error (jsonSyntaxError size read.2
            (text "leading zeros are not allowed in a JSON number"))
        else finishNumber size negative read.1 read.2) = .ok (v, after)) :
    ∃ ds n, digits = ds ++ after ∧ Digits ds ∧ v = .number n
      ∧ n.toInt = signed negative (digitsValue ds) := by
  obtain ⟨⟨magnitude, behind⟩, hread, h⟩ := Decoding.except_bind_eq_ok.mp h
  obtain ⟨ds, rfl, hds, rfl, hbehind⟩ := parseMagnitude_sound hread
  dsimp only at h
  split at h
  · cases h
  next hzeros =>
  obtain ⟨rfl, -, n, rfl, hn⟩ := finishNumber_ok.mp h
  have hne : ds ≠ [] := by
    rintro rfl
    rw [List.nil_append] at hfirst
    cases hhead : after.head? with
    | none =>
      rw [hhead] at hfirst
      cases hfirst
    | some c =>
      rw [hhead, Option.any_some, hbehind c hhead] at hfirst
      cases hfirst
  refine ⟨ds, n, rfl, digits_iff.mpr ⟨hne, hds, ?_⟩, rfl, hn⟩
  rintro ⟨hlong, h48⟩
  refine hzeros ⟨?_, ?_⟩
  · rw [List.length_append]
    omega
  · rw [List.head?_append, h48]
    rfl

theorem parseNumber_sound {rest after : Bytes} {v : JsonValue}
    (hrest : ∃ c tail, rest = c :: tail ∧ (c = 45 ∨ isDigit c = true))
    (h : parseNumber size rest = .ok (v, after)) :
    ∃ t n, rest = t ++ after ∧ v = .number n ∧ NumberText t n.toInt := by
  obtain ⟨c, tail, rfl, hc⟩ := hrest
  by_cases hsign : c = 45
  · rw [parseNumber_eq true tail (c :: tail) (by rw [hsign]; rfl) (by simp)] at h
    split at h
    · cases h
    next hfirst =>
    obtain ⟨ds, n, rfl, hds, rfl, hn⟩ := magnitude_sound (by simpa using hfirst) h
    refine ⟨45 :: ds, n, by rw [hsign]; rfl, rfl, ?_⟩
    rw [hn]
    exact .minus hds
  · have hdigit := hc.resolve_left hsign
    rw [parseNumber_eq false (c :: tail) (c :: tail) rfl (by simpa using hsign)] at h
    rw [Bool.false_and, if_neg Bool.false_ne_true] at h
    obtain ⟨ds, n, hsplit, hds, rfl, hn⟩ := @magnitude_sound size false (c :: tail) after v hdigit h
    refine ⟨ds, n, hsplit, rfl, ?_⟩
    rw [hn]
    exact .plain hds

theorem magnitude_complete {negative : Bool} {ds after : Bytes} {n : Int64} (hds : Digits ds)
    (hn : n.toInt = signed negative (digitsValue ds)) (hafter : EndsNumber after) :
    (parseMagnitude size 0 (ds ++ after) >>= fun read =>
        if 1 < (ds ++ after).length - read.2.length ∧ (ds ++ after).head? = some 48 then
          .error (jsonSyntaxError size read.2
            (text "leading zeros are not allowed in a JSON number"))
        else finishNumber size negative read.1 read.2) = .ok (.number n, after) := by
  obtain ⟨hne, hdigits, hzeros⟩ := digits_iff.mp hds
  have hbound : digitsValue ds ≤ 0xFFFFFFFFFFFFFFFF := by
    obtain ⟨hmin, hmax⟩ := int64_bounds n
    rw [hn, signed] at hmin hmax
    cases negative <;> simp at hmin hmax <;> omega
  rw [@parseMagnitude_digits size ds after hdigits hafter 0 hbound]
  show (if 1 < (ds ++ after).length - after.length ∧ (ds ++ after).head? = some 48 then _ else _) = _
  have hnozeros : ¬ (1 < (ds ++ after).length - after.length ∧ (ds ++ after).head? = some 48) := by
    rintro ⟨hlong, h48⟩
    rw [List.length_append, Nat.add_sub_cancel] at hlong
    rw [List.head?_append_of_ne_nil _ hne] at h48
    exact hzeros ⟨hlong, h48⟩
  rw [if_neg hnozeros]
  exact finishNumber_ok.mpr ⟨rfl, fun c hc => (hafter c hc).2, n, rfl, hn⟩

theorem parseNumber_complete {t after : Bytes} {n : Int64} (h : NumberText t n.toInt)
    (hafter : EndsNumber after) : parseNumber size (t ++ after) = .ok (.number n, after) := by
  generalize hvalue : n.toInt = value at h
  cases h with
  | @plain ds hds =>
    have hfirst : ∃ c tail, t = c :: tail ∧ c ≠ 45 := by
      cases hds with
      | zero => exact ⟨48, [], rfl, by decide⟩
      | @more c ds hlow =>
        refine ⟨c, ds, rfl, ?_⟩
        rintro rfl
        exact absurd hlow (by decide)
    obtain ⟨c, tail, rfl, hc⟩ := hfirst
    rw [parseNumber_eq false (c :: tail ++ after) (c :: tail ++ after) rfl (by simpa using hc),
      Bool.false_and,
      if_neg Bool.false_ne_true]
    exact magnitude_complete hds hvalue hafter
  | @minus ds hds =>
    have hfirst : ((ds ++ after).head?.any isDigit) = true := by
      obtain ⟨hne, hdigits, -⟩ := digits_iff.mp hds
      cases ds with
      | nil => exact absurd rfl hne
      | cons c ds => exact hdigits c List.mem_cons_self
    rw [parseNumber_eq true (ds ++ after) (45 :: ds ++ after) rfl (by simp), hfirst]
    exact magnitude_complete hds hvalue hafter

/-! ## Elements -/

/-- A reader of values takes the texts of a kind, and all of them. -/
structure Accepts (parse : Bytes → Result (JsonValue × Bytes)) (Value : Bytes → JsonValue → Prop) :
    Prop where
  sound : ∀ rest v after, parse rest = .ok (v, after) → ∃ t, rest = t ++ after ∧ Value t v
  complete : ∀ t v after, Value t v → EndsNumber after → parse (t ++ after) = .ok (v, after)
  starts : ∀ t v, Value t v → ∃ c tail, t = c :: tail ∧ isJsonSpace c = false ∧ c ≠ 93

/-- What may come behind a value: a character that is no white space and does not belong to a
number, or the end. -/
def Closes (rest : Bytes) : Prop :=
  EndsNumber rest ∧ ∀ c ∈ rest.head?, isJsonSpace c = false

theorem closes_nil : Closes [] := ⟨by simp [EndsNumber], by simp⟩

theorem closes_cons {c : UInt8} (h : c = 44 ∨ c = 58 ∨ c = 93 ∨ c = 125) (rest : Bytes) :
    Closes (c :: rest) := by
  rcases h with rfl | rfl | rfl | rfl <;> constructor <;> rintro _ ⟨⟩ <;> decide

theorem Closes.endsNumber {blank rest : Bytes} (h : Closes rest) (hblank : Blank blank) :
    EndsNumber (blank ++ rest) := by
  cases blank with
  | nil => exact h.1
  | cons c blank =>
    rintro _ ⟨⟩
    rcases hblank c List.mem_cons_self with rfl | rfl | rfl | rfl <;> decide

section
variable {parse : Bytes → Result (JsonValue × Bytes)} {Value : Bytes → JsonValue → Prop}

theorem Accepts.padded_sound (h : Accepts parse Value) {rest after : Bytes} {v : JsonValue}
    (hparse : parse (skipWhitespace rest) = .ok (v, after)) :
    ∃ t, rest = t ++ skipWhitespace after ∧ Padded Value t v := by
  obtain ⟨before, hrest, hbefore⟩ := skipWhitespace_split rest
  obtain ⟨body, hbody, hvalue⟩ := h.sound _ _ _ hparse
  obtain ⟨behind, hafter, hbehind⟩ := skipWhitespace_split after
  refine ⟨before ++ (body ++ behind), ?_, before, body, behind, rfl, hbefore, hvalue, hbehind⟩
  rw [List.append_assoc, List.append_assoc, ← hafter, ← hbody]
  exact hrest

theorem Accepts.padded_complete (h : Accepts parse Value) {t rest : Bytes} {v : JsonValue}
    (ht : Padded Value t v) (hrest : Closes rest) :
    ∃ after, parse (skipWhitespace (t ++ rest)) = .ok (v, after) ∧ skipWhitespace after = rest := by
  obtain ⟨before, body, behind, rfl, hbefore, hvalue, hbehind⟩ := ht
  obtain ⟨c, tail, hbody, hspace, -⟩ := h.starts _ _ hvalue
  refine ⟨behind ++ rest, ?_, skip_blank hbehind hrest.2⟩
  rw [List.append_assoc, List.append_assoc, skip_blank hbefore (by rw [hbody]; rintro _ ⟨⟩; exact hspace)]
  exact h.complete _ _ _ hvalue (hrest.endsNumber hbehind)

theorem parseElements_sound (h : Accepts parse Value) (room : Nat) {items : List JsonValue}
    {rest after : Bytes} {v : JsonValue}
    (hparse : parseElements size parse room items rest = .ok (v, after)) :
    ∃ t more, rest = t ++ 93 :: after ∧ Separated (Padded Value) t more ∧ more.length ≤ room
      ∧ v = .array (items ++ more) := by
  induction room generalizing items rest with
  | zero => cases hparse
  | succ room ih =>
    rw [parseElements] at hparse
    obtain ⟨⟨value, behind⟩, hvalue, hthen⟩ := Decoding.except_bind_eq_ok.mp hparse
    obtain ⟨t, rfl, ht⟩ := h.padded_sound hvalue
    dsimp only at hthen
    split at hthen
    · cases hthen
    · next heq =>
      obtain ⟨u, more, rfl, hmore, hroom, rfl⟩ := ih hthen
      refine ⟨t ++ 44 :: u, value :: more, ?_, .more ht hmore, ?_, ?_⟩
      · rw [heq, List.append_assoc]
        rfl
      · rw [List.length_cons]
        omega
      · rw [List.append_assoc]
        rfl
    · next heq =>
      cases hthen
      exact ⟨t, [value], by rw [heq], .one ht, by simp, rfl⟩
    · cases hthen

theorem parseElements_complete (h : Accepts parse Value) {t : Bytes} {more : List JsonValue}
    (ht : Separated (Padded Value) t more) {room : Nat} (hroom : more.length ≤ room)
    (items : List JsonValue) (after : Bytes) :
    parseElements size parse room items (t ++ 93 :: after) = .ok (.array (items ++ more), after) := by
  induction ht generalizing room items with
  | @one t v hv =>
    obtain ⟨room, rfl⟩ : ∃ k, room = k + 1 := ⟨room - 1, by simp at hroom; omega⟩
    obtain ⟨behind, hparse, hbehind⟩ := h.padded_complete hv (closes_cons (.inr (.inr (.inl rfl))) after)
    rw [parseElements, hparse]
    simp only [Bind.bind, Except.bind, hbehind]
    rfl
  | @more t rest v more hv _ ih =>
    rw [List.length_cons] at hroom
    obtain ⟨room, rfl⟩ : ∃ k, room = k + 1 := ⟨room - 1, by omega⟩
    obtain ⟨behind, hparse, hbehind⟩ :=
      h.padded_complete hv (closes_cons (.inl rfl) (rest ++ 93 :: after))
    rw [parseElements, List.append_assoc, List.cons_append, hparse]
    simp only [Bind.bind, Except.bind, hbehind]
    rw [ih (by omega) (items ++ [v]), List.append_assoc]
    rfl

/-! ## Members -/

theorem any_key_iff {members : List (Bytes × JsonValue)} {key : Bytes} :
    (members.any fun member => member.1 == key) = true ↔ key ∈ members.map Prod.fst := by
  rw [List.any_eq_true, List.mem_map]
  simp only [beq_iff_eq]

theorem parseKey_sound {members : List (Bytes × JsonValue)} {rest key behind : Bytes}
    (hparse : parseKey size members rest = .ok (key, behind)) :
    ∃ before k after, rest = before ++ (k ++ (after ++ 58 :: behind)) ∧ Blank before
      ∧ StringText AnyByte k key ∧ Blank after ∧ key ∉ members.map Prod.fst := by
  obtain ⟨before, hrest, hbefore⟩ := skipWhitespace_split rest
  unfold parseKey at hparse
  generalize skipWhitespace rest = skipped at hparse hrest
  dsimp only at hparse
  split at hparse
  · cases hparse
  split at hparse
  · cases hparse
  next hquote =>
  rw [ne_eq, not_not] at hquote
  obtain ⟨tail, rfl⟩ : ∃ tail, skipped = 34 :: tail := by
    cases skipped with
    | nil => cases hquote
    | cons c tail => exact ⟨tail, by rw [Option.some.inj hquote]⟩
  obtain ⟨⟨k, behindKey⟩, hkey, hthen⟩ := Decoding.except_bind_eq_ok.mp hparse
  obtain ⟨t, ht, hstring⟩ := parseString_sound hkey
  obtain ⟨after, hafter, hblank⟩ := skipWhitespace_split behindKey
  dsimp only at hthen
  generalize skipWhitespace behindKey = colon at hthen hafter
  split at hthen
  · cases hthen
  next hcolon =>
  split at hthen
  · cases hthen
  next hnew =>
  cases hthen
  rw [ne_eq, not_not] at hcolon
  refine ⟨before, t, after, ?_, hbefore, hstring, hblank, fun h => hnew (any_key_iff.mpr h)⟩
  rw [hrest, ht, hafter]
  cases colon with
  | nil => cases hcolon
  | cons c tail => rw [Option.some.inj hcolon, List.tail_cons]

theorem parseKey_complete {members : List (Bytes × JsonValue)} {before k after key : Bytes}
    (hbefore : Blank before) (hk : StringText AnyByte k key) (hafter : Blank after)
    (hnew : key ∉ members.map Prod.fst) (behind : Bytes) :
    parseKey size members (before ++ (k ++ (after ++ 58 :: behind))) = .ok (key, behind) := by
  have hquote : ∃ tail, k = 34 :: tail := by
    obtain ⟨body, rfl, -⟩ := hk
    exact ⟨_, rfl⟩
  obtain ⟨tail, hk34⟩ := hquote
  have hskip : skipWhitespace (before ++ (k ++ (after ++ 58 :: behind)))
      = k ++ (after ++ 58 :: behind) := by
    refine skip_blank hbefore ?_
    rw [hk34]
    rintro _ ⟨⟩
    decide
  have hcolon : skipWhitespace (after ++ 58 :: behind) = 58 :: behind :=
    skip_blank hafter (closes_cons (.inr (.inl rfl)) behind).2
  have hany : (members.any fun member => member.1 == key) = false := by
    rw [← Bool.not_eq_true, any_key_iff]
    exact hnew
  unfold parseKey
  rw [hskip, hk34]
  show (parseString size (34 :: tail ++ (after ++ 58 :: behind)) >>= _) = _
  rw [← hk34, parseString_complete hk]
  simp [Bind.bind, Except.bind, hcolon, hany, Pure.pure, Except.pure]

/-- The keys stay unique: each of them is new to the members in front of it. -/
theorem parseMembers_sound (h : Accepts parse Value) (room : Nat)
    {members : List (Bytes × JsonValue)} {rest after : Bytes} {v : JsonValue}
    (hkeys : (members.map Prod.fst).Nodup)
    (hparse : parseMembers size parse room members rest = .ok (v, after)) :
    ∃ t more, rest = t ++ 125 :: after ∧ Separated (MemberText AnyByte Value) t more
      ∧ more.length ≤ room ∧ v = .object (members ++ more)
      ∧ ((members ++ more).map Prod.fst).Nodup := by
  induction room generalizing members rest with
  | zero =>
    rw [parseMembers] at hparse
    obtain ⟨_, -, hthen⟩ := Decoding.except_bind_eq_ok.mp hparse
    cases hthen
  | succ room ih =>
    rw [parseMembers] at hparse
    obtain ⟨⟨key, behindKey⟩, hkey, hthen⟩ := Decoding.except_bind_eq_ok.mp hparse
    obtain ⟨before, k, colon, rfl, hbefore, hk, hcolon, hnew⟩ := parseKey_sound hkey
    obtain ⟨⟨value, behind⟩, hvalue, hrest⟩ := Decoding.except_bind_eq_ok.mp hthen
    obtain ⟨t, ht, hpadded⟩ := h.padded_sound hvalue
    have hmember : MemberText AnyByte Value (before ++ (k ++ (colon ++ 58 :: t))) (key, value) :=
      ⟨before, k, colon, t, rfl, hbefore, hk, hcolon, hpadded⟩
    -- the key was not there yet, so the keys stay apart
    have hkeys' : ((members ++ [(key, value)]).map Prod.fst).Nodup := by
      rw [List.map_append, List.nodup_append]
      refine ⟨hkeys, by simp, ?_⟩
      rintro a ha b hb rfl
      obtain rfl : a = key := List.mem_singleton.mp hb
      exact hnew ha
    dsimp only at hrest
    rw [JsonValue.setMember_new hnew] at hrest
    split at hrest
    · cases hrest
    · next heq =>
      obtain ⟨u, more, rfl, hmore, hroom, rfl, hnodup⟩ := ih hkeys' hrest
      rw [List.append_assoc] at hnodup
      refine ⟨before ++ (k ++ (colon ++ 58 :: t)) ++ 44 :: u, (key, value) :: more, ?_,
        .more hmember hmore, ?_, ?_, hnodup⟩
      · rw [ht, heq]
        simp only [List.append_assoc, List.cons_append]
      · rw [List.length_cons]
        omega
      · rw [List.append_assoc]
        rfl
    · next heq =>
      cases hrest
      refine ⟨_, [(key, value)], ?_, .one hmember, by simp, rfl, hkeys'⟩
      rw [ht, heq]
      simp only [List.append_assoc, List.cons_append]
    · cases hrest

theorem parseMembers_complete (h : Accepts parse Value) {t : Bytes}
    {more : List (Bytes × JsonValue)} (ht : Separated (MemberText AnyByte Value) t more) {room : Nat}
    (hroom : more.length ≤ room) {members : List (Bytes × JsonValue)}
    (hkeys : ((members ++ more).map Prod.fst).Nodup) (after : Bytes) :
    parseMembers size parse room members (t ++ 125 :: after)
      = .ok (.object (members ++ more), after) := by
  induction ht generalizing room members with
  | @one t member hmember =>
    obtain ⟨room, rfl⟩ : ∃ k, room = k + 1 := ⟨room - 1, by simp at hroom; omega⟩
    obtain ⟨before, key, colon, rest, rfl, hbefore, hkey, hcolon, hvalue⟩ := hmember
    have hnew := new_of_nodup hkeys
    obtain ⟨behind, hparse, hbehind⟩ :=
      h.padded_complete hvalue (closes_cons (.inr (.inr (.inr rfl))) after)
    have htext : before ++ (key ++ (colon ++ 58 :: rest)) ++ 125 :: after
        = before ++ (key ++ (colon ++ 58 :: (rest ++ 125 :: after))) := by
      simp only [List.append_assoc, List.cons_append]
    rw [parseMembers, htext, parseKey_complete hbefore hkey hcolon hnew]
    simp only [Bind.bind, Except.bind, hparse, hbehind, JsonValue.setMember_new hnew]
    rfl
  | @more t others member more hmember _ ih =>
    rw [List.length_cons] at hroom
    obtain ⟨room, rfl⟩ : ∃ k, room = k + 1 := ⟨room - 1, by omega⟩
    obtain ⟨before, key, colon, rest, rfl, hbefore, hkey, hcolon, hvalue⟩ := hmember
    have hnew := new_of_nodup hkeys
    obtain ⟨behind, hparse, hbehind⟩ :=
      h.padded_complete hvalue (closes_cons (.inl rfl) (others ++ 125 :: after))
    have htext : before ++ (key ++ (colon ++ 58 :: rest)) ++ 44 :: others ++ 125 :: after
        = before ++ (key ++ (colon ++ 58 :: (rest ++ 44 :: (others ++ 125 :: after)))) := by
      simp only [List.append_assoc, List.cons_append]
    have happend : members ++ member :: more = (members ++ [member]) ++ more := by
      rw [List.append_assoc]
      rfl
    rw [happend] at hkeys
    rw [parseMembers, htext, parseKey_complete hbefore hkey hcolon hnew, happend]
    simp only [Bind.bind, Except.bind, hparse, hbehind, JsonValue.setMember_new hnew]
    exact ih (by omega) hkeys

/-! ## Arrays and objects -/

theorem JsonGrammar.Separated.first {α : Type} {Element : Bytes → α → Prop} {t : Bytes}
    {items : List α} (h : Separated Element t items) :
    ∃ a u rest, Element u a ∧ t = u ++ rest := by
  cases h with
  | @one _ a ha => exact ⟨a, t, [], ha, (List.append_nil t).symm⟩
  | @more u rest a _ ha _ => exact ⟨a, u, 44 :: rest, ha, rfl⟩

theorem Accepts.starts_padded (h : Accepts parse Value) {t : Bytes} {v : JsonValue}
    (ht : Padded Value t v) (rest : Bytes) : (skipWhitespace (t ++ rest)).head? ≠ some 93 := by
  obtain ⟨before, body, behind, rfl, hbefore, hvalue, -⟩ := ht
  obtain ⟨c, tail, rfl, hspace, hbracket⟩ := h.starts _ _ hvalue
  rw [List.append_assoc, skip_blank hbefore (by rintro _ ⟨⟩; exact hspace)]
  rintro ⟨⟩
  exact hbracket rfl

theorem starts_member {t : Bytes} {member : Bytes × JsonValue}
    (ht : MemberText AnyByte Value t member) (rest : Bytes) :
    (skipWhitespace (t ++ rest)).head? ≠ some 125 := by
  obtain ⟨before, key, behind, value, rfl, hbefore, ⟨body, rfl, -⟩, -⟩ := ht
  rw [List.append_assoc, skip_blank hbefore (by rintro _ ⟨⟩; decide)]
  rintro ⟨⟩

theorem parseArray_sound (h : Accepts parse Value) {rest after : Bytes} {v : JsonValue}
    (hparse : parseArray size parse rest = .ok (v, after)) :
    ∃ t, 91 :: rest = t ++ after ∧ ValueText AnyByte Value t v := by
  by_cases hempty : (skipWhitespace rest).head? = some 93
  · obtain ⟨blank, hrest, hblank⟩ := skipWhitespace_split rest
    obtain ⟨tail, htail⟩ := List.head?_eq_some_iff.mp hempty
    unfold parseArray at hparse
    rw [htail] at hparse hrest
    cases hparse
    refine ⟨91 :: (blank ++ [93]), ?_, .emptyArray hblank⟩
    rw [hrest]
    simp only [List.append_assoc, List.cons_append, List.nil_append]
  · rw [parseArray_items hempty] at hparse
    obtain ⟨t, items, rfl, hitems, hcount, rfl⟩ := parseElements_sound h _ hparse
    refine ⟨91 :: (t ++ [93]), ?_, .array hitems hcount⟩
    simp only [List.append_assoc, List.cons_append, List.nil_append]

theorem parseArray_empty {blank : Bytes} (hblank : Blank blank) (after : Bytes) :
    parseArray size parse (blank ++ 93 :: after) = .ok (.array [], after) := by
  unfold parseArray
  rw [skip_blank hblank (closes_cons (.inr (.inr (.inl rfl))) after).2]
  rfl

theorem parseArray_complete (h : Accepts parse Value) {t : Bytes} {items : List JsonValue}
    (ht : Separated (Padded Value) t items) (hcount : items.length ≤ kMaxJsonElements)
    (after : Bytes) : parseArray size parse (t ++ 93 :: after) = .ok (.array items, after) := by
  obtain ⟨first, u, rest, hfirst, rfl⟩ := ht.first
  have hhead := h.starts_padded hfirst (rest ++ 93 :: after)
  rw [← List.append_assoc] at hhead
  rw [parseArray_items hhead]
  exact parseElements_complete h ht hcount [] after

theorem parseObject_sound (h : Accepts parse Value) {rest after : Bytes} {v : JsonValue}
    (hparse : parseObject size parse rest = .ok (v, after)) :
    ∃ t, 123 :: rest = t ++ after ∧ ValueText AnyByte Value t v := by
  by_cases hempty : (skipWhitespace rest).head? = some 125
  · obtain ⟨blank, hrest, hblank⟩ := skipWhitespace_split rest
    obtain ⟨tail, htail⟩ := List.head?_eq_some_iff.mp hempty
    unfold parseObject at hparse
    rw [htail] at hparse hrest
    cases hparse
    refine ⟨123 :: (blank ++ [125]), ?_, .emptyObject hblank⟩
    rw [hrest]
    simp only [List.append_assoc, List.cons_append, List.nil_append]
  · rw [parseObject_members hempty] at hparse
    obtain ⟨t, members, rfl, hmembers, hcount, rfl, hkeys⟩ :=
      @parseMembers_sound size _ _ h _ [] _ _ _ List.nodup_nil hparse
    refine ⟨123 :: (t ++ [125]), ?_, .object hmembers hcount hkeys⟩
    simp only [List.append_assoc, List.cons_append, List.nil_append]

theorem parseObject_empty {blank : Bytes} (hblank : Blank blank) (after : Bytes) :
    parseObject size parse (blank ++ 125 :: after) = .ok (.object [], after) := by
  unfold parseObject
  rw [skip_blank hblank (closes_cons (.inr (.inr (.inr rfl))) after).2]
  rfl

theorem parseObject_complete (h : Accepts parse Value) {t : Bytes}
    {members : List (Bytes × JsonValue)} (ht : Separated (MemberText AnyByte Value) t members)
    (hcount : members.length ≤ kMaxJsonMembers) (hkeys : (members.map Prod.fst).Nodup)
    (after : Bytes) : parseObject size parse (t ++ 125 :: after) = .ok (.object members, after) := by
  obtain ⟨first, u, rest, hfirst, rfl⟩ := ht.first
  have hhead := starts_member hfirst (rest ++ 125 :: after)
  rw [← List.append_assoc] at hhead
  rw [parseObject_members hhead]
  exact @parseMembers_complete size _ _ h _ _ ht _ hcount [] hkeys after

end

/-! ## Values -/

theorem parseLiteral_sound {literal rest after : Bytes} {value v : JsonValue}
    (h : parseLiteral size literal value rest = .ok (v, after)) :
    rest = literal ++ after ∧ v = value := by
  unfold parseLiteral at h
  split at h
  · cases h
  next hliteral =>
  cases h
  rw [not_or, ne_eq, not_not] at hliteral
  refine ⟨?_, rfl⟩
  conv_lhs => rw [← List.take_append_drop literal.length rest, hliteral.2]

theorem parseValue_sound {levels : Nat} {Value : Bytes → JsonValue → Prop}
    (h : Accepts (parseValue size levels) Value) {rest after : Bytes} {v : JsonValue}
    (hparse : parseValue size (levels + 1) rest = .ok (v, after)) :
    ∃ t, rest = t ++ after ∧ ValueText AnyByte Value t v := by
  cases rest with
  | nil => cases hparse
  | cons c rest =>
    rw [parseValue] at hparse
    split at hparse
    · next hc =>
      rw [hc]
      exact parseObject_sound h hparse
    split at hparse
    · next hc =>
      rw [hc]
      exact parseArray_sound h hparse
    split at hparse
    · next hc =>
      rw [hc] at hparse ⊢
      cases hstring : parseString size (34 :: rest) with
      | error _ =>
        rw [hstring] at hparse
        cases hparse
      | ok read =>
        rw [hstring] at hparse
        cases hparse
        obtain ⟨t, ht, htext⟩ := parseString_sound hstring
        exact ⟨t, ht, .string htext⟩
    split at hparse
    · obtain ⟨hrest, rfl⟩ := parseLiteral_sound hparse
      exact ⟨_, hrest, .true⟩
    split at hparse
    · obtain ⟨hrest, rfl⟩ := parseLiteral_sound hparse
      exact ⟨_, hrest, .false⟩
    split at hparse
    · obtain ⟨hrest, rfl⟩ := parseLiteral_sound hparse
      exact ⟨_, hrest, .null⟩
    -- the refusals of NaN, Infinity, a plus and a bare dot
    iterate 4
      split at hparse
      · cases hparse
    split at hparse
    · next hc =>
      obtain ⟨t, n, ht, rfl, hnumber⟩ := parseNumber_sound ⟨c, rest, rfl, hc⟩ hparse
      exact ⟨t, ht, .number hnumber⟩
    · cases hparse

theorem JsonGrammar.NumberText.head {t : Bytes} {n : Int} (h : NumberText t n) :
    ∃ c tail, t = c :: tail ∧ (c = 45 ∨ isDigit c = true) := by
  cases h with
  | minus hds => exact ⟨45, _, rfl, .inl rfl⟩
  | plain hds =>
    obtain ⟨hne, hdigits, -⟩ := digits_iff.mp hds
    cases t with
    | nil => exact absurd rfl hne
    | cons c tail => exact ⟨c, tail, rfl, .inr (hdigits c List.mem_cons_self)⟩

theorem parseValue_complete {levels : Nat} {Value : Bytes → JsonValue → Prop}
    (h : Accepts (parseValue size levels) Value) {t : Bytes} {v : JsonValue}
    (ht : ValueText AnyByte Value t v) {after : Bytes} (hafter : EndsNumber after) :
    parseValue size (levels + 1) (t ++ after) = .ok (v, after) := by
  cases ht with
  | null => exact @parseLiteral_write size (text "null") .null after
  | true => exact @parseLiteral_write size (text "true") (.bool true) after
  | false => exact @parseLiteral_write size (text "false") (.bool false) after
  | number hn =>
    obtain ⟨c, tail, rfl, hc⟩ := hn.head
    rw [List.cons_append, parseValue_number levels hc]
    exact parseNumber_complete hn hafter
  | string hs =>
    have hread : parseString size (t ++ after) = _ := parseString_complete hs after
    obtain ⟨body, rfl, -⟩ := hs
    show (parseString size (34 :: (body ++ [34]) ++ after)).map _ = _
    rw [hread]
    rfl
  | emptyArray hblank =>
    rw [List.cons_append, List.append_assoc]
    exact parseArray_empty hblank after
  | array hitems hcount =>
    rw [List.cons_append, List.append_assoc]
    exact parseArray_complete h hitems hcount after
  | emptyObject hblank =>
    rw [List.cons_append, List.append_assoc]
    exact parseObject_empty hblank after
  | object hmembers hcount hkeys =>
    rw [List.cons_append, List.append_assoc]
    exact parseObject_complete h hmembers hcount hkeys after

theorem valueText_starts {Value : Bytes → JsonValue → Prop} {t : Bytes} {v : JsonValue}
    (h : ValueText AnyByte Value t v) :
    ∃ c tail, t = c :: tail ∧ isJsonSpace c = false ∧ c ≠ 93 := by
  cases h with
  | null => exact ⟨_, _, rfl, by decide, by decide⟩
  | true => exact ⟨_, _, rfl, by decide, by decide⟩
  | false => exact ⟨_, _, rfl, by decide, by decide⟩
  | number hn =>
    obtain ⟨c, tail, rfl, hc⟩ := hn.head
    obtain ⟨hlow, hhigh, -⟩ := isDigit_bounds hc
    refine ⟨c, tail, rfl, ?_, ?_⟩
    · rw [← Bool.not_eq_true, isJsonSpace_iff]
      rintro (rfl | rfl | rfl | rfl) <;> revert hlow <;> decide
    · rintro rfl
      revert hhigh
      decide
  | string hs =>
    obtain ⟨body, rfl, -⟩ := hs
    exact ⟨_, _, rfl, by decide, by decide⟩
  | emptyArray _ => exact ⟨_, _, rfl, by decide, by decide⟩
  | array _ _ => exact ⟨_, _, rfl, by decide, by decide⟩
  | emptyObject _ => exact ⟨_, _, rfl, by decide, by decide⟩
  | object _ _ _ => exact ⟨_, _, rfl, by decide, by decide⟩

/-- The reader of values takes the texts of the grammar, at each level of nesting. -/
theorem parseValue_accepts (size levels : Nat) :
    Accepts (parseValue size levels) (Nested AnyByte levels) := by
  induction levels with
  | zero =>
    constructor
    · intro rest v after h
      cases h
    · intro t v after h
      exact h.elim
    · intro t v h
      exact h.elim
  | succ levels ih =>
    constructor
    · intro rest v after h
      exact parseValue_sound ih h
    · intro t v after h hafter
      exact parseValue_complete ih h hafter
    · intro t v h
      exact valueText_starts h

/-! ## Documents -/

/-- The reader takes the documents whose strings may hold any bytes. -/
theorem parseJson_iff (t : Bytes) (limits : RuntimeLimits) (v : JsonValue) :
    parseJson t limits = .ok v ↔ JsonDocumentOfBytes limits t v := by
  have haccepts := parseValue_accepts t.length (kMaxJsonDepth + 1)
  constructor
  · intro h
    unfold parseJson at h
    split at h
    · cases h
    next hsize =>
    obtain ⟨⟨value, behind⟩, hvalue, hthen⟩ := Decoding.except_bind_eq_ok.mp h
    obtain ⟨body, hbody, hpadded⟩ := haccepts.padded_sound hvalue
    dsimp only at hthen
    split at hthen
    · cases hthen
    next hrest =>
    cases hthen
    have hempty : skipWhitespace behind = [] := by simpa using hrest
    rw [hempty, List.append_nil] at hbody
    exact ⟨Nat.not_lt.mp hsize, hbody ▸ hpadded⟩
  · rintro ⟨hsize, hpadded⟩
    obtain ⟨behind, hparse, hbehind⟩ := haccepts.padded_complete hpadded closes_nil
    rw [List.append_nil] at hparse
    unfold parseJson
    rw [if_neg (Nat.not_lt.mpr hsize), hparse]
    simp [Bind.bind, Except.bind, hbehind, Pure.pure, Except.pure]

/-- The reader checks no encoding: it agrees with the grammar of documents exactly at the texts
that are UTF-8, and at those that no choice of encoding would make a document. -/
theorem parseJson_exact_iff (t : Bytes) (limits : RuntimeLimits) :
    (∀ v, parseJson t limits = .ok v ↔ JsonDocument limits t v)
      ↔ isValidUtf8 t = true ∨ ¬ ∃ v, JsonDocumentOfBytes limits t v := by
  constructor
  · intro h
    by_contra hneither
    obtain ⟨hinvalid, hdocument⟩ := not_or.mp hneither
    obtain ⟨v, hv⟩ := not_not.mp hdocument
    have hjson := (h v).mp ((parseJson_iff t limits v).mpr hv)
    exact hinvalid ((jsonDocument_iff limits t v).mp hjson).2
  · intro h v
    rw [parseJson_iff, jsonDocument_iff]
    constructor
    · intro hv
      rcases h with hvalid | hnone
      · exact ⟨hv, hvalid⟩
      · exact absurd ⟨v, hv⟩ hnone
    · exact And.left

/-- A string of one byte that starts no character is read. -/
theorem parseJson_invalidByte :
    parseJson [34, 255, 34] {} = .ok (.string [255])
      ∧ ¬ ∃ v, JsonDocument {} [34, 255, 34] v := by
  refine ⟨rfl, ?_⟩
  rintro ⟨v, h⟩
  have hvalid := ((jsonDocument_iff _ _ _).mp h).2
  revert hvalid
  decide

end RolloutFabric
