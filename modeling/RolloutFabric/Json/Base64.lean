/-
Base64 in plan documents: the decoder accepts the canonical encodings of RFC 4648 within the bound,
and nothing else.
-/
import RolloutFabric.Base.Status
import RolloutFabric.Lib.Exact

namespace RolloutFabric

/-! ## The decoder -/

/-- `none` where the source has `-1`. -/
def base64Value (character : UInt8) : Option UInt8 :=
  if 65 ≤ character ∧ character ≤ 90 then some (character - 65)
  else if 97 ≤ character ∧ character ≤ 122 then some (26 + (character - 97))
  else if 48 ≤ character ∧ character ≤ 57 then some (52 + (character - 48))
  else if character = 43 then some 62
  else if character = 47 then some 63
  else none

def base64LengthError (path : Bytes) : Status :=
  makeStatus .invalidArgument (path ++ text ": base64 length must be a multiple of four")

def base64BoundError (path : Bytes) (maxBytes : Nat) : Status :=
  makeStatus .limitExceeded (path ++ text ": decoded payload exceeds the maximum of "
    ++ toStringNat maxBytes ++ text " bytes")

def base64CharacterError (path : Bytes) : Status :=
  makeStatus .invalidArgument (path ++ text ": invalid base64 character")

def base64PaddingError (path : Bytes) : Status :=
  makeStatus .invalidArgument (path ++ text ": malformed base64 padding")

/-- One round of the loop: the bytes of four characters. Only the last four may be padded. -/
def decodeQuantum (path : Bytes) (c0 c1 c2 c3 : UInt8) (last : Bool) : Result Bytes :=
  match base64Value c0, base64Value c1 with
  | some first, some second =>
    if c2 = 61 then
      if c3 ≠ 61 ∨ last = false ∨ second &&& 0x0F ≠ 0 then .error (base64PaddingError path)
      else .ok [(first <<< 2) ||| (second >>> 4)]
    else match base64Value c2 with
      | none => .error (base64CharacterError path)
      | some third =>
        if c3 = 61 then
          if last = false ∨ third &&& 0x03 ≠ 0 then .error (base64PaddingError path)
          else .ok [(first <<< 2) ||| (second >>> 4), ((second &&& 0x0F) <<< 4) ||| (third >>> 2)]
        else match base64Value c3 with
          | none => .error (base64CharacterError path)
          | some fourth =>
            .ok [(first <<< 2) ||| (second >>> 4), ((second &&& 0x0F) <<< 4) ||| (third >>> 2),
              ((third &&& 0x03) <<< 6) ||| fourth]
  | _, _ => .error (base64CharacterError path)

/-- The loop over the text, four characters a round. -/
def decodeQuanta (path : Bytes) : Bytes → Result Bytes
  | c0 :: c1 :: c2 :: c3 :: rest => do
    let bytes ← decodeQuantum path c0 c1 c2 c3 rest.isEmpty
    let out ← decodeQuanta path rest
    return bytes ++ out
  | _ => .ok []

def decodeBase64 (t path : Bytes) (maxBytes : Nat) : Result Bytes :=
  if t.length % 4 ≠ 0 then .error (base64LengthError path)
  else if maxBytes < t.length / 4 * 3 then .error (base64BoundError path maxBytes)
  else decodeQuanta path t

/-! ## The encoder -/

/-- The alphabet of RFC 4648. -/
def base64Alphabet : Bytes :=
  text "ABCDEFGHIJKLMNOPQRSTUVWXYZabcdefghijklmnopqrstuvwxyz0123456789+/"

def base64Char (value : Nat) : UInt8 := base64Alphabet.getD value 0

/-- The standard encoding: three bytes to four characters, the unused bits zero, padded at the
end. -/
def base64Encode : Bytes → Bytes
  | [] => []
  | [a] => [base64Char (a.toNat / 4), base64Char (a.toNat % 4 * 16), 61, 61]
  | [a, b] =>
    [base64Char (a.toNat / 4), base64Char (a.toNat % 4 * 16 + b.toNat / 16),
      base64Char (b.toNat % 16 * 4), 61]
  | a :: b :: c :: rest =>
    base64Char (a.toNat / 4) :: base64Char (a.toNat % 4 * 16 + b.toNat / 16)
      :: base64Char (b.toNat % 16 * 4 + c.toNat / 64) :: base64Char (c.toNat % 64)
      :: base64Encode rest

example : base64Encode (text "foobar!") = text "Zm9vYmFyIQ==" := by decide

/-! ## One character -/

/-- The alphabet and the character classes of the decoder. -/
theorem base64Value_char : ∀ value : Nat, value < 64 →
    base64Value (base64Char value) = some value.toUInt8 ∧ base64Char value ≠ 61 := by
  decide +kernel

theorem base64Value_some {character value : UInt8} (h : base64Value character = some value) :
    value.toNat < 64 ∧ base64Char value.toNat = character ∧ character ≠ 61 := by
  -- `Option.all` is evaluated at the one value; a quantifier would try all of them.
  have hall := byte_all (P := fun b => (base64Value b).all
    (fun v => v.toNat < 64 ∧ base64Char v.toNat = b ∧ b ≠ 61) = true) (by decide +kernel) character
  rw [h] at hall
  exact of_decide_eq_true hall

/-! ## Sextets -/

theorem shiftLeft_toNat (b : UInt8) {k : UInt8} (hk : k.toNat < 8) :
    (b <<< k).toNat = 2 ^ k.toNat * b.toNat % 256 := by
  rw [UInt8.toNat_shiftLeft, Nat.mod_eq_of_lt hk, Nat.shiftLeft_eq, Nat.mul_comm]

theorem shiftRight_toNat (b : UInt8) {k : UInt8} (hk : k.toNat < 8) :
    (b >>> k).toNat = b.toNat / 2 ^ k.toNat := by
  rw [UInt8.toNat_shiftRight, Nat.mod_eq_of_lt hk, Nat.shiftRight_eq_div_pow]

theorem andFour_toNat (b : UInt8) : (b &&& 0x0F).toNat = b.toNat % 16 := by
  rw [UInt8.toNat_and]
  exact Nat.and_two_pow_sub_one_eq_mod b.toNat 4

theorem andTwo_toNat (b : UInt8) : (b &&& 0x03).toNat = b.toNat % 4 := by
  rw [UInt8.toNat_and]
  exact Nat.and_two_pow_sub_one_eq_mod b.toNat 2

theorem highSextet {first second : UInt8} (h : second.toNat < 64) :
    ((first <<< 2) ||| (second >>> 4)).toNat = first.toNat % 64 * 4 + second.toNat / 16 := by
  have hleft : (first <<< 2).toNat = 2 ^ 2 * (first.toNat % 64) := by
    rw [shiftLeft_toNat first (k := 2) (by decide)]
    exact (Nat.mul_mod_mul_left 4 first.toNat 64)
  have hright : (second >>> 4).toNat = second.toNat / 16 :=
    shiftRight_toNat second (k := 4) (by decide)
  rw [UInt8.toNat_or, hleft, hright, ← Nat.two_pow_add_eq_or_of_lt (i := 2) (by omega)]
  omega

theorem middleSextets {second third : UInt8} (h : third.toNat < 64) :
    (((second &&& 0x0F) <<< 4) ||| (third >>> 2)).toNat
      = second.toNat % 16 * 16 + third.toNat / 4 := by
  have hleft : ((second &&& 0x0F) <<< 4).toNat = 2 ^ 4 * (second.toNat % 16) := by
    rw [shiftLeft_toNat _ (k := 4) (by decide), andFour_toNat]
    exact Nat.mod_eq_of_lt (by show 16 * (second.toNat % 16) < 256; omega)
  have hright : (third >>> 2).toNat = third.toNat / 4 :=
    shiftRight_toNat third (k := 2) (by decide)
  rw [UInt8.toNat_or, hleft, hright, ← Nat.two_pow_add_eq_or_of_lt (i := 4) (by omega)]
  omega

theorem lowSextet {third fourth : UInt8} (h : fourth.toNat < 64) :
    (((third &&& 0x03) <<< 6) ||| fourth).toNat = third.toNat % 4 * 64 + fourth.toNat := by
  have hleft : ((third &&& 0x03) <<< 6).toNat = 2 ^ 6 * (third.toNat % 4) := by
    rw [shiftLeft_toNat _ (k := 6) (by decide), andTwo_toNat]
    exact Nat.mod_eq_of_lt (by show 64 * (third.toNat % 4) < 256; omega)
  rw [UInt8.toNat_or, hleft, ← Nat.two_pow_add_eq_or_of_lt (i := 6) h]
  omega

theorem lowFour_zero (b : UInt8) : b &&& 0x0F = 0 ↔ b.toNat % 16 = 0 := by
  rw [← UInt8.toNat_inj, andFour_toNat]
  rfl

theorem lowTwo_zero (b : UInt8) : b &&& 0x03 = 0 ↔ b.toNat % 4 = 0 := by
  rw [← UInt8.toNat_inj, andTwo_toNat]
  rfl

/-! ## One quantum -/

variable {path : Bytes} {c0 c1 c2 c3 : UInt8} {last : Bool} {b : Bytes}

/-- The bytes of a quantum have it for their encoding. -/
theorem encode_of_decodeQuantum (h : decodeQuantum path c0 c1 c2 c3 last = .ok b) :
    base64Encode b = [c0, c1, c2, c3] ∧ (b.length = 3 ∨ last = true) := by
  unfold decodeQuantum at h
  split at h
  · next first second hfirst hsecond =>
    obtain ⟨hfirstLt, rfl, -⟩ := base64Value_some hfirst
    obtain ⟨hsecondLt, rfl, -⟩ := base64Value_some hsecond
    have ha := @highSextet first _ hsecondLt
    split at h
    · next hpad =>
      split at h
      · cases h
      · next hpadding =>
        cases h
        simp only [not_or, ne_eq, not_not, lowFour_zero, Bool.not_eq_false] at hpadding
        obtain ⟨rfl, rfl, hunused⟩ := hpadding
        refine ⟨?_, .inr rfl⟩
        rw [base64Encode, ha, hpad]
        congr 3 <;> omega
    · split at h
      · cases h
      · next third hthird =>
        obtain ⟨hthirdLt, rfl, -⟩ := base64Value_some hthird
        have hb := @middleSextets second _ hthirdLt
        split at h
        · next hpad =>
          split at h
          · cases h
          · next hpadding =>
            cases h
            simp only [not_or, ne_eq, not_not, lowTwo_zero, Bool.not_eq_false] at hpadding
            obtain ⟨rfl, hunused⟩ := hpadding
            refine ⟨?_, .inr rfl⟩
            rw [base64Encode, ha, hb, hpad]
            congr 4 <;> omega
        · split at h
          · cases h
          · next fourth hfourth =>
            cases h
            obtain ⟨hfourthLt, rfl, -⟩ := base64Value_some hfourth
            have hc := @lowSextet third _ hfourthLt
            refine ⟨?_, .inl rfl⟩
            rw [base64Encode, ha, hb, hc, base64Encode]
            congr 5 <;> omega
  · cases h

theorem toNat_sextet {n : Nat} (h : n < 64) : n.toUInt8.toNat = n := by
  rw [Nat.toUInt8_eq, UInt8.toNat_ofNat']
  omega

theorem decodeQuantum_one (a : UInt8) :
    decodeQuantum path (base64Char (a.toNat / 4)) (base64Char (a.toNat % 4 * 16)) 61 61 true
      = .ok [a] := by
  have hlt := a.toNat_lt
  have hfirst : a.toNat / 4 < 64 := by omega
  have hsecond : a.toNat % 4 * 16 < 64 := by omega
  have hunused : (a.toNat % 4 * 16).toUInt8 &&& 0x0F = 0 := by
    rw [lowFour_zero, toNat_sextet hsecond]
    omega
  unfold decodeQuantum
  rw [(base64Value_char _ hfirst).1, (base64Value_char _ hsecond).1]
  dsimp only
  rw [if_pos rfl, if_neg (by simpa only [ne_eq, not_true_eq_false, Bool.true_eq_false, false_or,
    not_not] using hunused)]
  congr 2
  rw [← UInt8.toNat_inj, highSextet (by rw [toNat_sextet hsecond]; exact hsecond),
    toNat_sextet hfirst, toNat_sextet hsecond]
  omega

theorem decodeQuantum_two (a b : UInt8) :
    decodeQuantum path (base64Char (a.toNat / 4)) (base64Char (a.toNat % 4 * 16 + b.toNat / 16))
      (base64Char (b.toNat % 16 * 4)) 61 true = .ok [a, b] := by
  have ha := a.toNat_lt
  have hb := b.toNat_lt
  have hfirst : a.toNat / 4 < 64 := by omega
  have hsecond : a.toNat % 4 * 16 + b.toNat / 16 < 64 := by omega
  have hthird : b.toNat % 16 * 4 < 64 := by omega
  have hunused : (b.toNat % 16 * 4).toUInt8 &&& 0x03 = 0 := by
    rw [lowTwo_zero, toNat_sextet hthird]
    omega
  have hhigh := @highSextet (a.toNat / 4).toUInt8 _
    (by rw [toNat_sextet hsecond]; exact hsecond)
  have hmiddle := @middleSextets (a.toNat % 4 * 16 + b.toNat / 16).toUInt8 _
    (by rw [toNat_sextet hthird]; exact hthird)
  rw [toNat_sextet hsecond] at hhigh hmiddle
  rw [toNat_sextet hfirst] at hhigh
  rw [toNat_sextet hthird] at hmiddle
  unfold decodeQuantum
  rw [(base64Value_char _ hfirst).1, (base64Value_char _ hsecond).1]
  dsimp only
  rw [if_neg (base64Value_char _ hthird).2, (base64Value_char _ hthird).1]
  dsimp only
  rw [if_pos rfl, if_neg (by simpa only [ne_eq, Bool.true_eq_false, false_or, not_not] using hunused)]
  congr 3 <;> rw [← UInt8.toNat_inj]
  · omega
  · rw [hmiddle]
    omega

theorem decodeQuantum_three (a b c : UInt8) (last : Bool) :
    decodeQuantum path (base64Char (a.toNat / 4)) (base64Char (a.toNat % 4 * 16 + b.toNat / 16))
      (base64Char (b.toNat % 16 * 4 + c.toNat / 64)) (base64Char (c.toNat % 64)) last
      = .ok [a, b, c] := by
  have ha := a.toNat_lt
  have hb := b.toNat_lt
  have hc := c.toNat_lt
  have hfirst : a.toNat / 4 < 64 := by omega
  have hsecond : a.toNat % 4 * 16 + b.toNat / 16 < 64 := by omega
  have hthird : b.toNat % 16 * 4 + c.toNat / 64 < 64 := by omega
  have hfourth : c.toNat % 64 < 64 := by omega
  have hhigh := @highSextet (a.toNat / 4).toUInt8 _
    (by rw [toNat_sextet hsecond]; exact hsecond)
  have hmiddle := @middleSextets (a.toNat % 4 * 16 + b.toNat / 16).toUInt8 _
    (by rw [toNat_sextet hthird]; exact hthird)
  have hlow := @lowSextet (b.toNat % 16 * 4 + c.toNat / 64).toUInt8 _
    (by rw [toNat_sextet hfourth]; exact hfourth)
  rw [toNat_sextet hsecond] at hhigh hmiddle
  rw [toNat_sextet hfirst] at hhigh
  rw [toNat_sextet hthird] at hmiddle hlow
  rw [toNat_sextet hfourth] at hlow
  unfold decodeQuantum
  rw [(base64Value_char _ hfirst).1, (base64Value_char _ hsecond).1]
  dsimp only
  rw [if_neg (base64Value_char _ hthird).2, (base64Value_char _ hthird).1]
  dsimp only
  rw [if_neg (base64Value_char _ hfourth).2, (base64Value_char _ hfourth).1]
  dsimp only
  congr 4 <;> rw [← UInt8.toNat_inj]
  · omega
  · omega
  · omega

/-! ## The text -/

theorem length_base64Encode (b : Bytes) : (base64Encode b).length = (b.length + 2) / 3 * 4 := by
  fun_induction base64Encode b with
  | case1 => rfl
  | case2 a => simp
  | case3 a b => simp
  | case4 a b c rest ih =>
    simp only [List.length_cons, ih]
    omega

/-- Whole quanta decode to the bytes that they encode. -/
theorem decodeQuanta_iff (t : Bytes) (ht : t.length % 4 = 0) (b : Bytes) :
    decodeQuanta path t = .ok b ↔ base64Encode b = t := by
  fun_induction decodeQuanta path t generalizing b with
  | case1 c0 c1 c2 c3 rest ih =>
    have hrest : rest.length % 4 = 0 := by
      simp only [List.length_cons] at ht
      omega
    constructor
    · intro h
      obtain ⟨bytes, hbytes, h⟩ := Decoding.except_bind_eq_ok.mp h
      obtain ⟨out, hout, h⟩ := Decoding.except_bind_eq_ok.mp h
      cases h
      obtain ⟨hquantum, hwhole⟩ := encode_of_decodeQuantum hbytes
      have hencode := (ih hrest out).mp hout
      -- a whole quantum is three bytes; a padded one ends the text
      rcases hwhole with hthree | hlast
      · obtain ⟨a, b, c, rfl⟩ := List.length_eq_three.mp hthree
        rw [base64Encode, base64Encode] at hquantum
        show base64Encode (a :: b :: c :: out) = _
        simp only [List.cons.injEq, and_true] at hquantum
        rw [base64Encode, hencode, hquantum.1, hquantum.2.1, hquantum.2.2.1, hquantum.2.2.2]
      · rw [List.isEmpty_iff] at hlast
        have hnone : out = [] := by
          have hlength := congrArg List.length hencode
          rw [length_base64Encode, hlast, List.length_nil] at hlength
          exact List.length_eq_zero_iff.mp (by omega)
        rw [hnone, List.append_nil, hquantum, hlast]
    · -- an encoding starts with the quantum of the first three bytes, or is a padded quantum
      intro h
      refine Decoding.except_bind_eq_ok.mpr ?_
      match b with
      | [] => cases h
      | [a] =>
        simp only [base64Encode, List.cons.injEq, List.nil_eq] at h
        obtain ⟨rfl, rfl, rfl, rfl, rfl⟩ := h
        exact ⟨[a], decodeQuantum_one a, rfl⟩
      | [a, b] =>
        simp only [base64Encode, List.cons.injEq, List.nil_eq] at h
        obtain ⟨rfl, rfl, rfl, rfl, rfl⟩ := h
        exact ⟨[a, b], decodeQuantum_two a b, rfl⟩
      | a :: b :: c :: out =>
        simp only [base64Encode, List.cons.injEq] at h
        obtain ⟨rfl, rfl, rfl, rfl, hout⟩ := h
        refine ⟨[a, b, c], decodeQuantum_three a b c _, ?_⟩
        exact Decoding.except_bind_eq_ok.mpr ⟨out, (ih hrest out).mpr hout, rfl⟩
  | case2 t hnot =>
    -- four divides the length, so nothing is left
    have hnil : t = [] := by
      match t with
      | [] => rfl
      | [_] => simp at ht
      | [_, _] => simp at ht
      | [_, _, _] => simp at ht
      | c0 :: c1 :: c2 :: c3 :: rest => exact (hnot c0 c1 c2 c3 rest rfl).elim
    subst hnil
    constructor
    · intro h
      cases h
      rfl
    · intro h
      have hlength := congrArg List.length h
      rw [length_base64Encode, List.length_nil] at hlength
      rw [List.length_eq_zero_iff.mp (show b.length = 0 by omega)]

/-- What is accepted is the encoding of what is returned, within the bound. -/
theorem decodeBase64_ok (t : Bytes) (maxBytes : Nat) :
    decodeBase64 t path maxBytes = .ok b
      ↔ base64Encode b = t ∧ t.length / 4 * 3 ≤ maxBytes := by
  unfold decodeBase64
  by_cases hfour : t.length % 4 = 0
  · rw [if_neg (by simpa using hfour)]
    by_cases hbound : maxBytes < t.length / 4 * 3
    · rw [if_pos hbound]
      constructor
      · intro h
        cases h
      · rintro ⟨-, h⟩
        omega
    · rw [if_neg hbound, decodeQuanta_iff t hfour]
      exact ⟨fun h => ⟨h, by omega⟩, And.left⟩
  · rw [if_pos hfour]
    constructor
    · intro h
      cases h
    · rintro ⟨rfl, -⟩
      rw [length_base64Encode] at hfour
      omega

/-- Decoding is canonical: the accepted texts are the standard encodings within the bound, each
decodes to the bytes that it encodes, and no two decode to the same bytes. -/
theorem decodeBase64_canonical (t path : Bytes) (maxBytes : Nat) :
    (∀ b, decodeBase64 t path maxBytes = .ok b
      ↔ base64Encode b = t ∧ t.length / 4 * 3 ≤ maxBytes)
    ∧ ∀ t' path' maxBytes' b, decodeBase64 t path maxBytes = .ok b →
        decodeBase64 t' path' maxBytes' = .ok b → t = t' := by
  constructor
  · intro b
    exact decodeBase64_ok t maxBytes
  · intro t' path' maxBytes' b h h'
    rw [← ((decodeBase64_ok t maxBytes).mp h).1, ← ((decodeBase64_ok t' maxBytes').mp h').1]

end RolloutFabric
