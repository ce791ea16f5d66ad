/-
What the writer writes the reader reads back: the texts of strings and numbers first, then the
values, whose lists are read item by item.
-/
import RolloutFabric.Json.Text

namespace RolloutFabric

/-! ## Values within the bounds -/

mutual

/-- The value fits with that many levels of nesting. -/
def JsonValue.fits : Nat → JsonValue → Bool
  | 0, _ => false
  | _ + 1, .string value => decide (value.length ≤ kMaxJsonStringBytes)
  | levels + 1, .array items => decide (items.length ≤ kMaxJsonElements) && itemsFit levels items
  | levels + 1, .object members =>
    decide (members.length ≤ kMaxJsonMembers) && membersFit levels members
  | _ + 1, _ => true

def itemsFit (levels : Nat) : List JsonValue → Bool
  | [] => true
  | item :: rest => item.fits levels && itemsFit levels rest

def membersFit (levels : Nat) : List (Bytes × JsonValue) → Bool
  | [] => true
  | (key, value) :: rest =>
    decide (key.length ≤ kMaxJsonStringBytes) && value.fits levels && membersFit levels rest

end

mutual

/-- No object of the value has two members of one key. -/
def JsonValue.distinct : JsonValue → Bool
  | .array items => itemsDistinct items
  | .object members => decide (members.map Prod.fst).Nodup && membersDistinct members
  | _ => true

def itemsDistinct : List JsonValue → Bool
  | [] => true
  | item :: rest => item.distinct && itemsDistinct rest

def membersDistinct : List (Bytes × JsonValue) → Bool
  | [] => true
  | (_, value) :: rest => value.distinct && membersDistinct rest

end

namespace JsonValue

variable {members : List (Bytes × JsonValue)} {key : Bytes} {value : JsonValue}

theorem itemsDistinct_concat {items : List JsonValue} (h : itemsDistinct items = true)
    (hvalue : value.distinct = true) : itemsDistinct (items ++ [value]) = true := by
  induction items with
  | nil => simp [itemsDistinct, hvalue]
  | cons item rest ih =>
    simp only [itemsDistinct, Bool.and_eq_true] at h
    simp [itemsDistinct, h.1, ih h.2]

theorem mem_keys_setMember {k : Bytes} (h : k ∈ (setMember members key value).map Prod.fst) :
    k = key ∨ k ∈ members.map Prod.fst := by
  induction members with
  | nil => simpa [setMember] using h
  | cons member rest ih =>
    obtain ⟨k', v'⟩ := member
    rw [setMember] at h
    split at h
    · exact .inr (by simpa using h)
    · rcases List.mem_cons.1 h with rfl | h
      · exact .inr (List.mem_cons_self ..)
      · exact (ih h).imp_right (List.mem_cons_of_mem _)

theorem nodup_setMember (h : (members.map Prod.fst).Nodup) :
    ((setMember members key value).map Prod.fst).Nodup := by
  induction members with
  | nil => simp [setMember]
  | cons member rest ih =>
    obtain ⟨k, v⟩ := member
    obtain ⟨hnew, hrest⟩ := List.nodup_cons.1 h
    rw [setMember]
    split
    · exact h
    · next hne =>
      refine List.nodup_cons.2 ⟨fun hk => ?_, ih hrest⟩
      exact (mem_keys_setMember hk).elim hne hnew

theorem membersDistinct_setMember (h : membersDistinct members = true)
    (hvalue : value.distinct = true) : membersDistinct (setMember members key value) = true := by
  induction members with
  | nil => simp [setMember, membersDistinct, hvalue]
  | cons member rest ih =>
    obtain ⟨k, v⟩ := member
    simp only [membersDistinct, Bool.and_eq_true] at h
    rw [setMember]
    split
    · simp [membersDistinct, hvalue, h.2]
    · simp [membersDistinct, h.1, ih h.2]

/-- A new key comes behind the others. -/
theorem setMember_new (h : key ∉ members.map Prod.fst) :
    setMember members key value = members ++ [(key, value)] := by
  induction members with
  | nil => rfl
  | cons member rest ih =>
    obtain ⟨k, v⟩ := member
    rw [List.map_cons, List.mem_cons, not_or] at h
    rw [setMember, if_neg (Ne.symm h.1), ih h.2, List.cons_append]

/-- A value that is built through its class has distinct keys. -/
theorem Built.distinct {v : JsonValue} (h : v.Built) : v.distinct = true := by
  induction h with
  | null | bool | number | string | array | object => rfl
  | @pushBack v value _ _ hv hvalue =>
    cases v with
    | array items => exact itemsDistinct_concat hv hvalue
    | _ => simp [JsonValue.pushBack, JsonValue.distinct, itemsDistinct, hvalue]
  | @set v value _ key _ hv hvalue =>
    cases v with
    | object members =>
      simp only [JsonValue.distinct, Bool.and_eq_true, decide_eq_true_eq] at hv
      simp only [JsonValue.set, JsonValue.distinct, Bool.and_eq_true, decide_eq_true_eq]
      exact ⟨nodup_setMember hv.1, membersDistinct_setMember hv.2 hvalue⟩
    | _ => simp [JsonValue.set, JsonValue.distinct, membersDistinct, hvalue]

end JsonValue

/-! ## Whitespace -/

theorem skipWhitespace_of_head {rest : Bytes} (h : ∀ c ∈ rest.head?, isJsonSpace c = false) :
    skipWhitespace rest = rest := by
  cases rest with
  | nil => rfl
  | cons c rest =>
    have hc := h c rfl
    simp [skipWhitespace, hc]

theorem skipWhitespace_lineBreak (pretty : Bool) (depth : Nat) (rest : Bytes) :
    skipWhitespace (lineBreak pretty depth ++ rest) = skipWhitespace rest := by
  unfold lineBreak
  split
  · refine List.dropWhile_append_of_pos fun c hc => ?_
    rcases List.mem_cons.1 hc with rfl | hc
    · rfl
    · rw [List.eq_of_mem_replicate hc]
      rfl
  · rfl

/-! ## Strings -/

theorem hexValue_hexDigit {d : UInt8} (h : d < 16) : hexValue (hexDigit d) = some d.toNat := by
  have hlt : d.toNat < 16 := UInt8.lt_iff_toNat_lt.1 h
  have hd : d = d.toNat.toUInt8 := by simp
  rw [hd]
  generalize d.toNat = n at hlt
  interval_cases n <;> rfl

/-- The two hexadecimal digits of a byte. -/
theorem nibbles (c : UInt8) : c >>> 4 < 16 ∧ c &&& 0x0F < 16
    ∧ (c >>> 4).toNat * 16 + (c &&& 0x0F).toNat = c.toNat := by
  have hhigh : (c >>> 4).toNat = c.toNat / 16 := by
    simp [UInt8.toNat_shiftRight, Nat.shiftRight_eq_div_pow]
  have hlow : (c &&& 0x0F).toNat = c.toNat % 16 := by
    rw [UInt8.toNat_and]
    exact Nat.and_two_pow_sub_one_eq_mod c.toNat 4
  have hc := c.toNat_lt
  refine ⟨?_, ?_, by omega⟩
  · rw [UInt8.lt_iff_toNat_lt, hhigh]
    show c.toNat / 16 < 16
    omega
  · rw [UInt8.lt_iff_toNat_lt, hlow]
    show c.toNat % 16 < 16
    omega

variable {size : Nat}

/-- A control character is read back from its four digits. -/
theorem parseUnicode_control {c : UInt8} (h : c < 0x20) (rest : Bytes) :
    parseUnicode size (48 :: 48 :: hexDigit (c >>> 4) :: hexDigit (c &&& 0x0F) :: rest)
      = .ok ([c], rest) := by
  obtain ⟨hhigh, hlow, hvalue⟩ := nibbles c
  have hsmall : c.toNat < 32 := UInt8.lt_iff_toNat_lt.1 h
  have hhex : parseHex4 size (48 :: 48 :: hexDigit (c >>> 4) :: hexDigit (c &&& 0x0F) :: rest)
      = .ok (c.toNat, rest) := by
    have hzero : hexValue 48 = some 0 := rfl
    unfold parseHex4
    rw [if_neg (by simp)]
    simp only [List.take_succ_cons, List.take_zero, List.foldlM_cons, List.foldlM_nil, hzero,
      hexValue_hexDigit hhigh, hexValue_hexDigit hlow, Option.map_some, Option.bind_eq_bind,
      Option.bind_some, Nat.zero_mul, Nat.zero_add, Nat.add_zero, hvalue]
    rfl
  unfold parseUnicode
  rw [hhex]
  have hbytes : utf8Bytes c.toNat = [c] := by
    unfold utf8Bytes
    rw [if_pos (by omega)]
    simp
  show (if 0xD800 ≤ c.toNat ∧ c.toNat ≤ 0xDBFF then _ else _) = _
  rw [if_neg (by omega)]
  show (if 0xDC00 ≤ c.toNat ∧ c.toNat ≤ 0xDFFF then _ else _) = _
  rw [if_neg (by omega), hbytes]
  rfl

/-- A character is written as an escape that is read back, or as itself. -/
theorem escapeChar_spec (size : Nat) (c : UInt8) :
    (∃ input, escapeChar c = 92 :: input
      ∧ ∀ rest, parseEscape size (input ++ rest) = .ok ([c], rest))
    ∨ escapeChar c = [c] ∧ c ≠ 34 ∧ c ≠ 92 ∧ ¬ c < 0x20 := by
  unfold escapeChar
  split
  · next h => exact .inl ⟨[34], rfl, fun rest => by rw [h]; rfl⟩
  next hquote =>
  split
  · next h => exact .inl ⟨[92], rfl, fun rest => by rw [h]; rfl⟩
  next hbackslash =>
  split
  · next h => exact .inl ⟨[98], rfl, fun rest => by rw [h]; rfl⟩
  split
  · next h => exact .inl ⟨[102], rfl, fun rest => by rw [h]; rfl⟩
  split
  · next h => exact .inl ⟨[110], rfl, fun rest => by rw [h]; rfl⟩
  split
  · next h => exact .inl ⟨[114], rfl, fun rest => by rw [h]; rfl⟩
  split
  · next h => exact .inl ⟨[116], rfl, fun rest => by rw [h]; rfl⟩
  split
  · next h => exact .inl ⟨_, rfl, fun rest => parseUnicode_control h rest⟩
  · next hplain => exact .inr ⟨rfl, hquote, hbackslash, hplain⟩

/-- One iteration of the loop reads a character from its escaped form. -/
theorem parseChars_escapeChar (fuel : Nat) (out : Bytes) (c : UInt8) (rest : Bytes)
    (hout : out.length < kMaxJsonStringBytes) :
    parseChars size (fuel + 1) out (escapeChar c ++ rest)
      = parseChars size fuel (out ++ [c]) rest := by
  have hlength : ¬ kMaxJsonStringBytes < (out ++ [c]).length := by
    rw [List.length_append, List.length_singleton]
    omega
  rcases escapeChar_spec size c with ⟨input, heq, hescape⟩ | ⟨heq, hquote, hbackslash, hplain⟩
  · rw [heq]
    show (parseEscape size (input ++ rest) >>= _) = _
    rw [hescape rest]
    show (if kMaxJsonStringBytes < (out ++ [c]).length then _ else _) = _
    rw [if_neg hlength]
  · rw [heq, List.singleton_append, parseChars]
    rw [if_neg hquote, if_neg hplain, if_pos hbackslash]
    show (if kMaxJsonStringBytes < (out ++ [c]).length then _ else _) = _
    rw [if_neg hlength]

/-- The loop reads the rest of a string up to its closing quote. -/
theorem parseChars_write (t out rest : Bytes) (fuel : Nat)
    (hout : out.length + t.length ≤ kMaxJsonStringBytes) (hfuel : t.length < fuel) :
    parseChars size fuel out (t.flatMap escapeChar ++ 34 :: rest) = .ok (out ++ t, rest) := by
  induction t generalizing out fuel with
  | nil =>
    obtain ⟨fuel, rfl⟩ : ∃ k, fuel = k + 1 := ⟨fuel - 1, by omega⟩
    rw [List.append_nil]
    rfl
  | cons c t ih =>
    rw [List.length_cons] at hout hfuel
    obtain ⟨fuel, rfl⟩ : ∃ k, fuel = k + 1 := ⟨fuel - 1, by omega⟩
    rw [List.flatMap_cons, List.append_assoc, parseChars_escapeChar _ _ _ _ (by omega),
      ih (out ++ [c]) fuel (by rw [List.length_append, List.length_singleton]; omega) (by omega),
      List.append_assoc]
    rfl

theorem length_le_flatMap_escapeChar (t : Bytes) : t.length ≤ (t.flatMap escapeChar).length := by
  induction t with
  | nil => exact Nat.le_refl 0
  | cons c t ih =>
    have hpos : 0 < (escapeChar c).length := by
      rcases escapeChar_spec 0 c with ⟨input, heq, -⟩ | ⟨heq, -⟩ <;> rw [heq] <;> simp
    rw [List.flatMap_cons, List.length_append, List.length_cons]
    omega

/-- A string within the bound is read back. -/
theorem parseString_write {t : Bytes} (h : t.length ≤ kMaxJsonStringBytes) (rest : Bytes) :
    parseString size (writeString t ++ rest) = .ok (t, rest) := by
  have hlength := length_le_flatMap_escapeChar t
  have htail : (writeString t ++ rest).tail = t.flatMap escapeChar ++ 34 :: rest := by
    simp [writeString]
  unfold parseString
  rw [htail]
  refine parseChars_write t [] rest _ (by simpa using h) ?_
  simp only [writeString, List.cons_append, List.length_cons, List.length_append]
  omega

/-! ## Numbers -/

/-- What follows a value: nothing that could belong to a number. -/
def EndsNumber (rest : Bytes) : Prop :=
  ∀ c ∈ rest.head?, isDigit c = false ∧ c ≠ 46 ∧ c ≠ 101 ∧ c ≠ 69

theorem le_foldl_digits (ds : Bytes) (magnitude : Nat) :
    magnitude ≤ ds.foldl (fun value c => value * 10 + digitValue c) magnitude := by
  induction ds generalizing magnitude with
  | nil => exact Nat.le_refl _
  | cons c ds ih =>
    have := ih (magnitude * 10 + digitValue c)
    rw [List.foldl_cons]
    omega

/-- The loop reads all digits of a magnitude below 2^64. -/
theorem parseMagnitude_digits {ds rest : Bytes} (hds : ∀ c ∈ ds, isDigit c = true)
    (hrest : EndsNumber rest) (magnitude : Nat)
    (hbound : ds.foldl (fun value c => value * 10 + digitValue c) magnitude
      ≤ 0xFFFFFFFFFFFFFFFF) :
    parseMagnitude size magnitude (ds ++ rest)
      = .ok (ds.foldl (fun value c => value * 10 + digitValue c) magnitude, rest) := by
  induction ds generalizing magnitude with
  | nil =>
    rw [List.nil_append, List.foldl_nil]
    cases rest with
    | nil => rfl
    | cons c rest =>
      rw [parseMagnitude, if_neg (by simp [(hrest c rfl).1])]
  | cons c ds ih =>
    rw [List.foldl_cons] at hbound
    have hle := le_foldl_digits ds (magnitude * 10 + digitValue c)
    rw [List.cons_append, parseMagnitude, if_pos (hds c (List.mem_cons_self ..)),
      if_neg (by omega), ih (fun x hx => hds x (List.mem_cons_of_mem _ hx)) _ hbound,
      List.foldl_cons]

theorem head_fixedDigits {k n : Nat} (hn : n < 10 ^ (k + 1)) (hk : k = 0 ∨ 10 ^ k ≤ n) :
    ∃ c ds, fixedDigits (k + 1) n = c :: ds ∧ isDigit c = true ∧ (0 < k → c ≠ 48) := by
  induction k generalizing n with
  | zero => exact ⟨_, [], rfl, isDigit_digit n, fun h => absurd h (lt_irrefl 0)⟩
  | succ k ih =>
    have hle := hk.resolve_left (Nat.succ_ne_zero k)
    rw [Nat.pow_succ] at hle hn
    obtain ⟨c, ds, heq, hdigit, hzero⟩ := @ih (n / 10) (by omega) (.inr (by omega))
    refine ⟨c, ds ++ [_], by rw [fixedDigits, heq]; rfl, hdigit, fun _ => ?_⟩
    by_cases hk : 0 < k
    · exact hzero hk
    · obtain rfl : k = 0 := by omega
      have hc : c = (48 + n / 10 % 10).toUInt8 := (List.cons.inj heq).1.symm
      intro h48
      have hnat := congrArg UInt8.toNat (hc.symm.trans h48)
      rw [digit_toNat] at hnat
      have : (48 : UInt8).toNat = 48 := rfl
      simp only [Nat.pow_zero, Nat.zero_add, Nat.pow_one] at hle hn
      omega

/-- The sign and the digits of a number, as `parse_number` takes them apart. -/
theorem parseNumber_digits {n : Nat} (hn : n ≤ 9223372036854775808) {rest : Bytes}
    (hrest : EndsNumber rest) :
    parseMagnitude size 0 (toStringNat n ++ rest) = .ok (n, rest)
      ∧ (∃ c ds, toStringNat n = c :: ds ∧ isDigit c = true)
      ∧ ¬ (1 < (toStringNat n ++ rest).length - rest.length
        ∧ (toStringNat n ++ rest).head? = some 48) := by
  obtain ⟨k, hlt, hk, heq⟩ := @toStringNat_eq n (by omega)
  obtain ⟨c, ds, hhead, hdigit, hzero⟩ := head_fixedDigits hlt hk
  have hvalue : (fixedDigits (k + 1) n).foldl (fun value c => value * 10 + digitValue c) 0 = n :=
    digitsValue_fixedDigits hlt
  rw [heq]
  refine ⟨?_, ⟨c, ds, hhead, hdigit⟩, ?_⟩
  · have h := @parseMagnitude_digits size (fixedDigits (k + 1) n) rest
      (fun c hc => isDigit_of_mem_fixedDigits hc) hrest 0 (by rw [hvalue]; omega)
    rwa [hvalue] at h
  · rintro ⟨hlong, h48⟩
    rw [List.length_append, length_fixedDigits] at hlong
    rw [hhead] at h48
    exact hzero (by omega) (Option.some.inj h48)

theorem EndsNumber.any {rest : Bytes} (h : EndsNumber rest) :
    (rest.head?.any fun c => c == 46 || c == 101 || c == 69) = false := by
  cases rest with
  | nil => rfl
  | cons c rest =>
    obtain ⟨-, hdot, he, hE⟩ := h c rfl
    simp [hdot, he, hE]

theorem int64_bounds (n : Int64) : -9223372036854775808 ≤ n.toInt ∧ n.toInt ≤ 9223372036854775807 :=
  ⟨n.le_toInt, by have := n.toInt_lt; omega⟩

/-- A signed 64-bit number is read back, the least and the greatest included. -/
theorem parseNumber_write (n : Int64) {rest : Bytes} (hrest : EndsNumber rest) :
    parseNumber size (toStringInt n.toInt ++ rest) = .ok (.number n, rest) := by
  obtain ⟨hmin, hmax⟩ := int64_bounds n
  obtain ⟨hmagnitude, ⟨c, ds, hhead, hdigit⟩, hzeros⟩ :=
    @parseNumber_digits size n.toInt.natAbs (by omega) rest hrest
  unfold toStringInt
  split
  -- a sign, then digits; the least number has no positive one to negate
  · next hneg =>
    have hfirst : ((toStringNat n.toInt.natAbs ++ rest).head?.any isDigit) = true := by
      rw [hhead]
      exact hdigit
    show (if true && !((toStringNat n.toInt.natAbs ++ rest).head?.any isDigit) then _ else _) = _
    rw [hfirst]
    show (parseMagnitude size 0 (toStringNat n.toInt.natAbs ++ rest) >>= _) = _
    rw [hmagnitude]
    show (if 1 < (toStringNat n.toInt.natAbs ++ rest).length - rest.length
      ∧ (toStringNat n.toInt.natAbs ++ rest).head? = some 48 then _ else _) = _
    rw [if_neg hzeros]
    show (if rest.head?.any (fun c => c == 46 || c == 101 || c == 69) then _ else _) = _
    rw [hrest.any]
    show (if 9223372036854775808 < n.toInt.natAbs then _ else _) = _
    rw [if_neg (by omega)]
    show (if n.toInt.natAbs = 9223372036854775808 then _ else _) = _
    split
    · next hleast =>
      have hn : n = Int64.minValue := Int64.toInt_inj.1 (show n.toInt = -9223372036854775808 by omega)
      rw [hn]
      rfl
    · next hgreater =>
      have hn : -(Int64.ofNat n.toInt.natAbs) = n := by
        have habs : (n.toInt.natAbs : Int) = -n.toInt := by omega
        rw [← Int64.ofInt_eq_ofNat, habs, ← Int64.ofInt_neg, Int.neg_neg, Int64.ofInt_toInt]
      rw [hn]
      rfl
  -- no sign: the first digit is not a minus
  · next hpos =>
    have hfirst : ((toStringNat n.toInt.natAbs ++ rest).head? == some 45) = false := by
      rw [hhead]
      rw [isDigit_iff] at hdigit
      simp only [List.cons_append, List.head?_cons, beq_eq_false_iff_ne]
      intro h45
      rw [Option.some.inj h45] at hdigit
      exact absurd hdigit.1 (by decide)
    unfold parseNumber
    rw [hfirst]
    show (parseMagnitude size 0 (toStringNat n.toInt.natAbs ++ rest) >>= _) = _
    rw [hmagnitude]
    show (if 1 < (toStringNat n.toInt.natAbs ++ rest).length - rest.length
      ∧ (toStringNat n.toInt.natAbs ++ rest).head? = some 48 then _ else _) = _
    rw [if_neg hzeros]
    show (if rest.head?.any (fun c => c == 46 || c == 101 || c == 69) then _ else _) = _
    rw [hrest.any]
    show (if 9223372036854775807 < n.toInt.natAbs then _ else _) = _
    rw [if_neg (by omega)]
    have hn : Int64.ofNat n.toInt.natAbs = n := by
      have habs : (n.toInt.natAbs : Int) = n.toInt := by omega
      rw [← Int64.ofInt_eq_ofNat, habs, Int64.ofInt_toInt]
    show Except.ok (JsonValue.number (Int64.ofNat n.toInt.natAbs), rest) = _
    rw [hn]

theorem head_toStringInt (n : Int64) :
    ∃ c tail, toStringInt n.toInt = c :: tail ∧ (c = 45 ∨ isDigit c = true) := by
  obtain ⟨hmin, hmax⟩ := int64_bounds n
  obtain ⟨-, ⟨c, ds, hhead, hdigit⟩, -⟩ :=
    @parseNumber_digits 0 n.toInt.natAbs (by omega) [] (by simp [EndsNumber])
  unfold toStringInt
  split
  · exact ⟨45, _, rfl, .inl rfl⟩
  · exact ⟨c, ds, hhead, .inr hdigit⟩

/-! ## Values -/

theorem isDigit_bounds {c : UInt8} (h : c = 45 ∨ isDigit c = true) :
    45 ≤ c.toNat ∧ c.toNat ≤ 57 ∧ c.toNat ≠ 46 := by
  rcases h with rfl | h
  · decide
  · obtain ⟨hlow, hhigh⟩ := isDigit_iff.1 h
    omega

/-- A sign or a digit starts a number, and no other value. -/
theorem parseValue_number (levels : Nat) {c : UInt8} (h : c = 45 ∨ isDigit c = true)
    (rest : Bytes) : parseValue size (levels + 1) (c :: rest) = parseNumber size (c :: rest) := by
  obtain ⟨hlow, hhigh, hdot⟩ := isDigit_bounds h
  have hne : ∀ d : UInt8, d.toNat < 45 ∨ 57 < d.toNat ∨ d.toNat = 46 → c ≠ d := by
    rintro d hd rfl
    omega
  have hstart : c ≠ 123 ∧ c ≠ 91 ∧ c ≠ 34 ∧ c ≠ 116 ∧ c ≠ 102 ∧ c ≠ 110 ∧ c ≠ 78 ∧ c ≠ 73 ∧ c ≠ 43
      ∧ c ≠ 46 := by
    refine ⟨?_, ?_, ?_, ?_, ?_, ?_, ?_, ?_, ?_, ?_⟩ <;> exact hne _ (by decide)
  simp only [parseValue, hstart, if_false, if_pos h]

/-- A value starts with a character that is neither whitespace nor a closing bracket. -/
theorem head_writeValue (pretty : Bool) (depth : Nat) (v : JsonValue) :
    ∃ c tail, writeValue pretty depth v = c :: tail ∧ isJsonSpace c = false ∧ c ≠ 93 := by
  cases v with
  | null => exact ⟨_, _, rfl, rfl, by decide⟩
  | bool value => cases value <;> exact ⟨_, _, rfl, rfl, by decide⟩
  | number value =>
    obtain ⟨c, tail, heq, hc⟩ := head_toStringInt value
    obtain ⟨hlow, hhigh, -⟩ := isDigit_bounds hc
    have hne : ∀ d : UInt8, d.toNat < 45 ∨ 57 < d.toNat → c ≠ d := by
      rintro d hd rfl
      omega
    refine ⟨c, tail, heq, ?_, hne _ (by decide)⟩
    unfold isJsonSpace
    simp only [Bool.or_eq_false_iff, beq_eq_false_iff_ne]
    exact ⟨⟨⟨hne _ (by decide), hne _ (by decide)⟩, hne _ (by decide)⟩, hne _ (by decide)⟩
  | string value => exact ⟨34, _, rfl, rfl, by decide⟩
  | array items => cases items <;> exact ⟨91, _, rfl, rfl, by decide⟩
  | object members => cases members <;> exact ⟨123, _, rfl, rfl, by decide⟩

theorem skipWhitespace_writeValue (pretty : Bool) (depth : Nat) (v : JsonValue) (rest : Bytes) :
    skipWhitespace (writeValue pretty depth v ++ rest) = writeValue pretty depth v ++ rest := by
  obtain ⟨c, tail, heq, hc, -⟩ := head_writeValue pretty depth v
  rw [heq]
  exact skipWhitespace_of_head (by simpa using hc)

theorem parseLiteral_write (literal : Bytes) (value : JsonValue) (rest : Bytes) :
    parseLiteral size literal value (literal ++ rest) = .ok (value, rest) := by
  unfold parseLiteral
  rw [if_neg (by simp), List.drop_left]

/-- What comes behind an item: another one, or the end of its container. -/
theorem endsNumber_break (pretty : Bool) (depth : Nat) {c : UInt8} (hc : c = 93 ∨ c = 125)
    (rest : Bytes) : EndsNumber (lineBreak pretty depth ++ c :: rest) := by
  unfold EndsNumber lineBreak
  cases pretty with
  | true =>
    intro x hx
    obtain rfl : (10 : UInt8) = x := by simpa using hx
    decide
  | false =>
    intro x hx
    obtain rfl : c = x := by simpa using hx
    rcases hc with rfl | rfl <;> decide

theorem endsNumber_comma (rest : Bytes) : EndsNumber (44 :: rest) := by
  intro x hx
  obtain rfl : (44 : UInt8) = x := by simpa using hx
  decide

theorem parseKey_write {members : List (Bytes × JsonValue)} {key : Bytes}
    (hkey : key.length ≤ kMaxJsonStringBytes) (hnew : key ∉ members.map Prod.fst) (pretty : Bool)
    (depth : Nat) (rest : Bytes) :
    parseKey size members (lineBreak pretty depth ++ (writeString key ++ 58 :: rest))
      = .ok (key, rest) := by
  have hskip : skipWhitespace (lineBreak pretty depth ++ (writeString key ++ 58 :: rest))
      = writeString key ++ 58 :: rest := by
    rw [skipWhitespace_lineBreak]
    exact skipWhitespace_of_head (by simp [writeString, isJsonSpace])
  have hany : (members.any fun member => member.1 == key) = false := by
    rw [List.any_eq_false]
    intro member hmember heq
    exact hnew (beq_iff_eq.1 heq ▸ List.mem_map_of_mem hmember)
  unfold parseKey
  rw [hskip]
  show (parseString size (writeString key ++ 58 :: rest) >>= _) = _
  rw [parseString_write hkey]
  have hcolon : skipWhitespace (58 :: rest) = 58 :: rest :=
    skipWhitespace_of_head (by simp [isJsonSpace])
  simp [Bind.bind, Except.bind, hcolon, hany, Pure.pure, Except.pure]

/-! ## Items and members -/

section
variable {parseNested : Bytes → Result (JsonValue × Bytes)} {room : Nat}

theorem skipWhitespace_idem (rest : Bytes) :
    skipWhitespace (skipWhitespace rest) = skipWhitespace rest :=
  List.dropWhile_idempotent isJsonSpace rest

/-- What is no closing bracket starts the first item. -/
theorem parseArray_items {rest : Bytes} (h : (skipWhitespace rest).head? ≠ some 93) :
    parseArray size parseNested rest = parseElements size parseNested kMaxJsonElements [] rest := by
  have hskip : parseElements size parseNested kMaxJsonElements [] (skipWhitespace rest)
      = parseElements size parseNested kMaxJsonElements [] rest := by
    show parseElements size parseNested (65535 + 1) [] _
      = parseElements size parseNested (65535 + 1) [] _
    rw [parseElements, parseElements, skipWhitespace_idem]
  rw [← hskip]
  unfold parseArray
  split
  · next heq => exact absurd (by rw [heq]; rfl) h
  · rfl

/-- What is no closing brace starts the first member. -/
theorem parseObject_members {rest : Bytes} (h : (skipWhitespace rest).head? ≠ some 125) :
    parseObject size parseNested rest = parseMembers size parseNested kMaxJsonMembers [] rest := by
  have hskip : parseMembers size parseNested kMaxJsonMembers [] (skipWhitespace rest)
      = parseMembers size parseNested kMaxJsonMembers [] rest := by
    show parseMembers size parseNested (4095 + 1) [] _ = parseMembers size parseNested (4095 + 1) [] _
    rw [parseMembers, parseMembers, parseKey, parseKey, skipWhitespace_idem]
  rw [← hskip]
  unfold parseObject
  split
  · next heq => exact absurd (by rw [heq]; rfl) h
  · rfl

variable {pretty : Bool} {depth : Nat} {rest : Bytes}

/-- An item with a comma behind it leads to the next one. -/
theorem parseElements_more {item : JsonValue} {done : List JsonValue}
    (h : parseNested (writeValue pretty depth item ++ 44 :: rest) = .ok (item, 44 :: rest)) :
    parseElements size parseNested (room + 1) done
        (lineBreak pretty depth ++ (writeValue pretty depth item ++ 44 :: rest))
      = parseElements size parseNested room (done ++ [item]) rest := by
  rw [parseElements, skipWhitespace_lineBreak, skipWhitespace_writeValue, h]
  have hcomma : skipWhitespace (44 :: rest) = 44 :: rest :=
    skipWhitespace_of_head (by simp [isJsonSpace])
  simp only [Bind.bind, Except.bind, hcomma]

/-- The last item has the bracket behind it. -/
theorem parseElements_last {item : JsonValue} {done : List JsonValue} {outer : Nat}
    (h : parseNested (writeValue pretty depth item ++ (lineBreak pretty outer ++ 93 :: rest))
      = .ok (item, lineBreak pretty outer ++ 93 :: rest)) :
    parseElements size parseNested (room + 1) done (lineBreak pretty depth
        ++ (writeValue pretty depth item ++ (lineBreak pretty outer ++ 93 :: rest)))
      = .ok (.array (done ++ [item]), rest) := by
  rw [parseElements, skipWhitespace_lineBreak, skipWhitespace_writeValue, h]
  have hbracket : skipWhitespace (93 :: rest) = 93 :: rest :=
    skipWhitespace_of_head (by simp [isJsonSpace])
  simp only [Bind.bind, Except.bind, skipWhitespace_lineBreak, hbracket]
  rfl

/-- The blank between a key's colon and its value, in the pretty layout. -/
theorem skipWhitespace_blank (value : JsonValue) :
    skipWhitespace ((if pretty then [32] else []) ++ (writeValue pretty depth value ++ rest))
      = writeValue pretty depth value ++ rest := by
  rw [← skipWhitespace_writeValue pretty depth value rest]
  split
  · rw [List.singleton_append, skipWhitespace, List.dropWhile_cons_of_pos (by decide)]
    exact skipWhitespace_idem _
  · exact skipWhitespace_idem _

/-- One member, as far as its comma or its brace. -/
def memberText (pretty : Bool) (depth : Nat) (member : Bytes × JsonValue) (rest : Bytes) : Bytes :=
  lineBreak pretty depth ++ (writeString member.1 ++ 58 ::
    ((if pretty then [32] else []) ++ (writeValue pretty depth member.2 ++ rest)))

variable {done : List (Bytes × JsonValue)} {key : Bytes} {value : JsonValue}

theorem parseMembers_more (hkey : key.length ≤ kMaxJsonStringBytes)
    (hnew : key ∉ done.map Prod.fst)
    (h : parseNested (writeValue pretty depth value ++ 44 :: rest) = .ok (value, 44 :: rest)) :
    parseMembers size parseNested (room + 1) done
        (memberText pretty depth (key, value) (44 :: rest))
      = parseMembers size parseNested room (done ++ [(key, value)]) rest := by
  rw [memberText, parseMembers, parseKey_write hkey hnew]
  have hcomma : skipWhitespace (44 :: rest) = 44 :: rest :=
    skipWhitespace_of_head (by simp [isJsonSpace])
  simp only [Bind.bind, Except.bind, skipWhitespace_blank, h, hcomma, JsonValue.setMember_new hnew]

theorem parseMembers_last {outer : Nat} (hkey : key.length ≤ kMaxJsonStringBytes)
    (hnew : key ∉ done.map Prod.fst)
    (h : parseNested (writeValue pretty depth value ++ (lineBreak pretty outer ++ 125 :: rest))
      = .ok (value, lineBreak pretty outer ++ 125 :: rest)) :
    parseMembers size parseNested (room + 1) done
        (memberText pretty depth (key, value) (lineBreak pretty outer ++ 125 :: rest))
      = .ok (.object (done ++ [(key, value)]), rest) := by
  rw [memberText, parseMembers, parseKey_write hkey hnew]
  have hbrace : skipWhitespace (125 :: rest) = 125 :: rest :=
    skipWhitespace_of_head (by simp [isJsonSpace])
  simp only [Bind.bind, Except.bind, skipWhitespace_blank, h, skipWhitespace_lineBreak, hbrace,
    JsonValue.setMember_new hnew]
  rfl

theorem writeItems_last (item : JsonValue) (rest : Bytes) :
    writeItems pretty depth true [item] ++ rest
      = lineBreak pretty depth ++ (writeValue pretty depth item ++ rest) := by
  simp [writeItems]

theorem writeItems_more (item next : JsonValue) (more : List JsonValue) (rest : Bytes) :
    writeItems pretty depth true (item :: next :: more) ++ rest
      = lineBreak pretty depth ++ (writeValue pretty depth item
        ++ 44 :: (writeItems pretty depth true (next :: more) ++ rest)) := by
  simp [writeItems]

/-- An array's first item is no closing bracket. -/
theorem head_writeItems (item : JsonValue) (items : List JsonValue) :
    (skipWhitespace (writeItems pretty depth true (item :: items) ++ rest)).head? ≠ some 93 := by
  obtain ⟨c, tail, heq, -, hc⟩ := head_writeValue pretty depth item
  have hitem : writeItems pretty depth true (item :: items) ++ rest
      = lineBreak pretty depth ++ (writeValue pretty depth item
        ++ (writeItems pretty depth false items ++ rest)) := by
    simp [writeItems]
  rw [hitem, skipWhitespace_lineBreak, skipWhitespace_writeValue, heq]
  simpa using hc

/-- An object's first member is no closing brace. -/
theorem head_writeMembers (member : Bytes × JsonValue) (members : List (Bytes × JsonValue)) :
    (skipWhitespace (writeMembers pretty depth true (member :: members) ++ rest)).head?
      ≠ some 125 := by
  obtain ⟨key, value⟩ := member
  have hmember : writeMembers pretty depth true ((key, value) :: members) ++ rest
      = memberText pretty depth (key, value) (writeMembers pretty depth false members ++ rest) := by
    simp [writeMembers, memberText]
  rw [hmember, memberText, skipWhitespace_lineBreak,
    skipWhitespace_of_head (by simp [writeString, isJsonSpace])]
  simp [writeString]

theorem new_of_nodup {more : List (Bytes × JsonValue)}
    (h : ((done ++ (key, value) :: more).map Prod.fst).Nodup) : key ∉ done.map Prod.fst := by
  rw [List.map_append, List.nodup_append] at h
  exact fun hkey => h.2.2 key hkey key (List.mem_cons_self ..) rfl

theorem writeMembers_last (member : Bytes × JsonValue) (rest : Bytes) :
    writeMembers pretty depth true [member] ++ rest = memberText pretty depth member rest := by
  simp [writeMembers, memberText]

theorem writeMembers_more (member next : Bytes × JsonValue) (more : List (Bytes × JsonValue))
    (rest : Bytes) :
    writeMembers pretty depth true (member :: next :: more) ++ rest
      = memberText pretty depth member
        (44 :: (writeMembers pretty depth true (next :: more) ++ rest)) := by
  obtain ⟨key, value⟩ := member
  obtain ⟨key', value'⟩ := next
  simp [writeMembers, memberText]

end

/-! ## Values -/

mutual

/-- A value within the bounds is read back, whatever follows it that does not belong to it. -/
theorem parseValue_write (size : Nat) (pretty : Bool) : ∀ (v : JsonValue) (levels depth : Nat)
    (rest : Bytes), v.fits levels = true → v.distinct = true → EndsNumber rest →
    parseValue size levels (writeValue pretty depth v ++ rest) = .ok (v, rest)
  | v, 0, _, _, hfits, _, _ => by cases v <;> simp [JsonValue.fits] at hfits
  | .null, _ + 1, _, rest, _, _, _ => @parseLiteral_write size (text "null") .null rest
  | .bool true, _ + 1, _, rest, _, _, _ => @parseLiteral_write size (text "true") (.bool true) rest
  | .bool false, _ + 1, _, rest, _, _, _ =>
    @parseLiteral_write size (text "false") (.bool false) rest
  | .number value, levels + 1, depth, rest, _, _, hrest => by
    obtain ⟨c, tail, heq, hc⟩ := head_toStringInt value
    have hread := @parseNumber_write size value rest hrest
    rw [heq, List.cons_append] at hread
    rw [writeValue, heq, List.cons_append, parseValue_number levels hc, hread]
  | .string value, levels + 1, depth, rest, hfits, _, _ => by
    have hlength : value.length ≤ kMaxJsonStringBytes := by simpa [JsonValue.fits] using hfits
    show (parseString size (writeString value ++ rest)).map _ = _
    rw [parseString_write hlength]
    rfl
  | .array [], _ + 1, _, _, _, _, _ => rfl
  | .array (item :: items), levels + 1, depth, rest, hfits, hdistinct, _ => by
    simp only [JsonValue.fits, Bool.and_eq_true, decide_eq_true_eq] at hfits
    have hitems := parseElements_write size pretty (item :: items) levels depth kMaxJsonElements []
      rest (List.cons_ne_nil _ _) hfits.1 hfits.2 hdistinct
    have hopen : writeValue pretty depth (.array (item :: items)) ++ rest
        = 91 :: (writeItems pretty (depth + 1) true (item :: items)
          ++ (lineBreak pretty depth ++ 93 :: rest)) := by
      simp [writeValue]
    rw [hopen]
    show parseArray size (parseValue size levels) _ = _
    rw [parseArray_items (head_writeItems item items), hitems, List.nil_append]
  | .object [], _ + 1, _, _, _, _, _ => rfl
  | .object (member :: members), levels + 1, depth, rest, hfits, hdistinct, _ => by
    simp only [JsonValue.fits, JsonValue.distinct, Bool.and_eq_true, decide_eq_true_eq]
      at hfits hdistinct
    have hmembers := parseMembers_write size pretty (member :: members) levels depth
      kMaxJsonMembers [] rest (List.cons_ne_nil _ _) hfits.1 hfits.2 hdistinct.1 hdistinct.2
    have hopen : writeValue pretty depth (.object (member :: members)) ++ rest
        = 123 :: (writeMembers pretty (depth + 1) true (member :: members)
          ++ (lineBreak pretty depth ++ 125 :: rest)) := by
      simp [writeValue]
    rw [hopen]
    show parseObject size (parseValue size levels) _ = _
    rw [parseObject_members (head_writeMembers member members), hmembers, List.nil_append]

theorem parseElements_write (size : Nat) (pretty : Bool) : ∀ (items : List JsonValue)
    (levels depth room : Nat) (done : List JsonValue) (rest : Bytes), items ≠ [] →
    items.length ≤ room → itemsFit levels items = true → itemsDistinct items = true →
    parseElements size (parseValue size levels) room done
        (writeItems pretty (depth + 1) true items ++ (lineBreak pretty depth ++ 93 :: rest))
      = .ok (.array (done ++ items), rest)
  | [], _, _, _, _, _, hsome, _, _, _ => absurd rfl hsome
  | _ :: _, _, _, 0, _, _, _, hroom, _, _ => absurd hroom (by simp)
  | [item], levels, depth, room + 1, done, rest, _, _, hfits, hdistinct => by
    simp only [itemsFit, itemsDistinct, Bool.and_eq_true] at hfits hdistinct
    rw [writeItems_last]
    exact parseElements_last (parseValue_write size pretty item levels (depth + 1) _ hfits.1
      hdistinct.1 (endsNumber_break pretty depth (.inl rfl) rest))
  | item :: next :: more, levels, depth, room + 1, done, rest, _, hroom, hfits, hdistinct => by
    rw [itemsFit, Bool.and_eq_true] at hfits
    rw [itemsDistinct, Bool.and_eq_true] at hdistinct
    rw [writeItems_more, parseElements_more (parseValue_write size pretty item levels (depth + 1) _
      hfits.1 hdistinct.1 (endsNumber_comma _))]
    have hmore := parseElements_write size pretty (next :: more) levels depth room (done ++ [item])
      rest (List.cons_ne_nil _ _) (Nat.le_of_succ_le_succ hroom) hfits.2 hdistinct.2
    rwa [List.append_assoc] at hmore

theorem parseMembers_write (size : Nat) (pretty : Bool) : ∀ (members : List (Bytes × JsonValue))
    (levels depth room : Nat) (done : List (Bytes × JsonValue)) (rest : Bytes), members ≠ [] →
    members.length ≤ room → membersFit levels members = true →
    ((done ++ members).map Prod.fst).Nodup → membersDistinct members = true →
    parseMembers size (parseValue size levels) room done
        (writeMembers pretty (depth + 1) true members ++ (lineBreak pretty depth ++ 125 :: rest))
      = .ok (.object (done ++ members), rest)
  | [], _, _, _, _, _, hsome, _, _, _, _ => absurd rfl hsome
  | _ :: _, _, _, 0, _, _, _, hroom, _, _, _ => absurd hroom (by simp)
  | [(key, value)], levels, depth, room + 1, done, rest, _, _, hfits, hkeys, hdistinct => by
    simp only [membersFit, membersDistinct, Bool.and_eq_true, decide_eq_true_eq] at hfits hdistinct
    rw [writeMembers_last]
    exact parseMembers_last hfits.1.1 (new_of_nodup hkeys) (parseValue_write size pretty value
      levels (depth + 1) _ hfits.1.2 hdistinct.1 (endsNumber_break pretty depth (.inr rfl) rest))
  | (key, value) :: next :: more, levels, depth, room + 1, done, rest, _, hroom, hfits, hkeys,
    hdistinct => by
    rw [membersFit, Bool.and_eq_true, Bool.and_eq_true, decide_eq_true_eq] at hfits
    rw [membersDistinct, Bool.and_eq_true] at hdistinct
    rw [writeMembers_more, parseMembers_more hfits.1.1 (new_of_nodup hkeys) (parseValue_write size
      pretty value levels (depth + 1) _ hfits.1.2 hdistinct.1 (endsNumber_comma _))]
    have hmore := parseMembers_write size pretty (next :: more) levels depth room
      (done ++ [(key, value)]) rest (List.cons_ne_nil _ _) (Nat.le_of_succ_le_succ hroom) hfits.2
      (by rwa [List.append_assoc]) hdistinct.2
    rwa [List.append_assoc] at hmore

end

/-- A document that the writer wrote is read back as the value it was written from. -/
theorem parseJson_toJson {v : JsonValue} {pretty : Bool} {limits : RuntimeLimits} (h : v.Built)
    (hfits : v.fits (kMaxJsonDepth + 1) = true)
    (hsize : (toJson v pretty).length ≤ limits.maxDocumentBytes.toNat) :
    parseJson (toJson v pretty) limits = .ok v := by
  have hskip : skipWhitespace (toJson v pretty) = toJson v pretty := by
    simpa [toJson] using skipWhitespace_writeValue pretty 0 v []
  have hread := parseValue_write (toJson v pretty).length pretty v _ 0 [] hfits h.distinct
    (by simp [EndsNumber])
  rw [List.append_nil] at hread
  unfold parseJson
  rw [if_neg (by omega), hskip]
  show (parseValue (toJson v pretty).length (kMaxJsonDepth + 1) (writeValue pretty 0 v) >>= _) = _
  rw [hread]
  rfl

/-- An object with a control character in a key, the least number and an empty array inside. -/
theorem parseJson_toJson_nested :
    parseJson (toJson (.object [([7], .array [.number Int64.minValue, .array []])]) true) {}
      = .ok (.object [([7], .array [.number Int64.minValue, .array []])]) :=
  parseJson_toJson
    (.set .object [7] (.pushBack (.pushBack .array (.number Int64.minValue)) .array))
    (by decide) (by decide +kernel)

end RolloutFabric
