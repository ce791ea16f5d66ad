/-
The readers of the byte codec accept one encoding of a value: on anything else they fail.
-/
import RolloutFabric.Lib.Exact
import RolloutFabric.Codec.Laws

namespace RolloutFabric

open Decoding

variable {α β : Type}

/-! ## Checks -/

theorem toResult_eq_ok {s : Status} {u : Unit} : s.toResult = .ok u ↔ s.isOk = true := by
  unfold Status.toResult
  split <;> simp_all

theorem failIf_isOk {failed : Bool} {code : StatusCode} {message : Bytes} (hcode : code ≠ .ok) :
    (failIf failed (makeStatus code message)).isOk = true ↔ failed = false := by
  cases failed <;> simp [failIf, hcode]

/-! ## Raw bytes -/

theorem take_exact (n : Nat) : Exact (ByteReader.take n) (fun bs => bs) (fun bs => bs.length = n) := by
  intro input a rest
  show _ ↔ a.length = n ∧ input = a ++ rest
  unfold ByteReader.take
  constructor
  · intro h
    split at h
    · cases h
    · obtain ⟨rfl, rfl⟩ := Prod.mk.inj (Except.ok.inj h)
      exact ⟨by rw [List.length_take]; omega, (List.take_append_drop n input).symm⟩
  · rintro ⟨rfl, rfl⟩
    rw [if_neg (by rw [List.length_append]; omega)]
    simp

/-- A value of `n` bytes, read through a function its encoding inverts. -/
theorem word_exact {n : Nat} {read : Bytes → α} {enc : α → Bytes} (hread : ∀ a, read (enc a) = a)
    (hlen : ∀ a, (enc a).length = n) (henc : ∀ bs, bs.length = n → enc (read bs) = bs) :
    Exact (ByteReader.take n >>= fun bs => pure (read bs)) enc (fun _ => True) :=
  ((take_exact n).map enc hread henc).congr fun a => by simp [hlen a]

/-- A field's failure is reported under its name; what it accepts does not change. -/
theorem field_exact (field : Bytes) {d : Decoder α} {enc : α → Bytes} {P : α → Prop}
    (h : Exact d enc P) : Exact (dcField field d) enc P := by
  intro bs a rest
  rw [← h bs a rest]
  unfold dcField
  cases d bs <;> simp

theorem require_eq_ok {c : Bool} {s : Status} {bs rest : Bytes} {u : Unit} :
    ByteReader.require c s bs = .ok (u, rest) ↔ c = true ∧ rest = bs := by
  cases c
  · simp [ByteReader.require, ByteReader.fail]
  · simp [ByteReader.require, pure, StateT.pure, Except.pure, eq_comm]

/-- A check in the middle of a record. -/
theorem require_guard {C D : β → Prop} {k : Decoder β} {enc : β → Bytes} {R : β → Prop} {c : Bool}
    {s : Status} (hc : ∀ b, C b → (c = true ↔ D b)) (hk : Exact k enc (fun b => C b ∧ R b)) :
    Exact (ByteReader.require c s >>= fun _ => k) enc (fun b => C b ∧ D b ∧ R b) := by
  refine Exact.guard (fun bs b hb => ?_) (fun bs rest h => (require_eq_ok.1 h).2) hk
  rw [← hc b hb, require_eq_ok]
  simp

/-! ## Integers -/

theorem u8_exact : Exact ByteReader.u8 ByteWriter.u8 (fun _ => True) :=
  word_exact (fun _ => rfl) (fun _ => rfl) fun bs h => by
    obtain ⟨a, rfl⟩ := List.length_eq_one_iff.1 h
    rfl

/-- A byte of a word that was read is the byte that was read. -/
theorem UInt8.eq_of_bits {a b : UInt8} (h : ∀ i, i < 8 → a.toBitVec.getLsbD i = b.toBitVec.getLsbD i) :
    a = b := by
  apply UInt8.toBitVec_inj.1
  ext i hi
  simpa [BitVec.getLsbD_eq_getElem hi] using h i hi

theorem u16_load (a b : UInt8) : ByteWriter.u16 (a.toUInt16 ||| (b.toUInt16 <<< 8)) = [a, b] := by
  simp only [ByteWriter.u16, List.cons.injEq, and_true]
  constructor <;> refine UInt8.eq_of_bits fun i hi => ?_
  · simp
  · simp; grind

theorem u32_load32 (a b c d : UInt8) :
    ByteWriter.u32 (ByteReader.load32 [a, b, c, d]) = [a, b, c, d] := by
  simp only [ByteWriter.u32, ByteReader.load32, List.getD_cons_zero, List.getD_cons_succ,
    List.cons.injEq, and_true]
  refine ⟨?_, ?_, ?_, ?_⟩ <;> refine UInt8.eq_of_bits fun i hi => ?_
  · simp
  all_goals simp; grind

theorem u64_load64 (a b c d e f g h : UInt8) :
    ByteWriter.u64 (ByteReader.load64 [a, b, c, d, e, f, g, h]) = [a, b, c, d, e, f, g, h] := by
  simp only [ByteWriter.u64, ByteReader.load64, List.getD_cons_zero, List.getD_cons_succ,
    List.cons.injEq, and_true]
  refine ⟨?_, ?_, ?_, ?_, ?_, ?_, ?_, ?_⟩ <;> refine UInt8.eq_of_bits fun i hi => ?_
  · simp
  all_goals simp; grind

theorem u16_exact : Exact ByteReader.u16 ByteWriter.u16 (fun _ => True) := by
  refine word_exact (fun v => ?_) (fun _ => rfl) fun bs h => ?_
  · apply UInt16.toBitVec_inj.1
    simp [ByteWriter.u16, -UInt16.toUInt16_toUInt8]
    ext i hi
    simp
    grind
  · obtain ⟨a, b, rfl⟩ := List.length_eq_two.1 h
    exact u16_load a b

theorem u32_exact : Exact ByteReader.u32 ByteWriter.u32 (fun _ => True) :=
  word_exact load32_u32 (fun _ => rfl) fun bs h => by
    match bs, h with
    | [a, b, c, d], _ => exact u32_load32 a b c d

theorem u64_exact : Exact ByteReader.u64 ByteWriter.u64 (fun _ => True) :=
  word_exact load64_u64 (fun _ => rfl) fun bs h => by
    match bs, h with
    | [a, b, c, d, e, f, g, h'], _ => exact u64_load64 a b c d e f g h'

theorem i64_exact : Exact ByteReader.i64 ByteWriter.i64 (fun _ => True) :=
  u64_exact.map Int64.toUInt64 (by simp) (by simp)

theorem boolean_exact : Exact ByteReader.boolean ByteWriter.boolean (fun _ => True) := by
  intro bs v rest
  unfold ByteReader.boolean
  rw [bind_eq_ok]
  constructor
  · rintro ⟨byte, mid, hbyte, hrest⟩
    obtain ⟨-, rfl⟩ := u8_exact.canonical hbyte
    obtain ⟨u, mid', hcheck, hpure⟩ := bind_eq_ok.1 hrest
    obtain ⟨rfl, rfl⟩ := Prod.mk.inj (Except.ok.inj hpure)
    obtain ⟨hle, rfl⟩ := require_eq_ok.1 hcheck
    have hcases : byte = 0 ∨ byte = 1 := by
      have hnat : byte.toNat ≤ 1 := UInt8.le_iff_toNat_le.1 (of_decide_eq_true hle)
      rcases Nat.le_one_iff_eq_zero_or_eq_one.1 hnat with h | h
      · exact .inl (UInt8.toNat_inj.1 h)
      · exact .inr (UInt8.toNat_inj.1 h)
    rcases hcases with rfl | rfl <;> exact ⟨trivial, rfl⟩
  · rintro ⟨-, rfl⟩
    cases v
    · exact ⟨0, rest, rfl, rfl⟩
    · exact ⟨1, rest, rfl, rfl⟩

/-! ## Fixed-size fields -/

theorem id_exact {tag : IdTag} : Exact (ByteReader.id tag) ByteWriter.id (fun _ => True) :=
  word_exact (fun v => by cases v; simp [FixedBytes.ofBytes_data, ByteWriter.id])
    (fun v => v.bytes.size_eq) fun _ h => FixedBytes.ofBytes_of_length h

theorem digest_exact : Exact ByteReader.digest ByteWriter.digest (fun _ => True) :=
  word_exact (fun v => by simp [FixedBytes.ofBytes_data, ByteWriter.digest])
    (fun v => v.size_eq) fun _ h => FixedBytes.ofBytes_of_length h

/-! ## Strings and vectors -/

/-- A count is exact below this bound. -/
theorem count_toNat {n bound : Nat} (hbound : bound < 2 ^ 32) (hn : n ≤ bound) :
    n.toUInt32.toNat = n := by
  simp only [Nat.toUInt32_eq, UInt32.toNat_ofNat']
  exact Nat.mod_eq_of_lt (by omega)

/-- A count within its bound, and as much as it says. -/
theorem counted_exact {counter : Decoder UInt32} {tooMany : UInt32 → Status} {maxCount : Nat}
    {d : Nat → Decoder α} {enc : α → Bytes} {size : α → Nat} {P : α → Prop}
    (hbound : maxCount < 2 ^ 32) (hcounter : Exact counter ByteWriter.u32 (fun _ => True))
    (hd : ∀ n, Exact (d n) enc (fun a => size a = n ∧ P a)) :
    Exact (do
        let count ← counter
        ByteReader.require (count.toNat ≤ maxCount) (tooMany count)
        d count.toNat) (fun a => ByteWriter.count (size a) ++ enc a)
      (fun a => size a ≤ maxCount ∧ P a) := by
  intro bs a rest
  show _ ↔ (size a ≤ maxCount ∧ P a) ∧ bs = ByteWriter.count (size a) ++ enc a ++ rest
  rw [bind_eq_ok]
  constructor
  · rintro ⟨count, mid, hcount, htail⟩
    obtain ⟨-, rfl⟩ := hcounter.canonical hcount
    obtain ⟨u, mid', hcheck, hrest⟩ := bind_eq_ok.1 htail
    obtain ⟨hle, rfl⟩ := require_eq_ok.1 hcheck
    obtain ⟨⟨hsize, hp⟩, rfl⟩ := (hd _).canonical hrest
    rw [hsize]
    refine ⟨⟨of_decide_eq_true hle, hp⟩, ?_⟩
    simp [ByteWriter.count]
  · rintro ⟨⟨hle, hp⟩, rfl⟩
    have hsize := count_toNat hbound hle
    refine ⟨(size a).toUInt32, enc a ++ rest, ?_, bind_eq_ok.2 ⟨(), enc a ++ rest, ?_, ?_⟩⟩
    · rw [List.append_assoc]
      exact hcounter.decode trivial _
    · exact require_eq_ok.2 ⟨by simpa [hsize] using hle, rfl⟩
    · exact (hd _).decode ⟨hsize.symm, hp⟩ rest

theorem bytes_exact {maxLength : Nat} (hbound : maxLength < 2 ^ 32) :
    Exact (ByteReader.bytes maxLength) ByteWriter.bytes (fun t => t.length ≤ maxLength) :=
  have hcounted : Exact (ByteReader.bytes maxLength) ByteWriter.bytes
      (fun t => t.length ≤ maxLength ∧ True) :=
    counted_exact hbound u32_exact fun n => (take_exact n).congr fun _ => (Iff.of_eq (and_true _)).symm
  hcounted.congr fun _ => Iff.of_eq (and_true _)

theorem string_exact {maxLength : Nat} (hbound : maxLength < 2 ^ 32) :
    Exact (ByteReader.string maxLength) ByteWriter.string
      (fun t => t.length ≤ maxLength ∧ isValidUtf8 t = true) := by
  intro bs t rest
  unfold ByteReader.string
  rw [bind_eq_ok]
  constructor
  · rintro ⟨slice, mid, hslice, htail⟩
    obtain ⟨u, mid', hcheck, hpure⟩ := bind_eq_ok.1 htail
    obtain ⟨rfl, rfl⟩ := Prod.mk.inj (Except.ok.inj hpure)
    obtain ⟨hvalid, rfl⟩ := require_eq_ok.1 hcheck
    obtain ⟨hle, rfl⟩ := (bytes_exact hbound).canonical hslice
    exact ⟨⟨hle, hvalid⟩, rfl⟩
  · rintro ⟨⟨hle, hvalid⟩, rfl⟩
    exact ⟨t, rest, (bytes_exact hbound).decode hle rest,
      bind_eq_ok.2 ⟨(), rest, require_eq_ok.2 ⟨hvalid, rfl⟩, rfl⟩⟩

theorem vector_exact {counter : Decoder UInt32} {tooMany : UInt32 → Status} {maxCount : Nat}
    {element : Decoder α} {enc : α → Bytes} {P : α → Prop} (hbound : maxCount < 2 ^ 32)
    (hcounter : Exact counter ByteWriter.u32 (fun _ => True)) (helement : Exact element enc P) :
    Exact (do
        let count ← counter
        ByteReader.require (count.toNat ≤ maxCount) (tooMany count)
        readN count.toNat element) (ByteWriter.vector enc)
      (fun xs => xs.length ≤ maxCount ∧ ∀ x ∈ xs, P x) :=
  counted_exact hbound hcounter fun n => helement.repeatN n

/-! ## Named fields -/

section
variable (field : Bytes)

theorem dcU8_exact : Exact (dcU8 field) ByteWriter.u8 (fun _ => True) := field_exact field u8_exact
theorem dcU32_exact : Exact (dcU32 field) ByteWriter.u32 (fun _ => True) :=
  field_exact field u32_exact
theorem dcU64_exact : Exact (dcU64 field) ByteWriter.u64 (fun _ => True) :=
  field_exact field u64_exact
theorem dcI64_exact : Exact (dcI64 field) ByteWriter.i64 (fun _ => True) :=
  field_exact field i64_exact
theorem dcBool_exact : Exact (dcBool field) ByteWriter.boolean (fun _ => True) :=
  field_exact field boolean_exact
theorem dcId_exact {tag : IdTag} : Exact (dcId tag field) ByteWriter.id (fun _ => True) :=
  field_exact field id_exact
theorem dcDigest_exact : Exact (dcDigest field) ByteWriter.digest (fun _ => True) :=
  field_exact field digest_exact
theorem dcTimestamp_exact : Exact (dcTimestamp field) ByteWriter.timestamp (fun _ => True) :=
  (dcI64_exact field).map Timestamp.nanos (fun _ => rfl) fun _ _ => rfl
theorem dcDuration_exact : Exact (dcDuration field) ByteWriter.duration (fun _ => True) :=
  (dcI64_exact field).map Duration.nanos (fun _ => rfl) fun _ _ => rfl

theorem dcString_exact (bound : UInt32) : Exact (dcString field bound.toNat) ByteWriter.string
    (fun t => t.length ≤ bound.toNat ∧ isValidUtf8 t = true) :=
  field_exact field (string_exact bound.toNat_lt)

theorem dcBytes_exact (bound : UInt32) : Exact (dcBytes field bound.toNat) ByteWriter.bytes
    (fun t => t.length ≤ bound.toNat) :=
  field_exact field (bytes_exact bound.toNat_lt)

theorem dcVector_exact {tooMany : Nat → Status} {element : Decoder α} {enc : α → Bytes}
    {P : α → Prop} (bound : UInt32) (helement : Exact element enc P) :
    Exact (dcVector field bound.toNat tooMany element) (ByteWriter.vector enc)
      (fun xs => xs.length ≤ bound.toNat ∧ ∀ x ∈ xs, P x) :=
  vector_exact bound.toNat_lt (dcU32_exact field) helement

end

/-! ## Enumerations -/

/-- Only the code of an enumerator names it. -/
class ByteCoded.Canonical (α : Type) [ByteCoded α] : Prop where
  code_of_ofCode? : ∀ (c : UInt8) (a : α), ByteCoded.ofCode? c = some a → ByteCoded.code a = c

theorem dcEnum_exact [ByteCoded α] [ByteCoded.Canonical α] (field : Bytes)
    (unknown : UInt8 → Status) : Exact (dcEnum (dcU8 field) unknown)
      (fun a : α => ByteWriter.u8 (ByteCoded.code a)) (fun _ => True) := by
  intro bs a rest
  unfold dcEnum
  rw [bind_eq_ok]
  constructor
  · rintro ⟨c, mid, hc, hof⟩
    obtain ⟨-, rfl⟩ := (dcU8_exact field).canonical hc
    cases hcode : (ByteCoded.ofCode? c : Option α) with
    | none =>
      rw [hcode] at hof
      cases hof
    | some a' =>
      rw [hcode] at hof
      obtain ⟨rfl, rfl⟩ := Prod.mk.inj (Except.ok.inj hof)
      obtain rfl := ByteCoded.Canonical.code_of_ofCode? c a' hcode
      exact ⟨trivial, rfl⟩
  · rintro ⟨-, rfl⟩
    refine ⟨ByteCoded.code a, rest, (dcU8_exact field).decode trivial rest, ?_⟩
    rw [ByteCoded.ofCode?_code]
    rfl

end RolloutFabric
