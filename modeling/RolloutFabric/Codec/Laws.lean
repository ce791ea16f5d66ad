/-
The laws of the byte codec: every reader undoes its writer, and fails exactly when the check
it makes does. They are stated below the size at which a 32-bit length prefix is exact.
-/
import RolloutFabric.Codec.Wire

namespace RolloutFabric

open Decoding

/-- A length prefix is exact on anything shorter than this. -/
def kLengthBound : Nat := 2 ^ 32

/-- What a decoder of the runtime does on an encoding. -/
abbrev Reads {α : Type} (d : Decoder α) (bs : Bytes) (P : Prop) (a : α) : Prop :=
  Decodes kLengthBound d bs P a

variable {α β γ : Type}

/-! ## Raw bytes -/

theorem take_reads (bs : Bytes) : Reads (ByteReader.take bs.length) bs True bs := by
  intro _ rest
  refine ⟨fun _ => ?_, fun h => absurd trivial h⟩
  simp [ByteReader.take]

theorem take_reads_of_length {bs : Bytes} {n : Nat} (h : bs.length = n) :
    Reads (ByteReader.take n) bs True bs := h ▸ take_reads bs

theorem require_reads (c : Bool) (s : Status) : Reads (ByteReader.require c s) [] (c = true) () := by
  intro _ rest
  cases c
  · exact ⟨fun h => by simp at h, fun _ => ⟨s, rfl⟩⟩
  · exact ⟨fun _ => rfl, fun h => absurd rfl h⟩

/-- A decoder followed by a function, on an encoding. -/
theorem reads_map {d : Decoder α} {bs : Bytes} {P : Prop} {a : α} {b : β} {f : α → β}
    (h : Reads d bs P a) (hf : f a = b) : Reads (d >>= fun x => pure (f x)) bs P b :=
  hf ▸ h.map f

/-- A field's failure is reported under its name; what it accepts does not change. -/
theorem field_reads (field : Bytes) {d : Decoder α} {bs : Bytes} {P : Prop} {a : α}
    (h : Reads d bs P a) : Reads (dcField field d) bs P a := by
  intro hN rest
  obtain ⟨hok, herr⟩ := h hN rest
  constructor
  · intro hp
    simp [dcField, hok hp]
  · intro hp
    obtain ⟨e, he⟩ := herr hp
    simp [dcField, he]

/-! ## Integers -/

theorem load32_u32 (v : UInt32) : ByteReader.load32 (ByteWriter.u32 v) = v := by
  apply UInt32.toBitVec_inj.1
  simp [ByteReader.load32, ByteWriter.u32, -UInt32.toUInt32_toUInt8]
  ext i hi
  simp
  grind

theorem load64_u64 (v : UInt64) : ByteReader.load64 (ByteWriter.u64 v) = v := by
  apply UInt64.toBitVec_inj.1
  simp [ByteReader.load64, ByteWriter.u64, -UInt64.toUInt64_toUInt8]
  ext i hi
  simp
  grind

theorem u8_reads (v : UInt8) : Reads ByteReader.u8 (ByteWriter.u8 v) True v :=
  reads_map (take_reads_of_length rfl) rfl

theorem u16_reads (v : UInt16) : Reads ByteReader.u16 (ByteWriter.u16 v) True v :=
  reads_map (take_reads_of_length rfl) (by
    apply UInt16.toBitVec_inj.1
    simp [ByteWriter.u16, -UInt16.toUInt16_toUInt8]
    ext i hi
    simp
    grind)

theorem u32_reads (v : UInt32) : Reads ByteReader.u32 (ByteWriter.u32 v) True v :=
  reads_map (take_reads_of_length rfl) (load32_u32 v)

theorem u64_reads (v : UInt64) : Reads ByteReader.u64 (ByteWriter.u64 v) True v :=
  reads_map (take_reads_of_length rfl) (load64_u64 v)

theorem i64_reads (v : Int64) : Reads ByteReader.i64 (ByteWriter.i64 v) True v :=
  reads_map (u64_reads _) (by simp)

theorem boolean_reads (v : Bool) : Reads ByteReader.boolean (ByteWriter.boolean v) True v := by
  unfold ByteReader.boolean ByteWriter.boolean
  apply Decodes.congr
  · apply (u8_reads _).tail
    apply (require_reads _ _).guard
    have hbit : ((if v then (1 : UInt8) else 0) == 1) = v := by cases v <;> rfl
    rw [hbit]
    exact Decodes.pure v
  · cases v <;> decide

/-! ## Fixed-size fields -/

theorem id_reads {tag : IdTag} (v : StrongId tag) :
    Reads (ByteReader.id tag) (ByteWriter.id v) True v :=
  reads_map (take_reads_of_length v.bytes.size_eq) (by
    cases v; simp [FixedBytes.ofBytes_data, ByteWriter.id])

theorem digest_reads (v : Digest256) : Reads ByteReader.digest (ByteWriter.digest v) True v :=
  reads_map (take_reads_of_length v.size_eq) (by simp [FixedBytes.ofBytes_data, ByteWriter.digest])

/-- An enumerator is read back from its code. -/
theorem enum_reads [ByteCoded α] {byte : Decoder UInt8} {unknown : UInt8 → Status} (a : α)
    (h : Reads byte (ByteWriter.u8 (ByteCoded.code a)) True (ByteCoded.code a)) :
    Reads (dcEnum byte unknown) (ByteWriter.u8 (ByteCoded.code a)) True a := by
  unfold dcEnum
  apply Decodes.congr
  · apply h.tail
    rw [ByteCoded.ofCode?_code]
    exact Decodes.pure a
  · exact and_self_iff

/-! ## What fixed-size fields consume -/

theorem take_fixedSize (n : Nat) : FixedSize n (ByteReader.take n) :=
  ⟨fun bs => bs, fun bs hbs => by simp [ByteReader.take, Nat.not_lt.2 hbs]⟩

theorem fixedSize_map {n : Nat} {d : Decoder α} (f : α → β) (h : FixedSize n d) :
    FixedSize n (d >>= fun x => pure (f x)) := h.bind fun _ => FixedSize.pure _

theorem u8_fixedSize : FixedSize 1 ByteReader.u8 := fixedSize_map _ (take_fixedSize 1)
theorem u16_fixedSize : FixedSize 2 ByteReader.u16 := fixedSize_map _ (take_fixedSize 2)
theorem u32_fixedSize : FixedSize 4 ByteReader.u32 := fixedSize_map _ (take_fixedSize 4)
theorem u64_fixedSize : FixedSize 8 ByteReader.u64 := fixedSize_map _ (take_fixedSize 8)
theorem i64_fixedSize : FixedSize 8 ByteReader.i64 := fixedSize_map _ u64_fixedSize
theorem id_fixedSize (tag : IdTag) : FixedSize 16 (ByteReader.id tag) :=
  fixedSize_map _ (take_fixedSize 16)
theorem digest_fixedSize : FixedSize 32 ByteReader.digest := fixedSize_map _ (take_fixedSize 32)

/-! ## Strings and vectors -/

theorem bytes_reads (t : Bytes) (maxLength : Nat) :
    Reads (ByteReader.bytes maxLength) (ByteWriter.bytes t) (t.length ≤ maxLength) t := by
  intro hN
  have hlen : t.length.toUInt32.toNat = t.length := by
    simp [ByteWriter.bytes, kLengthBound] at hN
    simp
    omega
  revert hN
  change Reads _ _ _ _
  apply Decodes.congr
  · apply (u32_reads _).bind
    apply (require_reads _ _).guard
    rw [hlen]
    exact take_reads t
  · simp only [hlen, decide_eq_true_eq, true_and, and_true]

theorem string_reads (t : Bytes) (maxLength : Nat) :
    Reads (ByteReader.string maxLength) (ByteWriter.string t)
      (t.length ≤ maxLength ∧ isValidUtf8 t = true) t := by
  apply Decodes.congr
  · apply (bytes_reads t maxLength).tail
    apply (require_reads _ _).guard
    exact Decodes.pure t
  · simp

/-- A vector: its count within the bound, then its elements one after the other. -/
theorem vector_reads {counter : Decoder UInt32} {tooMany : UInt32 → Status} {element : Decoder α}
    {encode : γ → Bytes} {P : γ → Prop} {f : γ → α} (maxCount : Nat) (xs : List γ)
    (hcounter : ∀ v, Reads counter (ByteWriter.u32 v) True v)
    (hpos : ∀ x, 0 < (encode x).length)
    (helement : ∀ x ∈ xs, Reads element (encode x) (P x) (f x)) :
    Reads (do
        let count ← counter
        ByteReader.require (count.toNat ≤ maxCount) (tooMany count)
        readN count.toNat element) (ByteWriter.vector encode xs)
      (xs.length ≤ maxCount ∧ ∀ x ∈ xs, P x) (xs.map f) := by
  have hbytes : xs.length ≤ (xs.map encode).flatten.length := by
    induction xs with
    | nil => simp
    | cons x rest ih =>
      have := ih fun y hy => helement y (List.mem_cons_of_mem _ hy)
      have := hpos x
      simp only [List.map_cons, List.flatten_cons, List.length_append, List.length_cons]
      omega
  intro hN
  have hlen : xs.length.toUInt32.toNat = xs.length := by
    simp only [ByteWriter.vector, kLengthBound, List.length_append] at hN
    simp
    omega
  revert hN
  change Reads _ _ _ _
  apply Decodes.congr
  · apply (hcounter _).bind
    apply (require_reads _ _).guard
    rw [hlen]
    exact Decodes.repeatN xs helement
  · simp only [hlen, decide_eq_true_eq, true_and]

/-- A vector whose elements are read back as they were. -/
theorem vector_reads_id {counter : Decoder UInt32} {tooMany : UInt32 → Status}
    {element : Decoder α} {encode : α → Bytes} {P : α → Prop} (maxCount : Nat) (xs : List α)
    (hcounter : ∀ v, Reads counter (ByteWriter.u32 v) True v)
    (hpos : ∀ x, 0 < (encode x).length) (helement : ∀ x, Reads element (encode x) (P x) x) :
    Reads (do
        let count ← counter
        ByteReader.require (count.toNat ≤ maxCount) (tooMany count)
        readN count.toNat element) (ByteWriter.vector encode xs)
      (xs.length ≤ maxCount ∧ ∀ x ∈ xs, P x) xs := by
  have h : Reads (do
        let count ← counter
        ByteReader.require (count.toNat ≤ maxCount) (tooMany count)
        readN count.toNat element) (ByteWriter.vector encode xs)
      (xs.length ≤ maxCount ∧ ∀ x ∈ xs, P x) (xs.map fun x => x) :=
    vector_reads maxCount xs hcounter hpos fun x _ => helement x
  rwa [List.map_id'] at h

/-- The vector of a record, followed by the fields after it. -/
theorem vector_next {counter : Decoder UInt32} {check : UInt32 → Decoder Unit}
    {element : Decoder α} {k : List α → Decoder β} {bs : Bytes} {es : List Bytes} {P Q : Prop}
    {a : List α} {b : β}
    (h : Reads (do
        let count ← counter
        check count
        readN count.toNat element) bs P a) (hk : Reads (k a) es.flatten Q b) :
    Reads (do
        let count ← counter
        check count
        let values ← readN count.toNat element
        k values) (bs :: es).flatten (P ∧ Q) b := by
  simpa only [bind_assoc] using h.nextIf hk

end RolloutFabric
