/-
The checksum of journal records is the reflected CRC-32, computed bit by bit, and a corruption in a
burst of at most thirty-two bits of a header or of a payload does not pass it.
-/
import RolloutFabric.Journal.Envelope
import RolloutFabric.Lib.Crc

namespace RolloutFabric

/-! ## The table -/

def kCrcTable : List UInt32 := (List.range 256).map fun index => crcEntry 8 index.toUInt32

/-- `crc32`, with its table and its seed. -/
def tableCrc32 (data : Bytes) (seed : UInt32) : UInt32 :=
  (data.foldl (fun (crc : UInt32) byte =>
      kCrcTable.getD ((crc ^^^ byte.toUInt32) &&& 0xFF).toNat 0 ^^^ (crc >>> 8))
    (seed ^^^ 0xFFFFFFFF)) ^^^ 0xFFFFFFFF

theorem kCrcTable_getD {index : UInt32} (h : index.toNat < 256) :
    kCrcTable.getD index.toNat 0 = crcEntry 8 index := by
  simp [kCrcTable, List.getD_eq_getElem?_getD, List.getElem?_range h]

theorem tableCrc32_eq (data : Bytes) : tableCrc32 data 0 = crc32 data := by
  have hindex (x : UInt32) : (x &&& 0xFF).toNat < 256 := by
    rw [UInt32.toNat_and]
    exact Nat.lt_succ_of_le Nat.and_le_right
  unfold tableCrc32 crc32
  simp only [kCrcTable_getD (hindex _)]
  rfl

/-! ## Bit by bit -/

def kCrcPolynomial : BitVec 32 := 0xEDB88320#32

/-- The reflected CRC-32: the register starts complemented, takes the bits, and is complemented. -/
def bitwiseCrc32 (data : Bytes) : BitVec 32 :=
  Crc.run kCrcPolynomial 0xFFFFFFFF#32 (Crc.bytesBits data) ^^^ 0xFFFFFFFF#32

theorem crcEntry_eq (n : Nat) (value : UInt32) :
    (crcEntry n value).toBitVec = Crc.shifts kCrcPolynomial n value.toBitVec := by
  induction n generalizing value with
  | zero => rfl
  | succ n ih =>
    have hlow : (value &&& 1 ≠ 0) ↔ value.toBitVec.getLsbD 0 = true := by
      rw [ne_eq, ← UInt32.toBitVec_inj, UInt32.toBitVec_and]
      show ¬ value.toBitVec &&& 1#32 = 0#32 ↔ _
      rw [BitVec.and_one_eq_setWidth_ofBool_getLsbD]
      cases value.toBitVec.getLsbD 0 <;> decide
    rw [crcEntry, ih, Crc.shifts, Crc.shift]
    by_cases hbit : value &&& 1 ≠ 0
    · rw [if_pos hbit, if_pos (hlow.mp hbit), UInt32.toBitVec_xor, BitVec.xor_comm]
      rfl
    · rw [if_neg hbit, if_neg (fun h => hbit (hlow.mpr h))]
      rfl

/-- A byte of the text, through the table. -/
theorem crcStep_eq (crc : UInt32) (byte : UInt8) :
    (crcEntry 8 ((crc ^^^ byte.toUInt32) &&& 0xFF) ^^^ (crc >>> 8)).toBitVec
      = Crc.run kCrcPolynomial crc.toBitVec ((List.range 8).map byte.toNat.testBit) := by
  have hword : Crc.word 32 ((List.range 8).map byte.toNat.testBit) = byte.toUInt32.toBitVec :=
    byte_all (P := fun b => Crc.word 32 ((List.range 8).map b.toNat.testBit)
      = b.toUInt32.toBitVec) (by decide +kernel) byte
  have hhigh : byte.toUInt32.toBitVec >>> 8 = 0#32 :=
    byte_all (P := fun b => b.toUInt32.toBitVec >>> 8 = 0#32) (by decide +kernel) byte
  rw [Crc.run_word _ (by simp), List.length_map, List.length_range, hword, Crc.shifts_split]
  rw [UInt32.toBitVec_xor, crcEntry_eq, UInt32.toBitVec_and, UInt32.toBitVec_xor,
    BitVec.ushiftRight_xor_distrib, hhigh, BitVec.xor_zero]
  rfl

theorem crcFold_eq (data : Bytes) (crc : UInt32) :
    (data.foldl (fun crc byte => crcEntry 8 ((crc ^^^ byte.toUInt32) &&& 0xFF) ^^^ (crc >>> 8))
        crc).toBitVec
      = Crc.run kCrcPolynomial crc.toBitVec (Crc.bytesBits data) := by
  induction data generalizing crc with
  | nil => rfl
  | cons byte data ih =>
    rw [List.foldl_cons, ih, crcStep_eq, Crc.bytesBits_cons, Crc.run_append]

theorem crc32_eq (data : Bytes) : (crc32 data).toBitVec = bitwiseCrc32 data := by
  rw [crc32, UInt32.toBitVec_xor, crcFold_eq]
  rfl

/-! ## The residue -/

theorem bytesBits_u32 (v : UInt32) :
    Crc.bytesBits (ByteWriter.u32 v) = (List.range 32).map v.toNat.testBit := by
  have hbyte (shift : UInt32) (k : Nat) (hshift : shift.toNat = k) (hk : k < 32) :
      (List.range 8).map (v >>> shift).toUInt8.toNat.testBit
        = (List.range 8).map fun i => v.toNat.testBit (k + i) := by
    refine List.map_congr_left fun i hi => ?_
    have hi := List.mem_range.mp hi
    rw [UInt32.toNat_toUInt8, Nat.testBit_mod_two_pow, UInt32.toNat_shiftRight, hshift,
      Nat.mod_eq_of_lt hk, Nat.testBit_shiftRight]
    simp [hi]
  have hlow : (List.range 8).map v.toUInt8.toNat.testBit
      = (List.range 8).map fun i => v.toNat.testBit i := by
    refine List.map_congr_left fun i hi => ?_
    have hi := List.mem_range.mp hi
    rw [UInt32.toNat_toUInt8, Nat.testBit_mod_two_pow]
    simp [hi]
  rw [ByteWriter.u32]
  simp only [Crc.bytesBits_cons]
  rw [hlow, hbyte 8 8 rfl (by omega), hbyte 16 16 rfl (by omega), hbyte 24 24 rfl (by omega)]
  rfl

theorem word_u32 (v : UInt32) : Crc.word 32 (Crc.bytesBits (ByteWriter.u32 v)) = v.toBitVec := by
  refine BitVec.eq_of_getLsbD_eq fun i hi => ?_
  rw [Crc.getLsbD_word _ hi, bytesBits_u32, List.getD_eq_getElem?_getD, List.getElem?_map,
    List.getElem?_range hi]
  rfl

/-- Behind its own checksum, every text leaves the same register. -/
theorem residue (data : Bytes) :
    Crc.run kCrcPolynomial 0xFFFFFFFF#32 (Crc.bytesBits (data ++ ByteWriter.u32 (crc32 data)))
      = Crc.shifts kCrcPolynomial 32 0xFFFFFFFF#32 := by
  have hlength : (Crc.bytesBits (ByteWriter.u32 (crc32 data))).length = 32 := by
    rw [Crc.length_bytesBits]
    rfl
  rw [Crc.bytesBits_append, Crc.run_append, Crc.run_word _ (by rw [hlength]), hlength, word_u32,
    crc32_eq, bitwiseCrc32, ← BitVec.xor_assoc, BitVec.xor_self, BitVec.zero_xor]

/-! ## Corrupted records -/

theorem kCrcPolynomial_high : kCrcPolynomial.getLsbD (32 - 1) = true := by decide

/-- Texts that differ in a burst have different checksums. -/
theorem crc32_ne_of_burst {x y : Bytes} (h : Crc.Burst 32 (Crc.bytesBits x) (Crc.bytesBits y)) :
    crc32 x ≠ crc32 y := by
  intro hcrc
  have hbits := congrArg UInt32.toBitVec hcrc
  rw [crc32_eq, crc32_eq] at hbits
  exact Crc.run_ne_of_burst kCrcPolynomial_high h _ ((BitVec.xor_left_inj _).mp hbits)

/-- The checksum at the end of a header. -/
def storedHeaderCrc (header : Bytes) : UInt32 := ByteReader.load32 (header.drop 92)

theorem eq_of_storedHeaderCrc {header : Bytes} (hlength : header.length = 96)
    (h : crc32 (header.take 92) = storedHeaderCrc header) :
    header = header.take 92 ++ ByteWriter.u32 (crc32 (header.take 92)) := by
  have hdrop : (header.drop 92).length = 4 := by rw [List.length_drop, hlength]
  obtain ⟨a, b, c, d, habcd⟩ : ∃ a b c d, header.drop 92 = [a, b, c, d] := by
    match header.drop 92, hdrop with
    | [a, b, c, d], _ => exact ⟨a, b, c, d, rfl⟩
  rw [h, storedHeaderCrc, habcd, u32_load32, ← habcd, List.take_append_drop]

theorem byteLength_of_burst {x y : Bytes} {n : Nat}
    (h : Crc.Burst n (Crc.bytesBits x) (Crc.bytesBits y)) : y.length = x.length := by
  have hlength := h.length_eq
  rw [Crc.length_bytesBits, Crc.length_bytesBits] at hlength
  omega

/-- A burst in a written header does not pass its checksum. -/
theorem headerCrc_of_burst {record : JournalRecord} {header : Bytes}
    (h : Crc.Burst 32 (Crc.bytesBits (encodeRecordHeader record)) (Crc.bytesBits header)) :
    crc32 (header.take 92) ≠ storedHeaderCrc header := by
  intro hcrc
  have hlength : header.length = 96 := by rw [byteLength_of_burst h, encodeRecordHeader_length]
  refine Crc.run_ne_of_burst kCrcPolynomial_high h 0xFFFFFFFF#32 ?_
  rw [eq_of_storedHeaderCrc hlength hcrc, residue, encodeRecordHeader, residue]

/-- What is accepted at the front of some bytes passes its checksum. -/
theorem storedHeaderCrc_of_checkFraming {header rest : Bytes} {limits : RuntimeLimits}
    (hlength : header.length = 96)
    {result : RecordHeader × JournalRecordType × Bytes}
    (h : checkFraming (header ++ rest) limits = .ok result) :
    crc32 (header.take 92) = storedHeaderCrc header := by
  obtain ⟨parsed, type, after⟩ := result
  obtain ⟨hbytes, hcheck⟩ := checkFraming_eq_ok.mp h
  obtain ⟨hchecked, -⟩ := checkRecordHeader_checked hcheck
  obtain ⟨rfl, -⟩ := List.append_inj hbytes (by rw [hlength, parsed.encode_length])
  rw [RecordHeader.encode, List.take_left' parsed.covered_length, hchecked.headerCrc,
    storedHeaderCrc, List.drop_left' parsed.covered_length, load32_u32]

theorem header_refused {record : JournalRecord} {header : Bytes}
    (h : Crc.Burst 32 (Crc.bytesBits (encodeRecordHeader record)) (Crc.bytesBits header))
    (limits : RuntimeLimits) (rest : Bytes) :
    ∃ s, decodeRecordEnvelope (header ++ rest) limits = .error s := by
  have hlength : header.length = 96 := by rw [byteLength_of_burst h, encodeRecordHeader_length]
  cases hframing : checkFraming (header ++ rest) limits with
  | ok result => exact (headerCrc_of_burst h (storedHeaderCrc_of_checkFraming hlength hframing)).elim
  | error s =>
    refine ⟨s, ?_⟩
    unfold decodeRecordEnvelope
    rw [hframing]
    rfl

theorem payload_refused {record : JournalRecord} {payload : Bytes} {limits : RuntimeLimits}
    (h : Crc.Burst 32 (Crc.bytesBits record.payload) (Crc.bytesBits payload))
    (hlimits : limits.validate.isOk = true)
    (hpayload : record.payload.length ≤ limits.maxJournalRecordBytes.toNat) (rest : Bytes) :
    decodeRecordEnvelope (encodeRecordHeader record ++ (payload ++ rest)) limits
      = .error (makeStatus .corrupt (text "journal record payload checksum does not match")) := by
  have hlength : payload.length = (RecordHeader.of record).payloadLength.toNat := by
    rw [byteLength_of_burst h, payloadLength_of hlimits hpayload]
  have hshort : ¬ payload.length + rest.length < (RecordHeader.of record).payloadLength.toNat := by
    omega
  have hcrc : crc32 payload ≠ (RecordHeader.of record).payloadCrc := (crc32_ne_of_burst h).symm
  unfold decodeRecordEnvelope
  rw [checkFraming_header hlimits hpayload]
  simp only [bind, Except.bind]
  rw [List.take_left' hlength]
  simp [hshort, hcrc, firstFailure, failIf, Status.toResult]

/-- The checksum is the reflected CRC-32 bit by bit, and a burst of at most thirty-two bits in a
record header or in a payload never passes it. -/
theorem crc32_detects_bursts :
    (∀ data, tableCrc32 data 0 = crc32 data ∧ (crc32 data).toBitVec = bitwiseCrc32 data)
    ∧ (∀ (record : JournalRecord) (header : Bytes),
        Crc.Burst 32 (Crc.bytesBits (encodeRecordHeader record)) (Crc.bytesBits header) →
        crc32 (header.take 92) ≠ storedHeaderCrc header
          ∧ ∀ limits rest, ∃ s, decodeRecordEnvelope (header ++ rest) limits = .error s)
    ∧ ∀ (record : JournalRecord) (payload : Bytes),
        Crc.Burst 32 (Crc.bytesBits record.payload) (Crc.bytesBits payload) →
        crc32 payload ≠ (RecordHeader.of record).payloadCrc
          ∧ ∀ limits rest, limits.validate.isOk = true →
            record.payload.length ≤ limits.maxJournalRecordBytes.toNat →
            decodeRecordEnvelope (encodeRecordHeader record ++ (payload ++ rest)) limits
              = .error (makeStatus .corrupt
                  (text "journal record payload checksum does not match")) := by
  refine ⟨fun data => ⟨tableCrc32_eq data, crc32_eq data⟩, fun record header h => ?_,
    fun record payload h => ?_⟩
  · exact ⟨headerCrc_of_burst h, header_refused h⟩
  · exact ⟨(crc32_ne_of_burst h).symm, fun limits rest hlimits hpayload =>
      payload_refused h hlimits hpayload rest⟩

/-- A record of one byte. -/
def oneByteRecord : JournalRecord := { payload := [0], payloadDigest := ⟨List.replicate 32 1, rfl⟩ }

/-- Its header with another first byte. -/
def strayHeader : Bytes := 0 :: (encodeRecordHeader oneByteRecord).tail

theorem crc32_detects_bursts_oneByte :
    crc32 (strayHeader.take 92) ≠ storedHeaderCrc strayHeader
    ∧ crc32 [1] ≠ (RecordHeader.of oneByteRecord).payloadCrc
    ∧ decodeRecordEnvelope (encodeRecordHeader oneByteRecord ++ ([1] ++ [])) {}
      = .error (makeStatus .corrupt (text "journal record payload checksum does not match")) := by
  obtain ⟨-, hheader, hpayload⟩ := crc32_detects_bursts
  have hstray : Crc.Burst 32 (Crc.bytesBits (encodeRecordHeader oneByteRecord))
      (Crc.bytesBits strayHeader) :=
    ⟨[], Crc.bytesBits [0x31], Crc.bytesBits [0],
      Crc.bytesBits (encodeRecordHeader oneByteRecord).tail, rfl, rfl, by decide, by decide,
      by decide⟩
  have hone : Crc.Burst 32 (Crc.bytesBits oneByteRecord.payload) (Crc.bytesBits [1]) :=
    ⟨[], [false], [true], List.replicate 7 false, by decide, by decide, by decide, by decide,
      by decide⟩
  exact ⟨(hheader oneByteRecord strayHeader hstray).1, (hpayload oneByteRecord [1] hone).1,
    (hpayload oneByteRecord [1] hone).2 {} [] (by decide) (by decide)⟩

end RolloutFabric
