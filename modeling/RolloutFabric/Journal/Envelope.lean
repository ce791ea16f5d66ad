/-
One encoding of a journal record: what is accepted at the front of the bytes is the envelope of
the record it gives, and its framing alone says how long it is.
-/
import RolloutFabric.Codec.Exact
import RolloutFabric.Journal.Record

namespace RolloutFabric

open Decoding

theorem JournalRecordType.code_of_ofCode? {c : UInt16} {t : JournalRecordType}
    (h : ofCode? c = some t) : t.code = c := by
  unfold ofCode? at h
  split at h <;> cases h <;> rfl

/-! ## The header -/

/-- The bytes of a header that its checksum covers. -/
def RecordHeader.covered (h : RecordHeader) : Bytes := [
  ByteWriter.u32 h.magic, ByteWriter.u32 h.headerBytes, ByteWriter.u64 h.sequence,
  ByteWriter.u16 h.typeRaw, ByteWriter.u8 h.reserved0, ByteWriter.u8 h.reserved1,
  ByteWriter.id h.writer, ByteWriter.u64 h.controllerEpoch, ByteWriter.i64 h.writtenAt.nanos,
  ByteWriter.u32 h.payloadLength, ByteWriter.u32 h.payloadCrc,
  ByteWriter.digest h.payloadDigest].flatten

/-- The bytes a header was read from. -/
def RecordHeader.encode (h : RecordHeader) : Bytes := h.covered ++ ByteWriter.u32 h.headerCrc

theorem readRecordHeader_exact : Exact readRecordHeader RecordHeader.encode (fun _ => True) := by
  have hbytes : RecordHeader.encode = fun h => [
      ByteWriter.u32 h.magic, ByteWriter.u32 h.headerBytes, ByteWriter.u64 h.sequence,
      ByteWriter.u16 h.typeRaw, ByteWriter.u8 h.reserved0, ByteWriter.u8 h.reserved1,
      ByteWriter.id h.writer, ByteWriter.u64 h.controllerEpoch, ByteWriter.i64 h.writtenAt.nanos,
      ByteWriter.u32 h.payloadLength, ByteWriter.u32 h.payloadCrc,
      ByteWriter.digest h.payloadDigest, ByteWriter.u32 h.headerCrc].flatten := by
    funext h
    simp [RecordHeader.encode, RecordHeader.covered]
  rw [hbytes]
  unfold readRecordHeader
  apply Exact.record
  · exact .field RecordHeader.magic u32_exact fun _ =>
      .field RecordHeader.headerBytes u32_exact fun _ =>
      .field RecordHeader.sequence u64_exact fun _ =>
      .field RecordHeader.typeRaw u16_exact fun _ =>
      .field RecordHeader.reserved0 u8_exact fun _ =>
      .field RecordHeader.reserved1 u8_exact fun _ =>
      .field RecordHeader.writer id_exact fun _ =>
      .field RecordHeader.controllerEpoch u64_exact fun _ =>
      .field (fun h : RecordHeader => h.writtenAt.nanos) i64_exact fun _ =>
      .field RecordHeader.payloadLength u32_exact fun _ =>
      .field RecordHeader.payloadCrc u32_exact fun _ =>
      .field RecordHeader.payloadDigest digest_exact fun _ =>
      .field RecordHeader.headerCrc u32_exact fun _ =>
      .done (R := fun _ => True) fun ⟨_, _, _, _, _, _, _, _, ⟨_⟩, _, _, _, _⟩ => by
        simp [and_assoc]
  · simp

theorem RecordHeader.covered_length (h : RecordHeader) : h.covered.length = 92 := by
  simp [covered, ByteWriter.u32, ByteWriter.u64, ByteWriter.u16, ByteWriter.u8, ByteWriter.id,
    ByteWriter.i64, ByteWriter.digest, FixedBytes.size_eq]

theorem RecordHeader.encode_length (h : RecordHeader) : h.encode.length = 96 := by
  rw [encode, List.length_append, covered_length]
  rfl

/-- The record a header and its payload make. -/
def RecordHeader.holding (header : RecordHeader) (type : JournalRecordType) (payload : Bytes) :
    JournalRecord where
  sequence := header.sequence
  type := type
  writer := header.writer
  controllerEpoch := header.controllerEpoch
  writtenAt := header.writtenAt
  payloadDigest := header.payloadDigest
  payload := payload

section

variable {limits : RuntimeLimits} {header : RecordHeader} {type : JournalRecordType}
  {record : JournalRecord} {bytes covered rest : Bytes}

theorem checkFraming_eq_ok :
    checkFraming bytes limits = .ok (header, type, rest)
      ↔ bytes = header.encode ++ rest ∧ checkRecordHeader header.covered header limits = .ok type := by
  have htake : (header.encode ++ rest).take 92 = header.covered := by
    rw [RecordHeader.encode, List.append_assoc,
      List.take_append_of_le_length (by rw [header.covered_length]),
      List.take_of_length_le (by rw [header.covered_length])]
  unfold checkFraming
  constructor
  · intro h
    obtain ⟨_, -, hrest⟩ := except_bind_eq_ok.1 h
    obtain ⟨⟨header', rest'⟩, hread, htail⟩ := except_bind_eq_ok.1 hrest
    obtain ⟨type', hcheck, hpure⟩ := except_bind_eq_ok.1 htail
    obtain ⟨-, rfl⟩ := readRecordHeader_exact.canonical hread
    cases hpure
    rw [htake] at hcheck
    exact ⟨rfl, hcheck⟩
  · rintro ⟨rfl, hcheck⟩
    have hlong : ¬ (header.encode ++ rest).length < kJournalRecordHeaderBytes.toNat := by
      rw [List.length_append, header.encode_length]
      show ¬ 96 + rest.length < 96
      omega
    refine except_bind_eq_ok.2 ⟨(), ?_, except_bind_eq_ok.2 ⟨(header, rest), ?_, ?_⟩⟩
    · exact toResult_eq_ok.2 ((failIf_isOk (by decide)).2 (decide_eq_false hlong))
    · exact readRecordHeader_exact.decode trivial rest
    · rw [htake]
      exact except_bind_eq_ok.2 ⟨type, hcheck, rfl⟩

/-- What the checks on a header establish. -/
structure RecordHeader.Checked (header : RecordHeader) (covered : Bytes) (limits : RuntimeLimits)
    (type : JournalRecordType) : Prop where
  magic : header.magic = kRecordMagic
  headerBytes : header.headerBytes = kJournalRecordHeaderBytes
  headerCrc : crc32 covered = header.headerCrc
  type : type.code = header.typeRaw
  reserved0 : header.reserved0 = 0
  reserved1 : header.reserved1 = 0

theorem checkRecordHeader_checked (h : checkRecordHeader covered header limits = .ok type) :
    header.Checked covered limits type
      ∧ header.payloadLength.toNat ≤ limits.maxJournalRecordBytes.toNat := by
  unfold checkRecordHeader at h
  obtain ⟨_, hfirst, hmatch⟩ := except_bind_eq_ok.1 h
  cases htype : JournalRecordType.ofCode? header.typeRaw with
  | none =>
    rw [htype] at hmatch
    cases hmatch
  | some type' =>
    rw [htype] at hmatch
    obtain ⟨_, hsecond, hpure⟩ := except_bind_eq_ok.1 hmatch
    cases hpure
    rw [toResult_eq_ok, firstFailure_isOk] at hfirst hsecond
    simp [failIf_isOk] at hfirst hsecond
    obtain ⟨hmagic, hsize, hcrc⟩ := hfirst
    obtain ⟨⟨hzero, hzero'⟩, hlength⟩ := hsecond
    exact ⟨⟨hmagic, hsize, hcrc, JournalRecordType.code_of_ofCode? htype, hzero, hzero'⟩, hlength⟩

/-- A header that passes its checks, and whose checksums are those of the payload, is the header
its record is written under. -/
theorem RecordHeader.Checked.encode_holding {payload : Bytes}
    (h : header.Checked header.covered limits type)
    (hlength : header.payloadLength.toNat = payload.length)
    (hcrc : crc32 payload = header.payloadCrc) (hdigest : header.payloadDigest = sha256 payload) :
    encodeRecordHeader (header.holding type payload) = header.encode := by
  have hcount : payload.length.toUInt32 = header.payloadLength := by rw [← hlength]; simp
  have hnil : (if (header.holding type payload).payloadDigest = default then
      sha256 (header.holding type payload).payload
      else (header.holding type payload).payloadDigest) = header.payloadDigest := by
    split
    · exact hdigest.symm
    · rfl
  have hfields : (recordHeaderFields (header.holding type payload)).flatten = header.covered := by
    rw [recordHeaderFields, hnil]
    simp only [RecordHeader.holding, RecordHeader.covered, ByteWriter.count, ByteWriter.timestamp,
      h.type, hcount, hcrc, h.magic, h.headerBytes, h.reserved0, h.reserved1]
  rw [encodeRecordHeader, hfields, h.headerCrc]
  rfl

/-- `decode_record_envelope` accepts nothing but envelopes, and gives the record they hold. -/
theorem decodeRecordEnvelope_canonical
    (h : decodeRecordEnvelope bytes limits = .ok (record, rest)) :
    bytes = encodeRecordEnvelope record limits ++ rest := by
  unfold decodeRecordEnvelope at h
  obtain ⟨⟨header, type, rest'⟩, hframing, htail⟩ := except_bind_eq_ok.1 h
  obtain ⟨_, hchecks, hpure⟩ := except_bind_eq_ok.1 htail
  obtain ⟨rfl, hheader⟩ := checkFraming_eq_ok.1 hframing
  obtain ⟨hchecked, hbound⟩ := checkRecordHeader_checked hheader
  rw [toResult_eq_ok, firstFailure_isOk] at hchecks
  simp [failIf_isOk] at hchecks
  obtain ⟨hlong, hcrc, hdigest⟩ := hchecks
  have hlength : header.payloadLength.toNat = (rest'.take header.payloadLength.toNat).length := by
    rw [List.length_take]
    omega
  obtain ⟨rfl, rfl⟩ := Prod.mk.inj (Except.ok.inj hpure)
  have henvelope := hchecked.encode_holding hlength hcrc hdigest
  show _ = encodeRecordEnvelope (header.holding type _) limits ++ _
  rw [encodeRecordEnvelope, henvelope, if_neg]
  · show _ = header.encode ++ rest'.take _ ++ rest'.drop _
    rw [List.append_assoc, List.take_append_drop]
  · show ¬ limits.maxJournalRecordBytes.toNat < (rest'.take header.payloadLength.toNat).length
    omega

/-- The framing of an accepted record, or of any part of it that holds the header, says how long
the record is. -/
theorem recordTotalLength_take (h : decodeRecordEnvelope bytes limits = .ok (record, rest)) {n : Nat}
    (hn : 96 ≤ n) : recordTotalLength (bytes.take n) limits
      = .ok (encodeRecordEnvelope record limits).length := by
  have hbytes := decodeRecordEnvelope_canonical h
  unfold decodeRecordEnvelope at h
  obtain ⟨⟨header, type, rest'⟩, hframing, htail⟩ := except_bind_eq_ok.1 h
  obtain ⟨_, hchecks, hpure⟩ := except_bind_eq_ok.1 htail
  obtain ⟨rfl, hheader⟩ := checkFraming_eq_ok.1 hframing
  have hfront : (header.encode ++ rest').take n = header.encode ++ rest'.take (n - 96) := by
    rw [List.take_append, header.encode_length, List.take_of_length_le]
    rw [header.encode_length]
    exact hn
  have hlength : (encodeRecordEnvelope record limits).length = 96 + header.payloadLength.toNat := by
    have hall := congrArg List.length hbytes
    obtain ⟨rfl, rfl⟩ := Prod.mk.inj (Except.ok.inj hpure)
    rw [toResult_eq_ok, firstFailure_isOk] at hchecks
    simp [failIf_isOk] at hchecks
    simp only [List.length_append, header.encode_length, List.length_drop] at hall
    omega
  unfold recordTotalLength
  rw [checkFraming_eq_ok.2 ⟨hfront, hheader⟩, hlength]
  rfl

/-- A record that fits, with no digest or its own, is given back from the front of its envelope. -/
theorem decodeRecordEnvelope_envelope (hlimits : limits.validate.isOk = true)
    (hpayload : record.payload.length ≤ limits.maxJournalRecordBytes.toNat)
    (hdigest : record.payloadDigest = default ∨ record.payloadDigest = sha256 record.payload)
    (rest : Bytes) :
    decodeRecordEnvelope (encodeRecordEnvelope record limits ++ rest) limits
      = .ok ({ record with payloadDigest := sha256 record.payload }, rest) := by
  have hsame : encodeRecordEnvelope { record with payloadDigest := sha256 record.payload } limits
      = encodeRecordEnvelope record limits := by
    have hnil : (if sha256 record.payload = default then sha256 record.payload
        else sha256 record.payload) = sha256 record.payload := ite_self _
    rcases hdigest with hdigest | hdigest
    · simp only [encodeRecordEnvelope, encodeRecordHeader, recordHeaderFields, hdigest, hnil,
        if_pos]
    · rw [← hdigest]
  have hstorable : JournalRecord.Storable { record with payloadDigest := sha256 record.payload }
      limits := ⟨hpayload, rfl⟩
  rw [← hsame]
  exact decodeRecordEnvelope_encode hlimits hstorable rest

end

/-- A journal record has one encoding, read back from the front of any bytes, and the framing of
any part of it that holds its header says how long it is. -/
theorem record_envelope_exact {limits : RuntimeLimits} (hlimits : limits.validate.isOk = true) :
    (∀ record : JournalRecord, record.payload.length ≤ limits.maxJournalRecordBytes.toNat →
      (record.payloadDigest = default ∨ record.payloadDigest = sha256 record.payload) →
      ∀ rest, ∃ decoded, decodeRecordEnvelope (encodeRecordEnvelope record limits ++ rest) limits
          = .ok (decoded, rest)
        ∧ decoded.sequence = record.sequence ∧ decoded.type = record.type
        ∧ decoded.writer = record.writer ∧ decoded.controllerEpoch = record.controllerEpoch
        ∧ decoded.writtenAt = record.writtenAt ∧ decoded.payload = record.payload)
    ∧ ∀ bytes record rest, decodeRecordEnvelope bytes limits = .ok (record, rest) →
      bytes = encodeRecordEnvelope record limits ++ rest
      ∧ ∀ n, kJournalRecordHeaderBytes.toNat ≤ n → recordTotalLength (bytes.take n) limits
        = .ok (encodeRecordEnvelope record limits).length := by
  constructor
  · intro record hpayload hdigest rest
    exact ⟨_, decodeRecordEnvelope_envelope hlimits hpayload hdigest rest, rfl, rfl, rfl, rfl, rfl,
      rfl⟩
  · intro bytes record rest h
    exact ⟨decodeRecordEnvelope_canonical h, fun n hn => recordTotalLength_take h hn⟩

theorem defaultRecord_envelope : ∃ decoded,
    decodeRecordEnvelope (encodeRecordEnvelope {} {} ++ [0]) {} = .ok (decoded, [0])
      ∧ decoded.type = .recordHeader ∧ decoded.payload = [] := by
  have hexact := @record_envelope_exact {} (by decide)
  obtain ⟨decoded, hdecode, -, htype, -, -, -, hpayload⟩ :=
    hexact.1 {} (Nat.zero_le _) (.inl rfl) [0]
  exact ⟨decoded, hdecode, htype, hpayload⟩

end RolloutFabric
