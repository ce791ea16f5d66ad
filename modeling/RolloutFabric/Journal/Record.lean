/-
Journal records: the checksummed envelope of a record and the header of a journal file.
-/
import RolloutFabric.Codec.Laws
import RolloutFabric.Domain.Limits

namespace RolloutFabric

open Decoding

/-! ## The checksum -/

/-- Eight shifts of one table entry. -/
def crcEntry : Nat → UInt32 → UInt32
  | 0, value => value
  | n + 1, value =>
    crcEntry n (if value &&& 1 ≠ 0 then (0xEDB88320 : UInt32) ^^^ (value >>> 1) else value >>> 1)

def crc32 (data : Bytes) : UInt32 :=
  (data.foldl (fun crc byte => crcEntry 8 ((crc ^^^ byte.toUInt32) &&& 0xFF) ^^^ (crc >>> 8))
    0xFFFFFFFF) ^^^ 0xFFFFFFFF

/-! ## Record types -/

inductive JournalRecordType
  | recordHeader | inventoryStored | planStored | rolloutCreated | cohortFrozen | stageTransition
  | targetTransition | attemptCreated | attemptUpdated | evidenceRecorded | decisionRecorded
  | rolloutTransition | gateResolved | operatorCommand | rolloutSnapshot | rolloutRetired
  | incarnationClaimed | compactionMarker
deriving DecidableEq, Repr, Inhabited

namespace JournalRecordType

def code : JournalRecordType → UInt16
  | .recordHeader => 1 | .inventoryStored => 2 | .planStored => 3 | .rolloutCreated => 4
  | .cohortFrozen => 5 | .stageTransition => 6 | .targetTransition => 7 | .attemptCreated => 8
  | .attemptUpdated => 9 | .evidenceRecorded => 10 | .decisionRecorded => 11
  | .rolloutTransition => 12 | .gateResolved => 13 | .operatorCommand => 14
  | .rolloutSnapshot => 15 | .rolloutRetired => 16 | .incarnationClaimed => 17
  | .compactionMarker => 18

def ofCode? : UInt16 → Option JournalRecordType
  | 1 => some .recordHeader | 2 => some .inventoryStored | 3 => some .planStored
  | 4 => some .rolloutCreated | 5 => some .cohortFrozen | 6 => some .stageTransition
  | 7 => some .targetTransition | 8 => some .attemptCreated | 9 => some .attemptUpdated
  | 10 => some .evidenceRecorded | 11 => some .decisionRecorded | 12 => some .rolloutTransition
  | 13 => some .gateResolved | 14 => some .operatorCommand | 15 => some .rolloutSnapshot
  | 16 => some .rolloutRetired | 17 => some .incarnationClaimed | 18 => some .compactionMarker
  | _ => none

@[simp] theorem ofCode?_code (t : JournalRecordType) : ofCode? t.code = some t := by
  cases t <;> rfl

end JournalRecordType

structure JournalRecord where
  sequence : UInt64 := 0
  type : JournalRecordType := .recordHeader
  writer : IncarnationId := .nil
  controllerEpoch : UInt64 := 0
  writtenAt : Timestamp := {}
  payloadDigest : Digest256 := default
  payload : Bytes := []
deriving DecidableEq, Inhabited

def kJournalMagic : UInt32 := 0x4A465231
def kRecordMagic : UInt32 := 0x52454331
def kJournalHeaderBytes : UInt32 := 48
def kJournalRecordHeaderBytes : UInt32 := 96
def kRuntimeAbiVersion : UInt32 := 1

/-! ## The envelope -/

/-- The first ninety-two bytes of an envelope: every header field but the header checksum. -/
def recordHeaderFields (record : JournalRecord) : List Bytes := [
  ByteWriter.u32 kRecordMagic, ByteWriter.u32 kJournalRecordHeaderBytes,
  ByteWriter.u64 record.sequence, ByteWriter.u16 record.type.code, ByteWriter.u8 0,
  ByteWriter.u8 0, ByteWriter.id record.writer, ByteWriter.u64 record.controllerEpoch,
  ByteWriter.timestamp record.writtenAt, ByteWriter.count record.payload.length,
  ByteWriter.u32 (crc32 record.payload),
  ByteWriter.digest (if record.payloadDigest = default then sha256 record.payload
    else record.payloadDigest)]

/-- The ninety-six bytes before the payload. -/
def encodeRecordHeader (record : JournalRecord) : Bytes :=
  let fields := (recordHeaderFields record).flatten
  fields ++ ByteWriter.u32 (crc32 fields)

/-- `encode_record_envelope`: nothing when the payload is above the bound. -/
def encodeRecordEnvelope (record : JournalRecord) (limits : RuntimeLimits) : Bytes :=
  if limits.maxJournalRecordBytes.toNat < record.payload.length then []
  else encodeRecordHeader record ++ record.payload

/-- The header fields as they stand in the bytes. -/
structure RecordHeader where
  magic : UInt32
  headerBytes : UInt32
  sequence : UInt64
  typeRaw : UInt16
  reserved0 : UInt8
  reserved1 : UInt8
  writer : IncarnationId
  controllerEpoch : UInt64
  writtenAt : Timestamp
  payloadLength : UInt32
  payloadCrc : UInt32
  payloadDigest : Digest256
  headerCrc : UInt32

def readRecordHeader : Decoder RecordHeader := do
  let magic ← ByteReader.u32
  let headerBytes ← ByteReader.u32
  let sequence ← ByteReader.u64
  let typeRaw ← ByteReader.u16
  let reserved0 ← ByteReader.u8
  let reserved1 ← ByteReader.u8
  let writer ← ByteReader.id .incarnation
  let controllerEpoch ← ByteReader.u64
  let writtenAt ← ByteReader.i64
  let payloadLength ← ByteReader.u32
  let payloadCrc ← ByteReader.u32
  let payloadDigest ← ByteReader.digest
  let headerCrc ← ByteReader.u32
  pure { magic, headerBytes, sequence, typeRaw, reserved0, reserved1, writer, controllerEpoch
         writtenAt := ⟨writtenAt⟩, payloadLength, payloadCrc, payloadDigest, headerCrc }

/-- The checks on a header that has been read, given the ninety-two bytes its checksum covers. -/
def checkRecordHeader (covered : Bytes) (header : RecordHeader) (limits : RuntimeLimits) :
    Result JournalRecordType := do
  (firstFailure [
    failIf (header.magic ≠ kRecordMagic)
      (makeStatus .corrupt (text "journal record magic does not match")),
    failIf (header.headerBytes ≠ kJournalRecordHeaderBytes)
      (makeStatus .corrupt (text "journal record declares an unexpected header size")),
    failIf (crc32 covered ≠ header.headerCrc)
      (makeStatus .corrupt (text "journal record header checksum does not match"))]).toResult
  match JournalRecordType.ofCode? header.typeRaw with
  | none => throw (makeStatus .corrupt (text "journal record has an unknown type"))
  | some type =>
    (firstFailure [
      failIf (header.reserved0 ≠ 0 ∨ header.reserved1 ≠ 0)
        (makeStatus .corrupt (text "journal record reserved field is not zero")),
      failIf (limits.maxJournalRecordBytes.toNat < header.payloadLength.toNat)
        (makeStatus .limitExceeded (text "journal record declares "
          ++ toStringNat header.payloadLength.toNat
          ++ text " payload bytes, above max_journal_record_bytes"))]).toResult
    pure type

/-- The framing checks, shared by `record_total_length` and `decode_record_envelope`: the header,
its type and the bytes after it. -/
def checkFraming (bytes : Bytes) (limits : RuntimeLimits) :
    Result (RecordHeader × JournalRecordType × Bytes) := do
  (failIf (bytes.length < kJournalRecordHeaderBytes.toNat)
    (makeStatus .corrupt (text "journal record header is truncated"))).toResult
  let (header, rest) ← readRecordHeader bytes
  let type ← checkRecordHeader (bytes.take 92) header limits
  pure (header, type, rest)

/-- `record_total_length`. -/
def recordTotalLength (bytes : Bytes) (limits : RuntimeLimits) : Result Nat := do
  let (header, _, _) ← checkFraming bytes limits
  pure (kJournalRecordHeaderBytes.toNat + header.payloadLength.toNat)

/-- `decode_record_envelope`: the record at the front, and the bytes after it. -/
def decodeRecordEnvelope (bytes : Bytes) (limits : RuntimeLimits) :
    Result (JournalRecord × Bytes) := do
  let (header, type, rest) ← checkFraming bytes limits
  let length := header.payloadLength.toNat
  let payload := rest.take length
  (firstFailure [
    failIf (rest.length < length)
      (makeStatus .corrupt (text "journal record payload is truncated")),
    failIf (crc32 payload ≠ header.payloadCrc)
      (makeStatus .corrupt (text "journal record payload checksum does not match")),
    failIf (header.payloadDigest ≠ sha256 payload)
      (makeStatus .corrupt (text "journal record payload digest does not match"))]).toResult
  pure ({ sequence := header.sequence, type, writer := header.writer
          controllerEpoch := header.controllerEpoch, writtenAt := header.writtenAt
          payloadDigest := header.payloadDigest, payload }, rest.drop length)

/-! ## An envelope is read back -/

/-- The header a record is written under. -/
def RecordHeader.of (record : JournalRecord) : RecordHeader where
  magic := kRecordMagic
  headerBytes := kJournalRecordHeaderBytes
  sequence := record.sequence
  typeRaw := record.type.code
  reserved0 := 0
  reserved1 := 0
  writer := record.writer
  controllerEpoch := record.controllerEpoch
  writtenAt := record.writtenAt
  payloadLength := record.payload.length.toUInt32
  payloadCrc := crc32 record.payload
  payloadDigest := if record.payloadDigest = default then sha256 record.payload
    else record.payloadDigest
  headerCrc := crc32 (recordHeaderFields record).flatten

theorem recordHeaderFields_length (record : JournalRecord) :
    (recordHeaderFields record).flatten.length = 92 := by
  simp [recordHeaderFields, ByteWriter.u32, ByteWriter.u64, ByteWriter.u16, ByteWriter.u8,
    ByteWriter.id, ByteWriter.timestamp, ByteWriter.i64, ByteWriter.count, ByteWriter.digest,
    FixedBytes.size_eq]

@[simp] theorem encodeRecordHeader_length (record : JournalRecord) :
    (encodeRecordHeader record).length = 96 := by
  rw [encodeRecordHeader, List.length_append, recordHeaderFields_length]
  rfl

theorem readRecordHeader_reads (record : JournalRecord) :
    Reads readRecordHeader (encodeRecordHeader record) True (RecordHeader.of record) := by
  have hbytes : encodeRecordHeader record = (recordHeaderFields record
      ++ [ByteWriter.u32 (crc32 (recordHeaderFields record).flatten)]).flatten := by
    simp [encodeRecordHeader]
  rw [hbytes]
  exact (u32_reads _).next <| (u32_reads _).next <| (u64_reads _).next <| (u16_reads _).next <|
    (u8_reads _).next <| (u8_reads _).next <| (id_reads _).next <| (u64_reads _).next <|
    (i64_reads _).next <| (u32_reads _).next <| (u32_reads _).next <| (digest_reads _).next <|
    (u32_reads _).next <| Decodes.done _

/-- The payload of a record fits the bound of the limits, and its digest is its own. -/
structure JournalRecord.Storable (record : JournalRecord) (limits : RuntimeLimits) : Prop where
  payload_le : record.payload.length ≤ limits.maxJournalRecordBytes.toNat
  digest_eq : record.payloadDigest = sha256 record.payload

section Envelope

variable {record : JournalRecord} {limits : RuntimeLimits}

theorem payloadLength_of (hlimits : limits.validate.isOk = true)
    (hpayload : record.payload.length ≤ limits.maxJournalRecordBytes.toNat) :
    (RecordHeader.of record).payloadLength.toNat = record.payload.length := by
  simp only [RecordHeader.of, Nat.toUInt32_eq, UInt32.toNat_ofNat']
  exact Nat.mod_eq_of_lt (record_length_lt hlimits hpayload)

theorem checkRecordHeader_of (hlimits : limits.validate.isOk = true)
    (hpayload : record.payload.length ≤ limits.maxJournalRecordBytes.toNat) :
    checkRecordHeader (recordHeaderFields record).flatten (RecordHeader.of record) limits
      = .ok record.type := by
  have hlength := payloadLength_of hlimits hpayload
  have hbound : ¬ limits.maxJournalRecordBytes.toNat < record.payload.length := by omega
  have hmagic : (RecordHeader.of record).magic = kRecordMagic := rfl
  have hsize : (RecordHeader.of record).headerBytes = kJournalRecordHeaderBytes := rfl
  have hcrc : (RecordHeader.of record).headerCrc = crc32 (recordHeaderFields record).flatten := rfl
  have htype : (RecordHeader.of record).typeRaw = record.type.code := rfl
  have hreserved : (RecordHeader.of record).reserved0 = 0 ∧ (RecordHeader.of record).reserved1 = 0 :=
    ⟨rfl, rfl⟩
  simp [checkRecordHeader, hmagic, hsize, hcrc, htype, hreserved, hlength, hbound, firstFailure,
    Status.toResult, bind, Except.bind, pure, Except.pure]

/-- The framing of a written header is accepted, whatever follows it. -/
theorem checkFraming_header (hlimits : limits.validate.isOk = true)
    (hpayload : record.payload.length ≤ limits.maxJournalRecordBytes.toNat) (rest : Bytes) :
    checkFraming (encodeRecordHeader record ++ rest) limits
      = .ok (RecordHeader.of record, record.type, rest) := by
  have hread := (readRecordHeader_reads record (by simp [kLengthBound]) rest).1 trivial
  have htake : (encodeRecordHeader record ++ rest).take 92
      = (recordHeaderFields record).flatten := by
    rw [List.take_append_of_le_length (by simp), encodeRecordHeader,
      List.take_append_of_le_length (by rw [recordHeaderFields_length]),
      List.take_of_length_le (by rw [recordHeaderFields_length])]
  have hlong : ¬ 96 + rest.length < 96 := by omega
  unfold checkFraming
  rw [hread, htake]
  simp [hlong, checkRecordHeader_of hlimits hpayload, kJournalRecordHeaderBytes,
    Status.toResult, bind, Except.bind, pure, Except.pure]

theorem recordTotalLength_header (hlimits : limits.validate.isOk = true)
    (hpayload : record.payload.length ≤ limits.maxJournalRecordBytes.toNat) (rest : Bytes) :
    recordTotalLength (encodeRecordHeader record ++ rest) limits
      = .ok (96 + record.payload.length) := by
  unfold recordTotalLength
  rw [checkFraming_header hlimits hpayload, ← payloadLength_of hlimits hpayload]
  rfl

/-- A storable record is read back from the front of the bytes it was written to. -/
theorem decodeRecordEnvelope_encode (hlimits : limits.validate.isOk = true)
    (hrecord : record.Storable limits) (rest : Bytes) :
    decodeRecordEnvelope (encodeRecordEnvelope record limits ++ rest) limits
      = .ok (record, rest) := by
  obtain ⟨hpayload, hdigest⟩ := hrecord
  have hbound : ¬ limits.maxJournalRecordBytes.toNat < record.payload.length := by omega
  have hlength := payloadLength_of hlimits hpayload
  have hlong : ¬ record.payload.length + rest.length < record.payload.length := by omega
  have hcrc : (RecordHeader.of record).payloadCrc = crc32 record.payload := rfl
  have hsha : (RecordHeader.of record).payloadDigest = sha256 record.payload := by
    simp [RecordHeader.of, hdigest]
  unfold decodeRecordEnvelope
  rw [encodeRecordEnvelope, if_neg hbound, List.append_assoc, checkFraming_header hlimits hpayload]
  simp [hlength, hlong, hcrc, hsha, firstFailure, Status.toResult, bind, Except.bind, pure,
    Except.pure]
  simp only [RecordHeader.of, ← hdigest]

end Envelope

/-! ## The file header -/

structure JournalHeader where
  journalId : JournalId := .nil
  formatVersion : UInt32 := 0
  abiVersion : UInt32 := 0
  createdAt : Timestamp := {}
deriving DecidableEq, Inhabited

def journalHeaderFields (header : JournalHeader) : List Bytes := [
  ByteWriter.u32 kJournalMagic, ByteWriter.u32 header.formatVersion,
  ByteWriter.u32 header.abiVersion, ByteWriter.u32 kJournalHeaderBytes,
  ByteWriter.id header.journalId, ByteWriter.timestamp header.createdAt, ByteWriter.u32 0]

/-- `encode_header`. -/
def encodeHeader (header : JournalHeader) : Bytes :=
  let fields := (journalHeaderFields header).flatten
  fields ++ ByteWriter.u32 (crc32 fields)

structure RawJournalHeader where
  magic : UInt32
  formatVersion : UInt32
  abiVersion : UInt32
  headerBytes : UInt32
  journalId : JournalId
  createdAt : Timestamp
  reserved : UInt32
  crc : UInt32

def readJournalHeader : Decoder RawJournalHeader := do
  let magic ← ByteReader.u32
  let formatVersion ← ByteReader.u32
  let abiVersion ← ByteReader.u32
  let headerBytes ← ByteReader.u32
  let journalId ← ByteReader.id .journal
  let createdAt ← ByteReader.i64
  let reserved ← ByteReader.u32
  let crc ← ByteReader.u32
  pure { magic, formatVersion, abiVersion, headerBytes, journalId, createdAt := ⟨createdAt⟩
         reserved, crc }

/-- `decode_header`: the header, and the bytes after it. -/
def decodeHeader (bytes : Bytes) : Result (JournalHeader × Bytes) := do
  (failIf (bytes.length < kJournalHeaderBytes.toNat)
    (makeStatus .corrupt (text "journal header is truncated"))).toResult
  let (raw, rest) ← readJournalHeader bytes
  (firstFailure [
    failIf (raw.magic ≠ kJournalMagic)
      (makeStatus .corrupt (text "journal magic does not match")),
    failIf (raw.headerBytes ≠ kJournalHeaderBytes)
      (makeStatus .corrupt (text "journal header declares an unexpected size")),
    failIf (crc32 (bytes.take 44) ≠ raw.crc)
      (makeStatus .corrupt (text "journal header checksum does not match")),
    failIf (raw.reserved ≠ 0)
      (makeStatus .corrupt (text "journal header reserved field is not zero")),
    failIf (raw.formatVersion ≠ kSupportedJournalFormatVersion)
      (makeStatus .notSupported (text "journal format version "
        ++ toStringNat raw.formatVersion.toNat ++ text " is not readable by this build")),
    failIf (raw.abiVersion ≠ kRuntimeAbiVersion)
      (makeStatus .notSupported (text "journal was written under ABI version "
        ++ toStringNat raw.abiVersion.toNat ++ text ", this build is "
        ++ toStringNat kRuntimeAbiVersion.toNat))]).toResult
  pure ({ journalId := raw.journalId, formatVersion := raw.formatVersion
          abiVersion := raw.abiVersion, createdAt := raw.createdAt }, rest)

/-- The raw header a journal is written under. -/
def RawJournalHeader.of (header : JournalHeader) : RawJournalHeader where
  magic := kJournalMagic
  formatVersion := header.formatVersion
  abiVersion := header.abiVersion
  headerBytes := kJournalHeaderBytes
  journalId := header.journalId
  createdAt := header.createdAt
  reserved := 0
  crc := crc32 (journalHeaderFields header).flatten

theorem journalHeaderFields_length (header : JournalHeader) :
    (journalHeaderFields header).flatten.length = 44 := by
  simp [journalHeaderFields, ByteWriter.u32, ByteWriter.u64, ByteWriter.id, ByteWriter.timestamp,
    ByteWriter.i64, FixedBytes.size_eq]

@[simp] theorem encodeHeader_length (header : JournalHeader) :
    (encodeHeader header).length = 48 := by
  rw [encodeHeader, List.length_append, journalHeaderFields_length]
  rfl

theorem readJournalHeader_reads (header : JournalHeader) :
    Reads readJournalHeader (encodeHeader header) True (RawJournalHeader.of header) := by
  have hbytes : encodeHeader header = (journalHeaderFields header
      ++ [ByteWriter.u32 (crc32 (journalHeaderFields header).flatten)]).flatten := by
    simp [encodeHeader]
  rw [hbytes]
  exact (u32_reads _).next <| (u32_reads _).next <| (u32_reads _).next <| (u32_reads _).next <|
    (id_reads _).next <| (i64_reads _).next <| (u32_reads _).next <| (u32_reads _).next <|
    Decodes.done _

/-- A header of this build is read back from the front of the file. -/
theorem decodeHeader_encode {header : JournalHeader}
    (hformat : header.formatVersion = kSupportedJournalFormatVersion)
    (habi : header.abiVersion = kRuntimeAbiVersion) (rest : Bytes) :
    decodeHeader (encodeHeader header ++ rest) = .ok (header, rest) := by
  have hread := (readJournalHeader_reads header (by simp [kLengthBound]) rest).1 trivial
  have htake : (encodeHeader header ++ rest).take 44 = (journalHeaderFields header).flatten := by
    rw [List.take_append_of_le_length (by simp), encodeHeader,
      List.take_append_of_le_length (by rw [journalHeaderFields_length]),
      List.take_of_length_le (by rw [journalHeaderFields_length])]
  have hlong : ¬ 48 + rest.length < 48 := by omega
  unfold decodeHeader
  rw [hread, htake]
  simp [hlong, RawJournalHeader.of, hformat, habi, kJournalHeaderBytes, firstFailure,
    Status.toResult, bind, Except.bind, pure, Except.pure]
  simp only [← hformat, ← habi]

end RolloutFabric
