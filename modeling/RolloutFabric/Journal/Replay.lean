/-
The replay of a journal file: chunks are read into a buffer, and the records at its front are
taken while their integrity is proved and their sequences increase. What it returns does not
depend on how the reads cut the file.
-/
import RolloutFabric.Journal.Record

namespace RolloutFabric

open Decoding

/-! ## Reading the file -/

/-- How many bytes each read of a file asks for is given: a read that does not fail returns at
least one byte before the end of the file, and never more than it was asked for. -/
structure ReadSizes where
  count : Nat → Nat → Nat
  count_pos : ∀ offset want, 0 < want → 0 < count offset want
  count_le : ∀ offset want, count offset want ≤ want

/-- `read_at`: the bytes at `offset`, as many as this read returns. -/
def readAt (reads : ReadSizes) (file : Bytes) (offset want : Nat) : Bytes :=
  (file.drop offset).take (reads.count offset want)

structure RecoveryReport where
  journalId : JournalId := .nil
  formatVersion : UInt32 := 0
  abiVersion : UInt32 := 0
  validRecords : Nat := 0
  discardedRecords : Nat := 0
  discardedBytes : Nat := 0
  totalBytes : Nat := 0
  lastSequence : UInt64 := 0
  createdNew : Bool := false
  emptyJournal : Bool := false
  truncatedTail : Bool := false
  detail : Bytes := []
deriving DecidableEq, Inhabited

/-! ## The replay -/

/-- What the replay carries from one record to the next; `lastSequence` is empty before the
first record. -/
structure ReplayState where
  pending : Bytes := []
  validEnd : Nat := 0
  lastSequence : Option UInt64 := none
  records : List JournalRecord := []
  detail : Bytes := []
  discardedRecords : Nat := 0
  stopped : Bool := false
deriving DecidableEq, Inhabited

/-- The sequence comes after the last one, if there is a last one. -/
def follows (last : Option UInt64) (sequence : UInt64) : Bool :=
  match last with
  | none => true
  | some l => l < sequence

def ReplayState.stop (s : ReplayState) (detail : Bytes) : ReplayState :=
  { s with detail, stopped := true }

/-- One turn of the inner loop: `none` when the buffer does not hold a whole record yet. -/
def replayStep (limits : RuntimeLimits) (stopAtSnapshot : Bool) (s : ReplayState) :
    Option ReplayState :=
  if s.pending.length < kJournalRecordHeaderBytes.toNat then none
  else match recordTotalLength s.pending limits with
    | .error framing => some (s.stop framing.message)
    | .ok total =>
      -- a short read is not corruption: the payload has not arrived yet
      if s.pending.length < total then none
      else match decodeRecordEnvelope s.pending limits with
        | .error status => some (s.stop status.message)
        | .ok (record, rest) =>
          if rest.length = s.pending.length then
            some (s.stop (text "journal record decoder made no progress"))
          else if follows s.lastSequence record.sequence then
            some { s with
              lastSequence := some record.sequence
              records := s.records ++ [record]
              pending := rest
              validEnd := s.validEnd + (s.pending.length - rest.length)
              stopped := stopAtSnapshot && record.type == .compactionMarker }
          else some { s with
              detail := text "journal record sequence " ++ toStringNat record.sequence.toNat
                ++ text " does not follow " ++ toStringNat (s.lastSequence.getD 0).toNat
              discardedRecords := s.discardedRecords + 1
              stopped := true }

/-- The inner loop; every turn that goes on takes at least one byte from the buffer. -/
def parsePending (limits : RuntimeLimits) (stopAtSnapshot : Bool) : Nat → ReplayState → ReplayState
  | 0, s => s
  | fuel + 1, s =>
    if s.stopped then s
    else match replayStep limits stopAtSnapshot s with
      | none => s
      | some s' => parsePending limits stopAtSnapshot fuel s'

def chunkSize (limits : RuntimeLimits) : Nat :=
  min (limits.maxJournalRecordBytes + kJournalRecordHeaderBytes.toUInt64).toNat (8 * 2 ^ 20)

/-- The outer loop: refill the buffer, parse it, and stop at the end of the file. -/
def replayLoop (limits : RuntimeLimits) (stopAtSnapshot : Bool) (reads : ReadSizes) (file : Bytes) :
    Nat → ReplayState → ReplayState
  | 0, s => s
  | fuel + 1, s =>
    if s.stopped then s
    else
      let position := s.validEnd + s.pending.length
      let chunk := if position < file.length then readAt reads file position (chunkSize limits)
        else []
      if position < file.length ∧ chunk = [] then s
      else
        let filled := { s with pending := s.pending ++ chunk }
        let s' := parsePending limits stopAtSnapshot filled.pending.length filled
        if !s'.stopped && file.length ≤ s'.validEnd + s'.pending.length then s'
        else replayLoop limits stopAtSnapshot reads file fuel s'

/-- `replay`: the records, the offset one past the last of them, and the report. -/
def replay (limits : RuntimeLimits) (stopAtSnapshot : Bool) (reads : ReadSizes) (file : Bytes) :
    Result (List JournalRecord × Nat × RecoveryReport) := do
  if file.length = 0 then
    pure ([], 0, { emptyJournal := true
                   detail := text "the journal file exists but holds no bytes" })
  else
    let headerBytes := readAt reads file 0 kJournalHeaderBytes.toNat
    let (header, _) ← decodeHeader headerBytes
    let s := replayLoop limits stopAtSnapshot reads file (file.length + 1)
      { validEnd := kJournalHeaderBytes.toNat }
    pure (s.records, s.validEnd, {
      journalId := header.journalId
      formatVersion := header.formatVersion
      abiVersion := header.abiVersion
      validRecords := s.records.length
      discardedRecords := s.discardedRecords
      totalBytes := file.length
      lastSequence := s.lastSequence.getD 0
      truncatedTail := s.validEnd < file.length
      discardedBytes := if s.validEnd < file.length then file.length - s.validEnd else 0
      detail := if s.validEnd < file.length ∧ s.detail = [] then
          text "trailing bytes do not form a complete, integrity-checked record"
        else s.detail })

/-! ## The provable prefix -/

/-- `records` is the longest sequence of records at the front of the bytes such that each is
accepted by the envelope decoder and follows the one before it; `rest` is what they leave. -/
inductive Provable (limits : RuntimeLimits) :
    Option UInt64 → Bytes → List JournalRecord → Bytes → Prop
  | stop {last bytes} (hstop : ∀ record rest, decodeRecordEnvelope bytes limits = .ok (record, rest) →
      follows last record.sequence = false) : Provable limits last bytes [] bytes
  | next {last bytes record rest records final}
      (hrecord : decodeRecordEnvelope bytes limits = .ok (record, rest))
      (hfollows : follows last record.sequence = true)
      (htail : Provable limits (some record.sequence) rest records final) :
      Provable limits last bytes (record :: records) final


/-! ## What is decoded does not depend on what follows -/

theorem readRecordHeader_fixedSize : FixedSize 96 readRecordHeader :=
  u32_fixedSize.bind fun _ => u32_fixedSize.bind fun _ => u64_fixedSize.bind fun _ =>
  u16_fixedSize.bind fun _ => u8_fixedSize.bind fun _ => u8_fixedSize.bind fun _ =>
  (id_fixedSize _).bind fun _ => u64_fixedSize.bind fun _ => i64_fixedSize.bind fun _ =>
  u32_fixedSize.bind fun _ => u32_fixedSize.bind fun _ => digest_fixedSize.bind fun _ =>
  fixedSize_map _ u32_fixedSize

section Locality

variable {limits : RuntimeLimits} {bytes : Bytes} {total : Nat} {record : JournalRecord}
  {rest : Bytes}

/-- The framing is decided by the first ninety-six bytes. -/
theorem checkFraming_append (h : 96 ≤ bytes.length) (limits : RuntimeLimits) :
    (∃ s, ∀ more, checkFraming (bytes ++ more) limits = .error s) ∨
    (∃ header type, ∀ more,
      checkFraming (bytes ++ more) limits = .ok (header, type, bytes.drop 96 ++ more)) := by
  obtain ⟨header, hread⟩ := readRecordHeader_fixedSize.append h
  have hframing : ∀ more, checkFraming (bytes ++ more) limits
      = (checkRecordHeader (bytes.take 92) header limits).map
          fun type => (header, type, bytes.drop 96 ++ more) := by
    intro more
    have hlong : ¬ (bytes ++ more).length < kJournalRecordHeaderBytes.toNat := by
      rw [List.length_append]
      show ¬ _ < 96
      omega
    unfold checkFraming
    rw [hread, List.take_append_of_le_length (by omega), decide_eq_false hlong]
    rfl
  cases hcheck : checkRecordHeader (bytes.take 92) header limits with
  | error s => exact .inl ⟨s, fun more => by rw [hframing, hcheck]; rfl⟩
  | ok type => exact .inr ⟨header, type, fun more => by rw [hframing, hcheck]; rfl⟩

theorem checkFraming_short (h : bytes.length < 96) (limits : RuntimeLimits) :
    ∃ s, checkFraming bytes limits = .error s := by
  have hshort : bytes.length < kJournalRecordHeaderBytes.toNat := h
  unfold checkFraming
  rw [decide_eq_true hshort]
  exact ⟨_, rfl⟩

theorem decode_of_checkFraming_error {s : Status} (h : checkFraming bytes limits = .error s) :
    decodeRecordEnvelope bytes limits = .error s := by
  unfold decodeRecordEnvelope
  rw [h]
  rfl

/-- A framing that is refused is refused whatever follows, and so is the record. -/
theorem decode_of_framing_error {s : Status} (h : 96 ≤ bytes.length)
    (hframing : recordTotalLength bytes limits = .error s) (more : Bytes) :
    ∃ e, decodeRecordEnvelope (bytes ++ more) limits = .error e := by
  rcases checkFraming_append h limits with ⟨e, he⟩ | ⟨header, type, hok⟩
  · exact ⟨e, decode_of_checkFraming_error (he more)⟩
  · have hbytes := hok []
    rw [List.append_nil] at hbytes
    rw [recordTotalLength, hbytes] at hframing
    cases hframing

/-- Once the whole record is there, what follows it is handed over untouched. -/
theorem decode_append (h : 96 ≤ bytes.length) (hframing : recordTotalLength bytes limits = .ok total)
    (htotal : total ≤ bytes.length) (more : Bytes) :
    decodeRecordEnvelope (bytes ++ more) limits
      = (decodeRecordEnvelope bytes limits).map fun r => (r.1, r.2 ++ more) := by
  rcases checkFraming_append h limits with ⟨e, he⟩ | ⟨header, type, hok⟩
  · have hbytes := he []
    rw [List.append_nil] at hbytes
    rw [recordTotalLength, hbytes] at hframing
    cases hframing
  · have hbytes := hok []
    rw [List.append_nil, List.append_nil] at hbytes
    rw [recordTotalLength, hbytes] at hframing
    have hsize : 96 + header.payloadLength.toNat = total := Except.ok.inj hframing
    have hpayload : header.payloadLength.toNat ≤ (bytes.drop 96).length := by
      rw [List.length_drop]
      omega
    have hmore : header.payloadLength.toNat ≤ (bytes.drop 96 ++ more).length := by
      rw [List.length_append]
      omega
    unfold decodeRecordEnvelope
    rw [hok, hbytes]
    simp only [bind, Except.bind]
    rw [List.take_append_of_le_length hpayload, List.drop_append_of_le_length hpayload,
      decide_eq_false (Nat.not_lt.2 hpayload), decide_eq_false (Nat.not_lt.2 hmore)]
    cases (firstFailure _).toResult <;> rfl

/-- A record whose payload has not all arrived is refused. -/
theorem decode_of_short (h : bytes.length < 96 ∨
    ∃ total, recordTotalLength bytes limits = .ok total ∧ bytes.length < total) :
    ∃ e, decodeRecordEnvelope bytes limits = .error e := by
  by_cases hlong : bytes.length < 96
  · obtain ⟨e, he⟩ := checkFraming_short hlong limits
    exact ⟨e, decode_of_checkFraming_error he⟩
  · obtain ⟨total, hframing, htotal⟩ := h.resolve_left hlong
    rcases checkFraming_append (Nat.not_lt.1 hlong) limits with ⟨e, he⟩ | ⟨header, type, hok⟩
    · have hbytes := he []
      rw [List.append_nil] at hbytes
      exact ⟨e, decode_of_checkFraming_error hbytes⟩
    · have hbytes := hok []
      rw [List.append_nil, List.append_nil] at hbytes
      rw [recordTotalLength, hbytes] at hframing
      have hsize : 96 + header.payloadLength.toNat = total := Except.ok.inj hframing
      have hshort : (bytes.drop 96).length < header.payloadLength.toNat := by
        rw [List.length_drop]
        omega
      unfold decodeRecordEnvelope
      rw [hbytes]
      simp only [bind, Except.bind]
      rw [decide_eq_true hshort]
      exact ⟨_, rfl⟩

/-- An accepted record takes its header and its payload from the front. -/
theorem decode_length (h : decodeRecordEnvelope bytes limits = .ok (record, rest)) :
    96 ≤ bytes.length ∧ ∃ total, recordTotalLength bytes limits = .ok total ∧ 96 ≤ total ∧
      total ≤ bytes.length ∧ rest = bytes.drop total := by
  have hlong : 96 ≤ bytes.length := by
    by_contra hshort
    obtain ⟨e, he⟩ : ∃ e, decodeRecordEnvelope bytes limits = .error e :=
      decode_of_short (.inl (Nat.not_le.1 hshort))
    rw [he] at h
    cases h
  refine ⟨hlong, ?_⟩
  rcases checkFraming_append hlong limits with ⟨e, he⟩ | ⟨header, type, hok⟩
  · have hbytes := he []
    rw [List.append_nil] at hbytes
    rw [decode_of_checkFraming_error hbytes] at h
    cases h
  · have hbytes := hok []
    rw [List.append_nil, List.append_nil] at hbytes
    have hframing : recordTotalLength bytes limits = .ok (96 + header.payloadLength.toNat) := by
      rw [recordTotalLength, hbytes]
      rfl
    refine ⟨_, hframing, Nat.le_add_right _ _, ?_, ?_⟩
    · by_contra hshort
      obtain ⟨e, he⟩ := decode_of_short (.inr ⟨_, hframing, Nat.not_le.1 hshort⟩)
      rw [he] at h
      cases h
    · unfold decodeRecordEnvelope at h
      rw [hbytes] at h
      simp only [bind, Except.bind] at h
      split at h
      · cases h
      · have hrest := congrArg Prod.snd (Except.ok.inj h)
        simpa [List.drop_drop] using hrest.symm

end Locality

/-! ## One turn of the inner loop -/

/-- The sequence of the last of the records, or the one before them. -/
def sequenceAfter (last : Option UInt64) (records : List JournalRecord) : Option UInt64 :=
  records.foldl (fun _ record => some record.sequence) last

@[simp] theorem sequenceAfter_nil (last : Option UInt64) : sequenceAfter last [] = last := rfl

@[simp] theorem sequenceAfter_cons (last : Option UInt64) (record : JournalRecord)
    (records : List JournalRecord) :
    sequenceAfter last (record :: records) = sequenceAfter (some record.sequence) records := rfl

/-- The state after a record has been taken from the buffer. -/
def ReplayState.accept (s : ReplayState) (record : JournalRecord) (rest : Bytes) : ReplayState :=
  { s with
    lastSequence := some record.sequence
    records := s.records ++ [record]
    pending := rest
    validEnd := s.validEnd + (s.pending.length - rest.length)
    stopped := false }

/-- Everything a turn can do: wait for more bytes, stop at the first bytes that prove nothing, or
accept the record at the front. -/
theorem replayStep_cases (limits : RuntimeLimits) (s : ReplayState) :
    (replayStep limits false s = none ∧ ∃ e, decodeRecordEnvelope s.pending limits = .error e) ∨
    (∃ s', replayStep limits false s = some s' ∧ s'.stopped = true ∧ s'.records = s.records
        ∧ s'.validEnd = s.validEnd ∧ s'.lastSequence = s.lastSequence
        ∧ ∀ more record rest, decodeRecordEnvelope (s.pending ++ more) limits = .ok (record, rest) →
            follows s.lastSequence record.sequence = false) ∨
    (∃ record rest, replayStep limits false s = some (s.accept record rest)
        ∧ rest.length < s.pending.length ∧ rest <:+ s.pending
        ∧ follows s.lastSequence record.sequence = true
        ∧ ∀ more, decodeRecordEnvelope (s.pending ++ more) limits = .ok (record, rest ++ more)) := by
  have hheader : kJournalRecordHeaderBytes.toNat = 96 := rfl
  unfold replayStep
  rw [hheader]
  split
  · next hshort => exact .inl ⟨rfl, decode_of_short (.inl hshort)⟩
  next hlong =>
  have hlong : 96 ≤ s.pending.length := Nat.not_lt.1 hlong
  split
  · next e hframing =>
    refine .inr (.inl ⟨_, rfl, rfl, rfl, rfl, rfl, fun more record rest hdecode => ?_⟩)
    obtain ⟨e', he'⟩ := decode_of_framing_error hlong hframing more
    rw [he'] at hdecode
    cases hdecode
  next total hframing =>
  split
  · next hshort => exact .inl ⟨rfl, decode_of_short (.inr ⟨total, hframing, hshort⟩)⟩
  next htotal =>
  have happend := decode_append hlong hframing (Nat.not_lt.1 htotal)
  split
  · next e hdecode =>
    refine .inr (.inl ⟨_, rfl, rfl, rfl, rfl, rfl, fun more record rest hmore => ?_⟩)
    rw [happend, hdecode] at hmore
    cases hmore
  next record rest hdecode =>
  obtain ⟨_, total', _, hpos, hle, hrest⟩ := decode_length hdecode
  have hless : rest.length < s.pending.length := by
    rw [hrest, List.length_drop]
    omega
  rw [if_neg (Nat.ne_of_lt hless)]
  split
  · next hfollows =>
    refine .inr (.inr ⟨record, rest, rfl, hless, hrest ▸ List.drop_suffix _ _, hfollows, fun more => ?_⟩)
    rw [happend, hdecode]
    rfl
  · next hfollows =>
    refine .inr (.inl ⟨_, rfl, rfl, rfl, rfl, rfl, fun more record' rest' hmore => ?_⟩)
    rw [happend, hdecode] at hmore
    cases hmore
    exact Bool.eq_false_iff.2 hfollows

/-! ## The loops -/

section Loops

variable {limits : RuntimeLimits} {last : Option UInt64} {bytes final : Bytes}
  {records : List JournalRecord}

theorem Provable.eq_nil (h : Provable limits last bytes records final)
    (hstop : ∀ record rest, decodeRecordEnvelope bytes limits = .ok (record, rest) →
      follows last record.sequence = false) : records = [] ∧ final = bytes := by
  cases h with
  | stop _ => exact ⟨rfl, rfl⟩
  | next hrecord hfollows _ =>
    rw [hstop _ _ hrecord] at hfollows
    cases hfollows

theorem Provable.eq_cons {record : JournalRecord} {rest : Bytes}
    (h : Provable limits last bytes records final)
    (hrecord : decodeRecordEnvelope bytes limits = .ok (record, rest))
    (hfollows : follows last record.sequence = true) :
    ∃ tail, records = record :: tail ∧ Provable limits (some record.sequence) rest tail final := by
  cases h with
  | stop hstop =>
    rw [hstop _ _ hrecord] at hfollows
    cases hfollows
  | next hrecord' _ htail =>
    rw [hrecord] at hrecord'
    cases hrecord'
    exact ⟨_, rfl, htail⟩

/-- What the inner loop leaves when `unread` bytes of the file are still to come: either it has
stopped on the longest provable sequence, or it waits with the rest of that sequence ahead. -/
def Parsed (limits : RuntimeLimits) (unread : Bytes) (records : List JournalRecord) (final : Bytes)
    (s s' : ReplayState) : Prop :=
  ∃ taken ahead, records = taken ++ ahead ∧ s'.records = s.records ++ taken ∧
    s'.lastSequence = sequenceAfter s.lastSequence taken ∧
    ((s'.stopped = true ∧ ahead = [] ∧
        s'.validEnd + final.length = s.validEnd + s.pending.length + unread.length) ∨
      (s'.stopped = false ∧ s'.validEnd + s'.pending.length = s.validEnd + s.pending.length ∧
        s'.pending <:+ s.pending ∧ (∃ e, decodeRecordEnvelope s'.pending limits = .error e) ∧
        Provable limits s'.lastSequence (s'.pending ++ unread) ahead final))

theorem parsePending_stopped {s : ReplayState} (fuel : Nat) (h : s.stopped = true) :
    parsePending limits false fuel s = s := by
  cases fuel <;> simp [parsePending, h]

theorem parsePending_none {s : ReplayState} (fuel : Nat) (h : s.stopped = false)
    (hstep : replayStep limits false s = none) : parsePending limits false (fuel + 1) s = s := by
  simp [parsePending, h, hstep]

theorem parsePending_some {s s' : ReplayState} (fuel : Nat) (h : s.stopped = false)
    (hstep : replayStep limits false s = some s') :
    parsePending limits false (fuel + 1) s = parsePending limits false fuel s' := by
  simp [parsePending, h, hstep]

theorem parsePending_parsed (unread : Bytes) : ∀ (fuel : Nat) (s : ReplayState)
    (records : List JournalRecord), s.pending.length ≤ fuel → s.stopped = false →
    Provable limits s.lastSequence (s.pending ++ unread) records final →
    Parsed limits unread records final s (parsePending limits false fuel s) := by
  intro fuel
  induction fuel with
  | zero =>
    intro s records hfuel hstopped hprovable
    have hempty : s.pending = [] := List.eq_nil_of_length_eq_zero (Nat.le_zero.1 hfuel)
    refine ⟨[], records, rfl, (List.append_nil _).symm, rfl, .inr ⟨hstopped, rfl, List.suffix_rfl, ?_, hprovable⟩⟩
    exact decode_of_short (.inl (by simp [parsePending, hempty]))
  | succ fuel ih =>
    intro s records hfuel hstopped hprovable
    rcases replayStep_cases limits s with ⟨hstep, he⟩ | ⟨s', hstep, hs', hrecords, hend, hlast, hno⟩ |
      ⟨record, rest, hstep, hless, hsuffix, hfollows, hdecode⟩
    · rw [parsePending_none fuel hstopped hstep]
      exact ⟨[], records, rfl, (List.append_nil _).symm, rfl, .inr ⟨hstopped, rfl, List.suffix_rfl, he, hprovable⟩⟩
    · rw [parsePending_some fuel hstopped hstep, parsePending_stopped fuel hs']
      obtain ⟨rfl, hfinal⟩ := hprovable.eq_nil (hno unread)
      refine ⟨[], [], rfl, by rw [hrecords, List.append_nil], hlast, .inl ⟨hs', rfl, ?_⟩⟩
      rw [hend, hfinal, List.length_append]
      omega
    · rw [parsePending_some fuel hstopped hstep]
      obtain ⟨tail, rfl, htail⟩ := hprovable.eq_cons (hdecode unread) hfollows
      obtain ⟨taken, ahead, rfl, hrecords, hlast, hend⟩ :=
        ih (s.accept record rest) tail (by show rest.length ≤ fuel; omega) rfl htail
      have hlength : (s.accept record rest).validEnd + (s.accept record rest).pending.length
          = s.validEnd + s.pending.length := by
        show s.validEnd + (s.pending.length - rest.length) + rest.length = _
        omega
      rw [hlength] at hend
      refine ⟨record :: taken, ahead, rfl, ?_, hlast, hend.imp_right fun ⟨h1, h2, h3, h4⟩ =>
        ⟨h1, h2, h3.trans hsuffix, h4⟩⟩
      rw [hrecords]
      exact List.append_assoc _ [record] taken

theorem chunkSize_pos (hlimits : limits.validate.isOk = true) : 0 < chunkSize limits := by
  have hbound := record_length_lt hlimits le_rfl
  have hheader : kJournalRecordHeaderBytes.toUInt64.toNat = 96 := rfl
  have hsum : (limits.maxJournalRecordBytes + kJournalRecordHeaderBytes.toUInt64).toNat
      = limits.maxJournalRecordBytes.toNat + 96 := by
    rw [UInt64.toNat_add, hheader]
    omega
  unfold chunkSize
  omega

theorem replayLoop_stopped (reads : ReadSizes) (file : Bytes) (fuel : Nat) {s : ReplayState}
    (h : s.stopped = true) : replayLoop limits false reads file fuel s = s := by
  cases fuel <;> simp [replayLoop, h]

/-- A read takes bytes from the front of what is unread, at least one if there are any. -/
theorem readAt_append (reads : ReadSizes) {file unread : Bytes} {position want : Nat}
    (hfile : file.drop position = unread) (hwant : 0 < want) :
    ∃ unread', unread = readAt reads file position want ++ unread' ∧
      (unread ≠ [] → readAt reads file position want ≠ [] ∧ unread'.length < unread.length) := by
  have hpos := reads.count_pos position want hwant
  refine ⟨unread.drop (reads.count position want), ?_, fun hne => ?_⟩
  · rw [readAt, hfile, List.take_append_drop]
  · have hlength := List.length_pos_iff.2 hne
    rw [readAt, hfile]
    constructor
    · intro hempty
      have hzero := congrArg List.length hempty
      rw [List.length_take, List.length_nil] at hzero
      omega
    · rw [List.length_drop]
      omega

/-- One turn of the outer loop: a chunk is moved from the unread bytes to the buffer, which is
parsed. The chunk is empty only at the end of the file. -/
theorem replayLoop_turn (hlimits : limits.validate.isOk = true) (reads : ReadSizes)
    {file unread : Bytes} {s : ReplayState} (fuel : Nat) (hstopped : s.stopped = false)
    (hposition : file.drop (s.validEnd + s.pending.length) = unread)
    (hlength : file.length = s.validEnd + s.pending.length + unread.length) :
    ∃ chunk rest s', unread = chunk ++ rest ∧ (rest ≠ [] → rest.length < unread.length) ∧
      parsePending limits false (s.pending ++ chunk).length { s with pending := s.pending ++ chunk }
        = s' ∧
      replayLoop limits false reads file (fuel + 1) s =
        if !s'.stopped && file.length ≤ s'.validEnd + s'.pending.length then s'
        else replayLoop limits false reads file fuel s' := by
  obtain ⟨rest, happend, hread⟩ := readAt_append reads hposition (chunkSize_pos hlimits)
  by_cases hmore : s.validEnd + s.pending.length < file.length
  · have hne : unread ≠ [] := List.length_pos_iff.1 (by omega)
    obtain ⟨hchunk, hless⟩ := hread hne
    refine ⟨_, rest, _, happend, fun _ => hless, rfl, ?_⟩
    rw [replayLoop, hstopped, if_neg Bool.false_ne_true]
    simp only [hmore, if_true, true_and, if_neg hchunk]
  · have hempty : unread = [] := List.eq_nil_of_length_eq_zero (by omega)
    refine ⟨[], [], _, hempty, fun h => absurd rfl h, rfl, ?_⟩
    rw [replayLoop, hstopped, if_neg Bool.false_ne_true]
    simp only [hmore, if_false, false_and]

/-- The outer loop returns the provable sequence, however the reads cut the file. -/
theorem replayLoop_provable (hlimits : limits.validate.isOk = true) (reads : ReadSizes)
    {file : Bytes} : ∀ (fuel : Nat) (s : ReplayState) (unread : Bytes)
    (records : List JournalRecord), file.drop s.validEnd = s.pending ++ unread →
    s.validEnd ≤ file.length → unread.length < fuel → s.stopped = false →
    Provable limits s.lastSequence (s.pending ++ unread) records final →
    ∃ s', replayLoop limits false reads file fuel s = s' ∧ s'.records = s.records ++ records ∧
      s'.validEnd + final.length = file.length ∧
      s'.lastSequence = sequenceAfter s.lastSequence records := by
  intro fuel
  induction fuel with
  | zero => intro s unread records _ _ hfuel; omega
  -- a turn reads a chunk and takes the records that are whole, and the rest stays provable
  | succ fuel ih =>
    intro s unread records hfile hend hfuel hstopped hprovable
    have hlength : file.length = s.validEnd + s.pending.length + unread.length := by
      have hdrop := congrArg List.length hfile
      rw [List.length_drop, List.length_append] at hdrop
      omega
    have hposition : file.drop (s.validEnd + s.pending.length) = unread := by
      rw [← List.drop_drop, hfile, List.drop_left]
    obtain ⟨chunk, rest, s', rfl, hless, hparse, hturn⟩ :=
      replayLoop_turn hlimits reads fuel hstopped hposition hlength
    rw [hturn]
    rw [← List.append_assoc] at hprovable
    obtain ⟨taken, ahead, rfl, hrecords, hlast, hout⟩ := parsePending_parsed rest _
      { s with pending := s.pending ++ chunk } records le_rfl hstopped hprovable
    rw [hparse] at hrecords hlast hout
    simp only [List.length_append] at hout hlength
    rcases hout with ⟨hs', rfl, hfinal⟩ | ⟨hs', hsum, hsuffix, ⟨e, he⟩, hahead⟩
    · rw [hs', replayLoop_stopped reads file fuel hs']
      refine ⟨s', by simp, by simpa using hrecords, by omega, by simpa using hlast⟩
    · by_cases hdone : file.length ≤ s'.validEnd + s'.pending.length
      -- all of the file was read, and no record is left in it
      · have hrest : rest = [] := List.eq_nil_of_length_eq_zero (by omega)
        subst hrest
        rw [List.append_nil] at hahead
        obtain ⟨rfl, rfl⟩ := hahead.eq_nil fun record rest hdecode => by rw [he] at hdecode; cases hdecode
        refine ⟨s', by simp [hs', hdone], by simpa using hrecords, ?_, by simpa using hlast⟩
        simp only [List.length_nil] at hlength
        omega
      · have hrest : rest ≠ [] := List.length_pos_iff.1 (by omega)
        have hshorter := hless hrest
        have hdrop : file.drop s'.validEnd = s'.pending ++ rest := by
          obtain ⟨front, hfront⟩ := hsuffix
          have hfront' : s.pending ++ (chunk ++ rest) = front ++ (s'.pending ++ rest) := by
            rw [← List.append_assoc, ← List.append_assoc, hfront]
          have hend' : s'.validEnd = s.validEnd + front.length := by
            have hlengths := congrArg List.length hfront
            simp only [List.length_append] at hlengths
            omega
          rw [hend', ← List.drop_drop, hfile, hfront', List.drop_left]
        obtain ⟨s'', hloop, hrecords', hfinal, hlast'⟩ := ih s' rest ahead hdrop (by omega)
          (by omega) hs' hahead
        refine ⟨s'', by simp [hs', hdone, hloop], ?_, hfinal, ?_⟩
        · rw [hrecords', hrecords, List.append_assoc]
        · rw [hlast', hlast, sequenceAfter, sequenceAfter, sequenceAfter, List.foldl_append]

/-- The replay of a file whose header is read in one piece and accepted: the records are the
longest provable sequence after the header, and the report says where it ends. -/
theorem replay_provable (hlimits : limits.validate.isOk = true) (reads : ReadSizes) {file : Bytes}
    {header : JournalHeader} {rest : Bytes} (hread : reads.count 0 48 = 48)
    (hheader : decodeHeader (file.take 48) = .ok (header, rest)) (hsize : 48 ≤ file.length)
    (hprovable : Provable limits none (file.drop 48) records final) :
    ∃ report, replay limits false reads file = .ok (records, file.length - final.length, report) ∧
      report.lastSequence = (sequenceAfter none records).getD 0 ∧
      report.truncatedTail = decide (0 < final.length) ∧ report.journalId = header.journalId := by
  have hne : file.length ≠ 0 := by omega
  have hbytes : readAt reads file 0 kJournalHeaderBytes.toNat = file.take 48 := by
    show (file.drop 0).take (reads.count 0 48) = _
    rw [hread, List.drop_zero]
  obtain ⟨s, hloop, hrecords, hend, hlast⟩ := replayLoop_provable hlimits reads (file.length + 1)
    { validEnd := kJournalHeaderBytes.toNat } (file.drop 48) records (List.nil_append _).symm hsize
    (by rw [List.length_drop]; omega) rfl hprovable
  have hvalid : s.validEnd = file.length - final.length := by omega
  unfold replay
  rw [if_neg hne, hbytes]
  simp only [hheader, bind, Except.bind, pure, Except.pure, hloop, hrecords, List.nil_append, hvalid]
  exact ⟨_, rfl, by rw [hlast], decide_eq_decide.2 (by omega), rfl⟩

end Loops
end RolloutFabric
