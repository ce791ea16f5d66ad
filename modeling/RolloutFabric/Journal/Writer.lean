/-
The journal writer: `JournalWriter::open` recovers a journal or creates one, and
`JournalWriter::append` writes one record at the end the writer knows.
-/
import RolloutFabric.Journal.Provable
import RolloutFabric.Journal.Rewrite

namespace RolloutFabric

/-! ## Writing at an offset -/

/-- `write_at`: the bytes from `offset` on are overwritten; a gap before it reads as zeros. -/
def writeAt (file : Bytes) (offset : Nat) (bytes : Bytes) : Bytes :=
  (file.take offset).rightpad offset 0 ++ bytes ++ file.drop (offset + bytes.length)

theorem writeAt_of_le {file : Bytes} {offset : Nat} (h : offset ≤ file.length) (bytes : Bytes) :
    writeAt file offset bytes
      = file.take offset ++ bytes ++ file.drop (offset + bytes.length) := by
  have hlength : (file.take offset).length = offset := by
    rw [List.length_take]
    omega
  rw [writeAt, List.rightpad, hlength, Nat.sub_self, List.replicate_zero, List.append_nil]

theorem writeAt_end (file bytes : Bytes) : writeAt file file.length bytes = file ++ bytes := by
  rw [writeAt_of_le le_rfl, List.take_length, List.drop_eq_nil_of_le (Nat.le_add_right _ _),
    List.append_nil]

/-! ## `JournalWriter::append` -/

/-- The arguments of one append and what its operations answer: a write that fails leaves `landed`
of its bytes behind. -/
structure Appending where
  type : JournalRecordType := .recordHeader
  controllerEpoch : UInt64 := 0
  writer : IncarnationId := .nil
  now : Timestamp := {}
  payload : Bytes := []
  write : Status := .success
  landed : Nat := 0
  sync : Status := .success

namespace JournalWriter

/-- The record an append makes. -/
def record (w : JournalWriter) (a : Appending) : JournalRecord where
  sequence := w.lastSequence + 1
  type := a.type
  writer := a.writer
  controllerEpoch := a.controllerEpoch
  writtenAt := a.now
  payloadDigest := sha256 a.payload
  payload := a.payload

/-- `JournalWriter::append`: the status, the writer afterwards, and the bytes of its file. -/
def append (w : JournalWriter) (a : Appending) (file : Bytes) : Status × JournalWriter × Bytes :=
  if !w.isOpen then (makeStatus .unavailable (text "journal writer is not open"), w, file)
  else
    let encoded := encodeRecordEnvelope (w.record a) w.limits
    if encoded = [] then
      (makeStatus .resourceExhausted
        (text "journal record payload exceeds max_journal_record_bytes"), w, file)
    else if 2 ^ 64 ≤ w.bytes + encoded.length then
      (makeStatus .resourceExhausted (text "journal size overflowed"), w, file)
    else if w.limits.maxJournalBytes.toNat < w.bytes + encoded.length then
      (makeStatus .resourceExhausted
        (text "appending would grow the journal past max_journal_bytes; compact it first"), w, file)
    else if !a.write.isOk then (a.write, w, writeAt file w.bytes (encoded.take a.landed))
    else if !a.sync.isOk then (a.sync, w, writeAt file w.bytes encoded)
    else (.success, { w with
      bytes := w.bytes + encoded.length
      lastSequence := w.lastSequence + 1
      recordsWritten := w.recordsWritten + 1
      recordsSinceSnapshot := w.recordsSinceSnapshot + 1 }, writeAt file w.bytes encoded)

/-- A list of appends that all succeed: the writer and the file after them. -/
def appendAll : JournalWriter → List Appending → Bytes → Option (JournalWriter × Bytes)
  | w, [], file => some (w, file)
  | w, a :: rest, file =>
    if (w.append a file).1.isOk then appendAll (w.append a file).2.1 rest (w.append a file).2.2
    else none

end JournalWriter

/-! ## `JournalWriter::open` -/

structure JournalOpenOptions where
  path : Bytes := []
  limits : RuntimeLimits := {}
  createIfMissing : Bool := true
  recoverTruncatedTail : Bool := true
  exclusive : Bool := true

/-- What the operations of an open answer. `scan` is the status of the first query or read of the
scan that fails; a header write that fails leaves `landed` of its bytes behind. -/
structure OpenIo where
  lock : Status := .success
  openFile : Status := .success
  scan : Status := .success
  reads : ReadSizes
  size : Status := .success
  write : Status := .success
  landed : Nat := 0
  truncate : Status := .success
  sync : Status := .success
  journalId : JournalId := .nil
  clock : Timestamp := {}

namespace JournalWriter

/-- A writer at the end of a journal. -/
def atEnd {limits : RuntimeLimits} (limits_ok : limits.validate.isOk = true) (journalId : JournalId)
    (lastSequence : UInt64) (bytes : Nat) : JournalWriter :=
  { limits, limits_ok, journalId, lastSequence, bytes }

/-- The header of a new journal. -/
def newHeader (limits : RuntimeLimits) (io : OpenIo) : JournalHeader where
  journalId := io.journalId
  formatVersion := limits.journalFormatVersion
  abiVersion := kRuntimeAbiVersion
  createdAt := io.clock

/-- The branch of an empty file: a header is written and flushed. -/
def createHeader {limits : RuntimeLimits} (limits_ok : limits.validate.isOk = true) (io : OpenIo)
    (file : Bytes) : Result JournalWriter × Bytes :=
  let bytes := encodeHeader (newHeader limits io)
  if !io.write.isOk then (.error io.write, writeAt file 0 (bytes.take io.landed))
  else if !io.sync.isOk then (.error io.sync, writeAt file 0 bytes)
  else (.ok (atEnd limits_ok io.journalId 0 kJournalHeaderBytes.toNat), writeAt file 0 bytes)

/-- The branch of a file that was replayed: an unprovable tail is cut off. -/
def recoverTail {limits : RuntimeLimits} (limits_ok : limits.validate.isOk = true)
    (recoverTruncatedTail : Bool) (io : OpenIo) (validEnd : Nat) (report : RecoveryReport)
    (file : Bytes) : Result JournalWriter × Bytes :=
  let writer := atEnd limits_ok report.journalId report.lastSequence validEnd
  if !report.truncatedTail then (.ok writer, file)
  else if !recoverTruncatedTail then
    (.error (makeStatus .corrupt (text "journal has an unprovable tail and recovery is disabled: "
      ++ report.detail)), file)
  else if !io.truncate.isOk then (.error io.truncate, file)
  else if !io.sync.isOk then (.error io.sync, file.take validEnd)
  else (.ok writer, file.take validEnd)

/-- `JournalWriter::open`: the writer, and what is at the journal path afterwards. -/
def openJournal (options : JournalOpenOptions) (io : OpenIo) (path : Option Bytes) :
    Result JournalWriter × Option Bytes :=
  if hlimits : options.limits.validate.isOk = true then
    if options.path = [] then
      (.error (makeStatus .invalidArgument (text "journal path must not be empty")), path)
    else if options.exclusive && !io.lock.isOk then (.error io.lock, path)
    else if path.isNone && !options.createIfMissing then
      (.error (makeStatus .notFound (text "journal file does not exist")), path)
    else if !io.openFile.isOk then (.error io.openFile, path)
    else
      -- the file exists from here on, empty when it was missing
      let file := path.getD []
      if !io.scan.isOk then (.error io.scan, some file)
      else match replay options.limits false io.reads file with
        | .error status => (.error status, some file)
        | .ok (_, validEnd, report) =>
          if !io.size.isOk then (.error io.size, some file)
          else if file.length = 0 then
            let (result, file) := createHeader hlimits io file
            (result, some file)
          else
            let (result, file) :=
              recoverTail hlimits options.recoverTruncatedTail io validEnd report file
            (result, some file)
  else (.error options.limits.validate, path)

end JournalWriter

/-! ## What an append does -/

namespace JournalWriter

variable {w w' : JournalWriter} {a : Appending} {file file' : Bytes}

/-- The envelope an append writes. -/
def envelope (w : JournalWriter) (a : Appending) : Bytes :=
  encodeRecordEnvelope (w.record a) w.limits

/-- The writer after a record has been written. -/
def advanced (w : JournalWriter) (a : Appending) : JournalWriter :=
  { w with
    bytes := w.bytes + (w.envelope a).length
    lastSequence := w.lastSequence + 1
    recordsWritten := w.recordsWritten + 1
    recordsSinceSnapshot := w.recordsSinceSnapshot + 1 }

/-- An append is refused, leaves some of its bytes behind, or writes its record. -/
theorem append_cases (w : JournalWriter) (a : Appending) (file : Bytes) :
    (∃ status torn, w.append a file = (status, w, writeAt file w.bytes torn) ∧
      status.isOk = false ∧ w.isOpen = true ∧ torn <+: w.envelope a ∧
      (w.record a).Storable w.limits) ∨
    (∃ status, w.append a file = (status, w, file) ∧ status.isOk = false) ∨
    (w.append a file = (.success, w.advanced a, writeAt file w.bytes (w.envelope a)) ∧
      w.isOpen = true ∧ (w.record a).Storable w.limits) := by
  unfold append
  split
  · exact .inr (.inl ⟨_, rfl, rfl⟩)
  next hclosed =>
  have hopen : w.isOpen = true := by simpa using hclosed
  dsimp only
  split
  · exact .inr (.inl ⟨_, rfl, rfl⟩)
  next hfits =>
  have hstorable : (w.record a).Storable w.limits :=
    ⟨(encodeRecordEnvelope_ne_nil _ _).1 hfits, rfl⟩
  split
  · exact .inr (.inl ⟨_, rfl, rfl⟩)
  split
  · exact .inr (.inl ⟨_, rfl, rfl⟩)
  cases hwrite : a.write.isOk with
  | false => exact .inl ⟨_, _, rfl, hwrite, hopen, List.take_prefix _ _, hstorable⟩
  | true =>
    cases hsync : a.sync.isOk with
    | false => exact .inl ⟨_, _, rfl, hsync, hopen, List.prefix_rfl, hstorable⟩
    | true => exact .inr (.inr ⟨rfl, hopen, hstorable⟩)

theorem append_ok (h : (w.append a file).1.isOk = true) :
    w.append a file = (.success, w.advanced a, writeAt file w.bytes (w.envelope a)) ∧
      (w.record a).Storable w.limits := by
  rcases w.append_cases a file with ⟨status, torn, heq, hfail, -⟩ | ⟨status, heq, hfail⟩ |
    ⟨heq, -, hstorable⟩
  · rw [heq, hfail] at h
    cases h
  · rw [heq, hfail] at h
    cases h
  · exact ⟨heq, hstorable⟩

/-- The records a list of appends makes after a sequence. -/
def appended : UInt64 → List Appending → List JournalRecord
  | _, [] => []
  | last, a :: rest =>
    { sequence := last + 1, type := a.type, writer := a.writer, controllerEpoch := a.controllerEpoch
      writtenAt := a.now, payloadDigest := sha256 a.payload, payload := a.payload }
      :: appended (last + 1) rest

/-- Appends that all succeed at the end of the file write the envelopes of their records. -/
theorem appendAll_file (hend : w.bytes = file.length) {appends : List Appending}
    (h : w.appendAll appends file = some (w', file')) :
    file' = file ++ ((appended w.lastSequence appends).map
      fun record => encodeRecordEnvelope record w.limits).flatten ∧
    ∀ record ∈ appended w.lastSequence appends, record.Storable w.limits := by
  induction appends generalizing w file with
  | nil =>
    cases h
    simp [appended]
  | cons a rest ih =>
    rw [appendAll] at h
    split at h
    · next hok =>
      obtain ⟨heq, hstorable⟩ := append_ok hok
      rw [heq, hend, writeAt_end] at h
      have hend' : (w.advanced a).bytes = (file ++ w.envelope a).length := by
        rw [List.length_append, ← hend]
        rfl
      obtain ⟨hfile, hall⟩ := ih hend' h
      constructor
      · rw [hfile, List.append_assoc]
        rfl
      · intro record hrecord
        rcases List.mem_cons.1 hrecord with rfl | hrecord
        · exact hstorable
        · exact hall record hrecord
    · cases h

/-- The sequences of the records increase as long as they do not run out. -/
theorem increasing_appended (appends : List Appending) : ∀ last : Option UInt64,
    Increasing last (appended (last.getD 0) appends)
      ↔ (last.getD 0).toNat + appends.length < 2 ^ 64 := by
  induction appends with
  | nil =>
    intro last
    exact iff_of_true trivial (by simpa using (last.getD 0).toNat_lt)
  | cons a rest ih =>
    intro last
    have hlt := (last.getD 0).toNat_lt
    have hnext := ih (some (last.getD 0 + 1))
    have hsum : (last.getD 0 + 1).toNat = ((last.getD 0).toNat + 1) % 2 ^ 64 := UInt64.toNat_add ..
    rw [Option.getD_some] at hnext
    rw [appended, Increasing, hnext, hsum, List.length_cons]
    have hfollows : follows last (last.getD 0 + 1) = true ↔ (last.getD 0).toNat + 1 < 2 ^ 64 := by
      cases last with
      | none => exact iff_of_true rfl (by decide)
      | some l =>
        rw [Option.getD_some] at hsum ⊢
        rw [follows, decide_eq_true_iff, UInt64.lt_iff_toNat_lt, hsum]
        have hl := l.toNat_lt
        omega
    rw [hfollows]
    omega

/-- Storable records in increasing sequence are all proved. -/
theorem provable_encoded {limits : RuntimeLimits} (hlimits : limits.validate.isOk = true) :
    ∀ {records : List JournalRecord} {last : Option UInt64},
      (∀ record ∈ records, record.Storable limits) → Increasing last records →
      Provable limits last
        (records.map fun record => encodeRecordEnvelope record limits).flatten records []
  | [], last, _, _ => .stop fun _ _ h => absurd (decode_shorter h) (Nat.not_lt_zero _)
  | record :: records, last, hstorable, hincreasing => by
    rw [List.map_cons, List.flatten_cons]
    refine .next (decodeRecordEnvelope_encode hlimits (hstorable _ (List.mem_cons_self ..)) _)
      hincreasing.1 (provable_encoded hlimits ?_ hincreasing.2)
    exact fun record hrecord => hstorable record (List.mem_cons_of_mem _ hrecord)

end JournalWriter

/-! ## The replay keeps the provable prefix -/

section Keeps

variable {limits : RuntimeLimits} {file rest : Bytes} {header : JournalHeader}

theorem decodeHeader_length {bytes : Bytes} (h : decodeHeader bytes = .ok (header, rest)) :
    48 ≤ bytes.length := by
  unfold decodeHeader at h
  by_contra hshort
  have hfail : bytes.length < kJournalHeaderBytes.toNat := Nat.not_le.1 hshort
  rw [decide_eq_true hfail] at h
  cases h

/-- A header that does not arrive in one read is taken for a truncated one. -/
theorem replay_short_header (limits : RuntimeLimits) (reads : ReadSizes) (stopAtSnapshot : Bool) (hfile : file ≠ [])
    (hshort : reads.count 0 48 < 48) :
    ∃ status, replay limits stopAtSnapshot reads file = .error status := by
  have hne : ¬ file.length = 0 := fun h => hfile (List.eq_nil_of_length_eq_zero h)
  have hread : (readAt reads file 0 kJournalHeaderBytes.toNat).length
      < kJournalHeaderBytes.toNat := by
    show (List.take (reads.count 0 48) _).length < 48
    rw [List.length_take]
    omega
  unfold replay decodeHeader
  rw [if_neg hne]
  simp only [decide_eq_true hread, bind, Except.bind]
  exact ⟨_, rfl⟩

/-- A file that is replayed without an error, unless it is empty, has a valid header, and what is
returned is its provable sequence. -/
theorem replay_ok (hlimits : limits.validate.isOk = true) {reads : ReadSizes} {file : Bytes}
    {records : List JournalRecord} {validEnd : Nat} {report : RecoveryReport} (hfile : file ≠ [])
    (h : replay limits false reads file = .ok (records, validEnd, report)) :
    ∃ header rest final, decodeHeader (file.take 48) = .ok (header, rest) ∧
      Provable limits none (file.drop 48) records final ∧ validEnd = file.length - final.length ∧
      report.lastSequence = (sequenceAfter none records).getD 0 ∧
      report.truncatedTail = decide (0 < final.length) := by
  have hread : reads.count 0 48 = 48 := by
    refine Nat.le_antisymm (reads.count_le 0 48) (Nat.not_lt.1 fun hshort => ?_)
    obtain ⟨status, hfail⟩ := replay_short_header limits reads false hfile hshort
    cases hfail.symm.trans h
  have hbytes : readAt reads file 0 kJournalHeaderBytes.toNat = file.take 48 := by
    show (file.drop 0).take (reads.count 0 48) = _
    rw [hread, List.drop_zero]
  cases hheader : decodeHeader (file.take 48) with
  | error status =>
    have hne : ¬ file.length = 0 := fun h => hfile (List.eq_nil_of_length_eq_zero h)
    unfold replay at h
    rw [if_neg hne, hbytes] at h
    simp only [hheader, bind, Except.bind] at h
    cases h
  | ok result =>
    obtain ⟨header, rest⟩ := result
    have hsize : 48 ≤ file.length := by
      have hlength := decodeHeader_length hheader
      rw [List.length_take] at hlength
      omega
    obtain ⟨found, final, hprovable⟩ := Provable.exists_of limits _ none (file.drop 48) le_rfl
    obtain ⟨report', hreplay, hlast, htail, -⟩ :=
      replay_provable hlimits reads hread hheader hsize hprovable
    rw [h] at hreplay
    cases hreplay
    exact ⟨header, rest, final, rfl, hprovable, rfl, hlast, htail⟩

/-- The replay returns the longest provable sequence and where it ends; after the file is cut
there, appends that all succeed are what the next replay returns after it. -/
def KeepsProvable (hlimits : limits.validate.isOk = true) (reads reads' : ReadSizes) (file : Bytes)
    (appends : List Appending) : Prop :=
  ∃ records final report, Provable limits none (file.drop 48) records final ∧
    replay limits false reads file = .ok (records, file.length - final.length, report) ∧
    ∀ w file', (JournalWriter.atEnd hlimits report.journalId report.lastSequence
        (file.length - final.length)).appendAll appends (file.take (file.length - final.length))
          = some (w, file') →
      ∃ report', replay limits false reads' file'
        = .ok (records ++ JournalWriter.appended report.lastSequence appends, file'.length, report')

/-- The replay of a file with a valid header keeps what it can prove exactly when each replay
reads the header in one piece and the sequences of the appended records do not run out. -/
theorem replay_keeps_provable_iff (hlimits : limits.validate.isOk = true) (reads reads' : ReadSizes)
    (hheader : decodeHeader (file.take 48) = .ok (header, rest)) {records : List JournalRecord}
    {final : Bytes} (hprovable : Provable limits none (file.drop 48) records final)
    (appends : List Appending) :
    KeepsProvable hlimits reads reads' file appends
      ↔ reads.count 0 48 = 48 ∧
        (((JournalWriter.atEnd hlimits header.journalId ((sequenceAfter none records).getD 0)
            (file.length - final.length)).appendAll appends
            (file.take (file.length - final.length))).isSome = true →
          reads'.count 0 48 = 48 ∧
          ((sequenceAfter none records).getD 0).toNat + appends.length < 2 ^ 64) := by
  have hsize : 48 ≤ file.length := by
    have hlength := decodeHeader_length hheader
    rw [List.length_take] at hlength
    omega
  have hne : file ≠ [] := List.ne_nil_of_length_pos (by omega)
  rcases Nat.lt_or_ge (reads.count 0 48) 48 with hshort | hge
  · refine iff_of_false ?_ fun h => by omega
    rintro ⟨_, _, _, _, hreplay, _⟩
    obtain ⟨status, hfail⟩ := replay_short_header limits reads false hne hshort
    rw [hfail] at hreplay
    cases hreplay
  have hread : reads.count 0 48 = 48 := Nat.le_antisymm (reads.count_le 0 48) hge
  obtain ⟨report, hreplay, hlast, -, hid⟩ := replay_provable hlimits reads hread hheader hsize hprovable
  obtain ⟨front, hfront, hfrontProvable⟩ := hprovable.cut
  -- the file cut at the end of its provable sequence
  have hlengths := congrArg List.length hfront
  rw [List.length_drop, List.length_append] at hlengths
  have hcut : file.take (file.length - final.length) = file.take 48 ++ front := by
    have hsplit : file = file.take 48 ++ front ++ final := by
      rw [List.append_assoc, ← hfront, List.take_append_drop]
    conv_lhs => rw [hsplit]
    apply List.take_left'
    simp only [List.length_append, List.length_take]
    omega
  have hend : (file.take 48 ++ front).length = file.length - final.length := by
    rw [← hcut, List.length_take]
    omega
  -- the provable sequence is unique, so the property is about what the writer appends
  have hkeeps : KeepsProvable hlimits reads reads' file appends ↔
      ∀ w file', (JournalWriter.atEnd hlimits header.journalId ((sequenceAfter none records).getD 0)
        (file.length - final.length)).appendAll appends (file.take (file.length - final.length))
          = some (w, file') →
      ∃ report', replay limits false reads' file' = .ok (records
        ++ JournalWriter.appended ((sequenceAfter none records).getD 0) appends, file'.length,
          report') := by
    constructor
    · rintro ⟨records', final', report', hprovable', hreplay', hafter⟩
      obtain ⟨rfl, rfl⟩ := hprovable.unique hprovable'
      rw [hreplay] at hreplay'
      cases hreplay'
      rw [hlast, hid] at hafter
      exact hafter
    · intro hafter
      refine ⟨records, final, report, hprovable, hreplay, ?_⟩
      rw [hlast, hid]
      exact hafter
  rw [hkeeps, hcut]
  simp only [hread, true_and]
  generalize hwriter : JournalWriter.atEnd hlimits header.journalId
    ((sequenceAfter none records).getD 0) (file.length - final.length) = writer
  have hwlimits : writer.limits = limits := by rw [← hwriter]; rfl
  have hwlast : writer.lastSequence = (sequenceAfter none records).getD 0 := by rw [← hwriter]; rfl
  have hwend : writer.bytes = (file.take 48 ++ front).length := by rw [hend, ← hwriter]; rfl
  cases hall : writer.appendAll appends (file.take 48 ++ front) with
  -- an append failed, and both sides say nothing
  | none =>
    refine iff_of_true (fun w file' h => ?_) (fun h => ?_)
    · cases h
    · cases h
  -- all were appended: the file is the header, the sequence and what was appended
  | some result =>
    obtain ⟨w, file'⟩ := result
    obtain ⟨hfile', hstorable⟩ := JournalWriter.appendAll_file hwend hall
    rw [hwlimits, hwlast] at hfile' hstorable
    rw [List.append_assoc] at hfile'
    have htake : file'.take 48 = file.take 48 := by
      rw [hfile', List.take_append_of_le_length (by rw [List.length_take]; omega), List.take_take]
      rfl
    have hdrop : file'.drop 48 = front ++ ((JournalWriter.appended
        ((sequenceAfter none records).getD 0) appends).map
          fun record => encodeRecordEnvelope record limits).flatten := by
      rw [hfile']
      exact List.drop_left' (by rw [List.length_take]; omega)
    have hsize' : 48 ≤ file'.length := by
      rw [hfile', List.length_append, List.length_take]
      omega
    rw [← htake] at hheader
    have hincreasing := JournalWriter.increasing_appended appends (sequenceAfter none records)
    constructor
    -- what is replayed increases, so the sequence numbers did not wrap
    · intro hafter _
      obtain ⟨report', hreplay'⟩ := hafter w file' rfl
      have hread' : reads'.count 0 48 = 48 := by
        refine Nat.le_antisymm (reads'.count_le 0 48) (Nat.not_lt.1 fun hshort => ?_)
        obtain ⟨status, hfail⟩ :=
          replay_short_header limits reads' false
            (List.ne_nil_of_length_pos (show 0 < file'.length by omega)) hshort
        rw [hfail] at hreplay'
        cases hreplay'
      refine ⟨hread', hincreasing.1 ?_⟩
      obtain ⟨found, left, hfound⟩ := Provable.exists_of limits _ none (file'.drop 48) le_rfl
      obtain ⟨_, hreplayed, _⟩ := replay_provable hlimits reads' hread' hheader hsize' hfound
      rw [hreplayed] at hreplay'
      have hrecords := (Prod.mk.inj (Except.ok.inj hreplay')).1
      have hfoundIncreasing := hfound.increasing
      rw [hrecords] at hfoundIncreasing
      exact (increasing_append.1 hfoundIncreasing).2
    -- without a wrap the records appended are provable after the ones before
    · intro hcondition w₀ file₀ hsome
      cases hsome
      obtain ⟨hread', hroom⟩ := hcondition rfl
      have hmore := JournalWriter.provable_encoded hlimits hstorable (hincreasing.2 hroom)
      have hwhole := hfrontProvable.append hmore
      rw [← hdrop] at hwhole
      obtain ⟨report', hreplay', _⟩ := replay_provable hlimits reads' hread' hheader hsize' hwhole
      exact ⟨report', by simpa using hreplay'⟩

end Keeps

/-! ### A header that arrives in pieces -/

/-- Every read returns all that it was asked for. -/
def wholeReads : ReadSizes where
  count _ want := want
  count_pos _ _ h := h
  count_le _ _ := le_rfl

/-- Every read returns one byte. -/
def byteReads : ReadSizes where
  count _ want := min want 1
  count_pos _ _ h := Nat.lt_min.2 ⟨h, Nat.one_pos⟩
  count_le _ _ := Nat.min_le_left _ _

/-- A journal without records. -/
def bareJournal : Bytes := encodeHeader (defaultWriter.compactedHeader {})

theorem bareJournal_header :
    decodeHeader (bareJournal.take 48) = .ok (defaultWriter.compactedHeader {}, []) := by
  have hheader : decodeHeader (encodeHeader (defaultWriter.compactedHeader {}) ++ [])
      = .ok (defaultWriter.compactedHeader {}, []) := decodeHeader_encode rfl rfl []
  rw [List.append_nil] at hheader
  rw [List.take_of_length_le (by rw [bareJournal, encodeHeader_length])]
  exact hheader

theorem bareJournal_provable : Provable {} none (bareJournal.drop 48) [] [] := by
  rw [List.drop_eq_nil_of_le (by rw [bareJournal, encodeHeader_length])]
  exact .stop fun record rest h => absurd (decode_shorter h) (Nat.not_lt_zero _)

/-- Read byte by byte, a valid journal is refused as corrupt. -/
theorem byteReads_refuse_header : decodeHeader (bareJournal.take 48)
      = .ok (defaultWriter.compactedHeader {}, []) ∧
    ¬ KeepsProvable defaultWriter.limits_ok byteReads wholeReads bareJournal [] := by
  refine ⟨bareJournal_header, ?_⟩
  rintro ⟨_, _, _, _, hreplay, _⟩
  have hne : bareJournal ≠ [] := List.ne_nil_of_length_pos (by rw [bareJournal, encodeHeader_length]; decide)
  obtain ⟨status, hfail⟩ := replay_short_header {} byteReads false hne (by decide)
  cases hfail.symm.trans hreplay

/-- Read whole, it keeps what is appended to it. -/
theorem bareJournal_keeps :
    KeepsProvable defaultWriter.limits_ok wholeReads wholeReads bareJournal
      [{ type := .planStored, payload := text "plan" }] :=
  (replay_keeps_provable_iff defaultWriter.limits_ok wholeReads wholeReads bareJournal_header
    bareJournal_provable _).2 ⟨rfl, fun _ => ⟨rfl, by decide⟩⟩

end RolloutFabric
