/-
Compaction: `JournalWriter::rewrite` writes the records it is given to a temporary file and
replaces the journal with it. Every operation may fail; a write that fails may leave some of its
bytes behind.
-/
import RolloutFabric.Journal.Replay

namespace RolloutFabric

/-! ## The writer and its operations -/

/-- A `JournalWriter`; its limits were validated when it was opened. -/
structure JournalWriter where
  limits : RuntimeLimits
  limits_ok : limits.validate.isOk = true
  isOpen : Bool := true
  journalId : JournalId := .nil
  incarnation : IncarnationId := .nil
  controllerEpoch : UInt64 := 0
  lastSequence : UInt64 := 0
  bytes : Nat := 0
  recordsWritten : Nat := 0
  recordsSinceSnapshot : Nat := 0

/-- What the operations of one rewrite answer: the status of each, the bytes a failed write left
behind, and the readings of the clock. Writes and readings are numbered from zero. -/
structure RewriteIo where
  openTemp : Status := .success
  truncateTemp : Status := .success
  write : Nat → Status × Nat := fun _ => (.success, 0)
  sync : Status := .success
  replace : Status := .success
  reopen : Status := .success
  clock : Nat → Timestamp := fun _ => {}

/-- The temporary file, with the number of writes made and the sequence of the last record. -/
structure TempFile where
  content : Bytes := []
  writes : Nat := 0
  sequence : UInt64 := 0

/-- `write_at` at the end of the temporary file. -/
def RewriteIo.writeAt (io : RewriteIo) (temp : TempFile) (bytes : Bytes) : Status × TempFile :=
  let (status, landed) := io.write temp.writes
  if status.isOk then
    (.success, { temp with content := temp.content ++ bytes, writes := temp.writes + 1 })
  else (status, { temp with content := temp.content ++ bytes.take landed, writes := temp.writes + 1 })

/-- `replace_file`, atomic: the journal is the temporary file or is untouched. -/
def RewriteIo.replaceFile (io : RewriteIo) (temp : TempFile) (journal : Bytes) : Bytes :=
  if io.replace.isOk then temp.content else journal

namespace JournalWriter

/-- The record a rewrite makes of a type and a payload. -/
def compacted (w : JournalWriter) (sequence : UInt64) (now : Timestamp) (type : JournalRecordType)
    (payload : Bytes) : JournalRecord where
  sequence
  type
  writer := w.incarnation
  controllerEpoch := w.controllerEpoch
  writtenAt := now
  payloadDigest := sha256 payload
  payload

/-- `write_record`. -/
def writeRecord (w : JournalWriter) (io : RewriteIo) (temp : TempFile) (type : JournalRecordType)
    (payload : Bytes) : Status × TempFile :=
  let record := w.compacted (temp.sequence + 1) (io.clock temp.writes) type payload
  let encoded := encodeRecordEnvelope record w.limits
  if encoded = [] then
    (makeStatus .resourceExhausted (text "compacted record exceeds max_journal_record_bytes"), temp)
  else
    let (status, temp') := io.writeAt temp encoded
    if status.isOk then (.success, { temp' with sequence := record.sequence })
    else (status, temp')

/-- The loop over the records: it ends at the first failure. -/
def writeRecords (w : JournalWriter) (io : RewriteIo) :
    TempFile → List (JournalRecordType × Bytes) → Status × TempFile
  | temp, [] => (.success, temp)
  | temp, (type, payload) :: rest =>
    let (status, temp') := w.writeRecord io temp type payload
    if status.isOk then w.writeRecords io temp' rest else (status, temp')

def compactedHeader (w : JournalWriter) (io : RewriteIo) : JournalHeader where
  journalId := w.journalId
  formatVersion := w.limits.journalFormatVersion
  abiVersion := kRuntimeAbiVersion
  createdAt := io.clock 0

/-- `JournalWriter::rewrite`: the status, the writer afterwards, and the bytes at the journal
path. -/
def rewrite (w : JournalWriter) (io : RewriteIo) (records : List JournalRecord) (journal : Bytes) :
    Status × JournalWriter × Bytes :=
  if !w.isOpen then
    (makeStatus .unavailable (text "journal writer is not open"), w, journal)
  else if !io.openTemp.isOk then (io.openTemp, w, journal)
  else if !io.truncateTemp.isOk then (io.truncateTemp, w, journal)
  else
    let (status, temp) := io.writeAt {} (encodeHeader (w.compactedHeader io))
    if !status.isOk then (status, w, journal)
    else
      let (status, temp) := w.writeRecords io temp (records.map fun r => (r.type, r.payload))
      -- the three exits below replace the journal with whatever was written
      if !status.isOk then (status, w, io.replaceFile temp journal)
      else
        let (status, temp) := w.writeRecord io temp .compactionMarker []
        if !status.isOk then (status, w, io.replaceFile temp journal)
        else if !io.sync.isOk then (io.sync, w, io.replaceFile temp journal)
        else if !io.replace.isOk then (io.replace, { w with isOpen := false }, journal)
        else if !io.reopen.isOk then (io.reopen, { w with isOpen := false }, temp.content)
        else (.success, { w with
          bytes := temp.content.length, lastSequence := temp.sequence, recordsSinceSnapshot := 0 },
          temp.content)

end JournalWriter

/-! ## What lands in the temporary file -/

namespace JournalWriter

/-- The marker that closes a compacted journal. -/
def marker : JournalRecordType × Bytes := (.compactionMarker, [])

/-- The envelopes a rewrite sets out to write from write number `i` on, each with the answer its
write gets. -/
def plannedWrites (w : JournalWriter) (io : RewriteIo) :
    Nat → List (JournalRecordType × Bytes) → List (Bytes × Status × Nat)
  | _, [] => []
  | i, (type, payload) :: rest =>
    (encodeRecordEnvelope (w.compacted i.toUInt64 (io.clock i) type payload) w.limits, io.write i)
      :: w.plannedWrites io (i + 1) rest

end JournalWriter

/-- What is in the file after these writes: the whole of each up to the first that fails, of
which some bytes are left behind. A record that is too large has an empty envelope. -/
def landed : List (Bytes × Status × Nat) → Bytes
  | [] => []
  | (envelope, status, torn) :: rest =>
    if envelope = [] then []
    else if status.isOk then envelope ++ landed rest
    else envelope.take torn

/-- Every envelope fits and is written. -/
def Complete (writes : List (Bytes × Status × Nat)) : Prop :=
  ∀ write ∈ writes, write.1 ≠ [] ∧ write.2.1.isOk = true


/-! ## The loop writes what was planned -/

theorem RewriteIo.writeAt_ok {io : RewriteIo} {temp : TempFile}
    (h : (io.write temp.writes).1.isOk = true) (bytes : Bytes) :
    io.writeAt temp bytes
      = (.success, { temp with content := temp.content ++ bytes, writes := temp.writes + 1 }) := by
  unfold RewriteIo.writeAt
  simp only [h, if_true]

namespace JournalWriter

/-- The next record to write carries the number of its write as its sequence. -/
def InStep (temp : TempFile) : Prop := temp.sequence + 1 = temp.writes.toUInt64

@[simp] theorem compacted_sequence (w : JournalWriter) (sequence : UInt64) (now : Timestamp)
    (type : JournalRecordType) (payload : Bytes) :
    (w.compacted sequence now type payload).sequence = sequence := rfl

/-- One record: too large, torn by a failing write, or written. -/
theorem writeRecord_cases (w : JournalWriter) (io : RewriteIo) {temp : TempFile}
    (hstep : InStep temp) (item : JournalRecordType × Bytes) :
    ∃ envelope status torn,
      w.plannedWrites io temp.writes [item] = [(envelope, status, torn)] ∧
      ((envelope = [] ∧ (w.writeRecord io temp item.1 item.2).1.isOk = false ∧
          (w.writeRecord io temp item.1 item.2).2 = temp) ∨
        (envelope ≠ [] ∧ status.isOk = false ∧
          (w.writeRecord io temp item.1 item.2).1.isOk = false ∧
          (w.writeRecord io temp item.1 item.2).2.content = temp.content ++ envelope.take torn) ∨
        (envelope ≠ [] ∧ status.isOk = true ∧
          w.writeRecord io temp item.1 item.2 = (.success,
            { content := temp.content ++ envelope, writes := temp.writes + 1
              sequence := temp.sequence + 1 }))) := by
  refine ⟨_, _, _, rfl, ?_⟩
  obtain ⟨type, payload⟩ := item
  have hsequence : temp.sequence + 1 = temp.writes.toUInt64 := hstep
  unfold writeRecord RewriteIo.writeAt
  rw [hsequence]
  generalize hencoded : encodeRecordEnvelope (w.compacted temp.writes.toUInt64 (io.clock temp.writes)
    type payload) w.limits = envelope
  by_cases hempty : envelope = []
  · exact .inl ⟨hempty, by simp [hencoded, hempty], by simp [hencoded, hempty]⟩
  · cases hok : (io.write temp.writes).1.isOk
    · exact .inr (.inl ⟨hempty, rfl, by simp [hencoded, hempty, hok], by simp [hencoded, hempty, hok]⟩)
    · exact .inr (.inr ⟨hempty, rfl, by simp [hencoded, hempty, hok]⟩)

theorem plannedWrites_cons (w : JournalWriter) (io : RewriteIo) (i : Nat)
    (item : JournalRecordType × Bytes) (rest : List (JournalRecordType × Bytes)) :
    w.plannedWrites io i (item :: rest)
      = w.plannedWrites io i [item] ++ w.plannedWrites io (i + 1) rest := rfl

/-- The loop succeeds exactly on a complete plan; what it leaves is what lands of the plan. -/
theorem writeRecords_spec (w : JournalWriter) (io : RewriteIo) :
    ∀ (items : List (JournalRecordType × Bytes)) (temp : TempFile), InStep temp →
      (w.writeRecords io temp items).2.content
        = temp.content ++ landed (w.plannedWrites io temp.writes items) ∧
      ((w.writeRecords io temp items).1.isOk = true
        ↔ Complete (w.plannedWrites io temp.writes items)) ∧
      ((w.writeRecords io temp items).1.isOk = true → InStep (w.writeRecords io temp items).2)
  | [], temp, hstep => by
    refine ⟨(List.append_nil _).symm, iff_of_true rfl ?_, fun _ => hstep⟩
    intro write hwrite
    cases hwrite
  | item :: rest, temp, hstep => by
    obtain ⟨envelope, status, torn, hplan, hcases⟩ := w.writeRecord_cases io hstep item
    rw [plannedWrites_cons, hplan]
    unfold writeRecords
    rcases hcases with ⟨hempty, hfail, htemp⟩ | ⟨hne, hstatus, hfail, htemp⟩ | ⟨hne, hstatus, hwrite⟩
    · simp only [hfail, Bool.false_eq_true, if_false]
      refine ⟨by simp [htemp, landed, hempty], ?_, fun h => h.elim⟩
      refine iff_of_false not_false fun hall => ?_
      exact (hall _ (List.mem_cons_self ..)).1 hempty
    · simp only [hfail, Bool.false_eq_true, if_false]
      refine ⟨by simp [htemp, landed, hne, hstatus], ?_, fun h => h.elim⟩
      refine iff_of_false not_false fun hall => ?_
      rw [(hall _ (List.mem_cons_self ..)).2] at hstatus
      cases hstatus
    · have hnext : InStep { content := temp.content ++ envelope, writes := temp.writes + 1
                            sequence := temp.sequence + 1 } := by
        unfold InStep at hstep ⊢
        simp [hstep]
      obtain ⟨hcontent, hcomplete, hend⟩ := w.writeRecords_spec io rest _ hnext
      rw [hwrite]
      refine ⟨?_, ?_, hend⟩
      · simp only [Status.isOk_success, if_true]
        rw [hcontent, List.append_assoc]
        simp [landed, hne, hstatus]
      · refine hcomplete.trans ⟨fun hall => ?_, fun hall write hmem => ?_⟩
        · exact List.forall_mem_cons.2 ⟨⟨hne, hstatus⟩, hall⟩
        · exact hall write (List.mem_cons_of_mem _ hmem)

theorem writeRecords_append (w : JournalWriter) (io : RewriteIo)
    (ys : List (JournalRecordType × Bytes)) : ∀ (xs : List (JournalRecordType × Bytes)) (temp : TempFile),
    w.writeRecords io temp (xs ++ ys)
      = if (w.writeRecords io temp xs).1.isOk then w.writeRecords io (w.writeRecords io temp xs).2 ys
        else w.writeRecords io temp xs
  | [], temp => by simp [writeRecords]
  | (type, payload) :: xs, temp => by
    cases hwrite : w.writeRecord io temp type payload with
    | mk status temp' =>
      cases hok : status.isOk
      · simp [writeRecords, hwrite, hok]
      · simp [writeRecords, hwrite, hok, writeRecords_append w io ys xs temp']

theorem writeRecords_singleton (w : JournalWriter) (io : RewriteIo) (temp : TempFile)
    (item : JournalRecordType × Bytes) :
    (w.writeRecords io temp [item]).2 = (w.writeRecord io temp item.1 item.2).2 ∧
    (w.writeRecords io temp [item]).1.isOk = (w.writeRecord io temp item.1 item.2).1.isOk := by
  obtain ⟨type, payload⟩ := item
  cases hwrite : w.writeRecord io temp type payload with
  | mk status temp' => cases hok : status.isOk <;> simp [writeRecords, hwrite, hok]

/-! ## What a rewrite does -/

/-- The types and payloads of a compacted journal. -/
def compactedItems (records : List JournalRecord) : List (JournalRecordType × Bytes) :=
  records.map (fun r => (r.type, r.payload)) ++ [marker]

/-- What the temporary file holds when the rewrite is done with it. -/
def tempImage (w : JournalWriter) (io : RewriteIo) (records : List JournalRecord) : Bytes :=
  encodeHeader (w.compactedHeader io) ++ landed (w.plannedWrites io 1 (compactedItems records))

/-- The temporary file is there, with its header. -/
def Prepared (w : JournalWriter) (io : RewriteIo) : Prop :=
  w.isOpen = true ∧ io.openTemp.isOk = true ∧ io.truncateTemp.isOk = true ∧
    (io.write 0).1.isOk = true

theorem rewrite_of_not_prepared {w : JournalWriter} {io : RewriteIo} (h : ¬ w.Prepared io)
    (records : List JournalRecord) (journal : Bytes) :
    (w.rewrite io records journal).1.isOk = false ∧ (w.rewrite io records journal).2.2 = journal := by
  unfold rewrite
  by_cases hopen : w.isOpen = true
  · by_cases htemp : io.openTemp.isOk = true
    · by_cases htruncate : io.truncateTemp.isOk = true
      · have hwrite : (io.write 0).1.isOk = false := by
          by_contra hwrite
          exact h ⟨hopen, htemp, htruncate, by simpa using hwrite⟩
        simp [hopen, htemp, htruncate, RewriteIo.writeAt, hwrite]
      · simp [hopen, htemp, htruncate]
    · simp [hopen, htemp]
  · simp [hopen]

/-- Once the header is written, every exit replaces the journal with the temporary file; success
is reported when nothing failed. -/
theorem rewrite_of_prepared {w : JournalWriter} {io : RewriteIo} (h : w.Prepared io)
    (records : List JournalRecord) (journal : Bytes) :
    ((w.rewrite io records journal).1.isOk = true
      ↔ Complete (w.plannedWrites io 1 (compactedItems records)) ∧ io.sync.isOk = true ∧
        io.replace.isOk = true ∧ io.reopen.isOk = true) ∧
    (w.rewrite io records journal).2.2
      = if io.replace.isOk then w.tempImage io records else journal := by
  obtain ⟨hopen, htemp, htruncate, hheader⟩ := h
  have hwrite : ∀ header, io.writeAt {} header = (.success, { content := header, writes := 1 }) :=
    fun header => RewriteIo.writeAt_ok hheader header
  have hstep : InStep { content := encodeHeader (w.compactedHeader io), writes := 1 } := by
    simp [InStep]
  obtain ⟨hcontent, hcomplete, _⟩ := w.writeRecords_spec io (compactedItems records) _ hstep
  unfold tempImage rewrite
  rw [hwrite]
  generalize encodeHeader (w.compactedHeader io) = header at hcontent hcomplete ⊢
  generalize w.plannedWrites io 1 (compactedItems records) = plan at hcontent hcomplete ⊢
  rw [compactedItems, writeRecords_append] at hcontent hcomplete
  cases hwritten : w.writeRecords io { content := header, writes := 1 }
      (records.map fun r => (r.type, r.payload)) with
  | mk status temp =>
    rw [hwritten] at hcontent hcomplete
    cases hok : status.isOk
    · simp only [hok] at hcontent hcomplete
      have hincomplete : ¬ Complete plan := fun h => by simpa [hok] using hcomplete.2 h
      have himage : temp.content = header ++ landed plan := hcontent
      simp [hopen, htemp, htruncate, hwritten, hok, RewriteIo.replaceFile, hincomplete, himage]
    · simp only [hok, if_true] at hcontent hcomplete
      obtain ⟨htemp', hstatus'⟩ := w.writeRecords_singleton io temp marker
      rw [htemp'] at hcontent
      rw [hstatus'] at hcomplete
      unfold marker at hcontent hcomplete
      cases hmarker : w.writeRecord io temp .compactionMarker [] with
      | mk status' temp' =>
        simp only [hmarker] at hcontent hcomplete
        rw [← hcontent, ← hcomplete]
        cases hok' : status'.isOk <;> cases hsync : io.sync.isOk <;>
          cases hreplace : io.replace.isOk <;> cases hreopen : io.reopen.isOk <;>
          simp [hopen, htemp, htruncate, hwritten, hok, hmarker, hok', hsync, hreplace, hreopen,
            RewriteIo.replaceFile]

/-- A rewrite that fails leaves the writer as it was, or closed. -/
theorem rewrite_writer {w : JournalWriter} {io : RewriteIo} {records : List JournalRecord}
    {journal : Bytes} (h : (w.rewrite io records journal).1.isOk = false) :
    (w.rewrite io records journal).2.1 = w ∨ (w.rewrite io records journal).2.1.isOpen = false := by
  unfold rewrite at h ⊢
  split
  · exact .inl rfl
  split
  · exact .inl rfl
  split
  · exact .inl rfl
  dsimp only at h ⊢
  split
  · exact .inl rfl
  split
  · exact .inl rfl
  split
  · exact .inl rfl
  split
  · exact .inl rfl
  split
  · exact .inr rfl
  split
  · exact .inr rfl
  · simp_all

/-- No rewrite changes the identity of the writer. -/
theorem rewrite_identity (w : JournalWriter) (io : RewriteIo) (records : List JournalRecord)
    (journal : Bytes) :
    (w.rewrite io records journal).2.1.controllerEpoch = w.controllerEpoch := by
  unfold rewrite
  dsimp only
  repeat' split
  all_goals rfl

/-! ## A complete rewrite is replayed -/

theorem encodeRecordEnvelope_ne_nil (record : JournalRecord) (limits : RuntimeLimits) :
    encodeRecordEnvelope record limits ≠ []
      ↔ record.payload.length ≤ limits.maxJournalRecordBytes.toNat := by
  unfold encodeRecordEnvelope
  split
  · next hlarge => exact iff_of_false (fun h => h rfl) (Nat.not_le.2 hlarge)
  · next hfits =>
    refine iff_of_true (fun h => ?_) (Nat.not_lt.1 hfits)
    have hlength := congrArg List.length h
    simp at hlength

/-- A plan is complete when every payload fits and every write succeeds. -/
theorem complete_plannedWrites (w : JournalWriter) (io : RewriteIo) :
    ∀ (items : List (JournalRecordType × Bytes)) (i : Nat),
      Complete (w.plannedWrites io i items)
        ↔ (∀ item ∈ items, item.2.length ≤ w.limits.maxJournalRecordBytes.toNat) ∧
          ∀ k < items.length, (io.write (i + k)).1.isOk = true
  | [], i => by simp [plannedWrites, Complete]
  | item :: rest, i => by
    have ih := w.complete_plannedWrites io rest (i + 1)
    have hcons : Complete (w.plannedWrites io i (item :: rest))
        ↔ (item.2.length ≤ w.limits.maxJournalRecordBytes.toNat ∧ (io.write i).1.isOk = true) ∧
          Complete (w.plannedWrites io (i + 1) rest) := by
      rw [plannedWrites_cons]
      unfold Complete
      rw [show w.plannedWrites io i [item] = [_] from rfl, List.singleton_append,
        List.forall_mem_cons, encodeRecordEnvelope_ne_nil]
      rfl
    rw [hcons, ih, List.forall_mem_cons]
    constructor
    · rintro ⟨⟨hfits, hwrite⟩, hrest, hwrites⟩
      refine ⟨⟨hfits, hrest⟩, fun k hk => ?_⟩
      cases k with
      | zero => exact hwrite
      | succ k =>
        rw [show i + (k + 1) = i + 1 + k by omega]
        exact hwrites k (Nat.lt_of_succ_lt_succ hk)
    · rintro ⟨⟨hfits, hrest⟩, hwrites⟩
      refine ⟨⟨hfits, hwrites 0 (Nat.succ_pos _)⟩, hrest, fun k hk => ?_⟩
      rw [show i + 1 + k = i + (k + 1) by omega]
      exact hwrites (k + 1) (Nat.succ_lt_succ hk)

/-- The records of a compacted journal. -/
def compactedRecords (w : JournalWriter) (io : RewriteIo) :
    Nat → List (JournalRecordType × Bytes) → List JournalRecord
  | _, [] => []
  | i, (type, payload) :: rest =>
    w.compacted i.toUInt64 (io.clock i) type payload :: w.compactedRecords io (i + 1) rest

theorem compactedRecords_items (w : JournalWriter) (io : RewriteIo) :
    ∀ (items : List (JournalRecordType × Bytes)) (i : Nat),
      (w.compactedRecords io i items).map (fun r => (r.type, r.payload)) = items
  | [], _ => rfl
  | _ :: rest, i => by
    rw [compactedRecords, List.map_cons, w.compactedRecords_items io rest (i + 1)]
    rfl

/-- What lands of a complete plan is the encoding of its records, in increasing sequence. -/
theorem provable_landed (w : JournalWriter) (io : RewriteIo) :
    ∀ (items : List (JournalRecordType × Bytes)) (i : Nat) (last : Option UInt64),
      Complete (w.plannedWrites io i items) → i + items.length ≤ 2 ^ 64 →
      (∀ l, last = some l → l.toNat < i) →
      Provable w.limits last (landed (w.plannedWrites io i items)) (w.compactedRecords io i items) []
  | [], i, last, _, _, _ => by
    apply Provable.stop
    intro record rest hdecode
    have hshort : ([] : Bytes).length < 96 := by decide
    obtain ⟨e, he⟩ : ∃ e, decodeRecordEnvelope [] w.limits = .error e := decode_of_short (.inl hshort)
    cases he.symm.trans hdecode
  | (type, payload) :: rest, i, last, hcomplete, hcount, hlast => by
    obtain ⟨hne, hwrite⟩ := hcomplete _ (List.mem_cons_self ..)
    have hrest : Complete (w.plannedWrites io (i + 1) rest) := fun write hmem =>
      hcomplete write (List.mem_cons_of_mem _ hmem)
    rw [List.length_cons] at hcount
    have hi : i.toUInt64.toNat = i := by
      rw [Nat.toUInt64_eq, UInt64.toNat_ofNat']
      exact Nat.mod_eq_of_lt (by omega)
    have hlanded : landed (w.plannedWrites io i ((type, payload) :: rest))
        = encodeRecordEnvelope (w.compacted i.toUInt64 (io.clock i) type payload) w.limits
          ++ landed (w.plannedWrites io (i + 1) rest) := by
      rw [plannedWrites, landed, if_neg hne, if_pos hwrite]
    rw [hlanded]
    apply Provable.next
    · exact decodeRecordEnvelope_encode w.limits_ok
        ⟨(encodeRecordEnvelope_ne_nil _ _).1 hne, rfl⟩ _
    · rw [compacted_sequence]
      cases last with
      | none => rfl
      | some l => exact decide_eq_true (UInt64.lt_iff_toNat_lt.2 (by rw [hi]; exact hlast l rfl))
    · refine w.provable_landed io rest (i + 1) _ hrest (by omega) fun l hl => ?_
      cases hl
      rw [compacted_sequence, hi]
      exact Nat.lt_succ_self i

/-- The loop leaves the sequence of the last record it wrote. -/
theorem writeRecords_sequence (w : JournalWriter) (io : RewriteIo) :
    ∀ (items : List (JournalRecordType × Bytes)) (temp : TempFile), InStep temp →
      (w.writeRecords io temp items).1.isOk = true →
      some (w.writeRecords io temp items).2.sequence
        = sequenceAfter (some temp.sequence) (w.compactedRecords io temp.writes items)
  | [], _, _, _ => rfl
  | item :: rest, temp, hstep, hok => by
    obtain ⟨envelope, status, torn, hplan, hcases⟩ := w.writeRecord_cases io hstep item
    unfold writeRecords at hok ⊢
    rcases hcases with ⟨-, hfail, -⟩ | ⟨-, -, hfail, -⟩ | ⟨-, -, hwrite⟩
    · simp [hfail] at hok
    · simp [hfail] at hok
    · have hnext : InStep { content := temp.content ++ envelope, writes := temp.writes + 1
                            sequence := temp.sequence + 1 } := by
        unfold InStep at hstep ⊢
        simp [hstep]
      rw [hwrite] at hok ⊢
      simp only [Status.isOk_success, if_true] at hok ⊢
      rw [w.writeRecords_sequence io rest _ hnext hok, compactedRecords, sequenceAfter_cons,
        compacted_sequence, show temp.sequence + 1 = temp.writes.toUInt64 from hstep]

/-- The writer after a rewrite that succeeds stands at the end of the new journal. -/
theorem rewrite_ok {w : JournalWriter} {io : RewriteIo} {records : List JournalRecord}
    {journal : Bytes} (h : (w.rewrite io records journal).1.isOk = true) :
    w.Prepared io ∧ Complete (w.plannedWrites io 1 (compactedItems records)) ∧
    (w.rewrite io records journal).2.2 = w.tempImage io records ∧
    ∃ lastSequence, (w.rewrite io records journal).2.1 = { w with
        bytes := (w.tempImage io records).length, lastSequence, recordsSinceSnapshot := 0 } ∧
      some lastSequence
        = sequenceAfter none (w.compactedRecords io 1 (compactedItems records)) := by
  -- a rewrite that was not prepared never succeeds
  have hprepared : w.Prepared io := by
    by_contra hno
    rw [(rewrite_of_not_prepared hno records journal).1] at h
    cases h
  obtain ⟨hstatus, hpath⟩ := rewrite_of_prepared hprepared records journal
  obtain ⟨hcomplete, hsync, hreplace, hreopen⟩ := hstatus.1 h
  rw [hreplace, if_pos rfl] at hpath
  refine ⟨hprepared, hcomplete, hpath, ?_⟩
  obtain ⟨hopen, htemp, htruncate, hheader⟩ := hprepared
  have hstep : InStep { content := encodeHeader (w.compactedHeader io), writes := 1 } := by
    simp [InStep]
  obtain ⟨-, hwhole, -⟩ := w.writeRecords_spec io (compactedItems records) _ hstep
  have hsequence := w.writeRecords_sequence io (compactedItems records) _ hstep (hwhole.2 hcomplete)
  -- the numbering starts anew, from the header of the new file
  have hlast : sequenceAfter none (w.compactedRecords io 1 (compactedItems records))
      = sequenceAfter (some 0) (w.compactedRecords io 1 (compactedItems records)) := by
    cases records <;> rfl
  rw [hlast]
  have hwrite : ∀ header, io.writeAt {} header = (.success, { content := header, writes := 1 }) :=
    fun header => RewriteIo.writeAt_ok hheader header
  rw [compactedItems, writeRecords_append] at hwhole hsequence
  rw [← hpath]
  unfold rewrite
  rw [hwrite]
  cases hwritten : w.writeRecords io { content := encodeHeader (w.compactedHeader io), writes := 1 }
      (records.map fun r => (r.type, r.payload)) with
  | mk status temp =>
    rw [hwritten] at hwhole hsequence
    cases hok : status.isOk
    · have hfail := hwhole.2 hcomplete
      simp [hok] at hfail
    · simp only [hok, if_true] at hwhole hsequence
      obtain ⟨htemp', hstatus'⟩ := w.writeRecords_singleton io temp marker
      rw [hstatus'] at hwhole
      rw [htemp'] at hsequence
      unfold marker at hwhole hsequence
      cases hmarker : w.writeRecord io temp .compactionMarker [] with
      | mk status' temp' =>
        rw [hmarker] at hwhole hsequence
        have hok' : status'.isOk = true := hwhole.2 hcomplete
        refine ⟨temp'.sequence, ?_, hsequence⟩
        simp [hopen, htemp, htruncate, hwritten, hok, hmarker, hok', hsync, hreplace, hreopen]

/-! ## All or nothing -/

/-- A rewrite that reports an error leaves the bytes at the journal path as they were; one that
reports success leaves a journal whose replay returns the given records, then the marker. -/
def AllOrNothing (w : JournalWriter) (io : RewriteIo) (records : List JournalRecord)
    (journal : Bytes) : Prop :=
  ((w.rewrite io records journal).1.isOk = false → (w.rewrite io records journal).2.2 = journal) ∧
  ((w.rewrite io records journal).1.isOk = true →
    ∀ reads : ReadSizes, reads.count 0 48 = 48 → ∃ kept validEnd report,
      replay w.limits false reads (w.rewrite io records journal).2.2 = .ok (kept, validEnd, report) ∧
      report.truncatedTail = false ∧
      kept.map (fun r => (r.type, r.payload)) = compactedItems records)

/-- The replay of a complete image. -/
theorem replay_tempImage (w : JournalWriter) (io : RewriteIo) {records : List JournalRecord}
    (hcount : records.length + 2 ≤ 2 ^ 64)
    (hcomplete : Complete (w.plannedWrites io 1 (compactedItems records))) {reads : ReadSizes}
    (hread : reads.count 0 48 = 48) :
    ∃ kept validEnd report,
      replay w.limits false reads (w.tempImage io records) = .ok (kept, validEnd, report) ∧
      report.truncatedTail = false ∧
      kept.map (fun r => (r.type, r.payload)) = compactedItems records := by
  have hsize : 48 ≤ (w.tempImage io records).length := by
    rw [tempImage, List.length_append, encodeHeader_length]
    omega
  have hlength : (compactedItems records).length = records.length + 1 := by
    simp [compactedItems]
  have hdrop : (w.tempImage io records).drop 48
      = landed (w.plannedWrites io 1 (compactedItems records)) :=
    List.drop_left' (encodeHeader_length _)
  have htake : (w.tempImage io records).take 48 = encodeHeader (w.compactedHeader io) ++ [] := by
    rw [List.append_nil]
    exact List.take_left' (encodeHeader_length _)
  have hheader := decodeHeader_encode (journalFormatVersion_eq w.limits_ok)
    (rfl : (w.compactedHeader io).abiVersion = _) []
  rw [← htake] at hheader
  have hprovable := w.provable_landed io (compactedItems records) 1 none hcomplete (by omega)
    fun l hl => by cases hl
  rw [← hdrop] at hprovable
  obtain ⟨report, hreplay, _, htail, _⟩ :=
    replay_provable w.limits_ok reads hread hheader hsize hprovable
  exact ⟨_, _, report, hreplay, htail, w.compactedRecords_items io _ 1⟩

/-- The rewrite never starts, its replacement fails, or nothing fails; or the journal happens to
hold what the temporary file does. -/
def RewriteSafe (w : JournalWriter) (io : RewriteIo) (records : List JournalRecord)
    (journal : Bytes) : Prop :=
  ¬ w.Prepared io ∨ io.replace.isOk = false ∨
  ((∀ r ∈ records, r.payload.length ≤ w.limits.maxJournalRecordBytes.toNat) ∧
    (∀ i ≤ records.length + 1, (io.write i).1.isOk = true) ∧ io.sync.isOk = true ∧
    io.reopen.isOk = true) ∨
  w.tempImage io records = journal

/-- Once the header is written, a plan is complete when every payload fits and every write
succeeds. -/
theorem complete_compactedItems {w : JournalWriter} {io : RewriteIo} (h : w.Prepared io)
    (records : List JournalRecord) :
    Complete (w.plannedWrites io 1 (compactedItems records))
      ↔ (∀ r ∈ records, r.payload.length ≤ w.limits.maxJournalRecordBytes.toNat) ∧
        ∀ i ≤ records.length + 1, (io.write i).1.isOk = true := by
  rw [complete_plannedWrites]
  apply and_congr
  · rw [compactedItems, List.forall_mem_append, List.forall_mem_map, List.forall_mem_singleton]
    simp [marker]
  · have hlength : (compactedItems records).length = records.length + 1 := by
      simp [compactedItems]
    rw [hlength]
    constructor
    · intro hwrites i hi
      cases i with
      | zero => exact h.2.2.2
      | succ k => rw [Nat.add_comm]; exact hwrites k (by omega)
    · intro hwrites k hk
      exact hwrites _ (by omega)

/-- Compaction is all or nothing exactly when no operation after the header fails while the
replacement still succeeds: on such a failure `rewrite` replaces the journal with the torn
temporary file, and it reports an error when only the reopening failed. -/
theorem rewrite_allOrNothing_iff (w : JournalWriter) (io : RewriteIo) (records : List JournalRecord)
    (journal : Bytes) (hcount : records.length + 2 ≤ 2 ^ 64) :
    w.AllOrNothing io records journal ↔ w.RewriteSafe io records journal := by
  by_cases hprepared : w.Prepared io
  · obtain ⟨hstatus, hpath⟩ := rewrite_of_prepared hprepared records journal
    rw [complete_compactedItems hprepared] at hstatus
    have hreplay : (w.rewrite io records journal).1.isOk = true → ∀ reads : ReadSizes,
        reads.count 0 48 = 48 → ∃ kept validEnd report,
          replay w.limits false reads (w.tempImage io records) = .ok (kept, validEnd, report) ∧
          report.truncatedTail = false ∧
          kept.map (fun r => (r.type, r.payload)) = compactedItems records := fun hok reads hread =>
      w.replay_tempImage io hcount
        ((complete_compactedItems hprepared records).2 (hstatus.1 hok).1) hread
    cases hreplace : io.replace.isOk
    · rw [hreplace] at hstatus hpath
      have hfail : ¬ (w.rewrite io records journal).1.isOk = true := fun hok => by
        cases (hstatus.1 hok).2.2.1
      exact iff_of_true ⟨fun _ => hpath, fun hok => absurd hok hfail⟩ (.inr (.inl hreplace))
    · rw [hreplace, if_pos rfl] at hpath
      unfold AllOrNothing RewriteSafe
      rw [hpath]
      constructor
      · rintro ⟨herror, -⟩
        cases hok : (w.rewrite io records journal).1.isOk
        · exact .inr (.inr (.inr (herror hok)))
        · obtain ⟨⟨hfits, hwrites⟩, hsync, -, hreopen⟩ := hstatus.1 hok
          exact .inr (.inr (.inl ⟨hfits, hwrites, hsync, hreopen⟩))
      · rintro (hno | hno | ⟨hfits, hwrites, hsync, hreopen⟩ | hsame)
        · exact absurd hprepared hno
        · rw [hreplace] at hno
          cases hno
        · have hok := hstatus.2 ⟨⟨hfits, hwrites⟩, hsync, hreplace, hreopen⟩
          refine ⟨fun herror => ?_, hreplay⟩
          rw [hok] at herror
          cases herror
        · exact ⟨fun _ => hsame, hreplay⟩
  · obtain ⟨hstatus, hpath⟩ := rewrite_of_not_prepared hprepared records journal
    refine iff_of_true ⟨fun _ => hpath, fun hok => ?_⟩ (.inl hprepared)
    rw [hstatus] at hok
    cases hok

end JournalWriter

/-! ### A journal lost to a full disk -/

/-- A writer under the default limits. -/
def defaultWriter : JournalWriter where
  limits := {}
  limits_ok := by decide

/-- The disk takes the header of the temporary file and nothing more. -/
def fullDisk : RewriteIo where
  write i := if i = 0 then (.success, 0) else (makeStatus .ioError (text "journal write failed"), 0)

/-- The record of a stored plan. -/
def planRecord : JournalRecord where
  sequence := 1
  type := .planStored
  payload := text "plan"

/-- A journal that holds one record. -/
def planJournal : Bytes :=
  encodeHeader (defaultWriter.compactedHeader fullDisk) ++ encodeRecordEnvelope planRecord {}

/-- The first record cannot be written; the journal is replaced by a bare header. -/
theorem fullDisk_loses_records :
    ¬ defaultWriter.AllOrNothing fullDisk [planRecord] planJournal := by
  have hprepared : defaultWriter.Prepared fullDisk := ⟨rfl, rfl, rfl, rfl⟩
  obtain ⟨hstatus, hpath⟩ :=
    JournalWriter.rewrite_of_prepared hprepared [planRecord] planJournal
  rw [JournalWriter.complete_compactedItems hprepared] at hstatus
  rintro ⟨herror, -⟩
  have hfail : (defaultWriter.rewrite fullDisk [planRecord] planJournal).1.isOk = false := by
    by_contra hok
    have hwrites := (hstatus.1 (by simpa using hok)).1.2
    cases hwrites 1 (by decide)
  have hlanded : landed (defaultWriter.plannedWrites fullDisk 1
      (JournalWriter.compactedItems [planRecord])) = [] := by
    show (if _ then _ else if _ then _ else List.take 0 _) = []
    rw [List.take_zero]
    split <;> simp
  have hlength := congrArg List.length (hpath.symm.trans (herror hfail))
  rw [show fullDisk.replace.isOk = true from rfl, if_pos rfl, JournalWriter.tempImage, hlanded,
    planJournal, List.length_append, List.length_append, encodeHeader_length] at hlength
  have hlost : encodeRecordEnvelope planRecord {} ≠ [] :=
    (JournalWriter.encodeRecordEnvelope_ne_nil _ _).2 (by decide)
  have hpos := List.length_pos_iff.2 hlost
  rw [List.length_nil] at hlength
  omega

/-- When nothing fails the compacted journal holds the record and the marker. -/
theorem planJournal_allOrNothing :
    defaultWriter.AllOrNothing {} [planRecord] planJournal :=
  (defaultWriter.rewrite_allOrNothing_iff {} [planRecord] planJournal (by decide)).2
    (.inr (.inr (.inl ⟨by decide, fun _ _ => rfl, rfl, rfl⟩)))

end RolloutFabric
