/-
The life of a journal: it is created and reopened, appended to and compacted, and any of these can
be cut short by a crash that leaves a prefix of the bytes at its path.
-/
import RolloutFabric.Journal.Writer

namespace RolloutFabric

/-! ## States and steps -/

/-- The file at the journal path and the writer that holds it. `expected` is a ghost: the records
of the last compaction that succeeded, then those of every append that has succeeded since. -/
structure JournalState where
  path : Option Bytes := none
  writer : Option JournalWriter := none
  /-- what the writer's handle refers to once a failed rewrite has put another file at the path -/
  detached : Option Bytes := none
  /-- how many bytes at the path are known to be on disk -/
  synced : Nat := 0
  expected : List JournalRecord := []

def JournalState.file (s : JournalState) : Bytes := s.path.getD []

inductive JournalStep
  | opened (createIfMissing recoverTruncatedTail : Bool) (io : OpenIo)
  | appended (a : Appending)
  | rewritten (io : RewriteIo) (records : List JournalRecord)
  | closed
  | crashed (kept : Nat)

namespace JournalState

variable (options : JournalOpenOptions)

/-- `open`, when no other writer holds the lock. -/
def opened (s : JournalState) (createIfMissing recoverTruncatedTail : Bool) (io : OpenIo) :
    JournalState :=
  match s.writer with
  | some _ => s
  | none =>
    match JournalWriter.openJournal { options with createIfMissing, recoverTruncatedTail } io s.path with
    | (.error _, path) => { s with path, synced := min s.synced (path.getD []).length }
    | (.ok w, path) =>
      -- a header that was written and a tail that was cut have been flushed
      { s with path, writer := some w, detached := none
               synced := if path = s.path then min s.synced w.bytes else w.bytes }

def appended (s : JournalState) (a : Appending) : JournalState :=
  match s.writer, s.detached with
  | none, _ => s
  | some w, some file =>
    { s with
      writer := some (w.append a file).2.1
      detached := some (w.append a file).2.2
      expected := if (w.append a file).1.isOk then s.expected ++ [w.record a] else s.expected }
  | some w, none =>
    let (status, w', file) := w.append a s.file
    if status.isOk then
      { s with path := some file, writer := some w', synced := w'.bytes
               expected := s.expected ++ [w.record a] }
    else { s with path := some file, writer := some w' }

def rewritten (s : JournalState) (io : RewriteIo) (records : List JournalRecord) : JournalState :=
  match s.writer with
  | none => s
  | some w =>
    let (status, w', file) := w.rewrite io records s.file
    if status.isOk then
      { path := some file, writer := some w', synced := w'.bytes
        expected := w.compactedRecords io 1 (JournalWriter.compactedItems records) }
    else if w.isOpen && io.openTemp.isOk && io.truncateTemp.isOk && (io.write 0).1.isOk
        && io.replace.isOk then
      -- the file at the path is another one now; an open handle keeps the old one
      { s with path := some file, writer := some w', synced := 0
               detached := if w'.isOpen then some (s.detached.getD s.file) else none }
    else { s with path := some file, writer := some w' }

/-- A crash leaves a prefix that holds at least what is known to be on disk. -/
def crashed (s : JournalState) (kept : Nat) : JournalState :=
  { s with path := s.path.map (List.take (max kept s.synced)), writer := none, detached := none }

def step (s : JournalState) : JournalStep → JournalState
  | .opened createIfMissing recoverTruncatedTail io =>
    s.opened options createIfMissing recoverTruncatedTail io
  | .appended a => s.appended a
  | .rewritten io records => s.rewritten io records
  | .closed => { s with writer := none, detached := none }
  | .crashed kept => s.crashed kept

def run (s : JournalState) (steps : List JournalStep) : JournalState := steps.foldl (step options) s

end JournalState

/-! ## What a file proves -/

/-- The file has a valid header, and these are the provable records after it. -/
structure Proves (limits : RuntimeLimits) (file : Bytes) (records : List JournalRecord)
    (final : Bytes) : Prop where
  header : ∃ header rest, decodeHeader (file.take 48) = .ok (header, rest)
  provable : Provable limits none (file.drop 48) records final

namespace Proves

variable {limits : RuntimeLimits} {file more final : Bytes} {records : List JournalRecord}
  {record : JournalRecord}

theorem length_le (h : Proves limits file records final) : 48 ≤ file.length := by
  obtain ⟨_, _, hheader⟩ := h.header
  have hlength := decodeHeader_length hheader
  rw [List.length_take] at hlength
  omega

/-- The header and the records of a file are those of its front, with what is proved after it. -/
theorem extend (h : Proves limits file records final) (more : Bytes) :
    ∃ records' final', Proves limits (file ++ more) (records ++ records') final' := by
  obtain ⟨records', final', hprovable⟩ := h.provable.extend more
  refine ⟨records', final', ?_, ?_⟩
  · rw [List.take_append_of_le_length h.length_le]
    exact h.header
  · rw [List.drop_append_of_le_length h.length_le]
    exact hprovable

theorem unique {records' : List JournalRecord} {final' : Bytes} (h : Proves limits file records final)
    (h' : Proves limits file records' final') : records' = records ∧ final' = final :=
  h.provable.unique h'.provable

/-- What a front of the file proves comes first in what the file proves. -/
theorem of_front {front final' : Bytes} {records' : List JournalRecord}
    (h : Proves limits front records final) (h' : Proves limits (front ++ more) records' final') :
    records <+: records' := by
  obtain ⟨after, left, hextended⟩ := h.extend more
  obtain ⟨rfl, -⟩ := hextended.unique h'
  exact List.prefix_append ..

/-- Cut at the end of its records, the file proves the same. -/
theorem cut (h : Proves limits file records final) :
    Proves limits (file.take (file.length - final.length)) records [] ∧
      48 ≤ file.length - final.length := by
  have hsize := h.length_le
  obtain ⟨front, hfront, hprovable⟩ := h.provable.cut
  have hlengths := congrArg List.length hfront
  rw [List.length_drop, List.length_append] at hlengths
  have hend : 48 ≤ file.length - final.length := by omega
  refine ⟨⟨?_, ?_⟩, hend⟩
  · rw [List.take_take, Nat.min_eq_left hend]
    exact h.header
  · have hdrop : (file.take (file.length - final.length)).drop 48 = front := by
      rw [List.drop_take, hfront]
      exact List.take_left' (by omega)
    rw [hdrop]
    exact hprovable

/-- A record written at the end is proved after the others. -/
theorem write (hlimits : limits.validate.isOk = true) (h : Proves limits file records [])
    (hrecord : record.Storable limits)
    (hfollows : follows (sequenceAfter none records) record.sequence = true) :
    Proves limits (file ++ encodeRecordEnvelope record limits) (records ++ [record]) [] := by
  refine ⟨?_, ?_⟩
  · rw [List.take_append_of_le_length h.length_le]
    exact h.header
  · rw [List.drop_append_of_le_length h.length_le]
    exact h.provable.append (.single hlimits hrecord hfollows)

/-- The replay of a file returns what the file proves. -/
theorem replay (hlimits : limits.validate.isOk = true) (h : Proves limits file records final)
    {reads : ReadSizes} (hread : reads.count 0 48 = 48) :
    ∃ report, RolloutFabric.replay limits false reads file
        = .ok (records, file.length - final.length, report) ∧
      report.lastSequence = (sequenceAfter none records).getD 0 ∧
      report.truncatedTail = decide (0 < final.length) := by
  obtain ⟨header, rest, hheader⟩ := h.header
  obtain ⟨report, hreplay, hlast, htail, -⟩ :=
    replay_provable hlimits reads hread hheader h.length_le h.provable
  exact ⟨report, hreplay, hlast, htail⟩

end Proves

theorem newHeader_proves {limits : RuntimeLimits} (hlimits : limits.validate.isOk = true)
    (io : OpenIo) : Proves limits (encodeHeader (JournalWriter.newHeader limits io)) [] [] := by
  have hdecode := decodeHeader_encode (journalFormatVersion_eq hlimits)
    (rfl : (JournalWriter.newHeader limits io).abiVersion = _) []
  rw [List.append_nil] at hdecode
  constructor
  · rw [List.take_of_length_le (by rw [encodeHeader_length])]
    exact ⟨_, _, hdecode⟩
  · rw [List.drop_eq_nil_of_le (by rw [encodeHeader_length])]
    exact .stop fun record rest h => absurd (decode_shorter h) (Nat.not_lt_zero _)

/-! ## What an open does -/

namespace JournalWriter

variable {options : JournalOpenOptions} {io : OpenIo} {path path' : Option Bytes}

/-- An empty file gets the header of a new journal, or the start of one. -/
theorem createHeader_cases {limits : RuntimeLimits} (limits_ok : limits.validate.isOk = true)
    (io : OpenIo) :
    (createHeader limits_ok io []
        = (.ok (atEnd limits_ok io.journalId 0 48), encodeHeader (newHeader limits io)) ∧
      io.write.isOk = true ∧ io.sync.isOk = true) ∨
    ∃ status, createHeader limits_ok io [] = (.error status,
        if io.write.isOk then encodeHeader (newHeader limits io)
        else (encodeHeader (newHeader limits io)).take io.landed) ∧
      ¬ (io.write.isOk = true ∧ io.sync.isOk = true) := by
  unfold createHeader
  generalize encodeHeader (newHeader limits io) = header
  dsimp only
  have hwritten (bytes : Bytes) : writeAt [] 0 bytes = bytes := writeAt_end [] bytes
  rw [hwritten, hwritten]
  cases io.write.isOk with
  | false => exact .inr ⟨_, rfl, by simp⟩
  | true =>
    cases io.sync.isOk with
    | false => exact .inr ⟨_, rfl, by simp⟩
    | true => exact .inl ⟨rfl, rfl, rfl⟩

/-- A file that was replayed keeps its bytes, or is cut at the end of its records. -/
theorem recoverTail_cases (file : Bytes) {limits : RuntimeLimits}
    (limits_ok : limits.validate.isOk = true) (recoverTruncatedTail : Bool) (io : OpenIo)
    {final : Bytes} {report : RecoveryReport}
    (htail : report.truncatedTail = decide (0 < final.length)) :
    recoverTail limits_ok recoverTruncatedTail io (file.length - final.length) report file
      = (.ok (atEnd limits_ok report.journalId report.lastSequence (file.length - final.length)),
        file.take (file.length - final.length)) ∨
    ∃ status file', recoverTail limits_ok recoverTruncatedTail io (file.length - final.length) report
        file = (.error status, file') ∧
      (file' = file ∨ file' = file.take (file.length - final.length)) ∧
      ¬ (recoverTruncatedTail = true ∧ io.truncate.isOk = true ∧ io.sync.isOk = true) := by
  unfold recoverTail
  rw [htail]
  dsimp only
  split
  · next hwhole =>
    have hnil : final.length = 0 := by simpa using hwhole
    rw [hnil, Nat.sub_zero, List.take_length]
    exact .inl rfl
  split
  · next hrecover => exact .inr ⟨_, _, rfl, .inl rfl, fun h => by simp [h.1] at hrecover⟩
  split
  · next htruncate => exact .inr ⟨_, _, rfl, .inl rfl, fun h => by simp [h.2.1] at htruncate⟩
  split
  · next hsync => exact .inr ⟨_, _, rfl, .inr rfl, fun h => by simp [h.2.2] at hsync⟩
  · exact .inl rfl

/-- An open leaves the path, creates a journal, or recovers one. -/
theorem openJournal_cases (options : JournalOpenOptions) (io : OpenIo) (path : Option Bytes) :
    (∃ status, openJournal options io path = (.error status, path)) ∨
    (∃ status, openJournal options io path = (.error status, some (path.getD []))) ∨
    ∃ hlimits : options.limits.validate.isOk = true,
      (path.getD [] = [] ∧
        openJournal options io path = (createHeader hlimits io []).map id some) ∨
      ∃ records final report, Proves options.limits (path.getD []) records final ∧
        report.lastSequence = (sequenceAfter none records).getD 0 ∧
        report.truncatedTail = decide (0 < final.length) ∧
        openJournal options io path = (recoverTail hlimits options.recoverTruncatedTail io
          ((path.getD []).length - final.length) report (path.getD [])).map id some := by
  generalize hopen : openJournal options io path = result
  unfold openJournal at hopen
  split at hopen
  case isFalse => exact .inl ⟨_, hopen.symm⟩
  case isTrue hlimits =>
  split at hopen
  · exact .inl ⟨_, hopen.symm⟩
  split at hopen
  · exact .inl ⟨_, hopen.symm⟩
  split at hopen
  · exact .inl ⟨_, hopen.symm⟩
  split at hopen
  · exact .inl ⟨_, hopen.symm⟩
  dsimp only at hopen
  generalize path.getD [] = file at hopen ⊢
  split at hopen
  · exact .inr (.inl ⟨_, hopen.symm⟩)
  split at hopen
  · exact .inr (.inl ⟨_, hopen.symm⟩)
  next records validEnd report hreplay =>
  split at hopen
  · exact .inr (.inl ⟨_, hopen.symm⟩)
  split at hopen
  · next hempty =>
    obtain rfl : file = [] := List.eq_nil_of_length_eq_zero hempty
    exact .inr (.inr ⟨hlimits, .inl ⟨rfl, hopen.symm⟩⟩)
  · next hne =>
    have hfile : file ≠ [] := fun h => hne (h ▸ rfl)
    obtain ⟨header, rest, final, hheader, hprovable, rfl, hlast, htail⟩ :=
      replay_ok hlimits hfile hreplay
    exact .inr (.inr ⟨hlimits, .inr ⟨records, final, report, ⟨⟨_, _, hheader⟩, hprovable⟩, hlast,
      htail, hopen.symm⟩⟩)

/-- An open that succeeds has written the header of a new journal, or has cut an existing one at
the end of what it proves. -/
theorem openJournal_ok {w : JournalWriter} (h : openJournal options io path = (.ok w, path')) :
    w.limits = options.limits ∧ w.isOpen = true ∧ ∃ records,
      Proves options.limits (path'.getD []) records [] ∧ w.bytes = (path'.getD []).length ∧
      w.lastSequence = (sequenceAfter none records).getD 0 ∧
      ((path.getD [] = [] ∧ records = []) ∨
        ∃ final, Proves options.limits (path.getD []) records final ∧
          w.bytes = (path.getD []).length - final.length ∧
          path'.getD [] = (path.getD []).take w.bytes) := by
  rcases openJournal_cases options io path with ⟨status, hfail⟩ | ⟨status, hfail⟩ |
    ⟨hlimits, ⟨hempty, hcreate⟩ | ⟨records, final, report, hproves, hlast, htail, hrecover⟩⟩
  · cases hfail.symm.trans h
  · cases hfail.symm.trans h
  · rcases createHeader_cases hlimits io with ⟨hdone, -⟩ | ⟨status, hfail, -⟩
    · rw [hdone] at hcreate
      cases hcreate.symm.trans h
      exact ⟨rfl, rfl, [], newHeader_proves hlimits io, (encodeHeader_length _).symm, rfl,
        .inl ⟨hempty, rfl⟩⟩
    · rw [hfail] at hcreate
      cases hcreate.symm.trans h
  · rcases recoverTail_cases _ hlimits options.recoverTruncatedTail io htail with
      hdone | ⟨status, file', hfail, -⟩
    · rw [hdone] at hrecover
      cases hrecover.symm.trans h
      refine ⟨rfl, rfl, records, hproves.cut.1, ?_, hlast, .inr ⟨final, hproves, rfl, rfl⟩⟩
      exact ((List.length_take ..).trans (Nat.min_eq_left (Nat.sub_le ..))).symm
    · rw [hfail] at hrecover
      cases hrecover.symm.trans h

/-- An open that fails leaves the file, a header or the start of one in an empty file, or what the
file proves. -/
theorem openJournal_error {status : Status}
    (h : openJournal options io path = (.error status, path')) :
    path'.getD [] = path.getD [] ∨
    (path.getD [] = [] ∧ options.limits.validate.isOk = true ∧
      path'.getD [] = if io.write.isOk then encodeHeader (newHeader options.limits io)
        else (encodeHeader (newHeader options.limits io)).take io.landed) ∨
    ∃ records final, Proves options.limits (path.getD []) records final ∧
      path'.getD [] = (path.getD []).take ((path.getD []).length - final.length) := by
  rcases openJournal_cases options io path with ⟨status, hfail⟩ | ⟨status, hfail⟩ |
    ⟨hlimits, ⟨hempty, hcreate⟩ | ⟨records, final, report, hproves, hlast, htail, hrecover⟩⟩
  · cases hfail.symm.trans h
    exact .inl rfl
  · cases hfail.symm.trans h
    exact .inl rfl
  · rcases createHeader_cases hlimits io with ⟨hdone, -⟩ | ⟨status, hfail, -⟩
    · rw [hdone] at hcreate
      cases hcreate.symm.trans h
    · rw [hfail] at hcreate
      cases hcreate.symm.trans h
      exact .inr (.inl ⟨hempty, hlimits, rfl⟩)
  · rcases recoverTail_cases _ hlimits options.recoverTruncatedTail io htail with
      hdone | ⟨status, file', hfail, rfl | rfl, -⟩
    · rw [hdone] at hrecover
      cases hrecover.symm.trans h
    · rw [hfail] at hrecover
      cases hrecover.symm.trans h
      exact .inl rfl
    · rw [hfail] at hrecover
      cases hrecover.symm.trans h
      exact .inr (.inr ⟨records, final, hproves, rfl⟩)

end JournalWriter

namespace JournalWriter

variable {w : JournalWriter} {io : RewriteIo} {records : List JournalRecord}

/-- A complete image proves the compacted records. -/
theorem tempImage_proves (w : JournalWriter) (io : RewriteIo) (hcount : records.length + 2 ≤ 2 ^ 64)
    (hcomplete : Complete (w.plannedWrites io 1 (compactedItems records))) :
    Proves w.limits (w.tempImage io records)
      (w.compactedRecords io 1 (compactedItems records)) [] := by
  have hlength : (compactedItems records).length = records.length + 1 := by
    simp [compactedItems]
  have hdecode := decodeHeader_encode (journalFormatVersion_eq w.limits_ok)
    (rfl : (w.compactedHeader io).abiVersion = _) []
  rw [List.append_nil] at hdecode
  constructor
  · rw [tempImage, List.take_left' (encodeHeader_length _)]
    exact ⟨_, _, hdecode⟩
  · rw [tempImage, List.drop_left' (encodeHeader_length _)]
    exact w.provable_landed io (compactedItems records) 1 none hcomplete (by omega)
      fun l hl => by cases hl

/-- The rewrite never starts, its replacement fails, or nothing fails. -/
def RewriteClean (w : JournalWriter) (io : RewriteIo) (records : List JournalRecord) : Prop :=
  ¬ w.Prepared io ∨ io.replace.isOk = false ∨
  ((∀ r ∈ records, r.payload.length ≤ w.limits.maxJournalRecordBytes.toNat) ∧
    (∀ i ≤ records.length + 1, (io.write i).1.isOk = true) ∧ io.sync.isOk = true ∧
    io.reopen.isOk = true)

/-- A clean rewrite that fails has not replaced the journal. -/
theorem rewrite_kept {journal : Bytes} (hclean : w.RewriteClean io records)
    (h : (w.rewrite io records journal).1.isOk = false) :
    (w.rewrite io records journal).2.2 = journal ∧ (w.isOpen && io.openTemp.isOk
      && io.truncateTemp.isOk && (io.write 0).1.isOk && io.replace.isOk) = false := by
  by_cases hprepared : w.Prepared io
  · obtain ⟨hstatus, hpath⟩ := rewrite_of_prepared hprepared records journal
    have hreplace : io.replace.isOk = false := by
      rcases hclean with hno | hfail | ⟨hfits, hwrites, hsync, hreopen⟩
      · exact absurd hprepared hno
      · exact hfail
      · by_contra hdone
        rw [complete_compactedItems hprepared] at hstatus
        have hok := hstatus.2 ⟨⟨hfits, hwrites⟩, hsync, by simpa using hdone, hreopen⟩
        rw [hok] at h
        cases h
    rw [hpath, hreplace, Bool.and_false]
    exact ⟨rfl, rfl⟩
  · refine ⟨(rewrite_of_not_prepared hprepared records journal).2, ?_⟩
    by_contra hall
    simp only [Bool.not_eq_false, Bool.and_eq_true] at hall
    obtain ⟨⟨⟨⟨hopen, htemp⟩, htruncate⟩, hwrite⟩, -⟩ := hall
    exact hprepared ⟨hopen, htemp, htruncate, hwrite⟩

end JournalWriter

/-! ## What is on disk stays proved -/

/-- No sequence runs out, and no rewrite fails once its header is written unless the replacement
fails too. -/
def JournalStep.Orderly (s : JournalState) : JournalStep → Prop
  | .appended _ => ∀ w, s.writer = some w → w.lastSequence.toNat + 1 < 2 ^ 64
  | .rewritten io records => ∀ w, s.writer = some w →
    records.length + 2 ≤ 2 ^ 64 ∧ w.RewriteClean io records
  | _ => True

/-- The expected records are proved by what is known to be on disk. -/
def Retained (limits : RuntimeLimits) (s : JournalState) : Prop :=
  s.expected = [] ∨ ∃ records final, Proves limits (s.file.take s.synced) records final ∧
    s.expected.Sublist records

/-- The writer stands at the end of the records that its part of the file proves. -/
structure AtEnd (limits : RuntimeLimits) (s : JournalState) (w : JournalWriter) : Prop where
  limits_eq : w.limits = limits
  synced_le : s.synced ≤ w.bytes
  bytes_le : w.bytes ≤ s.file.length
  proves : ∃ records, Proves limits (s.file.take w.bytes) records [] ∧
    w.lastSequence = (sequenceAfter none records).getD 0

structure OnDisk (limits : RuntimeLimits) (s : JournalState) : Prop where
  synced_le : s.synced ≤ s.file.length
  held : Retained limits s
  attached : s.detached = none
  writer : ∀ w, s.writer = some w → w.isOpen = true → AtEnd limits s w

section Keeping

variable {limits : RuntimeLimits} {s : JournalState} {w : JournalWriter}

theorem Retained.of_empty (h : Retained limits s) (hfile : s.file = []) : s.expected = [] := by
  rcases h with hnone | ⟨records, final, hproves, -⟩
  · exact hnone
  · have hlength := hproves.length_le
    rw [hfile, List.take_nil] at hlength
    exact absurd hlength (by decide)

/-- The expected records are among those a longer part of the file proves. -/
theorem Retained.among (h : Retained limits s) {n : Nat} (hn : s.synced ≤ n) {records : List JournalRecord}
    {final : Bytes} (hproves : Proves limits (s.file.take n) records final) :
    s.expected.Sublist records := by
  rcases h with hnone | ⟨records', final', hproves', hsublist⟩
  · rw [hnone]
    exact List.nil_sublist _
  · have hsplit : s.file.take n = s.file.take s.synced ++ (s.file.drop s.synced).take (n - s.synced) := by
      rw [← List.take_add]
      congr 1
      omega
    rw [hsplit] at hproves
    exact hsublist.trans (hproves'.of_front hproves).sublist

/-- A file that starts with what is on disk holds the same records. -/
theorem Retained.of_take {s' : JournalState} (h : Retained limits s) (hexpected : s'.expected = s.expected)
    (htake : s'.file.take s'.synced = s.file.take s.synced) : Retained limits s' := by
  unfold Retained at h ⊢
  rw [hexpected, htake]
  exact h

/-- A file cut at the end of what it proves holds the same records. -/
theorem Retained.of_cut {s' : JournalState} (h : Retained limits s) (hsynced : s.synced ≤ s.file.length)
    (hexpected : s'.expected = s.expected) {records : List JournalRecord} {final : Bytes}
    (hproves : Proves limits s.file records final)
    (hfile : s'.file = s.file.take (s.file.length - final.length))
    (hcut : s'.synced = s.synced ∧ s.synced ≤ s.file.length - final.length ∨
      s'.synced = s.file.length - final.length) : Retained limits s' := by
  rcases hcut with ⟨hsame, hle⟩ | hall
  · apply h.of_take hexpected
    rw [hfile, hsame, List.take_take, Nat.min_eq_left hle]
  · refine .inr ⟨records, [], ?_, ?_⟩
    · rw [hfile, hall, List.take_take, Nat.min_self]
      exact hproves.cut.1
    · rw [hexpected]
      rw [← List.take_length (l := s.file)] at hproves
      exact h.among hsynced hproves

theorem OnDisk.opened {options : JournalOpenOptions} (h : OnDisk options.limits s)
    (createIfMissing recoverTruncatedTail : Bool) (io : OpenIo) :
    OnDisk options.limits (s.opened options createIfMissing recoverTruncatedTail io) := by
  unfold JournalState.opened
  split
  · exact h
  next hwriter =>
  split
  · next status path hopen =>
    -- a failed open leaves the file, an empty one, or one cut at its provable end
    have hheld : Retained options.limits
        { s with path, synced := min s.synced (path.getD []).length } := by
      rcases JournalWriter.openJournal_error hopen with hsame | ⟨hempty, -⟩ |
        ⟨records, final, hproves, hcut⟩
      · refine h.held.of_take rfl ?_
        have hlength : (path.getD []).length = s.file.length := congrArg List.length hsame
        rw [hlength, Nat.min_eq_left h.synced_le]
        exact congrArg (List.take _) hsame
      · exact .inl (h.held.of_empty hempty)
      · have hlength : (path.getD []).length = s.file.length - final.length := by
          rw [hcut, List.length_take]
          exact Nat.min_eq_left (Nat.sub_le ..)
        refine h.held.of_cut h.synced_le rfl hproves hcut ?_
        rw [hlength]
        rcases Nat.le_total s.synced (s.file.length - final.length) with hle | hge
        · exact .inl ⟨Nat.min_eq_left hle, hle⟩
        · exact .inr (Nat.min_eq_right hge)
    refine ⟨Nat.min_le_right .., hheld, h.attached, fun w hw => ?_⟩
    rw [hwriter] at hw
    cases hw
  · next w path hopen =>
    obtain ⟨hlimits, -, records, hproves, hbytes, hlast, hcases⟩ := JournalWriter.openJournal_ok hopen
    -- what is synced lies within what the writer has
    have hsynced : (if path = s.path then min s.synced w.bytes else w.bytes) ≤ w.bytes := by
      split
      · exact Nat.min_le_right ..
      · exact le_rfl
    refine ⟨hsynced.trans hbytes.le, ?_, rfl, fun w' hw' _ => ?_⟩
    · rcases hcases with ⟨hempty, -⟩ | ⟨final, hfile, hend, hcut⟩
      · exact .inl (h.held.of_empty hempty)
      · have hend' : w.bytes = s.file.length - final.length := hend
        refine h.held.of_cut h.synced_le rfl hfile (hend' ▸ hcut) ?_
        rw [← hend']
        dsimp only
        split
        · next hsame =>
          have hwhole : s.file.length ≤ w.bytes := by
            rw [hbytes, hsame]
            exact le_rfl
          have hle := h.synced_le.trans hwhole
          exact .inl ⟨Nat.min_eq_left hle, hle⟩
        · exact .inr rfl
    · cases hw'
      refine ⟨hlimits, hsynced, hbytes.le, records, ?_, hlast⟩
      rw [hbytes]
      show Proves _ ((path.getD []).take _) _ _
      rw [List.take_length]
      exact hproves

/-- A writer's part of the file is not touched by what it writes at its end. -/
theorem take_writeAt {file : Bytes} {offset n : Nat} (hoffset : offset ≤ file.length) (hn : n ≤ offset)
    (bytes : Bytes) : (writeAt file offset bytes).take n = file.take n := by
  have hlength : (file.take offset).length = offset := by
    rw [List.length_take]
    omega
  rw [writeAt_of_le hoffset, List.append_assoc, List.take_append_of_le_length (by omega),
    List.take_take, Nat.min_eq_left hn]

theorem length_writeAt {file : Bytes} {offset : Nat} (hoffset : offset ≤ file.length)
    (bytes : Bytes) : offset + bytes.length ≤ (writeAt file offset bytes).length ∧
      file.length ≤ (writeAt file offset bytes).length := by
  rw [writeAt_of_le hoffset]
  simp only [List.length_append, List.length_take, List.length_drop]
  omega

/-- The sequence after the last one follows it unless it runs out. -/
theorem follows_next {last : Option UInt64} (h : (last.getD 0).toNat + 1 < 2 ^ 64) :
    follows last (last.getD 0 + 1) = true := by
  cases last with
  | none => rfl
  | some l =>
    rw [Option.getD_some] at h ⊢
    have hsum : (l + 1).toNat = (l.toNat + 1) % 2 ^ 64 := UInt64.toNat_add ..
    rw [follows, decide_eq_true_iff, UInt64.lt_iff_toNat_lt, hsum]
    omega

/-- The writer after an append stands after the record it wrote. -/
theorem AtEnd.advanced (hlimits : limits.validate.isOk = true) (h : AtEnd limits s w)
    {a : Appending} (hrecord : (w.record a).Storable w.limits)
    (hroom : w.lastSequence.toNat + 1 < 2 ^ 64) (s' : JournalState)
    (hfile : s'.file = writeAt s.file w.bytes (w.envelope a))
    (hsynced : s'.synced = (w.advanced a).bytes) : AtEnd limits s' (w.advanced a) ∧
      ∃ records, Proves limits (s.file.take w.bytes) records [] ∧
        Proves limits (s'.file.take s'.synced) (records ++ [w.record a]) [] := by
  obtain ⟨hwlimits, hle, hbytes, records, hproves, hlast⟩ := h
  have hlengths := length_writeAt hbytes (w.envelope a)
  have htake : s'.file.take (w.advanced a).bytes = s.file.take w.bytes ++ w.envelope a := by
    rw [hfile, writeAt_of_le hbytes]
    apply List.take_left'
    rw [List.length_append, List.length_take, Nat.min_eq_left hbytes]
    rfl
  rw [hwlimits] at hrecord
  have hfollows : follows (sequenceAfter none records) (w.record a).sequence = true := by
    show follows _ (w.lastSequence + 1) = true
    rw [hlast] at hroom ⊢
    exact follows_next hroom
  have hmore := hproves.write hlimits hrecord hfollows
  rw [show encodeRecordEnvelope (w.record a) limits = w.envelope a by
    rw [JournalWriter.envelope, hwlimits], ← htake] at hmore
  refine ⟨⟨hwlimits, hsynced.le, ?_, _, hmore, ?_⟩, records, hproves, hsynced ▸ hmore⟩
  · rw [hfile]
    exact hlengths.1
  · rw [sequenceAfter_append]
    rfl

theorem OnDisk.appended (hlimits : limits.validate.isOk = true) (h : OnDisk limits s) {a : Appending}
    (horderly : (JournalStep.appended a).Orderly s) : OnDisk limits (s.appended a) := by
  unfold JournalState.appended
  rw [h.attached]
  cases hwriter : s.writer with
  | none => exact h
  | some w =>
    have hroom := horderly w hwriter
    dsimp only
    rcases w.append_cases a s.file with ⟨status, torn, heq, hfail, hopen, -⟩ | ⟨status, heq, hfail⟩ |
      ⟨heq, hopen, hrecord⟩
    · obtain ⟨hwlimits, hle, hbytes, records, hproves, hlast⟩ := h.writer w hwriter hopen
      have hlengths := length_writeAt hbytes torn
      rw [heq]
      simp only [hfail, Bool.false_eq_true, if_false]
      refine ⟨h.synced_le.trans hlengths.2, h.held.of_take rfl ?_, rfl, ?_⟩
      · exact take_writeAt hbytes hle torn
      · rintro _ ⟨⟩ _
        refine ⟨hwlimits, hle, hbytes.trans hlengths.2, records, ?_, hlast⟩
        rw [show JournalState.file _ = writeAt s.file w.bytes torn from rfl,
          take_writeAt hbytes le_rfl]
        exact hproves
    · rw [heq]
      simp only [hfail, Bool.false_eq_true, if_false]
      refine ⟨h.synced_le, h.held.of_take rfl rfl, rfl, ?_⟩
      rintro _ ⟨⟩ hopen
      obtain ⟨hwlimits, hle, hbytes, hproves⟩ := h.writer w hwriter hopen
      exact ⟨hwlimits, hle, hbytes, hproves⟩
    · have hstands := h.writer w hwriter hopen
      rw [heq]
      simp only [Status.isOk_success, if_true]
      obtain ⟨hadvanced, records, hbefore, hafter⟩ := hstands.advanced hlimits hrecord hroom {
        path := some (writeAt s.file w.bytes (w.envelope a)), writer := some (w.advanced a)
        synced := (w.advanced a).bytes, expected := s.expected ++ [w.record a] } rfl rfl
      refine ⟨hadvanced.bytes_le, .inr ⟨_, _, hafter, ?_⟩, rfl, ?_⟩
      · exact (h.held.among hstands.synced_le hbefore).append (.refl _)
      · rintro _ ⟨⟩ _
        exact hadvanced

theorem OnDisk.rewritten (h : OnDisk limits s) {io : RewriteIo} {records : List JournalRecord}
    (horderly : (JournalStep.rewritten io records).Orderly s) :
    OnDisk limits (s.rewritten io records) := by
  unfold JournalState.rewritten
  cases hwriter : s.writer with
  | none => exact h
  | some w =>
    obtain ⟨hcount, hsafe⟩ := horderly w hwriter
    dsimp only
    cases hok : (w.rewrite io records s.file).1.isOk with
    | true =>
      obtain ⟨hprepared, hcomplete, hpath, lastSequence, hw', hlast⟩ := JournalWriter.rewrite_ok hok
      have hwlimits := (h.writer w hwriter hprepared.1).limits_eq
      have hproves := w.tempImage_proves io hcount hcomplete
      rw [hwlimits, ← List.take_length (l := w.tempImage io records)] at hproves
      simp only [if_true]
      rw [hpath, hw']
      refine ⟨le_rfl, .inr ⟨_, _, hproves, List.Sublist.refl _⟩, rfl, ?_⟩
      rintro _ ⟨⟩ _
      exact ⟨hwlimits, le_rfl, le_rfl, _, hproves, by rw [← hlast]; rfl⟩
    | false =>
      obtain ⟨hpath, hkept⟩ := JournalWriter.rewrite_kept hsafe hok
      simp only [Bool.false_eq_true, if_false, hkept]
      rw [hpath]
      refine ⟨h.synced_le, h.held.of_take rfl rfl, h.attached, ?_⟩
      rintro _ ⟨⟩ hopen
      rcases JournalWriter.rewrite_writer hok with hw' | hclosed
      · rw [hw'] at hopen ⊢
        obtain ⟨hwlimits, hle, hbytes, hproves⟩ := h.writer w hwriter hopen
        exact ⟨hwlimits, hle, hbytes, hproves⟩
      · rw [hclosed] at hopen
        cases hopen

theorem crashed_file (s : JournalState) (kept : Nat) :
    (s.crashed kept).file = s.file.take (max kept s.synced) := by
  unfold JournalState.crashed JournalState.file
  cases s.path with
  | none => exact List.take_nil.symm
  | some file => rfl

theorem OnDisk.crashed (h : OnDisk limits s) (kept : Nat) : OnDisk limits (s.crashed kept) := by
  have hsynced : (s.crashed kept).synced = s.synced := rfl
  refine ⟨?_, h.held.of_take rfl ?_, rfl, fun w hw => by cases hw⟩
  · have hle := h.synced_le
    rw [crashed_file, hsynced, List.length_take]
    omega
  · rw [crashed_file, hsynced, List.take_take, Nat.min_eq_left (Nat.le_max_right ..)]

theorem OnDisk.step {options : JournalOpenOptions} (hlimits : options.limits.validate.isOk = true)
    (h : OnDisk options.limits s) {step : JournalStep} (horderly : step.Orderly s) :
    OnDisk options.limits (s.step options step) := by
  cases step with
  | opened createIfMissing recoverTruncatedTail io =>
    exact h.opened createIfMissing recoverTruncatedTail io
  | appended a => exact h.appended hlimits horderly
  | rewritten io records => exact h.rewritten horderly
  | closed => exact ⟨h.synced_le, h.held.of_take rfl rfl, rfl, fun w hw => by cases hw⟩
  | crashed kept => exact h.crashed kept

end Keeping

/-! ## A journal can be reopened -/

/-- What is at the path is empty or starts with a valid header. -/
def Readable (s : JournalState) : Prop :=
  s.file = [] ∨ ∃ header rest, decodeHeader (s.file.take 48) = .ok (header, rest)

/-- No part of a header is left behind, by a creation or by a crash. -/
def JournalStep.Whole (s : JournalState) : JournalStep → Prop
  | .opened _ _ io => s.file = [] → io.write.isOk = true ∨ io.landed = 0 ∨ 48 ≤ io.landed
  | .crashed kept =>
    s.file.take (max kept s.synced) = [] ∨ 48 ≤ (s.file.take (max kept s.synced)).length
  | _ => True

section Reading

variable {options : JournalOpenOptions} {s : JournalState}

theorem Readable.of_proves {limits : RuntimeLimits} {records : List JournalRecord} {final : Bytes}
    (h : Proves limits s.file records final) : Readable s :=
  .inr h.header

theorem Readable.opened (h : Readable s) {createIfMissing recoverTruncatedTail : Bool} {io : OpenIo}
    (hwhole : (JournalStep.opened createIfMissing recoverTruncatedTail io).Whole s) :
    Readable (s.opened options createIfMissing recoverTruncatedTail io) := by
  unfold JournalState.opened
  split
  · exact h
  split
  · next status path hopen =>
    rcases JournalWriter.openJournal_error hopen with hsame | ⟨hempty, hlimits, hheader⟩ |
      ⟨records, final, hproves, hcut⟩
    · unfold Readable JournalState.file at h ⊢
      rw [hsame]
      exact h
    · have hnew := newHeader_proves hlimits io
      unfold Readable JournalState.file
      rw [hheader]
      rcases hwhole hempty with hwrite | hnone | hall
      · rw [if_pos hwrite]
        exact .inr hnew.header
      · rw [hnone, List.take_zero]
        split
        · exact .inr hnew.header
        · exact .inl rfl
      · rw [List.take_of_length_le (by rw [encodeHeader_length]; exact hall), ite_self]
        exact .inr hnew.header
    · refine .inr ?_
      unfold JournalState.file
      rw [hcut]
      exact hproves.cut.1.header
  · next w path hopen =>
    obtain ⟨-, -, records, hproves, -⟩ := JournalWriter.openJournal_ok hopen
    exact .inr hproves.header

theorem Readable.appended (hkept : OnDisk options.limits s) (h : Readable s) (a : Appending) :
    Readable (s.appended a) := by
  unfold JournalState.appended
  rw [hkept.attached]
  cases hwriter : s.writer with
  | none => exact h
  | some w =>
    -- every write starts after the header
    have hwritten (hopen : w.isOpen = true) (bytes : Bytes) : ∃ header rest,
        decodeHeader ((writeAt s.file w.bytes bytes).take 48) = .ok (header, rest) := by
      obtain ⟨-, -, hbytes, records, hproves, -⟩ := hkept.writer w hwriter hopen
      have hsize := hproves.length_le
      have hheader := hproves.header
      rw [List.length_take] at hsize
      rw [List.take_take, Nat.min_eq_left (by omega)] at hheader
      rw [take_writeAt hbytes (by omega)]
      exact hheader
    dsimp only
    rcases w.append_cases a s.file with ⟨status, torn, heq, hfail, hopen, -⟩ | ⟨status, heq, hfail⟩ |
      ⟨heq, hopen, -⟩
    · rw [heq]
      simp only [hfail, Bool.false_eq_true, if_false]
      exact .inr (hwritten hopen torn)
    · rw [heq]
      simp only [hfail, Bool.false_eq_true, if_false]
      exact h
    · rw [heq]
      exact .inr (hwritten hopen _)

theorem Readable.rewritten (h : Readable s) {io : RewriteIo} {records : List JournalRecord}
    (horderly : (JournalStep.rewritten io records).Orderly s) :
    Readable (s.rewritten io records) := by
  unfold JournalState.rewritten
  cases hwriter : s.writer with
  | none => exact h
  | some w =>
    obtain ⟨hcount, hclean⟩ := horderly w hwriter
    dsimp only
    cases hok : (w.rewrite io records s.file).1.isOk with
    | true =>
      obtain ⟨-, hcomplete, hpath, -⟩ := JournalWriter.rewrite_ok hok
      simp only [if_true]
      rw [hpath]
      exact .of_proves (w.tempImage_proves io hcount hcomplete)
    | false =>
      obtain ⟨hpath, hkept⟩ := JournalWriter.rewrite_kept hclean hok
      simp only [Bool.false_eq_true, if_false, hkept]
      rw [hpath]
      exact h

theorem Readable.crashed (h : Readable s) {kept : Nat}
    (hwhole : (JournalStep.crashed kept).Whole s) : Readable (s.crashed kept) := by
  unfold Readable
  rw [crashed_file]
  rcases hwhole with hnone | hsize
  · exact .inl hnone
  · rcases h with hempty | hheader
    · rw [hempty, List.take_nil]
      exact .inl rfl
    · rw [List.length_take] at hsize
      rw [List.take_take, Nat.min_eq_left (by omega)]
      exact .inr hheader

theorem Readable.step (hkept : OnDisk options.limits s) (h : Readable s) {step : JournalStep}
    (horderly : step.Orderly s) (hwhole : step.Whole s) : Readable (s.step options step) := by
  cases step with
  | opened createIfMissing recoverTruncatedTail io => exact h.opened hwhole
  | appended a => exact h.appended hkept a
  | rewritten io records => exact h.rewritten horderly
  | closed => exact h
  | crashed kept => exact h.crashed hwhole

end Reading

/-- No operation fails, and the header is read in one piece. -/
structure OpenIo.Healthy (io : OpenIo) : Prop where
  lock : io.lock.isOk = true
  openFile : io.openFile.isOk = true
  scan : io.scan.isOk = true
  reads : io.reads.count 0 48 = 48
  size : io.size.isOk = true
  write : io.write.isOk = true
  truncate : io.truncate.isOk = true
  sync : io.sync.isOk = true

namespace JournalWriter

/-- When nothing fails, an open goes on to the replay. -/
theorem openJournal_healthy (options : JournalOpenOptions) {io : OpenIo} (path : Option Bytes)
    (hlimits : options.limits.validate.isOk = true)
    (hpath : options.path ≠ []) (hcreate : options.createIfMissing = true) (hio : io.Healthy) :
    openJournal options io path = match replay options.limits false io.reads (path.getD []) with
      | .error status => (.error status, some (path.getD []))
      | .ok (_, validEnd, report) =>
        if (path.getD []).length = 0 then (createHeader hlimits io (path.getD [])).map id some
        else (recoverTail hlimits options.recoverTruncatedTail io validEnd report
          (path.getD [])).map id some := by
  unfold openJournal
  rw [dif_pos hlimits, if_neg hpath, hio.lock, hcreate, hio.openFile]
  simp only [Bool.not_true, Bool.and_false, Bool.false_eq_true, if_false, hio.scan, hio.size]
  generalize path.getD [] = file
  rfl

end JournalWriter

/-- An open that recovers the tail succeeds, and the reopened journal holds every expected
record. -/
def Reopens (options : JournalOpenOptions) (s : JournalState) : Prop :=
  ∀ io : OpenIo, io.Healthy → ∃ w file records,
    JournalWriter.openJournal { options with createIfMissing := true, recoverTruncatedTail := true }
      io s.path = (.ok w, some file) ∧
    (∀ reads : ReadSizes, reads.count 0 48 = 48 →
      ∃ report, replay options.limits false reads file = .ok (records, file.length, report)) ∧
    s.expected.Sublist records

/-- Every step meets the conditions in the state it is taken in. -/
inductive HarmlessRun (options : JournalOpenOptions) : JournalState → List JournalStep → Prop
  | nil (s) : HarmlessRun options s []
  | cons {s step steps} (horderly : step.Orderly s) (hwhole : step.Whole s)
      (hrest : HarmlessRun options (s.step options step) steps) :
      HarmlessRun options s (step :: steps)

section Reopening

variable {options : JournalOpenOptions} {s : JournalState}

theorem HarmlessRun.keeps (hlimits : options.limits.validate.isOk = true)
    {steps : List JournalStep} (hrun : HarmlessRun options s steps) (hkept : OnDisk options.limits s)
    (hreadable : Readable s) :
    OnDisk options.limits (s.run options steps) ∧ Readable (s.run options steps) := by
  induction hrun with
  | nil s => exact ⟨hkept, hreadable⟩
  | cons horderly hwhole _ ih =>
    exact ih (hkept.step hlimits horderly) (hreadable.step hkept horderly hwhole)

/-- A healthy open of a readable journal recovers what it proves. -/
theorem reopens_of_readable (hlimits : options.limits.validate.isOk = true)
    (hpath : options.path ≠ []) (hkept : OnDisk options.limits s) (hreadable : Readable s) :
    Reopens options s := by
  intro io hio
  have hopen := JournalWriter.openJournal_healthy
    { options with createIfMissing := true, recoverTruncatedTail := true } s.path hlimits hpath rfl hio
  rcases hreadable with hempty | hheader
  · rw [show s.path.getD [] = [] from hempty] at hopen
    rcases JournalWriter.createHeader_cases hlimits io with ⟨hcreate, -⟩ | ⟨_, -, hno⟩
    · refine ⟨_, _, [], hopen.trans (congrArg (Prod.map id some) hcreate), fun reads hread => ?_, ?_⟩
      · obtain ⟨report, hreplay, -⟩ := (newHeader_proves hlimits io).replay hlimits hread
        exact ⟨report, hreplay⟩
      · rw [hkept.held.of_empty hempty]
    · exact absurd ⟨hio.write, hio.sync⟩ hno
  · obtain ⟨records, final, hprovable⟩ :=
      Provable.exists_of options.limits _ none (s.file.drop 48) le_rfl
    have hproves : Proves options.limits s.file records final := ⟨hheader, hprovable⟩
    have hne : ¬ (s.path.getD []).length = 0 := fun h => by
      have hsize : 48 ≤ (s.path.getD []).length := hproves.length_le
      omega
    obtain ⟨report, hreplay, -, htail⟩ := hproves.replay hlimits hio.reads
    rw [show replay options.limits false io.reads (s.path.getD []) = _ from hreplay] at hopen
    simp only [hne, if_false] at hopen
    rcases JournalWriter.recoverTail_cases s.file hlimits true io htail with
      hrecover | ⟨_, _, -, -, hno⟩
    · refine ⟨_, _, records, hopen.trans (congrArg (Prod.map id some) hrecover), fun reads hread => ?_, ?_⟩
      · obtain ⟨report', hreplay', -⟩ := hproves.cut.1.replay hlimits hread
        exact ⟨report', hreplay'⟩
      · rw [← List.take_length (l := s.file)] at hproves
        exact hkept.held.among hkept.synced_le hproves
    · exact absurd ⟨rfl, hio.truncate, hio.sync⟩ hno

theorem OnDisk.missing (limits : RuntimeLimits) : OnDisk limits {} :=
  ⟨le_rfl, .inl rfl, rfl, fun w hw => by cases hw⟩

/-- After any history of a journal whose rewrites are clean and whose header is never torn, the
journal can be reopened and holds what was appended to it. -/
theorem journal_reopens (hlimits : options.limits.validate.isOk = true) (hpath : options.path ≠ [])
    {steps : List JournalStep} (hrun : HarmlessRun options {} steps) :
    Reopens options (JournalState.run options {} steps) := by
  obtain ⟨hkept, hreadable⟩ := hrun.keeps hlimits (.missing _) (.inl rfl)
  exact reopens_of_readable hlimits hpath hkept hreadable

end Reopening

/-! ### A crash inside the header -/

def journalOptions : JournalOpenOptions where
  path := text "journal"

/-- The write of the header is cut short after twenty bytes. -/
def tornHeader : OpenIo where
  reads := wholeReads
  write := makeStatus .ioError (text "journal write failed")
  landed := 20

/-- Nothing fails. -/
def healthyOpen : OpenIo where
  reads := wholeReads

theorem healthyOpen_healthy : healthyOpen.Healthy :=
  ⟨rfl, rfl, rfl, rfl, rfl, rfl, rfl, rfl⟩

/-- A crash that leaves the first twenty bytes of the header makes the journal unopenable. -/
theorem tornHeader_unopenable : ¬ Reopens journalOptions
    (JournalState.run journalOptions {} [.opened true true tornHeader, .crashed 20]) := by
  generalize hstate : JournalState.run journalOptions {}
    [.opened true true tornHeader, .crashed 20] = s
  have hsize : (s.path.getD []).length = 20 := by
    rw [← hstate, show JournalState.path _ = some (((encodeHeader
      (JournalWriter.newHeader {} tornHeader)).take 20).take 20) from rfl]
    simp
  intro hreopens
  obtain ⟨w, file, records, hopen, -⟩ := hreopens healthyOpen healthyOpen_healthy
  obtain ⟨-, -, _, -, -, -, ⟨hempty, -⟩ | ⟨final, hproves, -⟩⟩ := JournalWriter.openJournal_ok hopen
  · rw [hempty] at hsize
    cases hsize
  · have hlength := hproves.length_le
    omega

/-- Otherwise what was appended is there after a crash. -/
theorem appended_reopens : Reopens journalOptions (JournalState.run journalOptions {}
    [.opened true true healthyOpen, .appended { type := .planStored, payload := text "plan" },
      .crashed 0]) := by
  apply journal_reopens (by decide) (by decide)
  refine .cons trivial (fun _ => .inl rfl) (.cons ?_ trivial (.cons trivial ?_ (.nil _)))
  · intro w hw
    have hwriter : (JournalState.step journalOptions {} (.opened true true healthyOpen)).writer
        = some (JournalWriter.atEnd defaultWriter.limits_ok .nil 0 48) := rfl
    cases hwriter.symm.trans hw
    decide
  · exact .inr (by decide +kernel)

end RolloutFabric
