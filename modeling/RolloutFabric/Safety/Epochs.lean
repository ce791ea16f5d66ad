/-
The epochs controllers claim: each controller that opens a journal scans it, claims the epoch
after the highest one it finds, and stamps what it writes with it.
-/
import RolloutFabric.Journal.History
import RolloutFabric.Orchestrator.World

namespace RolloutFabric

/-! ## Controllers on one journal -/

/-- A journal and the controller that holds it. `claimed` is a ghost: the epochs of the opens that
have succeeded, oldest first. -/
structure Lineage where
  journal : JournalState := {}
  /-- the epoch of the controller that is open -/
  current : Option UInt64 := none
  claimed : List UInt64 := []

/-- What `Controller::open` is given. `ready` says whether everything after the claim succeeds. -/
structure Opening where
  io : OpenIo
  scan : Status := .success
  reads : ReadSizes
  incarnation : IncarnationId := .nil
  claimedAt : Timestamp := {}
  write : Status := .success
  landed : Nat := 0
  sync : Status := .success
  ready : Bool := true

inductive LineageStep
  | opened (o : Opening)
  | appended (a : Appending)
  | rewritten (io : RewriteIo) (records : List JournalRecord)
  | closed
  | crashed (kept : Nat)

def highestEpoch (records : List JournalRecord) : UInt64 :=
  records.foldl (fun highest r => if highest < r.controllerEpoch then r.controllerEpoch else highest) 0

/-- The record of a claim. -/
def Opening.claim (o : Opening) (epoch : UInt64) : Appending where
  type := .incarnationClaimed
  controllerEpoch := epoch
  writer := o.incarnation
  now := o.claimedAt
  payload := (JournalEntry.incarnationClaimed o.incarnation epoch o.claimedAt).payload
  write := o.write
  landed := o.landed
  sync := o.sync

/-- `set_writer_identity`. -/
def JournalWriter.setWriterIdentity (w : JournalWriter) (incarnation : IncarnationId)
    (epoch : UInt64) : JournalWriter :=
  { w with incarnation, controllerEpoch := epoch }

def JournalState.closed (s : JournalState) : JournalState :=
  { s with writer := none, detached := none }

namespace Lineage

variable (options : JournalOpenOptions)

/-- `Controller::open`, when no other controller holds the lock. -/
def opened (s : Lineage) (o : Opening) : Lineage :=
  match s.current, s.journal.writer with
  | none, none =>
    let journal := s.journal.opened options true true o.io
    match journal.writer with
    | none => { s with journal }
    | some w =>
      if !o.scan.isOk then { s with journal := journal.closed }
      else match replay options.limits false o.reads journal.file with
        | .error _ => { s with journal := journal.closed }
        | .ok (records, _, _) =>
          let epoch := highestEpoch records + 1
          let writer := w.setWriterIdentity o.incarnation epoch
          let claimed := { journal with writer := some writer }.appended (o.claim epoch)
          if (writer.append (o.claim epoch) journal.file).1.isOk && o.ready then
            { journal := claimed, current := some epoch, claimed := s.claimed ++ [epoch] }
          else { s with journal := claimed.closed }
  | _, _ => s

/-- Every record is appended under the epoch of the controller. -/
def appended (s : Lineage) (a : Appending) : Lineage :=
  match s.current with
  | none => s
  | some epoch => { s with journal := s.journal.appended { a with controllerEpoch := epoch } }

def rewritten (s : Lineage) (io : RewriteIo) (records : List JournalRecord) : Lineage :=
  match s.current with
  | none => s
  | some _ => { s with journal := s.journal.rewritten io records }

def step (s : Lineage) : LineageStep → Lineage
  | .opened o => s.opened options o
  | .appended a => s.appended a
  | .rewritten io records => s.rewritten io records
  | .closed => { s with journal := s.journal.closed, current := none }
  | .crashed kept => { s with journal := s.journal.crashed kept, current := none }

def run (s : Lineage) (steps : List LineageStep) : Lineage := steps.foldl (step options) s

end Lineage

/-! ## What is claimed -/

theorem le_highestEpoch {records : List JournalRecord} {r : JournalRecord} (h : r ∈ records) :
    r.controllerEpoch ≤ highestEpoch records := by
  induction records using List.reverseRecOn with
  | nil => cases h
  | append_singleton records last ih =>
    unfold highestEpoch at ih ⊢
    rw [List.foldl_append, List.foldl_cons, List.foldl_nil]
    rcases List.mem_append.1 h with hold | hlast
    · have hle := ih hold
      split
      · next hlt => exact UInt64.le_trans hle (UInt64.le_of_lt hlt)
      · exact hle
    · rw [List.mem_singleton.1 hlast]
      split
      · exact UInt64.le_refl _
      · next hge => exact UInt64.not_lt.1 hge

theorem highestEpoch_mem (records : List JournalRecord) :
    highestEpoch records = 0 ∨ ∃ r ∈ records, r.controllerEpoch = highestEpoch records := by
  induction records using List.reverseRecOn with
  | nil => exact .inl rfl
  | append_singleton records last ih =>
    unfold highestEpoch at ih ⊢
    rw [List.foldl_append, List.foldl_cons, List.foldl_nil]
    split
    · exact .inr ⟨last, by simp, rfl⟩
    · refine ih.imp_right fun ⟨r, hr, heq⟩ => ⟨r, List.mem_append_left _ hr, heq⟩

/-- The epochs claimed so far increase, and no record in the journal of a controller that is open
carries an epoch above its own. -/
structure EpochsIncrease (limits : RuntimeLimits) (s : Lineage) : Prop where
  increasing : s.claimed.Pairwise (· < ·)
  bounded : ∀ epoch, s.current = some epoch → ∀ records final,
    Proves limits s.journal.file records final → ∀ r ∈ records, r.controllerEpoch ≤ epoch

/-- No sequence and no epoch runs out, no rewrite fails once its header is written unless the
replacement fails too, and nothing is appended over the rest of an append that failed. -/
def LineageStep.Orderly (limits : RuntimeLimits) (s : Lineage) : LineageStep → Prop
  | .opened _ => ∀ records final, Proves limits s.journal.file records final →
    ((sequenceAfter none records).getD 0).toNat + 1 < 2 ^ 64 ∧
    ∀ r ∈ records, r.controllerEpoch.toNat + 1 < 2 ^ 64
  | .appended a => (JournalStep.appended a).Orderly s.journal ∧
    ∀ w, s.journal.writer = some w → w.isOpen = true → w.bytes = s.journal.file.length
  | .rewritten io records => (JournalStep.rewritten io records).Orderly s.journal
  | _ => True

/-- Every step meets the conditions in the state it is taken in. -/
inductive OrderlyRun (options : JournalOpenOptions) : Lineage → List LineageStep → Prop
  | nil (s) : OrderlyRun options s []
  | cons {s step steps} (horderly : step.Orderly options.limits s)
      (hrest : OrderlyRun options (s.step options step) steps) :
      OrderlyRun options s (step :: steps)

/-- The newest claim is carried by a record that is on disk, and the controller that is open
stamps what it writes with it. -/
structure Claims (limits : RuntimeLimits) (s : Lineage) : Prop where
  kept : OnDisk limits s.journal
  epochs : EpochsIncrease limits s
  carried : ∀ epoch ∈ s.claimed, ∃ r ∈ s.journal.expected, epoch ≤ r.controllerEpoch
  newest : ∀ epoch, s.current = some epoch → ∀ earlier ∈ s.claimed, earlier ≤ epoch
  identity : ∀ epoch, s.current = some epoch → ∀ w, s.journal.writer = some w →
    w.controllerEpoch = epoch

section Claiming

variable {options : JournalOpenOptions} {limits : RuntimeLimits} {s : Lineage}

theorem EpochsIncrease.of_no_current (h : s.claimed.Pairwise (· < ·)) (hcurrent : s.current = none) :
    EpochsIncrease limits s :=
  ⟨h, fun epoch hepoch => by rw [hcurrent] at hepoch; cases hepoch⟩

/-- Without a controller the claims stay as they are. -/
theorem Claims.idle (h : Claims limits s) {s' : Lineage} (hkept : OnDisk limits s'.journal)
    (hexpected : ∀ r ∈ s.journal.expected, r ∈ s'.journal.expected) (hcurrent : s'.current = none)
    (hclaimed : s'.claimed = s.claimed) : Claims limits s' where
  kept := hkept
  epochs := .of_no_current (hclaimed ▸ h.epochs.increasing) hcurrent
  carried epoch hepoch := by
    rw [hclaimed] at hepoch
    obtain ⟨r, hr, hle⟩ := h.carried epoch hepoch
    exact ⟨r, hexpected r hr, hle⟩
  newest epoch hepoch := by rw [hcurrent] at hepoch; cases hepoch
  identity epoch hepoch := by rw [hcurrent] at hepoch; cases hepoch

theorem OnDisk.closed {journal : JournalState} (h : OnDisk limits journal) : OnDisk limits journal.closed :=
  ⟨h.synced_le, h.held.of_take rfl rfl, rfl, fun w hw => by cases hw⟩

/-- What an append does to a journal whose writer is attached to the file at the path. -/
theorem appended_eq {journal : JournalState} {w : JournalWriter} (hwriter : journal.writer = some w)
    (hattached : journal.detached = none) (a : Appending) :
    (journal.appended a).file = (w.append a journal.file).2.2 ∧
    (journal.appended a).writer = some (w.append a journal.file).2.1 ∧
    (journal.appended a).expected = if (w.append a journal.file).1.isOk
      then journal.expected ++ [w.record a] else journal.expected := by
  unfold JournalState.appended
  rw [hwriter, hattached]
  dsimp only
  cases (w.append a journal.file).1.isOk <;> exact ⟨rfl, rfl, rfl⟩

theorem append_identity (w : JournalWriter) (a : Appending) (file : Bytes) :
    (w.append a file).2.1.controllerEpoch = w.controllerEpoch := by
  rcases w.append_cases a file with ⟨status, torn, heq, -⟩ | ⟨status, heq, -⟩ | ⟨heq, -⟩
  all_goals rw [heq]
  rfl

/-- What an append writes, or leaves of its record, proves at most that record on top. -/
theorem proves_appended (hlimits : limits.validate.isOk = true) {journal : JournalState}
    (hkept : OnDisk limits journal) {w : JournalWriter} (hwriter : journal.writer = some w)
    (hroom : w.lastSequence.toNat + 1 < 2 ^ 64)
    (hend : w.isOpen = true → w.bytes = journal.file.length) {a : Appending}
    {records : List JournalRecord} {final : Bytes}
    (hafter : Proves limits (journal.appended a).file records final) {r : JournalRecord}
    (hr : r ∈ records) : r = w.record a ∨
      ∃ before left, Proves limits journal.file before left ∧ r ∈ before := by
  rw [(appended_eq hwriter hkept.attached a).1] at hafter
  have hwritten {torn : Bytes} (hopen : w.isOpen = true) (hstorable : (w.record a).Storable w.limits)
      (hstart : torn <+: w.envelope a)
      (hafter : Proves limits (writeAt journal.file w.bytes torn) records final) :
      r = w.record a ∨ ∃ before left, Proves limits journal.file before left ∧ r ∈ before := by
    obtain ⟨hwlimits, -, -, before, hbefore, hlast⟩ := hkept.writer w hwriter hopen
    rw [hend hopen, List.take_length] at hbefore
    rw [hwlimits] at hstorable
    have hfollows : follows (sequenceAfter none before) (w.record a).sequence = true := by
      show follows _ (w.lastSequence + 1) = true
      rw [hlast] at hroom ⊢
      exact follows_next hroom
    have hwhole := hbefore.write hlimits hstorable hfollows
    obtain ⟨more, hmore⟩ := hstart
    rw [show encodeRecordEnvelope (w.record a) limits = torn ++ more by
      rw [hmore, JournalWriter.envelope, hwlimits], ← List.append_assoc] at hwhole
    rw [hend hopen, writeAt_end] at hafter
    rcases List.mem_append.1 ((hafter.of_front hwhole).mem hr) with hold | hnew
    · exact .inr ⟨before, [], hbefore, hold⟩
    · exact .inl (List.mem_singleton.1 hnew)
  rcases w.append_cases a journal.file with ⟨status, torn, heq, -, hopen, hstart, hstorable⟩ |
    ⟨status, heq, -⟩ | ⟨heq, hopen, hstorable⟩
  · rw [heq] at hafter
    exact hwritten hopen hstorable hstart hafter
  · rw [heq] at hafter
    exact .inr ⟨records, final, hafter, hr⟩
  · rw [heq] at hafter
    exact hwritten hopen hstorable List.prefix_rfl hafter

theorem Claims.appended (hlimits : limits.validate.isOk = true) (h : Claims limits s)
    {a : Appending} (horderly : (LineageStep.appended a).Orderly limits s) :
    Claims limits (s.appended a) := by
  unfold Lineage.appended
  split
  · exact h
  next epoch hcurrent =>
  generalize ha : ({ a with controllerEpoch := epoch } : Appending) = a'
  have hepoch : a'.controllerEpoch = epoch := by rw [← ha]
  obtain ⟨hroom, hend⟩ := horderly
  have hkept := h.kept.appended hlimits (a := a') hroom
  cases hwriter : s.journal.writer with
  | none =>
    have hsame : s.journal.appended a' = s.journal := by
      unfold JournalState.appended
      rw [hwriter]
    rw [hsame]
    exact h
  | some w =>
    obtain ⟨-, hwriter', hexpected⟩ := appended_eq hwriter h.kept.attached a'
    refine ⟨hkept, ⟨h.epochs.increasing, ?_⟩, ?_, h.newest, ?_⟩
    · intro epoch' hepoch' records final hafter r hr
      rcases proves_appended hlimits h.kept hwriter (hroom w hwriter) (hend w hwriter) hafter hr with
        rfl | ⟨before, left, hbefore, hr⟩
      · cases hcurrent.symm.trans hepoch'
        exact hepoch ▸ UInt64.le_refl _
      · exact h.epochs.bounded epoch' hepoch' before left hbefore r hr
    · intro claimed hclaimed
      obtain ⟨r, hr, hle⟩ := h.carried claimed hclaimed
      refine ⟨r, ?_, hle⟩
      show r ∈ (s.journal.appended a').expected
      rw [hexpected]
      split
      · exact List.mem_append_left _ hr
      · exact hr
    · rintro epoch' hepoch' w' hw'
      cases hwriter'.symm.trans hw'
      rw [append_identity]
      exact h.identity epoch' hepoch' w hwriter

/-- Every record of a compacted journal carries the identity of the writer. -/
theorem compactedRecords_epoch (w : JournalWriter) (io : RewriteIo) :
    ∀ (items : List (JournalRecordType × Bytes)) (i : Nat),
      ∀ r ∈ w.compactedRecords io i items, r.controllerEpoch = w.controllerEpoch
  | [], _, r, hr => by cases hr
  | (type, payload) :: rest, i, r, hr => by
    rcases List.mem_cons.1 hr with rfl | hr
    · rfl
    · exact compactedRecords_epoch w io rest (i + 1) r hr

theorem Claims.rewritten (h : Claims limits s) {io : RewriteIo} {records : List JournalRecord}
    (horderly : (LineageStep.rewritten io records).Orderly limits s) :
    Claims limits (s.rewritten io records) := by
  unfold Lineage.rewritten
  split
  · exact h
  next epoch hcurrent =>
  have hkept : OnDisk limits (s.journal.rewritten io records) := h.kept.rewritten horderly
  cases hwriter : s.journal.writer with
  | none =>
    have hsame : s.journal.rewritten io records = s.journal := by
      unfold JournalState.rewritten
      rw [hwriter]
    rw [hsame]
    exact h
  | some w =>
    obtain ⟨hcount, hclean⟩ := horderly w hwriter
    have hidentity := h.identity epoch hcurrent w hwriter
    cases hok : (w.rewrite io records s.journal.file).1.isOk with
    -- the new file proves the compacted records, all under the epoch of the writer
    | true =>
      obtain ⟨hprepared, hcomplete, hpath, lastSequence, hw', -⟩ := JournalWriter.rewrite_ok hok
      have hwlimits := (h.kept.writer w hwriter hprepared.1).limits_eq
      have hproves := w.tempImage_proves io hcount hcomplete
      rw [hwlimits] at hproves
      have hjournal : (s.journal.rewritten io records).file = w.tempImage io records ∧
          (s.journal.rewritten io records).expected
            = w.compactedRecords io 1 (JournalWriter.compactedItems records) ∧
          ∀ w', (s.journal.rewritten io records).writer = some w' →
            w'.controllerEpoch = w.controllerEpoch := by
        unfold JournalState.rewritten
        rw [hwriter]
        simp only [hok, if_true]
        rw [hpath, hw']
        refine ⟨rfl, trivial, ?_⟩
        rintro _ ⟨⟩
        rfl
      obtain ⟨hfile, hexpected, hwriter'⟩ := hjournal
      refine ⟨hkept, ⟨h.epochs.increasing, ?_⟩, ?_, h.newest, ?_⟩
      · intro epoch' hepoch' found final hfound r hr
        cases hcurrent.symm.trans hepoch'
        rw [show Lineage.journal _ = s.journal.rewritten io records from rfl, hfile] at hfound
        obtain ⟨rfl, -⟩ := hproves.unique hfound
        rw [compactedRecords_epoch w io _ _ r hr, hidentity]
        exact UInt64.le_refl _
      -- the compacted journal is not empty: it ends with its marker
      · intro claimed hclaimed
        have hmarker : w.compactedRecords io 1 (JournalWriter.compactedItems records) ≠ [] := by
          intro hnil
          have hitems := w.compactedRecords_items io (JournalWriter.compactedItems records) 1
          rw [hnil] at hitems
          simp [JournalWriter.compactedItems] at hitems
        obtain ⟨r, hr⟩ := List.exists_mem_of_ne_nil _ hmarker
        refine ⟨r, hexpected ▸ hr, ?_⟩
        rw [compactedRecords_epoch w io _ _ r hr, hidentity]
        exact h.newest epoch hcurrent claimed hclaimed
      · intro epoch' hepoch' w' hw'
        rw [hwriter' w' hw']
        exact h.identity epoch' hepoch' w hwriter
    -- a rewrite that failed left the file and what is expected of it
    | false =>
      obtain ⟨hpath, hnot⟩ := JournalWriter.rewrite_kept hclean hok
      have hjournal : (s.journal.rewritten io records).file = s.journal.file ∧
          (s.journal.rewritten io records).expected = s.journal.expected ∧
          ∀ w', (s.journal.rewritten io records).writer = some w' →
            w'.controllerEpoch = w.controllerEpoch := by
        unfold JournalState.rewritten
        rw [hwriter]
        simp only [hok, Bool.false_eq_true, if_false, hnot]
        rw [hpath]
        refine ⟨rfl, trivial, ?_⟩
        rintro _ ⟨⟩
        exact w.rewrite_identity io records s.journal.file
      obtain ⟨hfile, hexpected, hwriter'⟩ := hjournal
      refine ⟨hkept, ⟨h.epochs.increasing, ?_⟩, ?_, h.newest, ?_⟩
      · intro epoch' hepoch' found final hfound r hr
        rw [show Lineage.journal _ = s.journal.rewritten io records from rfl, hfile] at hfound
        exact h.epochs.bounded epoch' hepoch' found final hfound r hr
      · intro claimed hclaimed
        obtain ⟨r, hr, hle⟩ := h.carried claimed hclaimed
        exact ⟨r, hexpected ▸ hr, hle⟩
      · intro epoch' hepoch' w' hw'
        rw [hwriter' w' hw']
        exact h.identity epoch' hepoch' w hwriter

theorem opened_expected (journal : JournalState) (io : OpenIo) :
    (journal.opened options true true io).expected = journal.expected := by
  unfold JournalState.opened
  split
  · rfl
  split <;> rfl

/-- The writer of an open that succeeds stands at the end of a file that proves what it did. -/
theorem opened_writer {journal : JournalState} {io : OpenIo} {w : JournalWriter}
    (hfree : journal.writer = none)
    (hwriter : (journal.opened options true true io).writer = some w) :
    ∃ records, Proves options.limits (journal.opened options true true io).file records [] ∧
      w.bytes = (journal.opened options true true io).file.length ∧
      w.lastSequence = (sequenceAfter none records).getD 0 ∧
      (records = [] ∨ ∃ final, Proves options.limits journal.file records final) := by
  unfold JournalState.opened at hwriter ⊢
  rw [hfree] at hwriter ⊢
  dsimp only at hwriter ⊢
  split at hwriter
  · cases hwriter
  · next w' path hopen =>
    cases hwriter
    obtain ⟨-, -, records, hproves, hbytes, hlast, hcases⟩ := JournalWriter.openJournal_ok hopen
    refine ⟨records, hproves, hbytes, hlast, ?_⟩
    rcases hcases with ⟨-, hnone⟩ | ⟨final, hfile, -⟩
    · exact .inl hnone
    · exact .inr ⟨final, hfile⟩

/-- The epoch a controller claims is above every epoch it found. -/
theorem lt_nextEpoch {records : List JournalRecord}
    (hroom : ∀ r ∈ records, r.controllerEpoch.toNat + 1 < 2 ^ 64) :
    highestEpoch records < highestEpoch records + 1 := by
  have hlt : (highestEpoch records).toNat + 1 < 2 ^ 64 := by
    rcases highestEpoch_mem records with hzero | ⟨r, hr, heq⟩
    · rw [hzero]
      decide
    · rw [← heq]
      exact hroom r hr
  have hsum : (highestEpoch records + 1).toNat = ((highestEpoch records).toNat + 1) % 2 ^ 64 :=
    UInt64.toNat_add ..
  rw [UInt64.lt_iff_toNat_lt, hsum]
  omega

theorem Claims.opened (h : Claims options.limits s) (hlimits : options.limits.validate.isOk = true)
    {o : Opening} (horderly : (LineageStep.opened o).Orderly options.limits s) :
    Claims options.limits (s.opened options o) := by
  unfold Lineage.opened
  split
  case h_2 => exact h
  case h_1 hcurrent hfree =>
  have hkept := h.kept.opened true true o.io
  have hexpected := @opened_expected options s.journal o.io
  have hopened := @opened_writer options s.journal o.io
  generalize s.journal.opened options true true o.io = journal at hkept hexpected hopened ⊢
  dsimp only
  have hidle {s' : Lineage} (hkept : OnDisk options.limits s'.journal)
      (hexpected' : ∀ r ∈ journal.expected, r ∈ s'.journal.expected) (hcurrent : s'.current = none)
      (hclaimed : s'.claimed = s.claimed) : Claims options.limits s' :=
    h.idle hkept (hexpected ▸ hexpected') hcurrent hclaimed
  cases hwriter : journal.writer with
  | none => exact hidle hkept (fun r hr => hr) hcurrent rfl
  | some w =>
    dsimp only
    split
    · exact hidle hkept.closed (fun r hr => hr) hcurrent rfl
    split
    · exact hidle hkept.closed (fun r hr => hr) hcurrent rfl
    next found validEnd report hreplay =>
    obtain ⟨records, hproves, hbytes, hlast, hfound⟩ := hopened hfree hwriter
    -- the scan finds what the open left
    have hne : journal.file ≠ [] := List.ne_nil_of_length_pos (by have := hproves.length_le; omega)
    obtain ⟨_, _, _, _, hprovable, _⟩ := replay_ok hlimits hne hreplay
    obtain ⟨rfl, -⟩ := hproves.provable.unique hprovable
    generalize hepoch : highestEpoch found + 1 = epoch
    -- neither the sequence numbers nor the epochs wrap here
    have hrooms : (((sequenceAfter none found).getD 0).toNat + 1 < 2 ^ 64) ∧
        ∀ r ∈ found, r.controllerEpoch.toNat + 1 < 2 ^ 64 := by
      rcases hfound with rfl | ⟨final, hfile⟩
      · exact ⟨by decide, fun r hr => by cases hr⟩
      · exact horderly found final hfile
    have habove : ∀ r ∈ found, r.controllerEpoch < epoch := fun r hr => by
      rw [← hepoch]
      exact UInt64.lt_of_le_of_lt (le_highestEpoch hr) (lt_nextEpoch hrooms.2)
    generalize hw : w.setWriterIdentity o.incarnation epoch = writer
    have hkept' : OnDisk options.limits { journal with writer := some writer } := by
      refine ⟨hkept.synced_le, hkept.held.of_take rfl rfl, hkept.attached, ?_⟩
      rintro _ ⟨⟩ hopen
      rw [← hw] at hopen ⊢
      obtain ⟨hwlimits, hle, hend, hprovesWriter⟩ := hkept.writer w hwriter hopen
      exact ⟨hwlimits, hle, hend, hprovesWriter⟩
    have hlast' : writer.lastSequence = (sequenceAfter none found).getD 0 := by
      rw [← hw]
      exact hlast
    have hroom : writer.lastSequence.toNat + 1 < 2 ^ 64 := hlast' ▸ hrooms.1
    have hclaimKept := hkept'.appended hlimits (a := o.claim epoch) (by
      rintro _ ⟨⟩
      exact hroom)
    obtain ⟨-, hwriter', hexpected'⟩ := @appended_eq { journal with writer := some writer } _
      rfl hkept.attached (o.claim epoch)
    split
    · next hdone =>
      rw [Bool.and_eq_true] at hdone
      have hok : (writer.append (o.claim epoch)
          ({ journal with writer := some writer } : JournalState).file).1.isOk = true := hdone.1
      rw [hok, if_pos rfl] at hexpected'
      -- every claimed epoch is carried by a record on disk, and the new one is above them all
      have hlower : ∀ claimed ∈ s.claimed, claimed < epoch := fun claimed hclaimed => by
        obtain ⟨r, hr, hle⟩ := h.carried claimed hclaimed
        rw [← hexpected] at hr
        rw [← List.take_length (l := journal.file)] at hproves
        exact UInt64.lt_of_le_of_lt hle
          (habove r ((hkept.held.among hkept.synced_le hproves).subset hr))
      constructor
      · exact hclaimKept
      · refine ⟨?_, ?_⟩
        · refine List.pairwise_append.2 ⟨h.epochs.increasing, List.pairwise_singleton _ _, ?_⟩
          intro claimed hclaimed new hnew
          rw [List.mem_singleton.1 hnew]
          exact hlower claimed hclaimed
        · rintro _ ⟨⟩ after final hafter r hr
          rcases proves_appended hlimits hkept' rfl hroom (fun _ => by rw [← hw]; exact hbytes)
            hafter hr with rfl | ⟨before, left, hbefore, hr⟩
          · exact UInt64.le_refl _
          · obtain ⟨rfl, -⟩ := hproves.unique hbefore
            exact UInt64.le_of_lt (habove r hr)
      · intro claimed hclaimed
        show ∃ r ∈ (JournalState.appended _ _).expected, _
        rw [hexpected']
        rcases List.mem_append.1 hclaimed with hold | hnew
        · obtain ⟨r, hr, hle⟩ := h.carried claimed hold
          exact ⟨r, List.mem_append_left _ (hexpected ▸ hr), hle⟩
        · rw [List.mem_singleton.1 hnew]
          exact ⟨_, List.mem_append_right _ (List.mem_singleton_self _), UInt64.le_refl _⟩
      · rintro _ ⟨⟩ claimed hclaimed
        rcases List.mem_append.1 hclaimed with hold | hnew
        · exact UInt64.le_of_lt (hlower claimed hold)
        · rw [List.mem_singleton.1 hnew]
          exact UInt64.le_refl _
      · rintro _ ⟨⟩ w' hw'
        cases hwriter'.symm.trans hw'
        rw [append_identity, ← hw]
        rfl
    -- the claim was not written, and the epoch is not taken
    · refine hidle hclaimKept.closed (fun r hr => ?_) hcurrent rfl
      show r ∈ (JournalState.appended _ _).expected
      rw [hexpected']
      split
      · exact List.mem_append_left _ hr
      · exact hr

theorem Claims.step (h : Claims options.limits s) (hlimits : options.limits.validate.isOk = true)
    {step : LineageStep} (horderly : step.Orderly options.limits s) :
    Claims options.limits (s.step options step) := by
  cases step with
  | opened o => exact h.opened hlimits horderly
  | appended a => exact h.appended hlimits horderly
  | rewritten io records => exact h.rewritten horderly
  | closed => exact h.idle h.kept.closed (fun r hr => hr) rfl rfl
  | crashed kept => exact h.idle (h.kept.crashed kept) (fun r hr => hr) rfl rfl

theorem OrderlyRun.claims (hlimits : options.limits.validate.isOk = true)
    {steps : List LineageStep} (hrun : OrderlyRun options s steps) (h : Claims options.limits s) :
    Claims options.limits (s.run options steps) := by
  induction hrun with
  | nil s => exact h
  | cons horderly _ ih => exact ih (h.step hlimits horderly)

/-- A journal file that no controller holds. -/
def Lineage.found (path : Option Bytes) : Lineage where
  journal := { path }

/-- From any journal file, over any number of controllers: every open that succeeds claims an
epoch above all earlier ones, and the journal holds no epoch above the current one. -/
theorem epochs_increase (hlimits : options.limits.validate.isOk = true) (path : Option Bytes)
    {steps : List LineageStep} (hrun : OrderlyRun options (.found path) steps) :
    EpochsIncrease options.limits ((Lineage.found path).run options steps) := by
  refine (hrun.claims hlimits ⟨⟨Nat.zero_le _, .inl rfl, rfl, fun w hw => by cases hw⟩, ?_, ?_, ?_, ?_⟩).epochs
  · exact .of_no_current .nil rfl
  · exact fun epoch hepoch => by cases hepoch
  · exact fun epoch hepoch => by cases hepoch
  · exact fun epoch hepoch => by cases hepoch

end Claiming

/-! ### The last epoch -/

/-- What a replay of the file finds of its records. -/
def journalEpochs (file : Bytes) : List (UInt64 × UInt64) :=
  match replay {} false wholeReads file with
  | .ok (records, _, _) => records.map fun r => (r.sequence, r.controllerEpoch)
  | .error _ => []

theorem journalEpochs_of_proves {file final : Bytes} {records : List JournalRecord}
    (h : Proves {} file records final) :
    journalEpochs file = records.map fun r => (r.sequence, r.controllerEpoch) := by
  have hlimits : ({} : RuntimeLimits).validate.isOk = true := defaultWriter.limits_ok
  have hread : wholeReads.count 0 48 = 48 := rfl
  obtain ⟨report, hreplay, -⟩ := h.replay hlimits hread
  unfold journalEpochs
  rw [hreplay]

theorem proves_of_journalEpochs {file : Bytes} (h : journalEpochs file ≠ []) :
    ∃ records final, Proves {} file records final := by
  unfold journalEpochs at h
  split at h
  · next records _ _ hreplay =>
    have hne : file ≠ [] := by
      rintro rfl
      cases hreplay
      exact h rfl
    obtain ⟨_, _, final, hheader, hprovable, -⟩ :=
      replay_ok defaultWriter.limits_ok hne hreplay
    exact ⟨records, final, ⟨_, _, hheader⟩, hprovable⟩
  · exact absurd rfl h

/-- A journal whose only record carries the last epoch there is. -/
def lastEpochJournal : Bytes :=
  bareJournal ++ encodeRecordEnvelope
    { sequence := 1, type := .incarnationClaimed, controllerEpoch := 0xFFFFFFFFFFFFFFFF } {}

def plainOpening : Opening where
  io := healthyOpen
  reads := wholeReads

set_option maxRecDepth 20000 in
/-- The controller that finds it claims epoch zero. -/
theorem lastEpoch_wraps : ¬ EpochsIncrease {}
    ((Lineage.found (some lastEpochJournal)).run journalOptions [.opened plainOpening]) := by
  generalize hstate : (Lineage.found (some lastEpochJournal)).run journalOptions
    [.opened plainOpening] = s
  have hconcrete : s.current = some 0 ∧
      journalEpochs s.journal.file = [(1, 0xFFFFFFFFFFFFFFFF), (2, 0)] := by
    rw [← hstate]
    decide +kernel
  obtain ⟨hcurrent, hjournal⟩ := hconcrete
  rintro ⟨-, hbounded⟩
  have hsome : journalEpochs s.journal.file ≠ [] := by simp [hjournal]
  obtain ⟨records, final, hproves⟩ := proves_of_journalEpochs hsome
  rw [journalEpochs_of_proves hproves] at hjournal
  have hlast : ((1, 0xFFFFFFFFFFFFFFFF) : UInt64 × UInt64)
      ∈ records.map fun r => (r.sequence, r.controllerEpoch) := by
    rw [hjournal]
    exact List.mem_cons_self ..
  obtain ⟨r, hr, heq⟩ := List.mem_map.1 hlast
  have hle := hbounded 0 hcurrent records final hproves r hr
  rw [(Prod.mk.inj heq).2] at hle
  exact absurd hle (by decide)

theorem sequenceAfter_none (records : List JournalRecord) :
    sequenceAfter none records = records.getLast?.map JournalRecord.sequence := by
  induction records using List.reverseRecOn with
  | nil => rfl
  | append_singleton records last =>
    rw [sequenceAfter_append]
    simp

/-- An open is in order when the sequences and epochs its scan finds are. -/
theorem opened_orderly {s : Lineage} {o : Opening}
    (hlast : (((journalEpochs s.journal.file).getLast?.map Prod.fst).getD 0).toNat + 1 < 2 ^ 64)
    (hepochs : ∀ e ∈ journalEpochs s.journal.file, e.2.toNat + 1 < 2 ^ 64) :
    (LineageStep.opened o).Orderly {} s := by
  intro records final hproves
  rw [journalEpochs_of_proves hproves] at hlast hepochs
  constructor
  · rw [List.getLast?_map, Option.map_map] at hlast
    rw [sequenceAfter_none]
    exact hlast
  · exact fun r hr => hepochs _ (List.mem_map_of_mem hr)

set_option maxRecDepth 20000 in
/-- Two controllers, one after the other. -/
theorem two_claims : EpochsIncrease {} ((Lineage.found none).run journalOptions
    [.opened plainOpening, .closed, .opened plainOpening]) := by
  have hfirst : journalEpochs (Lineage.found none).journal.file = [] := by decide +kernel
  have hsecond : journalEpochs ((Lineage.found none).run journalOptions
      [.opened plainOpening, .closed]).journal.file = [(1, 1)] := by decide +kernel
  refine @epochs_increase journalOptions defaultWriter.limits_ok none _ ?_
  refine .cons (opened_orderly ?_ ?_) (.cons trivial (.cons (opened_orderly ?_ ?_) (.nil _)))
  · rw [hfirst]
    show 0 + 1 < 2 ^ 64
    omega
  · rw [hfirst]
    simp
  · change (((journalEpochs ((Lineage.found none).run journalOptions
      [.opened plainOpening, .closed]).journal.file).getLast?.map Prod.fst).getD 0).toNat + 1 < _
    rw [hsecond]
    show 1 + 1 < 2 ^ 64
    omega
  · change ∀ e ∈ journalEpochs ((Lineage.found none).run journalOptions
      [.opened plainOpening, .closed]).journal.file, _
    rw [hsecond]
    intro e he
    rw [List.mem_singleton.1 he]
    show 1 + 1 < 2 ^ 64
    omega

end RolloutFabric
