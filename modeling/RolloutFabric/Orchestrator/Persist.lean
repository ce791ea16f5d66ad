/-
What the state machine writes down: journal records, the rollout snapshot after every change,
the two fenced transitions and the decisions.
-/
import RolloutFabric.Orchestrator.World

namespace RolloutFabric

variable {ρ : Type}

/-! ## The journal -/

/-- `JournalWriter::append`: a closed writer and a payload above the bound are refused before
anything is written; the device decides the rest. -/
def journalAppend (limits : RuntimeLimits) (device : JournalDevice ρ) (entry : JournalEntry) :
    Op ρ Status := do
  let isOpen ← Op.read fun w => device.isOpen w.impl.outside
  let epoch ← Op.read fun w => w.impl.controllerEpoch
  if !isOpen then
    Op.log (.appended entry epoch false false)
    pure (makeStatus .unavailable (text "journal writer is not open"))
  else if limits.maxJournalRecordBytes.toNat < entry.payload.length then
    Op.log (.appended entry epoch false false)
    pure (makeStatus .resourceExhausted
      (text "journal record payload exceeds max_journal_record_bytes"))
  else do
    let (status, landed) ← Op.ask (device.append entry)
    Op.log (.appended entry epoch status.isOk (status.isOk || landed))
    if status.isOk then
      Op.updateImpl fun s => { s with recordsSinceSnapshot := s.recordsSinceSnapshot + 1 }
    pure status

/-- `JournalWriter::rewrite`: it stops at the first payload above the bound, before which only
what the device kept of the new journal is there. -/
def journalRewrite (limits : RuntimeLimits) (device : JournalDevice ρ) (entries : List JournalEntry)
    (outside : ρ) : (Status × Option Nat) × ρ :=
  let fitting := entries.takeWhile fun entry =>
    decide (entry.payload.length ≤ limits.maxJournalRecordBytes.toNat)
  let ((status, landed), outside) := device.rewrite entries outside
  if fitting.length < entries.length then
    ((makeStatus .resourceExhausted (text "compacted record exceeds max_journal_record_bytes"),
      landed.map (min fitting.length)), outside)
  else ((status, if status.isOk then some entries.length else landed), outside)

def appendJournal (env : Env ρ) (entry : JournalEntry) : Op ρ Unit :=
  match env.journal with
  | none => pure ()
  | some device => do
    let failed ← Op.read fun w => w.impl.storageFailed
    if failed then
      let status ← Op.read fun w => w.impl.storageStatus
      throw status
    else do
      let status ← journalAppend env.limits device entry
      if status.isOk then
        Op.updateCounters fun c => { c with journalAppends := c.journalAppends + 1 }
      else do
        let failure := makeStatus status.code (text "journal append failed: " ++ status.message)
        Op.updateImpl fun s => { s with storageFailed := true, storageStatus := failure }
        throw failure

/-- `persist_rollout`: a snapshot, unless the last one written has the same digest. -/
def persistRollout (env : Env ρ) : Op ρ Unit := do
  let w ← get
  let digest := rolloutDigest w.rollout
  let unchanged := w.impl.lastPersisted.lookup w.rollout.id = some digest
  let entry := JournalEntry.rolloutSnapshot w.rollout
  let size := entry.payload.length
  -- the digest is looked at last: a run without a journal can be evaluated without hashing
  if env.limits.maxJournalRecordBytes.toNat < size ∧ ¬ unchanged then
    Op.log (.appended entry w.impl.controllerEpoch false false)
    throw (makeStatus .resourceExhausted (text "rollout snapshot is " ++ toStringNat size
      ++ text " bytes, above max_journal_record_bytes; reduce the cohort size or raise the limit deliberately"))
  else do
    if env.journal.isSome ∧ ¬ unchanged then appendJournal env entry
    Op.updateImpl fun s => { s with
      lastPersisted :=
        if unchanged then s.lastPersisted else s.lastPersisted.insert w.rollout.id digest }

/-! ## Transitions -/

def countTransition (counted : Bool) : Op ρ Unit :=
  if counted then Op.updateReport fun r => { r with transitions := r.transitions + 1 } else pure ()

/-- What a legal transition writes to the rollout. -/
def Rollout.enter (r : Rollout) (next : RolloutState) (reason : Bytes) (now : Timestamp) : Rollout :=
  { r with
    state := next
    stateReason := reason
    updatedAt := now
    revision := r.revision + 1
    armedAt := if next = .armed then now else r.armedAt
    completedAt := if next.isTerminal then now else r.completedAt }

def Op.enterRollout (next : RolloutState) (reason : Bytes) (now : Timestamp) : Op ρ Unit := do
  Op.updateRollout fun r => r.enter next reason now
  let r ← Op.read fun w => w.rollout
  Op.log (.rolloutEntered r.id r.generation next)

/-- `transition`. -/
def transition (env : Env ρ) (next : RolloutState) (reason : Bytes) (now : Timestamp)
    (counted : Bool) : Op ρ Unit := do
  let state ← Op.read fun w => w.rollout.state
  if state = next then pure ()
  else if state.legalTransition next then do
    Op.enterRollout next reason now
    countTransition counted
    persistRollout env
  else throw (makeStatus .conflict (text "illegal rollout transition from " ++ state.toText
    ++ text " to " ++ next.toText))

/-- What a legal transition writes to the stage. -/
def StageRuntime.enter (s : StageRuntime) (next : StageState) (now : Timestamp) : StageRuntime :=
  { s with
    state := next
    lastProgressAt := now
    startedAt := if next = .running ∧ s.startedAt.isNil then now else s.startedAt
    gatedAt := if next = .gated then now else s.gatedAt
    completedAt := if next.isTerminal then now else s.completedAt }

def Op.enterStage (j : Nat) (next : StageState) (now : Timestamp) : Op ρ Unit := do
  let stage ← Op.stage j
  Op.updateStage j fun s => s.enter next now
  Op.updateRollout fun r => { r with updatedAt := now, revision := r.revision + 1 }
  let r ← Op.read fun w => w.rollout
  Op.log (.stageEntered r.id r.generation stage.id stage.policy next)

/-- `stage_transition`. -/
def stageTransition (env : Env ρ) (j : Nat) (next : StageState) (now : Timestamp) (counted : Bool) :
    Op ρ Unit := do
  let stage ← Op.stage j
  if stage.state = next then pure ()
  else if stage.state.legalTransition next then do
    Op.enterStage j next now
    countTransition counted
    persistRollout env
  else throw (makeStatus .conflict (text "illegal stage transition from " ++ stage.state.toText
    ++ text " to " ++ next.toText ++ text " on stage " ++ stage.id.shortHex))

/-! ## Decisions -/

/-- The builder every decision of the state machine starts from. -/
def decisionOf (w : World ρ) (kind : DecisionKind) : DecisionBuilder where
  decision := {
    kind
    rollout := w.rollout.id
    generation := w.rollout.generation
    revision := w.rollout.revision
    controllerEpoch := w.impl.controllerEpoch
    incarnation := w.impl.incarnation }

/-- `commit_decision(rollout, builder.finish(ids, now, limits), now)`. -/
def commitDecision (env : Env ρ) (builder : DecisionBuilder) (now : Timestamp) : Op ρ Unit := do
  let decision ← Op.read fun w => builder.finish w.impl.ids now env.limits
  Op.updateImpl fun s => { s with ids := decision.2 }
  Op.updateRollout fun r => r.recordDecision decision.1 env.limits
  Op.latch (appendJournal env (.decisionRecorded decision.1))

/-- A decision of the state machine: the builder is filled in from the current state. -/
def commit (env : Env ρ) (now : Timestamp) (fill : World ρ → DecisionBuilder) : Op ρ Unit := do
  let builder ← Op.read fill
  commitDecision env builder now

/-- `++report.decisions`. -/
def countDecision : Op ρ Unit :=
  Op.updateReport fun r => { r with decisions := r.decisions + 1 }

/-! ## Bookkeeping -/

/-- The loop that forgets the oldest keys above the bound. -/
def trimKeys (bound : Nat) : List Digest256 → List Digest256 → List Digest256 × List Digest256
  | [], keys => ([], keys)
  | oldest :: order, keys =>
    if bound < (oldest :: order).length then trimKeys bound order (keys.erase oldest)
    else (oldest :: order, keys)

def noteIdempotencyKey (env : Env ρ) (key : Digest256) : Op ρ Unit :=
  Op.updateImpl fun s =>
    if key ∈ s.idempotencyKeys then s
    else
      let (order, keys) := trimKeys env.limits.maxIdempotencyEntries.toNat
        (s.idempotencyOrder ++ [key]) (key :: s.idempotencyKeys)
      { s with idempotencyOrder := order, idempotencyKeys := keys }

/-- The loop that forgets finished attempts above the bound, oldest first, and stops at the first
that is still in flight. -/
def trimAttempts (bound : Nat) :
    List AttemptId → Map AttemptId Attempt → List AttemptId × Map AttemptId Attempt
  | [], attempts => ([], attempts)
  | oldest :: order, attempts =>
    if bound < (oldest :: order).length then
      match attempts.lookup oldest with
      | some attempt =>
        if attempt.finished then trimAttempts bound order (attempts.erase oldest)
        else (oldest :: order, attempts)
      | none => (oldest :: order, attempts)
    else (oldest :: order, attempts)

/-- `note_attempt` on the attempt table and the order of its entries. -/
def Impl.noteAttempt (s : Impl ρ) (limits : RuntimeLimits) (attempt : Attempt) : Impl ρ :=
  let order := if attempt.id ∈ s.attempts then s.attemptOrder else s.attemptOrder ++ [attempt.id]
  let (order, attempts) := trimAttempts (limits.maxConcurrentAttempts.toNat * 2 + 1) order
    (s.attempts.insert attempt.id attempt)
  { s with attemptOrder := order, attempts }

def noteAttempt (env : Env ρ) (attempt : Attempt) : Op ρ Unit :=
  Op.updateImpl fun s => s.noteAttempt env.limits attempt

def Impl.noteAdapterEvent (s : Impl ρ) (limits : RuntimeLimits) (event : AdapterEvent) : Impl ρ :=
  let events := s.adapterEvents ++ [event]
  { s with adapterEvents := events.drop (events.length - limits.maxDecisionHistory.toNat) }

end RolloutFabric
