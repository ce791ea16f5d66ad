/-
The state of the orchestrator and what it is connected to: the adapters and the journal answer
every call as they like, out of a state of their own; the trace records what the runtime did,
in order, and is read by nothing but a recovery.
-/
import RolloutFabric.Domain.Attempt
import RolloutFabric.Domain.Snapshot
import RolloutFabric.Lib.Simulation

namespace RolloutFabric

/-! ## Adapter contracts -/

structure DispatchRequest where
  fence : AttemptFence := {}
  target : TargetId := .nil
  cohort : CohortId := .nil
  action : ActionId := .nil
  actionDigest : Digest256 := default
  artifactDigest : Digest256 := default
  idempotencyKey : Digest256 := default
  attemptNumber : UInt32 := 1
  parameters : Bytes := []
  deadline : Timestamp := {}
deriving DecidableEq, Inhabited

inductive DispatchOutcome
  | accepted | rejected | unavailable | duplicateSuppressed | throttled | fenced
deriving DecidableEq, Repr

instance : Inhabited DispatchOutcome := ⟨.unavailable⟩

def DispatchOutcome.toText : DispatchOutcome → Bytes
  | .accepted => text "accepted" | .rejected => text "rejected"
  | .unavailable => text "unavailable" | .duplicateSuppressed => text "duplicate_suppressed"
  | .throttled => text "throttled" | .fenced => text "fenced"

structure DispatchResult where
  outcome : DispatchOutcome := .unavailable
  detail : Bytes := []
  acceptedAt : Timestamp := {}
deriving DecidableEq, Inhabited

def DispatchResult.isAccepted (r : DispatchResult) : Bool :=
  r.outcome == .accepted || r.outcome == .duplicateSuppressed

inductive ReconcileDisposition
  | completed | failed | inProgress | notStarted | unknown
deriving DecidableEq, Repr

instance : Inhabited ReconcileDisposition := ⟨.unknown⟩

structure ReconcileEntry where
  fence : AttemptFence := {}
  disposition : ReconcileDisposition := .unknown
  outcome : EvidenceOutcome := .inconclusive
  detail : Bytes := []
deriving DecidableEq, Inhabited

structure ReconcileResult where
  ok : Bool := false
  detail : Bytes := []
  entries : List ReconcileEntry := []
deriving DecidableEq, Inhabited

structure HealthProbeRequest where
  targets : List TargetId := []
  issuedAt : Timestamp := {}
  requestId : UInt64 := 0
deriving DecidableEq, Inhabited

inductive AdapterEventKind
  | workerConnected | workerDisconnected | dispatchRefused | protocolError
  | workerIncarnationChanged
deriving DecidableEq, Repr, Inhabited

structure AdapterEvent where
  kind : AdapterEventKind := .workerConnected
  worker : WorkerId := .nil
  incarnation : IncarnationId := .nil
  detail : Bytes := []
  occurredAt : Timestamp := {}
deriving DecidableEq, Inhabited

/-- A call an adapter makes on the evidence sink while it is polled. -/
inductive SinkCall
  | evidence (record : EvidenceRecord)
  | event (event : AdapterEvent)

/-- An `IExecutionAdapter` with its state in `ρ`. -/
structure ExecutionAdapter (ρ : Type) where
  dispatch : DispatchRequest → ρ → DispatchResult × ρ
  reconcile : List AttemptFence → ρ → ReconcileResult × ρ
  cancel : AttemptFence → ρ → Status × ρ
  poll : ρ → List SinkCall × ρ

/-- An `IHealthAdapter` with its state in `ρ`. -/
structure HealthAdapter (ρ : Type) where
  sourceId : HealthSourceId
  requestProbe : HealthProbeRequest → ρ → Status × ρ

/-! ## The journal -/

/-- The records the orchestrator writes, each with what its payload is encoded from. -/
inductive JournalEntry
  | inventoryStored (inventory : TargetInventory)
  | planStored (plan : ChangePlan)
  | rolloutSnapshot (rollout : Rollout)
  | decisionRecorded (decision : Decision)
  | rolloutRetired (rollout : RolloutId)
  | incarnationClaimed (incarnation : IncarnationId) (epoch : UInt64) (claimedAt : Timestamp)

/-- The payload the entry is written with. -/
def JournalEntry.payload : JournalEntry → Bytes
  | .inventoryStored inventory => encodeInventoryPayload inventory
  | .planStored plan => encodePlanPayload plan
  | .rolloutSnapshot rollout => encodeRolloutPayload rollout
  | .decisionRecorded decision => decision.encode
  | .rolloutRetired rollout => ByteWriter.id rollout
  | .incarnationClaimed incarnation epoch claimedAt =>
    wrap (text "rollout-fabric/incarnation-claim/v1")
      (ByteWriter.id incarnation ++ ByteWriter.u64 epoch ++ ByteWriter.timestamp claimedAt)

/-- What the writer answers once a record is known to fit. A failed append may have left its
record behind; a failed rewrite may have left the first records of the new journal. -/
structure JournalDevice (ρ : Type) where
  isOpen : ρ → Bool
  append : JournalEntry → ρ → (Status × Bool) × ρ
  rewrite : List JournalEntry → ρ → (Status × Option Nat) × ρ

/-- Everything an orchestrator is given and never changes. -/
structure Env (ρ : Type) where
  limits : RuntimeLimits
  clock : ρ → Timestamp × ρ
  execution : Option (ExecutionAdapter ρ)
  health : Option (HealthAdapter ρ)
  journal : Option (JournalDevice ρ)

/-! ## The trace -/

/-- The target of a stage of a generation of a rollout. -/
structure Place where
  rollout : RolloutId
  generation : GenerationId
  stage : StageId
  target : TargetId
deriving DecidableEq

inductive Event
  /-- A record was meant for the journal under this controller epoch: did the append succeed, and
  is the record in the file. -/
  | appended (entry : JournalEntry) (epoch : UInt64) (ok landed : Bool)
  /-- A compaction: did it succeed, and how many of its records are the journal now. -/
  | rewritten (entries : List JournalEntry) (epoch : UInt64) (ok : Bool) (landed : Option Nat)
  /-- The execution adapter is asked to run an attempt under this identifier. -/
  | offered (place : Place) (attempt : AttemptId)
  /-- The execution adapter accepted the attempt; the step is zero for forward work. -/
  | dispatched (attempt : Attempt) (rollbackStep : UInt32)
  /-- An admitted record was applied to the attempt, as it was, of a rollout in this generation
  whose record names a target with this current attempt. -/
  | applied (record : EvidenceRecord) (attempt : Attempt) (generation : GenerationId)
      (currentAttempt : AttemptId)
  /-- A fresh health sample was applied to the target of a stage with this health gate. -/
  | observed (place : Place) (gate : HealthGatePolicy) (record : EvidenceRecord) (now : Timestamp)
  /-- `cancel_in_flight` marked the attempt. -/
  | cancelled (attempt : AttemptId)
  /-- The state of a target was assigned; `record` is the evidence that did it, if any did. -/
  | entered (place : Place) (state : TargetState) (record : Option EvidenceRecord)
  /-- A transition of the rollout, and of a stage of it under this policy. -/
  | rolloutEntered (rollout : RolloutId) (generation : GenerationId) (state : RolloutState)
  | stageEntered (rollout : RolloutId) (generation : GenerationId) (stage : StageId)
      (policy : StagePolicy) (state : StageState)
  /-- `complete_stage` was entered on the stage as it is, with the approval it was passed. -/
  | completing (rollout : RolloutId) (generation : GenerationId) (stage : StageRuntime)
      (now : Timestamp) (approved : Bool)
  /-- The health gate of the stage is looked at, for its canary or before more is dispatched. -/
  | weighed (rollout : RolloutId) (generation : GenerationId) (stage : StageRuntime)
      (now : Timestamp)
  /-- `finish_rollback` found nothing left to compensate; the states of the stages then. -/
  | finishing (rollout : RolloutId) (generation : GenerationId) (stages : List StageState)
  /-- An operator approved the pending gate of the stage. -/
  | approved (rollout : RolloutId) (generation : GenerationId) (stage : StageId) (kind : GateKind)
  /-- A restore rebuilt an outstanding attempt. -/
  | rebuilt (attempt : Attempt) (rollbackStep : UInt32) (state : TargetState)
  | opened (incarnation : IncarnationId)
  /-- A restore adopts the rollout as it was read back. -/
  | restored (rollout : Rollout)

/-! ## State -/

structure OrchestratorCounters where
  evidenceAccepted : UInt64 := 0
  evidenceDuplicate : UInt64 := 0
  evidenceOutOfOrder : UInt64 := 0
  evidenceStaleGeneration : UInt64 := 0
  evidenceStaleAttempt : UInt64 := 0
  evidenceStaleIncarnation : UInt64 := 0
  evidenceRejected : UInt64 := 0
  dispatchRefused : UInt64 := 0
  journalAppends : UInt64 := 0
  compactions : UInt64 := 0
deriving DecidableEq, Inhabited

structure TickReport where
  dispatched : UInt32 := 0
  completed : UInt32 := 0
  transitions : UInt32 := 0
  gatesEvaluated : UInt32 := 0
  decisions : UInt32 := 0
deriving DecidableEq, Inhabited

/-- A `std::map`, without its order; what is iterated is sorted by key first. -/
abbrev Map (α β : Type) := AList fun _ : α => β

/-- `Orchestrator::Impl` without its rollouts and plans. -/
structure Impl (ρ : Type) where
  incarnation : IncarnationId
  controllerEpoch : UInt64
  ids : IdFactory
  inventory : TargetInventory := {}
  pendingEvidence : List EvidenceRecord := []
  adapterEvents : List AdapterEvent := []
  attempts : Map AttemptId Attempt := ∅
  attemptOrder : List AttemptId := []
  idempotencyOrder : List Digest256 := []
  idempotencyKeys : List Digest256 := []
  lastProbeAt : Map RolloutId Timestamp := ∅
  healthRequestId : UInt64 := 0
  lastPersisted : Map RolloutId Digest256 := ∅
  storageStatus : Status := .success
  storageFailed : Bool := false
  shuttingDown : Bool := false
  counters : OrchestratorCounters := {}
  /-- `JournalWriter::records_since_snapshot`. -/
  recordsSinceSnapshot : UInt64 := 0
  outside : ρ
  trace : List Event := []

/-- What a function of the state machine works on: the `Impl`, the rollout it was handed and the
report of the tick. `failing` is read by no function: it names the target whose failure is being
settled. -/
structure World (ρ : Type) where
  impl : Impl ρ
  rollout : Rollout
  report : TickReport := {}
  failing : Option (Nat × Nat) := none

/-- A function of the state machine: it may return early with a status, and what it changed
before that stays changed. -/
abbrev Op (ρ α : Type) := Program Status (World ρ) α

variable {ρ : Type}

/-! ## Primitive operations -/

namespace Op

def read {α : Type} (f : World ρ → α) : Op ρ α := do
  let w ← get
  return f w

def updateImpl (f : Impl ρ → Impl ρ) : Op ρ Unit := modify fun w => { w with impl := f w.impl }

def updateRollout (f : Rollout → Rollout) : Op ρ Unit :=
  modify fun w => { w with rollout := f w.rollout }

def updateReport (f : TickReport → TickReport) : Op ρ Unit :=
  modify fun w => { w with report := f w.report }

def updateCounters (f : OrchestratorCounters → OrchestratorCounters) : Op ρ Unit :=
  updateImpl fun s => { s with counters := f s.counters }

/-- `if (!status.ok()) return status`. -/
def check (s : Status) : Op ρ Unit := if s.isOk then pure () else throw s

/-- A call to the outside. -/
def ask {α : Type} (f : ρ → α × ρ) : Op ρ α := do
  let answer ← read fun w => f w.impl.outside
  updateImpl fun s => { s with outside := answer.2 }
  return answer.1

def log (event : Event) : Op ρ Unit := updateImpl fun s => { s with trace := s.trace ++ [event] }

/-- `if (!status.ok()) { storage_failed = true; storage_status = status; }`. -/
def latch (m : Op ρ Unit) : Op ρ Unit :=
  tryCatch m fun s => updateImpl fun i => { i with storageFailed := true, storageStatus := s }

end Op

namespace Rollout

/-- `rollout.stages[j]`. -/
def stageAt (r : Rollout) (j : Nat) : StageRuntime := r.stages.getD j default

/-- `rollout.stages[j].targets[i]`. -/
def targetAt (r : Rollout) (j i : Nat) : TargetRuntime := (r.stageAt j).targets.getD i default

def modifyStage (r : Rollout) (j : Nat) (f : StageRuntime → StageRuntime) : Rollout :=
  { r with stages := r.stages.modify j f }

def modifyTarget (r : Rollout) (j i : Nat) (f : TargetRuntime → TargetRuntime) : Rollout :=
  r.modifyStage j fun stage => { stage with targets := stage.targets.modify i f }

def place (r : Rollout) (j i : Nat) : Place :=
  ⟨r.id, r.generation, (r.stageAt j).id, (r.targetAt j i).target⟩

end Rollout

namespace Op

def stage (j : Nat) : Op ρ StageRuntime := read fun w => w.rollout.stageAt j
def target (j i : Nat) : Op ρ TargetRuntime := read fun w => w.rollout.targetAt j i

def updateStage (j : Nat) (f : StageRuntime → StageRuntime) : Op ρ Unit :=
  updateRollout fun r => r.modifyStage j f

def updateTarget (j i : Nat) (f : TargetRuntime → TargetRuntime) : Op ρ Unit :=
  updateRollout fun r => r.modifyTarget j i f

/-- `target.state = state` and what is written with it: every assignment of a target's state is
logged. -/
def enterTarget (j i : Nat) (state : TargetState) (record : Option EvidenceRecord)
    (f : TargetRuntime → TargetRuntime := id) : Op ρ Unit := do
  let place ← read fun w => w.rollout.place j i
  updateTarget j i fun t => { f t with state }
  modify fun w => { w with failing := if state = .failed then some (j, i) else none }
  log (.entered place state record)

def findAttempt (id : AttemptId) : Op ρ (Option Attempt) := read fun w => w.impl.attempts.lookup id

/-- Writes through a reference into the attempt table. -/
def updateAttempt (id : AttemptId) (f : Attempt → Attempt) : Op ρ Unit :=
  updateImpl fun s => match s.attempts.lookup id with
    | some attempt => { s with attempts := s.attempts.insert id (f attempt) }
    | none => s

/-- `rollout.outstanding_attempts > 0 ? rollout.outstanding_attempts - 1 : 0`. -/
def releaseOutstanding : Op ρ Unit := updateRollout fun r =>
  { r with outstandingAttempts := if 0 < r.outstandingAttempts then r.outstandingAttempts - 1 else 0 }

end Op

end RolloutFabric
