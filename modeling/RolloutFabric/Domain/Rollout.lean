/-
The durable state of a rollout: its stages, their targets, the counters the gates and the
planner read, and the retained decisions.
-/
import RolloutFabric.Domain.Plan
import RolloutFabric.Domain.Decision

namespace RolloutFabric

structure TargetRuntime where
  target : TargetId := .nil
  state : TargetState := .pending
  epoch : UInt64 := 0
  attemptsCreated : UInt32 := 0
  currentAttempt : AttemptId := .nil
  lastAttempt : AttemptId := .nil
  dispatchedAt : Timestamp := {}
  lastChangeAt : Timestamp := {}
  completedAt : Timestamp := {}
  healthy : Bool := false
  consecutiveHealthy : UInt32 := 0
  healthySince : Timestamp := {}
  lastHealthyAt : Timestamp := {}
  lastHealthOriginLive : Bool := false
  lastHealthSource : HealthSourceId := .nil
  verificationObservedAt : Timestamp := {}
  verificationPassed : Bool := false
  verificationVerifier : VerifierId := .nil
  lastTerminalEvidence : EvidenceId := .nil
  outcome : EvidenceOutcome := .inconclusive
  /-- Position in the stage's compensation sequence while a rollback is running. -/
  rollbackStep : UInt32 := 0
  lastReason : Bytes := []
deriving DecidableEq, Inhabited

structure StageRuntime where
  id : StageId := .nil
  state : StageState := .pending
  ordinal : UInt32 := 0
  predecessors : List StageId := []
  successors : List StageId := []
  policy : StagePolicy := {}
  evidenceRule : TargetEvidenceRule := {}
  actions : List ActionSpec := []
  cohort : CohortMembership := {}
  targets : List TargetRuntime := []
  enteredAt : Timestamp := {}
  startedAt : Timestamp := {}
  soakStartedAt : Timestamp := {}
  gatedAt : Timestamp := {}
  completedAt : Timestamp := {}
  lastProgressAt : Timestamp := {}
  dispatchedTotal : UInt32 := 0
  succeededTotal : UInt32 := 0
  failedTotal : UInt32 := 0
  cancelledTotal : UInt32 := 0
  rolledBackTotal : UInt32 := 0
  rollbackFailedTotal : UInt32 := 0
  attemptsTotal : UInt32 := 0
  canaryCleared : Bool := false
  maxObservedChanging : UInt32 := 0
  pendingGate : GateId := .nil
  pendingGateKind : GateKind := .stageEntry
  pendingGateSince : Timestamp := {}
  lastHealthGate : GateEvaluation := {}
  lastEvidenceGate : GateEvaluation := {}
  lastAdvanceGate : GateEvaluation := {}
deriving Inhabited

structure Rollout where
  id : RolloutId := .nil
  planId : PlanId := .nil
  planDigest : Digest256 := default
  sourceDigest : Digest256 := default
  changeId : Bytes := []
  schemaVersion : UInt32 := 1
  generation : GenerationId := .nil
  generationCounter : UInt64 := 0
  revision : UInt64 := 0
  incarnation : IncarnationId := .nil
  controllerEpoch : UInt64 := 0
  state : RolloutState := .created
  resumeState : RolloutState := .created
  stateReason : Bytes := []
  createdAt : Timestamp := {}
  updatedAt : Timestamp := {}
  armedAt : Timestamp := {}
  completedAt : Timestamp := {}
  createdBy : AuthorityId := .nil
  createdByOperator : OperatorId := .nil
  stages : List StageRuntime := []
  /-- Index of the stage currently being worked on. -/
  cursor : UInt32 := 0
  outstandingAttempts : UInt32 := 0
  maxObservedChangingGlobal : UInt32 := 0
  evidenceSequences : UInt64 := 0
  decisions : List Decision := []
deriving Inhabited

def Rollout.kSchemaVersion : UInt32 := 1

/-! ## Queries -/

def TargetState.countsAsChanging : TargetState → Bool
  | .dispatched | .unknown | .rollingBack => true
  | _ => false

def TargetState.countsAsFailed : TargetState → Bool
  | .failed | .exhausted | .rollbackFailed => true
  | _ => false

namespace TargetRuntime

def countsAsChanging (t : TargetRuntime) : Bool := t.state.countsAsChanging

end TargetRuntime

namespace StageRuntime

/-- `std::lower_bound` by identifier, then the equality test: the index of the target. -/
def findTarget (s : StageRuntime) (id : TargetId) : Option Nat :=
  let index := (s.targets.takeWhile fun entry => entry.target < id).length
  match s.targets[index]? with
  | some entry => if entry.target = id then some index else none
  | none => none

def changingCount (s : StageRuntime) : Nat := s.targets.countP TargetRuntime.countsAsChanging
def healthyCount (s : StageRuntime) : Nat := s.targets.countP fun t => t.healthy
def failedCount (s : StageRuntime) : Nat := s.targets.countP fun t => t.state.countsAsFailed
def terminalCount (s : StageRuntime) : Nat := s.targets.countP fun t => t.state.isTerminal
def verifiedCount (s : StageRuntime) : Nat :=
  s.targets.countP fun t => !t.verificationObservedAt.isNil && t.verificationPassed
def pendingCount (s : StageRuntime) : Nat := s.targets.countP fun t => t.state == .pending

end StageRuntime

namespace Rollout

/-- The index of the first stage with this identifier. -/
def findStage (r : Rollout) (id : StageId) : Option Nat :=
  r.stages.findIdx? fun stage => stage.id == id

/-- The index of the current stage, when the cursor names one. -/
def currentStage (r : Rollout) : Option Nat :=
  if r.cursor.toNat < r.stages.length then some r.cursor.toNat else none

def changingCount (r : Rollout) : Nat := (r.stages.map StageRuntime.changingCount).sum

def recordDecision (r : Rollout) (d : Decision) (limits : RuntimeLimits) : Rollout :=
  let decisions := r.decisions ++ [d]
  { r with decisions := decisions.drop (decisions.length - limits.maxDecisionHistory.toNat) }

end Rollout

/-- `freeze_cohort`: the stage with its cohort frozen, or the refusal. -/
def freezeCohort (stage : StageRuntime) (now : Timestamp) : Result StageRuntime :=
  if stage.cohort.frozen then
    .error (makeStatus .immutable (text "cohort for stage " ++ stage.id.toHex
      ++ text " is already frozen; a new membership requires a new rollout generation"))
  else if stage.cohort.members.isEmpty then
    .error (makeStatus .preconditionFailed
      (text "refusing to freeze an empty cohort; a stage with no members cannot be armed"))
  else .ok { stage with cohort := { stage.cohort with frozen := true, frozenAt := now } }

end RolloutFabric
