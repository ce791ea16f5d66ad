/-
The advancing state machine: gates, dispatch, cancellation, failure and rollback, stage
completion, and what one tick does to one rollout.
-/
import RolloutFabric.Orchestrator.Evidence
import RolloutFabric.Orchestrator.Dispatch

namespace RolloutFabric

variable {ρ : Type}

/-! ## Gating helpers -/

/-- What `open_gate` writes to the stage. -/
def StageRuntime.pend (s : StageRuntime) (gate : GateId) (kind : GateKind) (now : Timestamp) :
    StageRuntime :=
  { s with pendingGate := gate, pendingGateKind := kind, pendingGateSince := now }

/-- `open_gate`. -/
def openGate (env : Env ρ) (j : Nat) (kind : GateKind) (now : Timestamp) : Op ρ Unit := do
  let minted ← Op.read fun w => w.impl.ids.next .gate .gate
  Op.updateImpl fun s => { s with ids := minted.2 }
  Op.updateStage j fun s => s.pend minted.1 kind now
  Op.latch do
    stageTransition env j .gated now false
    let state ← Op.read fun w => w.rollout.state
    if state.legalTransition .gated then
      transition env .gated (text "waiting for a manual " ++ kind.toText ++ text " gate") now false

/-- The health gate of the stage, evaluated on what its targets were last seen doing. -/
def healthEvaluation (env : Env ρ) (stage : StageRuntime) (now : Timestamp) : GateEvaluation :=
  evaluateHealthGate stage stage.policy.healthGate
    (snapshotFor stage (env.health.map HealthAdapter.sourceId)) now env.limits

def healthGateHolds (env : Env ρ) (stage : StageRuntime) (now : Timestamp) : Bool :=
  stage.policy.healthGate.enabled && !(healthEvaluation env stage now).satisfied

/-- The gate is looked at. -/
def weigh (j : Nat) (now : Timestamp) : Op ρ Unit := do
  let r ← Op.read fun w => w.rollout
  Op.log (.weighed r.id r.generation (r.stageAt j) now)

/-- The pause between two probes of a stage. -/
def probeInterval (stage : StageRuntime) : Duration :=
  if stage.policy.healthGate.maxAge.isZero then .fromMillis 100
  else .fromMillis (stage.policy.healthGate.maxAge.millis / 2)

/-- `probe_health`. -/
def probeHealth (env : Env ρ) (j : Nat) (now : Timestamp) : Op ρ Unit := do
  let stage ← Op.stage j
  match env.health with
  | none => pure ()
  | some health =>
    if !stage.policy.healthGate.enabled then pure ()
    else do
      let w ← get
      let due := match w.impl.lastProbeAt.lookup w.rollout.id with
        | some last => decide (probeInterval stage < now.since last)
        | none => true
      -- the probe is noted before it is sent, and a refused one is only counted
      if due then do
        Op.updateImpl fun s => { s with
          lastProbeAt := s.lastProbeAt.insert w.rollout.id now
          healthRequestId := s.healthRequestId + 1 }
        let requestId ← Op.read fun w => w.impl.healthRequestId
        let status ← Op.ask (health.requestProbe
          { targets := stage.cohort.members, issuedAt := now, requestId })
        if !status.isOk then
          Op.updateCounters fun c => { c with evidenceRejected := c.evidenceRejected + 1 }

/-! ## Failure and rollback -/

def Rollout.hasCompensation (r : Rollout) : Bool :=
  r.stages.any fun stage =>
    stage.policy.rollbackSupported && !stage.policy.compensationActions.isEmpty

/-- `fail_rollout`. -/
def failRollout (env : Env ρ) (reason : Bytes) (now : Timestamp) : Op ρ Unit := do
  let state ← Op.read fun w => w.rollout.state
  if state.isTerminal then pure ()
  else do
    -- a paused rollout may not fail, so it runs again first
    if state = .paused then
      transition env .running (text "failure forces the rollout out of pause") now true
    transition env .failed reason now true

/-- The stages a rollback leaves alone. -/
def StageState.notEntered : StageState → Bool
  | .pending | .skipped => true
  | _ => false

/-- The targets `begin_rollback` marks. -/
def StageRuntime.marks (stage : StageRuntime) (t : TargetRuntime) : Bool :=
  !stage.state.notEntered && stage.policy.rollbackSupported
    && (t.state == .succeeded || t.state == .failed)

/-- `begin_rollback`: stages in reverse order, targets in order. -/
def beginRollback (env : Env ρ) (reason : Bytes) (now : Timestamp) : Op ρ Unit := do
  let state ← Op.read fun w => w.rollout.state
  if state ≠ .rollingBack then transition env .rollingBack reason now true
  let r ← Op.read fun w => w.rollout
  let marked := (r.stages.map fun stage => stage.targets.countP stage.marks).sum
  -- every target is asked again when its turn comes
  (List.range r.stages.length).reverse.forM fun j =>
    (List.range (r.stageAt j).targets.length).forM fun i => do
      let stage ← Op.stage j
      let target ← Op.target j i
      if stage.marks target then do
        Op.enterTarget j i .rollingBack none fun t =>
          { t with rollbackStep := 0, currentAttempt := .nil }
  commit env now fun w => decisionOf w .beginRollback
    |>.input (text "reason") reason
    |>.inputU64 (text "targets") marked.toUInt64
    |>.select (if marked = 0 then text "no compensation is required"
      else text "compensation started")
    |>.rationale (if marked = 0 then
        text "the plan declares compensation for stages that changed no target, so nothing is undone"
      else toStringNat marked
        ++ text " target(s) will be compensated in reverse stage order using only the actions the plan declared for compensation")
  countDecision
  persistRollout env

/-- `fail_stage`. -/
def failStage (env : Env ρ) (j : Nat) (reason : Bytes) (now : Timestamp) : Op ρ Unit := do
  stageTransition env j .failed now true
  let w ← get
  if w.rollout.hasCompensation then beginRollback env (text "stage failed: " ++ reason) now
  else failRollout env (text "stage " ++ (w.rollout.stageAt j).id.shortHex ++ text " failed: "
    ++ reason) now

/-! ## Stage entry -/

/-- What the predecessors of a stage allow. -/
inductive Readiness
  | ready | waiting
  | missing
  | refused (predecessor : StageRuntime)

/-- The loop over the predecessors of a stage. -/
def readiness (r : Rollout) (stage : StageRuntime) : List StageId → Readiness
  | [] => .ready
  | predecessor :: rest => match r.findStage predecessor with
    | none => .missing
    | some p =>
      let previous := r.stageAt p
      if previous.state = .succeeded then readiness r stage rest
      else if previous.state.isTerminal then
        if stage.policy.requirePredecessorsSucceeded then .refused previous
        else readiness r stage rest
      else .waiting

/-- What `begin_stage` does once every predecessor allows it and no entry gate holds it. -/
def startStage (env : Env ρ) (j : Nat) (now : Timestamp) : Op ρ Unit := do
  stageTransition env j .running now true
  let w ← get
  let stage := w.rollout.stageAt j
  if w.rollout.state ≠ .running then
    transition env .running (text "stage " ++ stage.id.shortHex ++ text " started") now true
  commit env now fun w => decisionOf w .startStage
    |>.stage stage.id
    |>.inputU64 (text "members") stage.cohort.members.length.toUInt64
    |>.inputDigest (text "membership") stage.cohort.membershipDigest
    |>.input (text "policy") stage.policy.describe
    |>.select (text "stage started")
    |>.reject (text "skip to the next stage") (text "the deterministic plan order forbids skipping")
    |>.rationale (text "every predecessor is succeeded, the entry gate is open, and the cohort is frozen at "
      ++ toStringNat stage.cohort.members.length ++ text " member(s)")
  countDecision

/-- `begin_stage`. -/
def beginStage (env : Env ρ) (j : Nat) (now : Timestamp) : Op ρ Unit := do
  let w ← get
  let stage := w.rollout.stageAt j
  match readiness w.rollout stage stage.predecessors with
  | .missing => throw (makeStatus .internal (text "stage " ++ stage.id.shortHex
      ++ text " names a predecessor the rollout does not hold"))
  | .waiting => pure ()
  | .refused previous => do
    commit env now fun w => decisionOf w .failRollout
      |>.stage stage.id
      |>.input (text "predecessor") previous.id.shortHex
      |>.input (text "predecessor_state") previous.state.toText
      |>.select (text "refusing to enter the stage")
      |>.reject (text "enter the stage") (text "a predecessor reached " ++ previous.state.toText
        ++ text " without succeeding")
      |>.rationale (text "a later stage may not start before its predecessor's gate is satisfied")
    countDecision
    failRollout env (text "predecessor stage " ++ previous.id.shortHex ++ text " did not succeed") now
  | .ready =>
    if stage.state = .pending then do
      -- a stage waiting at a manual entry gate is armed, not pending
      stageTransition env j .armed now true
      if stage.policy.entryGate = .manual ∧ stage.pendingGate.isNil then do
        commit env now fun w => decisionOf w .refuseGate
          |>.stage stage.id
          |>.input (text "gate_mode") (text "manual")
          |>.select (text "stage entry gate opened for an operator")
          |>.reject (text "start the stage automatically")
            (text "the policy requires explicit approval")
          |>.rationale (text "the stage declares a manual entry gate, so the rollout stops here until an operator approves it")
        countDecision
        openGate env j .stageEntry now
      else startStage env j now
    else startStage env j now

/-! ## Dispatch -/

/-- The attempt `create_and_dispatch` mints for the target. -/
def mintAttempt (w : World ρ) (stage : StageRuntime) (target : TargetRuntime) (action : ActionSpec)
    (epoch : UInt64) (now : Timestamp) : Attempt where
  id := (w.impl.ids.next .attempt .attempt).1
  rollout := w.rollout.id
  generation := w.rollout.generation
  stage := stage.id
  cohort := stage.cohort.id
  target := target.target
  action := action.id
  epoch := epoch
  attemptNumber := target.attemptsCreated + 1
  incarnation := w.impl.incarnation
  actionDigest := action.actionDigest
  artifactDigest := action.artifactDigest
  idempotencyKey := deriveIdempotencyKey w.rollout.id w.rollout.generation stage.id target.target
    action.id
  createdAt := now
  dispatchedAt := now
  deadline := now.add stage.policy.attemptDeadline
  state := .dispatched

def Attempt.request (attempt : Attempt) (parameters : Bytes) : DispatchRequest where
  fence := attempt.fence
  target := attempt.target
  cohort := attempt.cohort
  action := attempt.action
  actionDigest := attempt.actionDigest
  artifactDigest := attempt.artifactDigest
  idempotencyKey := attempt.idempotencyKey
  attemptNumber := attempt.attemptNumber
  parameters := parameters
  deadline := attempt.deadline

/-- The decision recorded with an accepted attempt. -/
def dispatchedDecision (attempt : Attempt) (rollbackStep : UInt32) (outcome : DispatchOutcome)
    (w : World ρ) : DecisionBuilder :=
  let b := decisionOf w .dispatchBatch
    |>.stage attempt.stage |>.target attempt.target |>.attempt attempt.id
    |>.inputDigest (text "idempotency_key") attempt.idempotencyKey
    |>.inputDigest (text "action_digest") attempt.actionDigest
    |>.inputU64 (text "epoch") attempt.epoch
    |>.input (text "dispatch_outcome") outcome.toText
  let b := if rollbackStep ≠ 0 then b.inputU64 (text "rollback_step") rollbackStep.toUInt64 else b
  b |>.select (text "attempt dispatched")
    |>.reject (text "treat the target as complete")
      (text "dispatch proves acceptance only; completion requires terminal evidence")
    |>.rationale (text "attempt " ++ attempt.id.shortHex
      ++ text " was accepted by the execution adapter (" ++ outcome.toText
      ++ text ") and is now fenced by generation " ++ w.rollout.generation.shortHex
      ++ text " and epoch " ++ toStringNat attempt.epoch.toNat)

/-- What an accepted attempt writes: its target, the totals of its stage and the attempt table. -/
def Op.accept (env : Env ρ) (j i : Nat) (attempt : Attempt) (rollbackStep : UInt32) : Op ρ Unit := do
  Op.log (.dispatched attempt rollbackStep)
  -- a compensation attempt leaves the target in rolling_back
  Op.enterTarget j i (if rollbackStep = 0 then .dispatched else .rollingBack) none fun t =>
    { t with
      epoch := attempt.epoch
      attemptsCreated := t.attemptsCreated + 1
      currentAttempt := attempt.id }
  Op.updateStage j fun s => { s with
    attemptsTotal := s.attemptsTotal + 1, dispatchedTotal := s.dispatchedTotal + 1 }
  noteAttempt env attempt

/-- `create_and_dispatch`. The source writes the target before it asks the adapter and puts it
back when the adapter refuses; nothing reads it in between, so here it is written on acceptance,
and what a refusal leaves behind is kept: `last_attempt`, `dispatched_at`, `last_change_at`. -/
def createAndDispatch (env : Env ρ) (j : Nat) (id : TargetId) (action : ActionSpec)
    (rollbackStep : UInt32) (epoch : UInt64) (now : Timestamp) : Op ρ Unit := do
  let w ← get
  let stage := w.rollout.stageAt j
  match stage.findTarget id with
  | none => throw (makeStatus .internal (text "target vanished from its stage"))
  | some i => match env.execution with
    | none => Op.updateCounters fun c => { c with dispatchRefused := c.dispatchRefused + 1 }
    | some execution => do
      let target := w.rollout.targetAt j i
      let attempt := mintAttempt w stage target action epoch now
      Op.updateImpl fun s => { s with ids := (s.ids.next .attempt .attempt).2 }
      -- the identifier is on the target before the executor answers
      Op.updateTarget j i fun t => { t with
        lastAttempt := attempt.id, dispatchedAt := now, lastChangeAt := now }
      Op.log (.offered (w.rollout.place j i) attempt.id)
      let result ← Op.ask (execution.dispatch (attempt.request action.parameters))
      -- a refusal is only counted, and the state of the target stays
      if !result.isAccepted then
        Op.updateCounters fun c => { c with dispatchRefused := c.dispatchRefused + 1 }
      else do
        Op.accept env j i attempt rollbackStep
        noteIdempotencyKey env attempt.idempotencyKey
        Op.updateRollout fun r => { r with outstandingAttempts := r.outstandingAttempts + 1 }
        Op.updateReport fun r => { r with dispatched := r.dispatched + 1 }
        commit env now (dispatchedDecision attempt rollbackStep result.outcome)
        countDecision

/-- One entry of the plan of a tick. -/
def dispatchEntry (env : Env ρ) (j : Nat) (now : Timestamp) (entry : DispatchPlanEntry) :
    Op ρ Unit := do
  let stage ← Op.stage j
  -- zero is the primary action, and the compensation steps count from one
  let action := if entry.rollbackStep = 0 then primaryAction stage
    else compensationAction stage (entry.rollbackStep - 1)
  match action, stage.findTarget entry.target with
  | some action, some _ =>
    createAndDispatch env j entry.target action entry.rollbackStep entry.epoch now
  | _, _ => pure ()

/-- `dispatch_stage`. -/
def dispatchStage (env : Env ρ) (j : Nat) (now : Timestamp) : Op ρ Unit := do
  let w ← get
  let dispatch := planDispatch w.rollout (w.rollout.stageAt j) w.impl.inventory env.limits
  dispatch.admitted.forM (dispatchEntry env j now)
  let changing ← Op.read fun w => w.rollout.changingCount.toUInt32
  Op.updateStage j fun s => { s with maxObservedChanging := max s.maxObservedChanging changing }
  Op.updateRollout fun r => { r with
    maxObservedChangingGlobal := max r.maxObservedChangingGlobal changing }
  if !dispatch.rejected.isEmpty ∧ dispatch.admitted.isEmpty then do
    let stage ← Op.stage j
    commit env now fun w =>
      dispatch.rejected.foldl (fun b alternative => b.reject alternative.action alternative.reason)
          (decisionOf w .holdStage |>.stage stage.id)
        |>.inputU64 (text "changing") changing.toUInt64
        |>.select (text "no dispatch this tick")
        |>.rationale (text "the dispatch planner admitted no target; the reasons are recorded with the decision")
    countDecision
  persistRollout env

/-! ## Cancellation -/

/-- One turn of the loop of `cancel_in_flight`. -/
def cancelTarget (env : Env ρ) (j : Nat) (now : Timestamp) (i : Nat) : Op ρ Unit := do
  let target ← Op.target j i
  let found ← Op.findAttempt target.currentAttempt
  match target.currentAttempt.isNil, found with
  | true, _ => pure ()
  | _, none => pure ()
  | false, some attempt =>
    if attempt.finished then pure ()
    else do
      -- marked first, so that whatever it still reports is not counted as a success
      Op.updateAttempt target.currentAttempt fun a => { a with cancelledEpoch := a.epoch }
      Op.log (.cancelled target.currentAttempt)
      match env.execution with
      | none => pure ()
      | some execution => do
        let status ← Op.ask (execution.cancel attempt.fence)
        -- an executor that does not know the attempt has nothing to cancel
        if status.code ≠ .notFound then Op.check status
      let stage ← Op.stage j
      commit env now fun w => decisionOf w .cancelAttempt
        |>.stage stage.id |>.target target.target |>.attempt attempt.id
        |>.inputU64 (text "epoch") attempt.epoch
        |>.select (text "attempt cancelled")
        |>.reject (text "let the attempt finish") (text "the active policy cancels in-flight work")
        |>.rationale (text "the attempt was cancelled; whatever it reports later is recorded but can never be counted as a successful change")

/-- `cancel_in_flight`. -/
def cancelInFlight (env : Env ρ) (j : Nat) (now : Timestamp) : Op ρ Unit := do
  let stage ← Op.stage j
  (List.range stage.targets.length).forM (cancelTarget env j now)
  persistRollout env

/-! ## Compensation -/

/-- `run_rollback` on the target at `j`, `i`. -/
def runRollback (env : Env ρ) (j i : Nat) (now : Timestamp) : Op ρ Unit := do
  let w ← get
  let stage := w.rollout.stageAt j
  let target := w.rollout.targetAt j i
  let inFlight := !target.currentAttempt.isNil
    && (w.impl.attempts.lookup target.currentAttempt).any fun attempt => !attempt.finished
  if inFlight then pure ()
  else match compensationAction stage target.rollbackStep with
    | none => do
      Op.enterTarget j i .rollbackFailed none fun t => { t with
        currentAttempt := .nil
        lastReason := text "the plan declares no compensation action at step "
          ++ toStringNat target.rollbackStep.toNat }
      Op.updateStage j fun s => { s with rollbackFailedTotal := s.rollbackFailedTotal + 1 }
      persistRollout env
    | some action =>
      createAndDispatch env j target.target action (target.rollbackStep + 1) (target.epoch + 1) now

/-- A target that still has to be compensated, in a stage that was entered. -/
def Rollout.compensating (r : Rollout) : Bool :=
  r.stages.any fun stage =>
    !stage.state.notEntered && stage.targets.any fun t => t.state == .rollingBack

/-- The reason `finish_rollback` fails the rollout with. -/
def compensationReport (r : Rollout) : Bytes :=
  text "compensation finished: "
    ++ toStringNat (r.stages.foldl (fun n stage => n + stage.rolledBackTotal) (0 : UInt32)).toNat
    ++ text " target(s) restored, "
    ++ toStringNat (r.stages.foldl (fun n stage => n + stage.rollbackFailedTotal) (0 : UInt32)).toNat
    ++ text " compensation failure(s)"

/-- `finish_rollback`. The test that names the stages to leave alone guards an empty block in the
source, so every stage is asked to become rolled back. -/
def finishRollback (env : Env ρ) (now : Timestamp) : Op ρ Unit := do
  let r ← Op.read fun w => w.rollout
  if r.compensating then persistRollout env
  else do
    Op.log (.finishing r.id r.generation (r.stages.map StageRuntime.state))
    (List.range r.stages.length).forM fun j => stageTransition env j .rolledBack now true
    let reason ← Op.read fun w => compensationReport w.rollout
    failRollout env reason now

/-! ## Stage progress -/

def countGate : Op ρ Unit :=
  Op.updateReport fun r => { r with gatesEvaluated := r.gatesEvaluated + 1 }

/-- The end of `complete_stage`: the stage succeeds and the cursor moves. -/
def advanceCursor (env : Env ρ) (j : Nat) (health evidence advance : GateEvaluation)
    (now : Timestamp) : Op ρ Unit := do
  stageTransition env j .advancing now true
  stageTransition env j .succeeded now true
  Op.updateRollout fun r => { r with cursor := r.cursor + 1 }
  let r ← Op.read fun w => w.rollout
  -- the cursor has moved on; the decision is still about the stage that advanced
  let stage := r.stageAt j
  let finished := decide (r.stages.length ≤ r.cursor.toNat)
  commit env now fun w => decisionOf w .advanceStage
    |>.stage stage.id
    |>.inputU64 (text "healthy") health.healthyTargets.toUInt64
    |>.inputU64 (text "failed") health.failedTargets.toUInt64
    |>.input (text "evidence_gate") evidence.reason
    |>.input (text "advance_gate") advance.reason
    |>.inputU64 (text "cursor") r.cursor.toUInt64
    |>.select (if finished then text "rollout complete" else text "advancing to the next stage")
    |>.reject (text "stay in this stage") (text "every gate this stage declares is satisfied")
    |>.rationale (text "stage " ++ stage.id.shortHex ++ text " advanced: " ++ advance.reason
      ++ (if finished then text "; no stage remains, so the rollout is complete"
        else text "; the next stage in the deterministic plan order is now current"))
  countDecision
  if finished then transition env .completed (text "every stage advanced and completed") now true
  else transition env .advancing (text "stage " ++ stage.id.shortHex ++ text " advanced") now true

/-- A gate that is not satisfied and waits for an operator. -/
def refuseManualGate (env : Env ρ) (j : Nat) (kind : GateKind) (reason selected rationale : Bytes)
    (now : Timestamp) : Op ρ Unit := do
  let stage ← Op.stage j
  commit env now fun w => decisionOf w .refuseGate
    |>.stage stage.id
    |>.input (text "reason") reason
    |>.select selected
    |>.reject (text "advance automatically") (text "the policy requires explicit approval")
    |>.rationale rationale
  countDecision
  openGate env j kind now

/-- `complete_stage`. -/
def completeStage (env : Env ρ) (j : Nat) (now : Timestamp) (approved : Bool) : Op ρ Unit := do
  let w ← get
  let stage := w.rollout.stageAt j
  Op.log (.completing w.rollout.id w.rollout.generation stage now approved)
  let health := healthEvaluation env stage now
  Op.updateStage j fun s => { s with lastHealthGate := health }
  countGate
  -- the gates read the stage as it was before the health evaluation was stored
  let evidence := evaluateEvidenceGate stage stage.policy.evidenceGate stage.evidenceRule now
    env.limits
  Op.updateStage j fun s => { s with lastEvidenceGate := evidence }
  countGate
  if !evidence.satisfied ∧ !approved then
    -- a manual gate waits for an operator, an automatic one fails the stage
    if stage.policy.evidenceGate.mode = .manual then
      refuseManualGate env j .evidence evidence.reason
        (text "evidence gate opened for an operator")
        (text "the evidence gate is manual and is not satisfied: " ++ evidence.reason) now
    else do
      commit env now fun w => decisionOf w .failStage
        |>.stage stage.id
        |>.input (text "reason") evidence.reason
        |>.select (text "stage failed its evidence gate")
        |>.reject (text "advance") evidence.reason
        |>.rationale (text "the evidence gate is automatic and cannot be satisfied: "
          ++ evidence.reason)
      countDecision
      failStage env j evidence.reason now
  else do
    let advance := evaluateAdvanceGate stage now env.limits
    Op.updateStage j fun s => { s with lastAdvanceGate := advance }
    countGate
    -- an operator who approved either gate passes both
    if !advance.satisfied ∧ !approved then
      if stage.policy.advanceGate = .manual then
        refuseManualGate env j .advance advance.reason (text "advance gate opened for an operator")
          (text "the advance gate is manual: " ++ advance.reason) now
      else do
        commit env now fun w => decisionOf w .holdStage
          |>.stage stage.id
          |>.input (text "reason") advance.reason
          |>.select (text "holding the stage")
          |>.reject (text "advance") advance.reason
          |>.rationale (text "the stage stays where it is and re-evaluates on the next tick: "
            ++ advance.reason)
        countDecision
    else advanceCursor env j health evidence advance now

/-! ## Running a stage -/

/-- The deadline check on one target: an attempt that has not reported in time is failed. -/
def expireTarget (env : Env ρ) (j : Nat) (now : Timestamp) (i : Nat) : Op ρ Unit := do
  let target ← Op.target j i
  let found ← Op.findAttempt target.currentAttempt
  match found with
  | none => pure ()
  | some attempt =>
    if target.state ≠ .dispatched ∨ target.currentAttempt.isNil then pure ()
    else if attempt.finished ∨ attempt.deadline.isNil ∨ ¬ attempt.deadline < now then pure ()
    else do
      Op.updateAttempt target.currentAttempt fun a => { a with
        completed := true
        state := if attempt.wasCancelled then .cancelled else .failed
        outcome := .inconclusive }
      Op.releaseOutstanding
      -- a cancelled attempt ends its target as cancelled, without a retry
      if attempt.wasCancelled then do
        Op.enterTarget j i .cancelled none fun t => { t with
          currentAttempt := .nil
          completedAt := now
          lastReason := text "the attempt was cancelled and did not report before its deadline" }
        Op.updateStage j fun s => { s with cancelledTotal := s.cancelledTotal + 1 }
      else do
        let stage ← Op.stage j
        let reason := text "the attempt exceeded its deadline of "
          ++ toStringInt64 stage.policy.attemptDeadline.millis ++ text " ms"
        Op.enterTarget j i .failed none fun t => { t with
          currentAttempt := .nil, completedAt := now, outcome := .failed, lastReason := reason }
        Op.updateStage j fun s => { s with failedTotal := s.failedTotal + 1 }
        commit env now fun w => decisionOf w .cancelAttempt
          |>.stage stage.id |>.target target.target |>.attempt attempt.id
          |>.input (text "reason") reason
          |>.select (text "attempt failed by deadline")
          |>.reject (text "wait indefinitely")
            (text "the stage policy defines a deadline for every attempt")
          |>.rationale (text "attempt " ++ attempt.id.shortHex
            ++ text " passed its deadline without terminal evidence; dispatch is not completion, so the attempt is failed and the target may be retried under a new epoch")
        countDecision
        retryOrExhaust env j i now

/-- The whole canary batch succeeded, and the health gate accepts the cohort where it is asked. -/
def canaryOk (env : Env ρ) (stage : StageRuntime) (now : Timestamp) : Bool :=
  (stage.targets.all fun t => t.attemptsCreated == 0 || t.state == .succeeded)
    && !(stage.policy.canaryRequiresHealthGate && healthGateHolds env stage now)

/-- A target of the canary batch used up its attempts. -/
def canaryExhausted (stage : StageRuntime) : Bool :=
  stage.targets.any fun t => decide (0 < t.attemptsCreated) && t.state == .exhausted

/-- Canary clearance; the answer tells whether the stage was failed. -/
def clearCanary (env : Env ρ) (j : Nat) (now : Timestamp) : Op ρ Bool := do
  weigh j now
  let stage ← Op.stage j
  if stage.canaryCleared ∨ stage.policy.canarySize = 0
      ∨ stage.dispatchedTotal < stage.policy.canarySize then pure false
  else if canaryOk env stage now then do
    Op.updateStage j fun s => { s with canaryCleared := true }
    commit env now fun w => decisionOf w .openGate
      |>.stage stage.id
      |>.inputU64 (text "canary_size") stage.policy.canarySize.toUInt64
      |>.select (text "canary cleared")
      |>.reject (text "admit the full cohort immediately")
        (text "the canary batch must clear its health gate first")
      |>.rationale (text "the first " ++ toStringNat stage.policy.canarySize.toNat
        ++ text " target(s) completed and the health gate accepts the cohort; the rest of the stage may now be dispatched")
    countDecision
    pure false
  else if canaryExhausted stage then do
    commit env now fun w => decisionOf w .failStage
      |>.stage stage.id
      |>.inputU64 (text "canary_size") stage.policy.canarySize.toUInt64
      |>.select (text "the canary batch failed")
      |>.reject (text "continue the rollout")
        (text "a target in the canary batch exhausted its attempts")
      |>.rationale (text "the canary exists to stop a bad change before it reaches the rest of the cohort; the batch did not clear, so the stage fails here rather than being held open indefinitely")
    countDecision
    failStage env j (text "the canary batch failed") now
    pure true
  -- nothing is exhausted: a retry inside the batch may still be dispatched
  else pure false

/-- Every target is terminal: soak, then the gates. -/
def settleStage (env : Env ρ) (j : Nat) (now : Timestamp) : Op ρ Unit := do
  let stage ← Op.stage j
  let soak := stage.policy.evidenceGate.soak
  if !soak.isZero ∧ stage.soakStartedAt.isNil then do
    Op.updateStage j fun s => { s with soakStartedAt := now }
    stageTransition env j .soaking now true
    let state ← Op.read fun w => w.rollout.state
    -- the rollout follows its stage where it may
    if state.legalTransition .soaking then
      transition env .soaking (text "soaking for " ++ toStringInt64 soak.millis
        ++ text " ms before the evidence gate is evaluated") now true
    commit env now fun w => decisionOf w .holdStage
      |>.stage stage.id
      |>.inputU64 (text "soak_ms") soak.millis.toUInt64
      |>.select (text "soaking")
      |>.reject (text "evaluate the evidence gate now") (text "the soak duration has not elapsed")
      |>.rationale (text "the stage is soaking; evidence gathered before the soak completes cannot show whether the change is stable")
    countDecision
  else if !soak.isZero ∧ now.since stage.soakStartedAt < soak then persistRollout env
  else completeStage env j now false

/-- An unhealthy cohort stops new work without failing the stage. -/
def holdForHealth (env : Env ρ) (j : Nat) (now : Timestamp) : Op ρ Unit := do
  let stage ← Op.stage j
  let evaluation := healthEvaluation env stage now
  Op.updateStage j fun s => { s with lastHealthGate := evaluation }
  commit env now fun w =>
    evaluation.blocking.foldl (fun b blocking => b.reject (text "dispatch") blocking)
        (decisionOf w .holdStage |>.stage stage.id |>.input (text "reason") evaluation.reason)
      |>.inputU64 (text "healthy") evaluation.healthyTargets.toUInt64
      |>.inputU64 (text "total") evaluation.totalTargets.toUInt64
      |>.select (text "holding dispatch")
      |>.rationale (text "the cohort is not healthy enough to admit more change: "
        ++ evaluation.reason)
  countDecision
  persistRollout env

/-- `run_stage`. -/
def runStage (env : Env ρ) (j : Nat) (now : Timestamp) : Op ρ Unit := do
  let stage ← Op.stage j
  (List.range stage.targets.length).forM (expireTarget env j now)
  probeHealth env j now
  -- the deadlines may have failed targets of this stage
  let stage ← Op.stage j
  let budget := failureBudget stage
  if budget.toNat < stage.failedCount then do
    let reason := toStringNat stage.failedCount
      ++ text " target(s) failed, above the failure budget of " ++ toStringNat budget.toNat
    commit env now fun w => decisionOf w .failStage
      |>.stage stage.id
      |>.inputU64 (text "failed") stage.failedCount.toUInt64
      |>.inputU64 (text "budget") budget
      |>.select (text "stage failed")
      |>.reject (text "continue") reason
      |>.rationale reason
    countDecision
    failStage env j reason now
  else do
    let failed ← clearCanary env j now
    if failed then pure ()
    else do
      weigh j now
      let stage ← Op.stage j
      -- an unhealthy cohort holds back new work once a target has succeeded
      if stage.terminalCount = stage.targets.length then settleStage env j now
      else if 0 < stage.succeededTotal ∧ healthGateHolds env stage now then holdForHealth env j now
      else dispatchStage env j now

/-! ## Rollout advancement -/

/-- The rollout goes on to the next stage without completing this one. -/
def skipStage (env : Env ρ) (now : Timestamp) : Op ρ Unit := do
  Op.updateRollout fun r => { r with cursor := r.cursor + 1 }
  let r ← Op.read fun w => w.rollout
  if r.stages.length ≤ r.cursor.toNat then
    transition env .completed (text "every stage completed") now true
  else transition env .advancing (text "advancing") now true

/-- `advance` on the current stage of a rollout that is running, soaking or advancing. -/
def advanceStage (env : Env ρ) (j : Nat) (now : Timestamp) : Op ρ Unit := do
  let r ← Op.read fun w => w.rollout
  match (r.stageAt j).state with
  | .pending => beginStage env j now
  | .armed => stageTransition env j .running now true
  | .running | .soaking => runStage env j now
  | .gated => probeHealth env j now
  | .advancing => completeStage env j now true
  | .succeeded => skipStage env now
  | .failed | .aborted =>
    if r.hasCompensation then beginRollback env (text "a stage failed") now
    else failRollout env (text "a stage failed") now
  | .rolledBack | .skipped => Op.updateRollout fun r => { r with cursor := r.cursor + 1 }
  -- the source has no case for a blocked stage
  | .blocked => pure ()

/-- The rollback sweep: every target that is still to be compensated, then the end of it. -/
def advanceRollback (env : Env ρ) (now : Timestamp) : Op ρ Unit := do
  let r ← Op.read fun w => w.rollout
  (List.range r.stages.length).forM fun j =>
    (List.range (r.stageAt j).targets.length).forM fun i => do
      let target ← Op.target j i
      if target.state = .rollingBack then runRollback env j i now
  finishRollback env now

/-- `advance`. -/
def advance (env : Env ρ) (now : Timestamp) : Op ρ Unit := do
  let r ← Op.read fun w => w.rollout
  match r.state with
  | .created | .validated | .armed | .retired | .paused | .aborting | .failed | .completed =>
    pure ()
  | .gated => match r.currentStage with
    | none => pure ()
    | some j =>
      if (r.stageAt j).pendingGate.isNil ∧ (r.stageAt j).state = .gated then pure ()
      else probeHealth env j now
  | .rollingBack => Op.latch (advanceRollback env now)
  | .running | .soaking | .advancing => Op.latch do
    match r.currentStage with
    | none => transition env .completed (text "every stage in the plan has been processed") now true
    | some j => advanceStage env j now

end RolloutFabric
