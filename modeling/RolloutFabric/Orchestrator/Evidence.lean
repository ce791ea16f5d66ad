/-
Evidence: the fences a record must pass, and what an admitted record does to the attempt it
names and to the target it names.
-/
import RolloutFabric.Orchestrator.Persist
import RolloutFabric.Orchestrator.Gates

namespace RolloutFabric

variable {ρ : Type}

/-! ## Admission -/

/-- The counter each disposition of `admit` increments. -/
def OrchestratorCounters.refuse (c : OrchestratorCounters) :
    EvidenceAdmission → OrchestratorCounters
  | .duplicate => { c with evidenceDuplicate := c.evidenceDuplicate + 1 }
  | .outOfOrder => { c with evidenceOutOfOrder := c.evidenceOutOfOrder + 1 }
  | .staleGeneration => { c with evidenceStaleGeneration := c.evidenceStaleGeneration + 1 }
  | .staleAttempt => { c with evidenceStaleAttempt := c.evidenceStaleAttempt + 1 }
  | .staleIncarnation => { c with evidenceStaleIncarnation := c.evidenceStaleIncarnation + 1 }
  | .accepted => c
  | _ => { c with evidenceRejected := c.evidenceRejected + 1 }

/-- A superseded incarnation may not describe the present. -/
def EvidenceClass.describesPresent : EvidenceClass → Bool
  | .telemetry | .acceptance | .cancellation => true
  | _ => false

/-- The fences on the attempt a record names, and the freshness of the record. -/
def admitAttempt (limits : RuntimeLimits) (stage : StageRuntime) (live : Attempt)
    (record : EvidenceRecord) (now : Timestamp) : AdmissionResult :=
  if record.attemptEpoch ≠ live.epoch then
    ⟨.staleAttempt, text "evidence names attempt epoch " ++ toStringNat record.attemptEpoch.toNat
      ++ text " but the attempt is at epoch " ++ toStringNat live.epoch.toNat⟩
  else if record.sequence = live.highestSequence then
    ⟨.duplicate, text "sequence " ++ toStringNat record.sequence.toNat
      ++ text " has already been applied to this attempt"⟩
  -- ordering is classified before terminal-state fencing
  else if record.sequence < live.highestSequence then
    ⟨.outOfOrder, text "sequence " ++ toStringNat record.sequence.toNat ++ text " arrives after "
      ++ toStringNat live.highestSequence.toNat ++ text " and describes an older observation"⟩
  else if live.finished then
    ⟨.staleAttempt, text "the attempt already reached a terminal state; late evidence is recorded as an observation but cannot resurrect it"⟩
  else
    let freshness := evaluateFreshness record.observedAt now
      (gateMaxAge stage.policy.evidenceMaxAge limits) (skewOf limits)
    if !record.isTelemetry && !freshness.fresh then
      ⟨.expired, text "evidence is unusable: " ++ freshness.reason⟩
    else ⟨.accepted, text "admitted"⟩

/-- `admit`, given the rollout the record names and whether a plan is stored for it. -/
def admitRecord (env : Env ρ) (s : Impl ρ) (rollout : Option Rollout) (hasPlan : Bool)
    (record : EvidenceRecord) (now : Timestamp) : AdmissionResult :=
  let valid := record.validate env.limits
  if !valid.isOk then ⟨.malformed, valid.message⟩
  else match rollout with
  | none => ⟨.unknownAttempt, text "no rollout " ++ record.rollout.shortHex
      ++ text " is known to this controller"⟩
  | some r =>
    if !hasPlan then ⟨.malformed, text "the rollout has no stored plan"⟩
    else if record.generation ≠ r.generation then
      ⟨.staleGeneration, text "evidence names generation " ++ record.generation.shortHex
        ++ text " but the rollout is at " ++ r.generation.shortHex⟩
    else match r.findStage record.stage with
    | none => ⟨.malformed, text "evidence names a stage the rollout does not hold"⟩
    | some j => match (r.stageAt j).findTarget record.target with
      | none => ⟨.malformed, text "evidence names a target outside the frozen cohort of its stage"⟩
      | some _ => match s.attempts.lookup record.attempt with
        | none => ⟨.unknownAttempt, text "attempt " ++ record.attempt.shortHex
            ++ text " is not outstanding on this controller"⟩
        | some live =>
          -- only what describes the present has to come from this incarnation
          if record.incarnation ≠ s.incarnation ∧ (evidenceClass record.kind).describesPresent then
            ⟨.staleIncarnation, text "evidence from controller incarnation "
              ++ record.incarnation.shortHex
              ++ text " cannot describe current state after this controller took over"⟩
          else admitAttempt env.limits (r.stageAt j) live record now

/-- What an accepted record passed: every check on the rollout, the place and the attempt it
names. -/
structure Admitted (env : Env ρ) (s : Impl ρ) (r : Rollout) (record : EvidenceRecord)
    (now : Timestamp) (j i : Nat) (live : Attempt) : Prop where
  valid : (record.validate env.limits).isOk = true
  generation : record.generation = r.generation
  stage : r.findStage record.stage = some j
  target : (r.stageAt j).findTarget record.target = some i
  attempt : s.attempts.lookup record.attempt = some live
  incarnation : record.incarnation = s.incarnation
    ∨ (evidenceClass record.kind).describesPresent = false
  epoch : record.attemptEpoch = live.epoch
  sequence : live.highestSequence < record.sequence
  unfinished : live.finished = false
  fresh : record.isTelemetry = true ∨ (evaluateFreshness record.observedAt now
    (gateMaxAge (r.stageAt j).policy.evidenceMaxAge env.limits) (skewOf env.limits)).fresh = true

theorem admitAttempt_isAccepted {limits : RuntimeLimits} {stage : StageRuntime} {live : Attempt}
    {record : EvidenceRecord} {now : Timestamp} :
    (admitAttempt limits stage live record now).isAccepted = true ↔
      record.attemptEpoch = live.epoch ∧ live.highestSequence < record.sequence
        ∧ live.finished = false
        ∧ (record.isTelemetry = true ∨ (evaluateFreshness record.observedAt now
          (gateMaxAge stage.policy.evidenceMaxAge limits) (skewOf limits)).fresh = true) := by
  unfold admitAttempt
  by_cases hepoch : record.attemptEpoch = live.epoch
  · rw [if_neg (not_not.2 hepoch)]
    split
    · next heq => simp [AdmissionResult.isAccepted, heq, UInt64.lt_irrefl]
    next hne =>
    split
    · next hlt => simp [AdmissionResult.isAccepted, UInt64.lt_asymm hlt]
    next hge =>
    have hlt : live.highestSequence < record.sequence := by
      rcases UInt64.lt_or_eq_of_le (UInt64.not_lt.1 hge) with h | h
      · exact h
      · exact absurd h.symm hne
    cases hfin : live.finished with
    | true => simp [AdmissionResult.isAccepted]
    | false =>
      cases htel : record.isTelemetry <;>
        cases hfresh : (evaluateFreshness record.observedAt now
          (gateMaxAge stage.policy.evidenceMaxAge limits) (skewOf limits)).fresh <;>
        simp [AdmissionResult.isAccepted, hepoch, hlt, hfresh]
  · rw [if_pos hepoch]
    simp [AdmissionResult.isAccepted, hepoch]

theorem admit_isAccepted {env : Env ρ} {s : Impl ρ} {rollout : Option Rollout} {hasPlan : Bool}
    {record : EvidenceRecord} {now : Timestamp} :
    (admitRecord env s rollout hasPlan record now).isAccepted = true ↔
      hasPlan = true ∧ ∃ r j i live, rollout = some r ∧ Admitted env s r record now j i live := by
  constructor
  · intro h
    unfold admitRecord at h
    cases hvalid : (record.validate env.limits).isOk with
    | false => simp [hvalid, AdmissionResult.isAccepted] at h
    | true =>
    cases rollout with
    | none => simp [hvalid, AdmissionResult.isAccepted] at h
    | some r =>
    cases hasPlan with
    | false => simp [hvalid, AdmissionResult.isAccepted] at h
    | true =>
    by_cases hgen : record.generation = r.generation
    · cases hstage : r.findStage record.stage with
      | none => simp [hvalid, hgen, hstage, AdmissionResult.isAccepted] at h
      | some j =>
      cases htarget : (r.stageAt j).findTarget record.target with
      | none => simp [hvalid, hgen, hstage, htarget, AdmissionResult.isAccepted] at h
      | some i =>
      cases hlive : s.attempts.lookup record.attempt with
      | none => simp [hvalid, hgen, hstage, htarget, hlive, AdmissionResult.isAccepted] at h
      | some live =>
      by_cases hinc : record.incarnation ≠ s.incarnation
          ∧ (evidenceClass record.kind).describesPresent = true
      · simp [hvalid, hgen, hstage, htarget, hlive, hinc, AdmissionResult.isAccepted] at h
      · simp only [hvalid, Bool.not_true, Bool.false_eq_true, if_false, hgen, ne_eq,
          not_true_eq_false, hstage, htarget, hlive, if_neg hinc] at h
        obtain ⟨hepoch, hseq, hfin, hfresh⟩ := admitAttempt_isAccepted.1 h
        refine ⟨rfl, r, j, i, live, rfl, hvalid, hgen, hstage, htarget, hlive, ?_, hepoch, hseq,
          hfin, hfresh⟩
        by_cases he : record.incarnation = s.incarnation
        · exact .inl he
        · exact .inr (by simpa [he] using hinc)
    · simp [hvalid, hgen, AdmissionResult.isAccepted] at h
  · rintro ⟨rfl, r, j, i, live, rfl, ha⟩
    unfold admitRecord
    have hinc : ¬ (record.incarnation ≠ s.incarnation
        ∧ (evidenceClass record.kind).describesPresent = true) := by
      rcases ha.incarnation with h | h <;> simp [h]
    simp only [ha.valid, Bool.not_true, Bool.false_eq_true, if_false, ha.generation, ne_eq,
      not_true_eq_false, ha.stage, ha.target, ha.attempt, if_neg hinc]
    exact admitAttempt_isAccepted.2 ⟨ha.epoch, ha.sequence, ha.unfinished, ha.fresh⟩

/-! ## Health samples -/

/-- How fresh a health sample is when it arrives. -/
def admissionFreshness (limits : RuntimeLimits) (record : EvidenceRecord) (now : Timestamp) :
    Freshness :=
  evaluateFreshness record.observedAt now
    (.fromMillis limits.defaultEvidenceMaxAgeMillis.toUInt64.toInt64) (skewOf limits)

/-- `apply_health`. -/
def applyHealth (limits : RuntimeLimits) (record : EvidenceRecord) (now : Timestamp)
    (t : TargetRuntime) : TargetRuntime :=
  let freshness := admissionFreshness limits record now
  if !freshness.fresh then
    { t with lastReason := text "a health sample was discarded: " ++ freshness.reason }
  else
    let t := { t with
      lastHealthyAt := record.observedAt
      lastHealthSource := record.healthSource
      lastHealthOriginLive := record.origin == EvidenceOrigin.live }
    if record.outcome = .succeeded then
      { t with
        healthy := true
        consecutiveHealthy := t.consecutiveHealthy + 1
        healthySince := if t.healthySince.isNil then record.observedAt else t.healthySince }
    else { t with healthy := false, consecutiveHealthy := 0, healthySince := {} }

/-! ## Terminal evidence -/

/-- `retry_or_exhaust`. -/
def retryOrExhaust (env : Env ρ) (j i : Nat) (now : Timestamp) : Op ρ Unit := do
  let stage ← Op.stage j
  let target ← Op.target j i
  if target.attemptsCreated < stage.policy.maxAttemptsPerTarget then do
    Op.enterTarget j i .pending none fun t => { t with currentAttempt := .nil }
    commit env now fun w => decisionOf w .retryTarget
      |>.stage stage.id |>.target target.target
      |>.inputU64 (text "attempts_created") target.attemptsCreated.toUInt64
      |>.inputU64 (text "max_attempts") stage.policy.maxAttemptsPerTarget.toUInt64
      |>.input (text "reason") target.lastReason
      |>.select (text "target eligible for another attempt")
      |>.reject (text "exhaust target") (text "the attempt budget for this stage is not spent yet")
      |>.rationale (text "the target failed, and the stage allows "
        ++ toStringNat stage.policy.maxAttemptsPerTarget.toNat
        ++ text " attempt(s) per target; the retry reuses the same idempotency key so an executor that already performed the effect will report it instead of performing it again")
    countDecision
  else do
    -- the decision is recorded either way
    if target.state.legalTransition .exhausted then Op.enterTarget j i .exhausted none
    commit env now fun w => decisionOf w .failStage
      |>.stage stage.id |>.target target.target
      |>.inputU64 (text "attempts_created") target.attemptsCreated.toUInt64
      |>.input (text "reason") target.lastReason
      |>.select (text "target exhausted its attempt budget")
      |>.rationale (text "the target failed and every attempt permitted by the stage policy has been used; no further dispatch will be made for it in this generation")
    countDecision

/-- The decision recorded with a completed target. -/
def completedDecision (record : EvidenceRecord) (stage : StageRuntime) (target : TargetRuntime)
    (attempt : AttemptId) (w : World ρ) : DecisionBuilder :=
  decisionOf w .openGate
    |>.stage stage.id |>.target target.target |>.attempt attempt
    |>.input (text "evidence") record.id.shortHex
    |>.input (text "authority") record.authority.toText
    |>.input (text "origin") record.origin.toText
    |>.inputU64 (text "sequence") record.sequence
    |>.select (text "target completed")
    |>.rationale (text "terminal execution evidence from " ++ record.authority.toText
      ++ text " reports that the effect finished successfully; dispatch alone would not have been enough")

/-- `apply_terminal_execution`. -/
def applyTerminalExecution (env : Env ρ) (record : EvidenceRecord) (j i : Nat) (attempt : Attempt)
    (now : Timestamp) : Op ρ Unit := do
  Op.updateAttempt record.attempt fun a =>
    { a with completed := true, lastEvidenceAt := record.recordedAt, outcome := record.outcome }
  Op.releaseOutstanding
  let target ← Op.target j i
  if attempt.wasCancelled then do
    -- a cancelled operation must never publish success
    Op.updateAttempt record.attempt fun a => { a with state := .cancelled }
    Op.enterTarget j i .cancelled (some record) fun t => { t with
      outcome := .inconclusive
      lastReason := text "the attempt was cancelled before it reported; its result is not counted" }
    Op.updateStage j fun s => { s with cancelledTotal := s.cancelledTotal + 1 }
  else if target.currentAttempt ≠ record.attempt then
    Op.updateAttempt record.attempt fun a => { a with state := .unknown }
  else if record.outcome = .succeeded ∧ record.kind = .executionCompleted then do
    Op.updateAttempt record.attempt fun a => { a with state := .succeeded }
    -- the only place where a target succeeds, and where the stage counts it
    Op.enterTarget j i .succeeded (some record) fun t => { t with
      outcome := .succeeded
      completedAt := record.observedAt
      lastTerminalEvidence := record.id
      lastReason := [] }
    Op.updateStage j fun s => { s with succeededTotal := s.succeededTotal + 1 }
    Op.updateReport fun r => { r with completed := r.completed + 1 }
    let stage ← Op.stage j
    commit env now (completedDecision record stage target attempt.id)
    countDecision
  else do
    Op.updateAttempt record.attempt fun a => { a with state := .failed }
    Op.enterTarget j i .failed (some record) fun t => { t with
      outcome := .failed
      completedAt := record.observedAt
      lastTerminalEvidence := record.id
      lastReason := text "terminal execution evidence reported failure" }
    Op.updateStage j fun s => { s with failedTotal := s.failedTotal + 1 }
    retryOrExhaust env j i now

/-- `apply_compensation`: the outcome, not the kind, decides whether the step took effect. -/
def applyCompensation (env : Env ρ) (record : EvidenceRecord) (j i : Nat) (now : Timestamp) :
    Op ρ Unit := do
  Op.releaseOutstanding
  Op.updateAttempt record.attempt fun a => { a with
    completed := true
    state := if record.outcome = .succeeded then .rolledBack else .rollbackFailed
    outcome := record.outcome }
  let stage ← Op.stage j
  if record.outcome = .succeeded then do
    Op.updateTarget j i fun t => { t with rollbackStep := t.rollbackStep + 1 }
    let target ← Op.target j i
    if stage.policy.compensationActions.length ≤ target.rollbackStep.toNat then do
      Op.enterTarget j i .rolledBack (some record) fun t => { t with
        currentAttempt := .nil, lastReason := text "compensated" }
      Op.updateStage j fun s => { s with rolledBackTotal := s.rolledBackTotal + 1 }
    -- otherwise the target stays in rolling_back and the next step follows on the next tick
  else do
    Op.enterTarget j i .rollbackFailed (some record) fun t => { t with
      currentAttempt := .nil, lastReason := text "compensation failed" }
    Op.updateStage j fun s => { s with rollbackFailedTotal := s.rollbackFailedTotal + 1 }
    let target ← Op.target j i
    commit env now fun w => decisionOf w .beginRollback
      |>.stage stage.id |>.target target.target |>.attempt record.attempt
      |>.input (text "reason") target.lastReason
      |>.select (text "compensation failed for this target")
      |>.rationale (text "the plan declared compensation for this stage and the compensating action reported failure; the target is recorded as rollback_failed rather than as restored")
    countDecision

/-! ## Applying a record -/

/-- The executor confirmed that it stopped. -/
def applyCancellation (record : EvidenceRecord) (j i : Nat) : Op ρ Unit := do
  Op.updateAttempt record.attempt fun a =>
    { a with completed := true, state := .cancelled, outcome := .inconclusive }
  Op.releaseOutstanding
  let target ← Op.target j i
  if target.state = .dispatched ∨ target.state = .unknown then
    Op.enterTarget j i .cancelled (some record)
  Op.updateTarget j i fun t => { t with
    currentAttempt := .nil, lastReason := text "the executor acknowledged the cancellation" }
  Op.updateStage j fun s => { s with cancelledTotal := s.cancelledTotal + 1 }

/-- What each class of evidence does to the target at `j`, `i`. -/
def applyClass (env : Env ρ) (record : EvidenceRecord) (j i : Nat) (attempt : Attempt)
    (now : Timestamp) : Op ρ Unit :=
  match evidenceClass record.kind with
  | .telemetry | .acceptance => pure ()
  | .cancellation => applyCancellation record j i
  | .execution => do
    let target ← Op.target j i
    -- a progress report proves the executor is alive and nothing more
    if record.kind ≠ .executionCompleted ∧ record.kind ≠ .executionFailed then pure ()
    else if target.state = .rollingBack then applyCompensation env record j i now
    else applyTerminalExecution env record j i attempt now
  | .compensation => applyCompensation env record j i now
  | .verification =>
    Op.updateTarget j i fun t => { t with
      verificationObservedAt := record.observedAt
      verificationPassed := record.kind == .verificationPassed
      verificationVerifier := record.verifier
      lastReason := if record.kind = .verificationPassed then t.lastReason
        else text "verification failed" }

/-- `apply_evidence` on the rollout the record names. -/
def applyEvidence (env : Env ρ) (record : EvidenceRecord) (now : Timestamp) : Op ρ Unit := do
  let w ← get
  match w.rollout.findStage record.stage with
  | none => pure ()
  | some j => match (w.rollout.stageAt j).findTarget record.target with
    | none => pure ()
    | some i => match w.impl.attempts.lookup record.attempt with
      | none => pure ()
      | some attempt => do
        Op.log (.applied record attempt w.rollout.generation (w.rollout.targetAt j i).currentAttempt)
        Op.updateAttempt record.attempt fun a => { a with
          highestSequence := record.sequence
          lastEvidenceAt := record.recordedAt
          acceptedEvidence := a.acceptedEvidence + 1 }
        applyClass env record j i attempt now
        persistRollout env

end RolloutFabric
