/-
Gate evaluation: pure functions from a stage's recorded state to an evaluation, and the health
view they are given.
-/
import RolloutFabric.Domain.Rollout

namespace RolloutFabric

/-! ## The health view -/

/-- The observation time of the stalest target that was observed at all. -/
def oldestObservation (targets : List TargetRuntime) : Timestamp :=
  let observed := (targets.filter fun t => !t.lastHealthyAt.isNil).map TargetRuntime.lastHealthyAt
  match observed with
  | [] => {}
  | first :: rest => rest.foldl (fun oldest t => if t < oldest then t else oldest) first

def snapshotFor (stage : StageRuntime) (source : Option HealthSourceId) : HealthSnapshot :=
  let observed := stage.targets.filter fun t => !t.lastHealthyAt.isNil
  let source := source.getD .nil
  let observedAt := oldestObservation stage.targets
  let live := !observed.isEmpty && observed.all fun t => t.lastHealthOriginLive
  let healthy := (stage.targets.countP fun t => t.healthy).toUInt32
  let unknown := (stage.targets.countP fun t => !t.healthy && t.lastHealthyAt.isNil).toUInt32
  let unhealthy := (stage.targets.countP fun t => !t.healthy && !t.lastHealthyAt.isNil).toUInt32
  { source, observedAt, healthy, unhealthy, unknown, live
    digest := sha256 [
      ByteWriter.string (text "rollout-fabric/health-snapshot/v1"), ByteWriter.id source,
      ByteWriter.timestamp observedAt, ByteWriter.boolean live, ByteWriter.u32 healthy,
      ByteWriter.u32 unhealthy, ByteWriter.u32 unknown].flatten }

/-- The walk that keeps the older of two times. -/
theorem foldl_oldest (l : List Timestamp) (first : Timestamp) :
    let oldest := l.foldl (fun oldest t => if t < oldest then t else oldest) first
    oldest ∈ first :: l ∧ ∀ t ∈ first :: l, oldest.nanos ≤ t.nanos := by
  induction l generalizing first with
  | nil => simp
  | cons t l ih =>
    dsimp only
    rw [List.foldl_cons]
    obtain ⟨hmem, hle⟩ := ih (if t < first then t else first)
    have hmin : (if t < first then t else first).nanos ≤ t.nanos
        ∧ (if t < first then t else first).nanos ≤ first.nanos := by
      split
      · next hlt => exact ⟨Int64.le_refl _, Int64.le_of_lt hlt⟩
      · next hge => exact ⟨Int64.not_lt.1 hge, Int64.le_refl _⟩
    have hbest := hle _ (List.mem_cons_self ..)
    constructor
    · rcases List.mem_cons.1 hmem with hsame | hrest
      · rw [hsame]
        split <;> simp
      · exact List.mem_cons_of_mem _ (List.mem_cons_of_mem _ hrest)
    · intro u hu
      rcases List.mem_cons.1 hu with rfl | hu
      · exact Int64.le_trans hbest hmin.2
      rcases List.mem_cons.1 hu with rfl | hu
      · exact Int64.le_trans hbest hmin.1
      · exact hle u (List.mem_cons_of_mem _ hu)

/-- The observation a snapshot is dated by: it belongs to a target, and none is older. -/
theorem oldestObservation_spec {targets : List TargetRuntime} {t : TargetRuntime}
    (ht : t ∈ targets) (hobserved : t.lastHealthyAt.isNil = false) :
    (∃ u ∈ targets, u.lastHealthyAt.isNil = false
      ∧ oldestObservation targets = u.lastHealthyAt)
      ∧ (oldestObservation targets).nanos ≤ t.lastHealthyAt.nanos := by
  have hmem : t.lastHealthyAt ∈ (targets.filter fun t => !t.lastHealthyAt.isNil).map
      TargetRuntime.lastHealthyAt :=
    List.mem_map_of_mem (List.mem_filter.2 ⟨ht, by simp [hobserved]⟩)
  unfold oldestObservation
  dsimp only
  split
  · next hnone => rw [hnone] at hmem; cases hmem
  next first rest hsome =>
  obtain ⟨hin, hle⟩ := foldl_oldest rest first
  rw [hsome] at hmem
  refine ⟨?_, hle _ hmem⟩
  rw [← hsome] at hin
  obtain ⟨u, hu, heq⟩ := List.mem_map.1 hin
  obtain ⟨hu, hnil⟩ := List.mem_filter.1 hu
  exact ⟨u, hu, by simpa using hnil, heq.symm⟩

theorem snapshotFor_live {stage : StageRuntime} {source : Option HealthSourceId}
    (h : (snapshotFor stage source).live = true) {t : TargetRuntime} (ht : t ∈ stage.targets)
    (hobserved : t.lastHealthyAt.isNil = false) : t.lastHealthOriginLive = true := by
  simp only [snapshotFor, Bool.and_eq_true, List.all_eq_true] at h
  exact h.2 t (List.mem_filter.2 ⟨ht, by simp [hobserved]⟩)

/-! ## Budgets -/

/-- The larger of a count and a fraction of the stage. -/
def budgetOf (targets : UInt32) (fraction : Ratio) (stage : StageRuntime) : UInt64 :=
  max targets.toUInt64 (fraction.applyFloor stage.targets.length.toUInt64)

def failureBudget (stage : StageRuntime) : UInt64 :=
  budgetOf stage.policy.failureBudgetTargets stage.policy.failureBudgetFraction stage

/-- The bound a gate applies where its own is zero. -/
def gateMaxAge (maxAge : Duration) (limits : RuntimeLimits) : Duration :=
  if maxAge.isZero then .fromMillis limits.defaultEvidenceMaxAgeMillis.toUInt64.toInt64 else maxAge

def skewOf (limits : RuntimeLimits) : Duration :=
  .fromMillis limits.maxFutureSkewMillis.toUInt64.toInt64

/-- The counts every evaluation starts from. -/
def baseEvaluation (kind : GateKind) (stage : StageRuntime) (now : Timestamp) : GateEvaluation where
  kind := kind
  stage := stage.id
  evaluatedAt := now
  totalTargets := stage.targets.length.toUInt32
  healthyTargets := stage.healthyCount.toUInt32
  failedTargets := stage.failedCount.toUInt32
  pendingTargets := stage.pendingCount.toUInt32

/-! ## Health -/

/-- What the observation behind the gate allows: satisfied so far, the reason, the blocking
entries and the freshness text the digest covers. -/
def healthObservation (evaluation : GateEvaluation) (policy : HealthGatePolicy)
    (snapshot : HealthSnapshot) (now : Timestamp) (limits : RuntimeLimits) :
    Bool × Bytes × List Bytes × Bytes :=
  if !snapshot.live then
    (false, text "no live health observation is available for this cohort",
      [text "the most recent health view was not attested live"], [])
  else
    let freshness := evaluateFreshness snapshot.observedAt now (gateMaxAge policy.maxAge limits)
      (skewOf limits)
    let covered := ByteWriter.string freshness.reason
    if !freshness.fresh then
      (false, text "the health observation cannot be used: " ++ freshness.reason,
        [freshness.reason], covered)
    else if !policy.requiredSource.isNil ∧ snapshot.source ≠ policy.requiredSource then
      (false, text "the health observation came from a source the policy does not accept",
        [text "attesting source " ++ snapshot.source.shortHex
          ++ text " is not the required source " ++ policy.requiredSource.shortHex], covered)
    else if !policy.minHealthyFraction.satisfiedBy evaluation.healthyTargets.toUInt64
        evaluation.totalTargets.toUInt64 then
      (false, [], [text "healthy fraction " ++ toStringNat evaluation.healthyTargets.toNat
        ++ text "/" ++ toStringNat evaluation.totalTargets.toNat ++ text " is below "
        ++ policy.minHealthyFraction.toText], covered)
    else (true, [], [], covered)

/-- A succeeded target the gate cannot count as healthy. -/
def blocksHealth (policy : HealthGatePolicy) (t : TargetRuntime) : Bool :=
  t.state == .succeeded && (!t.healthy || decide (t.consecutiveHealthy < policy.minConsecutiveHealthy)
    || !t.lastHealthOriginLive)

def healthBlocking (t : TargetRuntime) : Bytes :=
  text "target " ++ t.target.shortHex ++ text " has " ++ toStringNat t.consecutiveHealthy.toNat
    ++ text " consecutive live healthy observation(s)"

def evaluateHealthGate (stage : StageRuntime) (policy : HealthGatePolicy)
    (snapshot : HealthSnapshot) (now : Timestamp) (limits : RuntimeLimits) : GateEvaluation :=
  let evaluation := baseEvaluation .health stage now
  let digestInput := [
    ByteWriter.string (text "rollout-fabric/health-gate/v1"),
    ByteWriter.u32 evaluation.totalTargets, ByteWriter.u32 evaluation.healthyTargets,
    ByteWriter.u32 evaluation.failedTargets, ByteWriter.u32 evaluation.pendingTargets,
    ByteWriter.timestamp snapshot.observedAt, ByteWriter.boolean snapshot.live,
    snapshot.digest.data].flatten
  if !policy.enabled then
    { evaluation with
      satisfied := true
      reason := text "the health gate is disabled for this stage"
      evidenceDigest := sha256 digestInput }
  else
    let (observed, reason, blocking, covered) :=
      healthObservation evaluation policy snapshot now limits
    -- the walk over the targets stops at the sixteenth blocking entry
    let unhealthy := if observed then (stage.targets.filter (blocksHealth policy)).take 16 else []
    let budget := budgetOf policy.failureBudgetTargets policy.failureBudgetFraction stage
    let overBudget := decide (budget < evaluation.failedTargets.toUInt64)
    let satisfied := observed && unhealthy.isEmpty && !overBudget
    { evaluation with
      satisfied
      blocking := blocking ++ unhealthy.map healthBlocking
        ++ (if overBudget then
          [text "failed targets " ++ toStringNat evaluation.failedTargets.toNat
            ++ text " exceed the health failure budget " ++ toStringNat budget.toNat] else [])
      reason :=
        if satisfied then
          text "healthy " ++ toStringNat evaluation.healthyTargets.toNat ++ text "/"
            ++ toStringNat evaluation.totalTargets.toNat ++ text " under a live observation"
        else if reason.isEmpty then text "the cohort has not been observed healthy"
        else reason
      evidenceDigest := sha256 (digestInput ++ covered) }

/-- An enabled gate is satisfied under a live, fresh observation of the source it requires. -/
theorem evaluateHealthGate_satisfied {stage : StageRuntime} {policy : HealthGatePolicy}
    {snapshot : HealthSnapshot} {now : Timestamp} {limits : RuntimeLimits}
    (henabled : policy.enabled = true)
    (h : (evaluateHealthGate stage policy snapshot now limits).satisfied = true) :
    snapshot.live = true
      ∧ (evaluateFreshness snapshot.observedAt now (gateMaxAge policy.maxAge limits)
        (skewOf limits)).fresh = true
      ∧ (policy.requiredSource = .nil ∨ snapshot.source = policy.requiredSource) := by
  have hobserved : (healthObservation (baseEvaluation .health stage now) policy snapshot now
      limits).1 = true := by
    simp only [evaluateHealthGate, henabled, Bool.not_true, Bool.false_eq_true, if_false,
      Bool.and_eq_true] at h
    exact h.1.1
  unfold healthObservation at hobserved
  split at hobserved
  · cases hobserved
  next hlive =>
  dsimp only at hobserved
  split at hobserved
  · cases hobserved
  next hfresh =>
  split at hobserved
  · cases hobserved
  next hsource =>
  refine ⟨by simpa using hlive, by simpa using hfresh, ?_⟩
  by_cases hnil : policy.requiredSource = .nil
  · exact .inl hnil
  · right
    by_contra hne
    have hsome : policy.requiredSource.isNil = false :=
      Bool.eq_false_iff.2 fun h => hnil (StrongId.isNil_iff.1 h)
    exact hsource ⟨by rw [hsome]; rfl, hne⟩

/-! ## Evidence -/

/-- Why a succeeded target does not count as verified; `none` when it does. -/
def verificationBlocking (policy : EvidenceGatePolicy) (now : Timestamp) (limits : RuntimeLimits)
    (t : TargetRuntime) : Option Bytes :=
  let freshness := evaluateFreshness t.verificationObservedAt now
    (gateMaxAge policy.maxAge limits) (skewOf limits)
  if t.verificationObservedAt.isNil then
    some (text "target " ++ t.target.shortHex ++ text " has no verification result")
  else if !freshness.fresh then
    some (text "target " ++ t.target.shortHex ++ text " verification is unusable: "
      ++ freshness.reason)
  else if !t.verificationPassed then
    some (text "target " ++ t.target.shortHex ++ text " failed verification")
  else if !policy.requiredVerifier.isNil ∧ t.verificationVerifier ≠ policy.requiredVerifier then
    some (text "target " ++ t.target.shortHex ++ text " was verified by a different verifier")
  else none

def evaluateEvidenceGate (stage : StageRuntime) (policy : EvidenceGatePolicy)
    (rule : TargetEvidenceRule) (now : Timestamp) (limits : RuntimeLimits) : GateEvaluation :=
  let evaluation := { baseEvaluation .evidence stage now with
    verifiedTargets := stage.verifiedCount.toUInt32 }
  let digestInput := [
    ByteWriter.string (text "rollout-fabric/evidence-gate/v1"),
    ByteWriter.u32 evaluation.totalTargets, ByteWriter.u32 evaluation.healthyTargets,
    ByteWriter.u32 evaluation.failedTargets, ByteWriter.u32 evaluation.verifiedTargets].flatten
  let elapsed := now.since stage.soakStartedAt
  let refused (reason digestInput : Bytes) : GateEvaluation :=
    { evaluation with reason, evidenceDigest := sha256 digestInput }
  if !policy.soak.isZero ∧ stage.soakStartedAt.isNil then
    refused (text "soak has not started for this stage") digestInput
  else
    -- the digest covers what was looked at so far
    let digestInput :=
      if policy.soak.isZero then digestInput else digestInput ++ ByteWriter.duration elapsed
    if !policy.soak.isZero ∧ elapsed < policy.soak then
      refused (text "soaking: " ++ toStringInt64 elapsed.millis ++ text " ms of "
        ++ toStringInt64 policy.soak.millis ++ text " ms elapsed") digestInput
    else if stage.terminalCount < stage.targets.length then
      refused (text "waiting for " ++ toStringNat (stage.targets.length - stage.terminalCount)
        ++ text " target(s) to reach a terminal state") digestInput
    else if 0 < stage.failedCount then
      refused (toStringNat stage.failedCount
        ++ text " target(s) failed, so the stage cannot advance") digestInput
    else if !rule.requireVerification then
      { evaluation with
        satisfied := true
        reason := text "every target reached a terminal success and no verification is required"
        evidenceDigest := sha256 digestInput }
    else
      -- only targets that succeeded are asked for their verification
      let results := (stage.targets.filter fun t => t.state == .succeeded).map
        (verificationBlocking policy now limits)
      let verified := results.countP fun r => r.isNone
      let requiredByFraction :=
        policy.minPassingFraction.applyCeil stage.targets.length.toUInt64
      let required := max policy.minPassingSamples.toUInt64 requiredByFraction
      let satisfied :=
        if policy.requireFullCoverage then decide (verified = stage.targets.length)
        else decide (required ≤ verified.toUInt64)
      { evaluation with
        satisfied
        verifiedTargets := verified.toUInt32
        blocking := (results.filterMap id).take 16
        reason :=
          if satisfied then
            text "verification passed for " ++ toStringNat verified ++ text "/"
              ++ toStringNat stage.targets.length ++ text " target(s)"
          else
            text "verification passed for only " ++ toStringNat verified ++ text "/"
              ++ toStringNat stage.targets.length ++ text " target(s); "
              ++ toStringNat required.toNat ++ text " required"
        evidenceDigest := sha256 (digestInput ++ ByteWriter.u32 verified.toUInt32) }

/-! ## Advance -/

def evaluateAdvanceGate (stage : StageRuntime) (now : Timestamp) (_limits : RuntimeLimits) :
    GateEvaluation :=
  let evaluation := baseEvaluation .advance stage now
  let budget := failureBudget stage
  let digestInput := [
    ByteWriter.string (text "rollout-fabric/advance-gate/v1"),
    ByteWriter.u32 evaluation.totalTargets, ByteWriter.u32 evaluation.failedTargets,
    ByteWriter.u32 evaluation.pendingTargets, ByteWriter.u32 evaluation.healthyTargets,
    ByteWriter.u64 budget].flatten
  let healthyEnough := stage.policy.minHealthyFraction.satisfiedBy
    evaluation.healthyTargets.toUInt64 stage.targets.length.toUInt64
  if evaluation.pendingTargets ≠ 0 then
    { evaluation with
      reason := toStringNat evaluation.pendingTargets.toNat ++ text " target(s) are still pending"
      evidenceDigest := sha256 digestInput }
  else if budget < evaluation.failedTargets.toUInt64 then
    { evaluation with
      reason := text "failed targets " ++ toStringNat evaluation.failedTargets.toNat
        ++ text " exceed the failure budget " ++ toStringNat budget.toNat
      evidenceDigest := sha256 digestInput }
  else if !healthyEnough then
    { evaluation with
      reason := text "healthy fraction " ++ toStringNat evaluation.healthyTargets.toNat ++ text "/"
        ++ toStringNat stage.targets.length ++ text " is below "
        ++ stage.policy.minHealthyFraction.toText
      evidenceDigest := sha256 (digestInput ++ ByteWriter.boolean healthyEnough) }
  else
    { evaluation with
      satisfied := true
      reason := text "every target is terminal, " ++ toStringNat evaluation.failedTargets.toNat
        ++ text " failure(s) are within the budget of " ++ toStringNat budget.toNat
        ++ text ", and the healthy fraction is met"
      evidenceDigest := sha256 (digestInput ++ ByteWriter.boolean healthyEnough) }

end RolloutFabric
