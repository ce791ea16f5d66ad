/-
Evidence: what a record claims, who makes the claim, and what the gates conclude from it.
-/
import RolloutFabric.Domain.Policy

namespace RolloutFabric

inductive EvidenceKind
  | dispatchAccepted | executionProgress | executionCompleted | executionFailed | healthSample
  | rollbackCompleted | rollbackFailed | verificationPassed | verificationFailed
  | cancellationAcknowledged
deriving DecidableEq, Repr, Inhabited

/-- Gates are expressed in terms of classes, never individual kinds. -/
inductive EvidenceClass
  | acceptance | execution | telemetry | compensation | verification | cancellation
deriving DecidableEq, Repr, Inhabited

def evidenceClass : EvidenceKind → EvidenceClass
  | .dispatchAccepted => .acceptance
  | .executionProgress | .executionCompleted | .executionFailed => .execution
  | .healthSample => .telemetry
  | .rollbackCompleted | .rollbackFailed => .compensation
  | .verificationPassed | .verificationFailed => .verification
  | .cancellationAcknowledged => .cancellation

inductive EvidenceOutcome
  | succeeded | failed | inconclusive
deriving DecidableEq, Repr

instance : Inhabited EvidenceOutcome := ⟨.inconclusive⟩

inductive EvidenceAuthority
  | workerSelfReported | executionAdapterAttested | verifierAttested | healthSourceAttested
  | operatorAttested
deriving DecidableEq, Repr, Inhabited

inductive EvidenceOrigin
  | live | recoveredFromJournal | reconciledFromAdapter
deriving DecidableEq, Repr, Inhabited

def EvidenceAuthority.toText : EvidenceAuthority → Bytes
  | .workerSelfReported => text "worker_self_reported"
  | .executionAdapterAttested => text "execution_adapter_attested"
  | .verifierAttested => text "verifier_attested"
  | .healthSourceAttested => text "health_source_attested"
  | .operatorAttested => text "operator_attested"

def EvidenceOrigin.toText : EvidenceOrigin → Bytes
  | .live => text "live" | .recoveredFromJournal => text "recovered_from_journal"
  | .reconciledFromAdapter => text "reconciled_from_adapter"

instance : ByteCoded EvidenceOutcome where
  code | .succeeded => 0 | .failed => 1 | .inconclusive => 2
  ofCode? | 0 => some .succeeded | 1 => some .failed | 2 => some .inconclusive | _ => none
  ofCode?_code a := by cases a <;> rfl

instance : ByteCoded EvidenceAuthority where
  code
    | .workerSelfReported => 0 | .executionAdapterAttested => 1 | .verifierAttested => 2
    | .healthSourceAttested => 3 | .operatorAttested => 4
  ofCode?
    | 0 => some .workerSelfReported | 1 => some .executionAdapterAttested
    | 2 => some .verifierAttested | 3 => some .healthSourceAttested | 4 => some .operatorAttested
    | _ => none
  ofCode?_code a := by cases a <;> rfl

/-! ## Records -/

structure Metric where
  name : Bytes := []
  valueMilli : Int64 := 0
  unit : Bytes := []
deriving DecidableEq, Inhabited

structure EvidenceRecord where
  id : EvidenceId := .nil
  rollout : RolloutId := .nil
  generation : GenerationId := .nil
  stage : StageId := .nil
  cohort : CohortId := .nil
  target : TargetId := .nil
  attempt : AttemptId := .nil
  attemptEpoch : UInt64 := 0
  incarnation : IncarnationId := .nil
  kind : EvidenceKind := .executionCompleted
  outcome : EvidenceOutcome := .inconclusive
  authority : EvidenceAuthority := .workerSelfReported
  origin : EvidenceOrigin := .live
  sequence : UInt64 := 0
  observedAt : Timestamp := {}
  recordedAt : Timestamp := {}
  ttl : Duration := {}
  healthSource : HealthSourceId := .nil
  verifier : VerifierId := .nil
  payloadDigest : Digest256 := default
  metrics : List Metric := []
deriving DecidableEq, Inhabited

namespace EvidenceRecord

def isTelemetry (r : EvidenceRecord) : Bool := evidenceClass r.kind == .telemetry

def validateMetric (limits : RuntimeLimits) (metric : Metric) : Status := firstFailure [
  refuseIf (metric.name.isEmpty || limits.maxMetricNameBytes.toNat < metric.name.length)
    (text "metric name is empty or too long"),
  refuseIf (limits.maxMetricTextBytes.toNat < metric.unit.length)
    (text "metric unit is too long")]

def validate (r : EvidenceRecord) (limits : RuntimeLimits) : Status := firstFailure [
  refuseIf r.id.isNil (text "evidence identifier is nil"),
  refuseIf (!r.isTelemetry
      && (r.rollout.isNil || r.generation.isNil || r.stage.isNil || r.attempt.isNil))
    (text "evidence must name the rollout, generation, stage and attempt it belongs to"),
  refuseIf r.target.isNil (text "evidence must name its target"),
  (if limits.maxMetricsPerEvidence.toNat < r.metrics.length then
    makeStatus .limitExceeded (text "evidence carries " ++ toStringNat r.metrics.length
      ++ text " metrics, above max_metrics_per_evidence")
  else .success),
  firstFailure (r.metrics.map (validateMetric limits)),
  refuseIf r.ttl.isNegative (text "evidence ttl must not be negative"),
  refuseIf (r.isTelemetry && r.healthSource.isNil)
    (text "a health sample must name the health source that attested it"),
  refuseIf (evidenceClass r.kind == .verification && r.verifier.isNil)
    (text "a verification result must name the verifier that produced it")]

/-- A valid record that is not telemetry names an attempt. -/
theorem attempt_ne_nil_of_validate {r : EvidenceRecord} {limits : RuntimeLimits}
    (h : (r.validate limits).isOk = true) (ht : r.isTelemetry = false) :
    r.attempt ≠ .nil := by
  have hall := (firstFailure_isOk _).1 h
  have hnamed := hall _ (List.mem_cons_of_mem _ (List.mem_cons_self ..))
  simp [ht, StrongId.isNil] at hnamed
  tauto

end EvidenceRecord

/-! ## Admission -/

inductive EvidenceAdmission
  | accepted | duplicate | outOfOrder | staleAttempt | staleGeneration | staleIncarnation
  | unknownAttempt | untrustedAuthority | expired | clockAnomaly | malformed | backpressure
deriving DecidableEq, Repr, Inhabited

structure AdmissionResult where
  disposition : EvidenceAdmission := .accepted
  reason : Bytes := []
deriving DecidableEq, Inhabited

def AdmissionResult.isAccepted (r : AdmissionResult) : Bool := r.disposition == .accepted

/-! ## Gate evaluations -/

structure GateEvaluation where
  id : GateId := .nil
  kind : GateKind := .advance
  stage : StageId := .nil
  satisfied : Bool := false
  reason : Bytes := []
  blocking : List Bytes := []
  totalTargets : UInt32 := 0
  healthyTargets : UInt32 := 0
  failedTargets : UInt32 := 0
  pendingTargets : UInt32 := 0
  verifiedTargets : UInt32 := 0
  evidenceDigest : Digest256 := default
  evaluatedAt : Timestamp := {}
deriving DecidableEq, Inhabited

/-- The health view of a cohort a gate is evaluated against. -/
structure HealthSnapshot where
  source : HealthSourceId := .nil
  observedAt : Timestamp := {}
  healthy : UInt32 := 0
  unhealthy : UInt32 := 0
  unknown : UInt32 := 0
  digest : Digest256 := default
  live : Bool := false
deriving DecidableEq, Inhabited

end RolloutFabric
