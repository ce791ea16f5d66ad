/-
The bounds every component of the runtime is configured with, and the check
`Controller::create` makes before it accepts them.
-/
import RolloutFabric.Base.Status

namespace RolloutFabric

structure RuntimeLimits where
  maxStagesPerPlan : UInt32 := 64
  maxTargetsPerCohort : UInt32 := 4096
  maxTotalTargets : UInt32 := 65536
  maxActionsPerStage : UInt32 := 64
  maxSelectorTerms : UInt32 := 4096
  maxLabelsPerTarget : UInt32 := 32
  maxLabelKeyBytes : UInt32 := 64
  maxLabelValueBytes : UInt32 := 256
  maxNameBytes : UInt32 := 128
  maxDescriptionBytes : UInt32 := 1024
  maxDocumentBytes : UInt32 := 4194304
  maxAttemptsPerTargetPerStage : UInt32 := 16
  maxEvidencePerAttempt : UInt32 := 64
  maxMetricsPerEvidence : UInt32 := 32
  maxEvidencePayloadBytes : UInt32 := 4096
  maxMetricNameBytes : UInt32 := 64
  maxMetricTextBytes : UInt32 := 256
  maxDedupEntriesPerAttempt : UInt32 := 256
  maxOutOfOrderEvidencePerAttempt : UInt32 := 64
  maxGateEvaluationsPerStage : UInt32 := 4096
  maxRejectedAlternatives : UInt32 := 32
  maxRationaleBytes : UInt32 := 8192
  maxDecisionHistory : UInt32 := 64
  maxJournalRecordBytes : UInt64 := 1048576
  maxJournalBytes : UInt64 := 2147483648
  snapshotTriggerRecords : UInt64 := 4096
  maxSnapshotBytes : UInt32 := 268435456
  journalFormatVersion : UInt32 := 1
  maxFrameBytes : UInt32 := 1048576
  maxConnections : UInt32 := 256
  maxQueuedFramesPerConnection : UInt32 := 1024
  maxWorkers : UInt32 := 256
  maxMessageBytes : UInt32 := 1048576
  heartbeatIntervalMillis : UInt32 := 1000
  connectionIdleTimeoutMillis : UInt32 := 30000
  maxDispatchBatch : UInt32 := 512
  maxConcurrentAttempts : UInt32 := 4096
  maxIdempotencyEntries : UInt32 := 65536
  defaultEvidenceMaxAgeMillis : UInt32 := 30000
  maxFutureSkewMillis : UInt32 := 5000
deriving DecidableEq, Inhabited

def kHardMaxJournalRecordBytes : UInt64 := 67108864
def kHardMaxFrameBytes : UInt64 := 67108864
def kHardMaxSnapshotBytes : UInt64 := 4294967296
def kHardMaxTargets : UInt32 := 1048576
def kHardMaxStages : UInt32 := 4096
def kSupportedJournalFormatVersion : UInt32 := 1

namespace RuntimeLimits

/-- The conditions of `RuntimeLimits::validate`, in order, each with its message. -/
def checks (l : RuntimeLimits) : List (Bool × Bytes) := [
  (0 < l.maxStagesPerPlan ∧ l.maxStagesPerPlan ≤ kHardMaxStages,
    text "max_stages_per_plan must be in [1, " ++ toStringNat kHardMaxStages.toNat ++ text "]"),
  (0 < l.maxTotalTargets ∧ l.maxTotalTargets ≤ kHardMaxTargets,
    text "max_total_targets must be in [1, " ++ toStringNat kHardMaxTargets.toNat ++ text "]"),
  (0 < l.maxTargetsPerCohort ∧ l.maxTargetsPerCohort ≤ l.maxTotalTargets,
    text "max_targets_per_cohort must be in [1, max_total_targets]"),
  (0 < l.maxActionsPerStage, text "max_actions_per_stage must be positive"),
  (0 < l.maxSelectorTerms, text "max_selector_terms must be positive"),
  (8 ≤ l.maxNameBytes ∧ l.maxNameBytes ≤ l.maxDescriptionBytes,
    text "max_name_bytes must be at least 8 and no larger than max_description_bytes"),
  (0 < l.maxAttemptsPerTargetPerStage,
    text "max_attempts_per_target_per_stage must be positive"),
  (0 < l.maxEvidencePerAttempt ∧ 0 < l.maxDedupEntriesPerAttempt,
    text "evidence and dedup bounds must be positive"),
  (0 < l.maxRejectedAlternatives ∧ 0 < l.maxDecisionHistory,
    text "decision bounds must be positive"),
  (4096 ≤ l.maxJournalRecordBytes ∧ l.maxJournalRecordBytes ≤ kHardMaxJournalRecordBytes,
    text "max_journal_record_bytes must be in [4096, "
      ++ toStringNat kHardMaxJournalRecordBytes.toNat ++ text "]"),
  (l.maxJournalRecordBytes ≤ l.maxJournalBytes,
    text "max_journal_bytes must be at least max_journal_record_bytes"),
  (l.maxJournalRecordBytes ≤ l.maxSnapshotBytes.toUInt64
      ∧ l.maxSnapshotBytes.toUInt64 ≤ kHardMaxSnapshotBytes,
    text "max_snapshot_bytes must be at least max_journal_record_bytes and no more than "
      ++ toStringNat kHardMaxSnapshotBytes.toNat),
  (0 < l.snapshotTriggerRecords, text "snapshot_trigger_records must be positive"),
  (l.journalFormatVersion = kSupportedJournalFormatVersion,
    text "journal_format_version must name a format this build understands"),
  (4096 ≤ l.maxFrameBytes ∧ l.maxFrameBytes.toUInt64 ≤ kHardMaxFrameBytes,
    text "max_frame_bytes must be in [4096, " ++ toStringNat kHardMaxFrameBytes.toNat ++ text "]"),
  (0 < l.maxMessageBytes ∧ l.maxMessageBytes ≤ l.maxFrameBytes,
    text "max_message_bytes must be positive and no larger than max_frame_bytes"),
  (0 < l.maxConnections ∧ 0 < l.maxWorkers ∧ l.maxWorkers ≤ l.maxConnections,
    text "max_workers must be in [1, max_connections]"),
  (0 < l.maxQueuedFramesPerConnection, text "max_queued_frames_per_connection must be positive"),
  (0 < l.maxDispatchBatch ∧ l.maxDispatchBatch ≤ l.maxConcurrentAttempts,
    text "max_dispatch_batch must be in [1, max_concurrent_attempts]"),
  (0 < l.maxIdempotencyEntries, text "max_idempotency_entries must be positive"),
  (0 < l.defaultEvidenceMaxAgeMillis, text "default_evidence_max_age_millis must be positive"),
  (4096 ≤ l.maxDocumentBytes, text "max_document_bytes must be at least 4096"),
  (0 < l.maxGateEvaluationsPerStage, text "max_gate_evaluations_per_stage must be positive"),
  (0 < l.maxOutOfOrderEvidencePerAttempt,
    text "max_out_of_order_evidence_per_attempt must be positive")]

def validate (l : RuntimeLimits) : Status :=
  match l.checks.find? (fun check => !check.1) with
  | none => .success
  | some check => makeStatus .invalidArgument check.2

theorem checks_of_validate {l : RuntimeLimits} (h : l.validate.isOk = true) :
    ∀ check ∈ l.checks, check.1 = true := by
  unfold validate at h
  split at h
  · next hnone =>
    intro check hmem
    simpa using List.find?_eq_none.1 hnone check hmem
  · simp at h

end RuntimeLimits

/-- A record bound that passes validation is far below 2^32. -/
theorem record_length_le {limits : RuntimeLimits} (hlimits : limits.validate.isOk = true)
    {n : Nat} (hn : n ≤ limits.maxJournalRecordBytes.toNat) : n ≤ 2 ^ 26 := by
  have hchecks := RuntimeLimits.checks_of_validate hlimits
  simp only [RuntimeLimits.checks, List.forall_mem_cons] at hchecks
  have hrecord := of_decide_eq_true hchecks.2.2.2.2.2.2.2.2.2.1
  have hhard : limits.maxJournalRecordBytes.toNat ≤ 67108864 := UInt64.le_iff_toNat_le.1 hrecord.2
  omega

theorem record_length_lt {limits : RuntimeLimits} (hlimits : limits.validate.isOk = true)
    {n : Nat} (hn : n ≤ limits.maxJournalRecordBytes.toNat) : n < 2 ^ 32 := by
  have := record_length_le hlimits hn
  omega

/-- The only journal format the validation accepts. -/
theorem journalFormatVersion_eq {limits : RuntimeLimits} (hlimits : limits.validate.isOk = true) :
    limits.journalFormatVersion = kSupportedJournalFormatVersion := by
  have hchecks := RuntimeLimits.checks_of_validate hlimits
  simp only [RuntimeLimits.checks, List.forall_mem_cons] at hchecks
  exact of_decide_eq_true hchecks.2.2.2.2.2.2.2.2.2.2.2.2.2.1

end RolloutFabric
