/-
The rollout snapshot: the three nested encoders and decoders of targets, stages and rollouts,
and the tagged, digest-checked payload a journal record carries.
-/
import RolloutFabric.Domain.ChangePlan
import RolloutFabric.Domain.Rollout

namespace RolloutFabric

/-! ## Targets -/

def TargetRuntime.encode (t : TargetRuntime) : Bytes := [
  ByteWriter.id t.target, ByteWriter.u8 (ByteCoded.code t.state), ByteWriter.u64 t.epoch,
  ByteWriter.u32 t.attemptsCreated, ByteWriter.id t.currentAttempt, ByteWriter.id t.lastAttempt,
  ByteWriter.timestamp t.dispatchedAt, ByteWriter.timestamp t.lastChangeAt,
  ByteWriter.timestamp t.completedAt, ByteWriter.boolean t.healthy,
  ByteWriter.u32 t.consecutiveHealthy, ByteWriter.timestamp t.healthySince,
  ByteWriter.timestamp t.lastHealthyAt, ByteWriter.boolean t.lastHealthOriginLive,
  ByteWriter.id t.lastHealthSource, ByteWriter.timestamp t.verificationObservedAt,
  ByteWriter.boolean t.verificationPassed, ByteWriter.id t.verificationVerifier,
  ByteWriter.id t.lastTerminalEvidence, ByteWriter.u8 (ByteCoded.code t.outcome),
  ByteWriter.u32 t.rollbackStep, ByteWriter.string t.lastReason].flatten

def decodeTargetRuntime (limits : RuntimeLimits) : Decoder TargetRuntime := do
  let target ← dcId .target (text "target_runtime.target")
  let state ← dcEnum (dcU8 (text "target_runtime.state")) fun _ =>
    makeStatus .corrupt (text "unknown target state in rollout snapshot")
  let epoch ← dcU64 (text "target_runtime.epoch")
  let attemptsCreated ← dcU32 (text "target_runtime.attempts_created")
  let currentAttempt ← dcId .attempt (text "target_runtime.current_attempt")
  let lastAttempt ← dcId .attempt (text "target_runtime.last_attempt")
  let dispatchedAt ← dcTimestamp (text "target_runtime.dispatched_at")
  let lastChangeAt ← dcTimestamp (text "target_runtime.last_change_at")
  let completedAt ← dcTimestamp (text "target_runtime.completed_at")
  let healthy ← dcBool (text "target_runtime.healthy")
  let consecutiveHealthy ← dcU32 (text "target_runtime.consecutive_healthy")
  let healthySince ← dcTimestamp (text "target_runtime.healthy_since")
  let lastHealthyAt ← dcTimestamp (text "target_runtime.last_healthy_at")
  let lastHealthOriginLive ← dcBool (text "target_runtime.last_health_origin_live")
  let lastHealthSource ← dcId .healthSource (text "target_runtime.last_health_source")
  let verificationObservedAt ← dcTimestamp (text "target_runtime.verification_observed_at")
  let verificationPassed ← dcBool (text "target_runtime.verification_passed")
  let verificationVerifier ← dcId .verifier (text "target_runtime.verification_verifier")
  let lastTerminalEvidence ← dcId .evidence (text "target_runtime.last_terminal_evidence")
  let outcome ← dcEnum (dcU8 (text "target_runtime.outcome")) fun _ =>
    makeStatus .corrupt (text "unknown outcome in rollout snapshot")
  let rollbackStep ← dcU32 (text "target_runtime.rollback_step")
  let lastReason ← dcString (text "target_runtime.last_reason") limits.maxDescriptionBytes.toNat
  pure { target, state, epoch, attemptsCreated, currentAttempt, lastAttempt, dispatchedAt
         lastChangeAt, completedAt, healthy, consecutiveHealthy, healthySince, lastHealthyAt
         lastHealthOriginLive, lastHealthSource, verificationObservedAt, verificationPassed
         verificationVerifier, lastTerminalEvidence, outcome, rollbackStep, lastReason }

/-! ## Stages -/

def CohortMembership.encode (c : CohortMembership) : Bytes := [
  ByteWriter.id c.id, ByteWriter.id c.stage, ByteWriter.id c.generation, c.selector.encode,
  ByteWriter.digest c.selectorDigest, ByteWriter.vector ByteWriter.id c.members,
  ByteWriter.digest c.membershipDigest, ByteWriter.digest c.inventoryDigest,
  ByteWriter.u64 c.inventoryEpoch, ByteWriter.timestamp c.frozenAt,
  ByteWriter.boolean c.frozen].flatten

/-- `encode_stage_runtime`. The evidence rule and the three last gate evaluations are not
written. -/
def StageRuntime.encode (s : StageRuntime) : Bytes := [
  ByteWriter.id s.id, ByteWriter.u8 (ByteCoded.code s.state), ByteWriter.u32 s.ordinal,
  ByteWriter.vector ByteWriter.id s.predecessors, ByteWriter.vector ByteWriter.id s.successors,
  s.policy.encode, s.cohort.encode, ByteWriter.vector ActionSpec.encode s.actions,
  ByteWriter.timestamp s.enteredAt, ByteWriter.timestamp s.startedAt,
  ByteWriter.timestamp s.soakStartedAt, ByteWriter.timestamp s.gatedAt,
  ByteWriter.timestamp s.completedAt, ByteWriter.timestamp s.lastProgressAt,
  ByteWriter.u32 s.dispatchedTotal, ByteWriter.u32 s.succeededTotal,
  ByteWriter.u32 s.failedTotal, ByteWriter.u32 s.cancelledTotal,
  ByteWriter.u32 s.rolledBackTotal, ByteWriter.u32 s.rollbackFailedTotal,
  ByteWriter.u32 s.attemptsTotal, ByteWriter.boolean s.canaryCleared,
  ByteWriter.u32 s.maxObservedChanging, ByteWriter.id s.pendingGate,
  ByteWriter.u8 (ByteCoded.code s.pendingGateKind), ByteWriter.timestamp s.pendingGateSince,
  ByteWriter.vector TargetRuntime.encode s.targets].flatten

def decodeCohort (limits : RuntimeLimits) : Decoder CohortMembership := do
  let id ← dcId .cohort (text "cohort.id")
  let stage ← dcId .stage (text "cohort.stage")
  let generation ← dcId .generation (text "cohort.generation")
  let selector ← decodeSelectorTerm limits
  let selectorDigest ← dcDigest (text "cohort.selector_digest")
  let members ← dcIdVector .target (text "cohort.members") limits.maxTargetsPerCohort.toNat
  let membershipDigest ← dcDigest (text "cohort.membership_digest")
  let inventoryDigest ← dcDigest (text "cohort.inventory_digest")
  let inventoryEpoch ← dcU64 (text "cohort.inventory_epoch")
  let frozenAt ← dcTimestamp (text "cohort.frozen_at")
  let frozen ← dcBool (text "cohort.frozen")
  pure { id, stage, generation, selector, selectorDigest, members, membershipDigest
         inventoryDigest, inventoryEpoch, frozenAt, frozen }

def decodeStageRuntime (limits : RuntimeLimits) : Decoder StageRuntime := do
  let id ← dcId .stage (text "stage_runtime.id")
  let state ← dcEnum (dcU8 (text "stage_runtime.state")) fun _ =>
    makeStatus .corrupt (text "unknown stage state in rollout snapshot")
  let ordinal ← dcU32 (text "stage_runtime.ordinal")
  let predecessors ← dcIdVector .stage (text "stage_runtime.predecessors")
    limits.maxStagesPerPlan.toNat
  let successors ← dcIdVector .stage (text "stage_runtime.successors")
    limits.maxStagesPerPlan.toNat
  let policy ← decodeStagePolicy limits
  let cohort ← decodeCohort limits
  let actions ← dcVector (text "stage_runtime.actions") limits.maxActionsPerStage.toNat
    (fun _ => makeStatus .limitExceeded (text "stage action count exceeds the bound"))
    (decodeAction limits)
  let enteredAt ← dcTimestamp (text "stage_runtime.entered_at")
  let startedAt ← dcTimestamp (text "stage_runtime.started_at")
  let soakStartedAt ← dcTimestamp (text "stage_runtime.soak_started_at")
  let gatedAt ← dcTimestamp (text "stage_runtime.gated_at")
  let completedAt ← dcTimestamp (text "stage_runtime.completed_at")
  let lastProgressAt ← dcTimestamp (text "stage_runtime.last_progress_at")
  let dispatchedTotal ← dcU32 (text "stage_runtime.dispatched_total")
  let succeededTotal ← dcU32 (text "stage_runtime.succeeded_total")
  let failedTotal ← dcU32 (text "stage_runtime.failed_total")
  let cancelledTotal ← dcU32 (text "stage_runtime.cancelled_total")
  let rolledBackTotal ← dcU32 (text "stage_runtime.rolled_back_total")
  let rollbackFailedTotal ← dcU32 (text "stage_runtime.rollback_failed_total")
  let attemptsTotal ← dcU32 (text "stage_runtime.attempts_total")
  let canaryCleared ← dcBool (text "stage_runtime.canary_cleared")
  let maxObservedChanging ← dcU32 (text "stage_runtime.max_observed_changing")
  let pendingGate ← dcId .gate (text "stage_runtime.pending_gate")
  let pendingGateKind ← dcEnum (dcU8 (text "stage_runtime.pending_gate_kind")) fun _ =>
    makeStatus .corrupt (text "unknown gate kind in rollout snapshot")
  let pendingGateSince ← dcTimestamp (text "stage_runtime.pending_gate_since")
  let targets ← dcVector (text "stage_runtime.targets") limits.maxTargetsPerCohort.toNat
    (fun _ => makeStatus .limitExceeded
      (text "stage target count exceeds max_targets_per_cohort while decoding"))
    (decodeTargetRuntime limits)
  pure { id, state, ordinal, predecessors, successors, policy, cohort, actions, enteredAt
         startedAt, soakStartedAt, gatedAt, completedAt, lastProgressAt, dispatchedTotal
         succeededTotal, failedTotal, cancelledTotal, rolledBackTotal, rollbackFailedTotal
         attemptsTotal, canaryCleared, maxObservedChanging, pendingGate, pendingGateKind
         pendingGateSince, targets }

/-! ## Rollouts -/

def Rollout.encode (r : Rollout) : Bytes := [
  ByteWriter.id r.id, ByteWriter.id r.planId, ByteWriter.digest r.planDigest,
  ByteWriter.digest r.sourceDigest, ByteWriter.string r.changeId,
  ByteWriter.u32 r.schemaVersion, ByteWriter.id r.generation,
  ByteWriter.u64 r.generationCounter, ByteWriter.u64 r.revision, ByteWriter.id r.incarnation,
  ByteWriter.u64 r.controllerEpoch, ByteWriter.u8 (ByteCoded.code r.state),
  ByteWriter.u8 (ByteCoded.code r.resumeState), ByteWriter.string r.stateReason,
  ByteWriter.timestamp r.createdAt, ByteWriter.timestamp r.updatedAt,
  ByteWriter.timestamp r.armedAt, ByteWriter.timestamp r.completedAt,
  ByteWriter.id r.createdBy, ByteWriter.id r.createdByOperator,
  ByteWriter.vector StageRuntime.encode r.stages, ByteWriter.u32 r.cursor,
  ByteWriter.u32 r.outstandingAttempts, ByteWriter.u32 r.maxObservedChangingGlobal,
  ByteWriter.u64 r.evidenceSequences, ByteWriter.vector Decision.encode r.decisions].flatten

def rolloutDigest (r : Rollout) : Digest256 :=
  sha256 (ByteWriter.string (text "rollout-fabric/rollout-digest/v1") ++ r.encode)

/-- Strictly ascending identifiers, as the canonical order requires. -/
def ascending {tag : IdTag} : List (StrongId tag) → Bool
  | a :: b :: rest => decide (a < b) && ascending (b :: rest)
  | _ => true

/-- The final loop of `decode_rollout` on one stage. -/
def checkCanonical (s : StageRuntime) : Status :=
  if !ascending (s.targets.map TargetRuntime.target) then
    makeStatus .corrupt
      (text "rollout snapshot target list is not in canonical identifier order")
  else if !ascending s.cohort.members then
    makeStatus .corrupt (text "rollout snapshot cohort is not in canonical identifier order")
  else .success

def decodeRollout (limits : RuntimeLimits) : Decoder Rollout := do
  let id ← dcId .rollout (text "rollout.id")
  let planId ← dcId .plan (text "rollout.plan_id")
  let planDigest ← dcDigest (text "rollout.plan_digest")
  let sourceDigest ← dcDigest (text "rollout.source_digest")
  let changeId ← dcString (text "rollout.change_id") limits.maxNameBytes.toNat
  let schemaVersion ← dcU32 (text "rollout.schema_version")
  ByteReader.require (schemaVersion == Rollout.kSchemaVersion)
    (makeStatus .corrupt (text "rollout snapshot schema version "
      ++ toStringNat schemaVersion.toNat ++ text " is not the version this build reads"))
  let generation ← dcId .generation (text "rollout.generation")
  let generationCounter ← dcU64 (text "rollout.generation_counter")
  let revision ← dcU64 (text "rollout.revision")
  let incarnation ← dcId .incarnation (text "rollout.incarnation")
  let controllerEpoch ← dcU64 (text "rollout.controller_epoch")
  let state ← dcEnum (dcU8 (text "rollout.state")) fun _ =>
    makeStatus .corrupt (text "unknown rollout state in snapshot")
  let resumeState ← dcEnum (dcU8 (text "rollout.resume_state")) fun _ =>
    makeStatus .corrupt (text "unknown resume state in snapshot")
  let stateReason ← dcString (text "rollout.state_reason") limits.maxDescriptionBytes.toNat
  let createdAt ← dcTimestamp (text "rollout.created_at")
  let updatedAt ← dcTimestamp (text "rollout.updated_at")
  let armedAt ← dcTimestamp (text "rollout.armed_at")
  let completedAt ← dcTimestamp (text "rollout.completed_at")
  let createdBy ← dcId .authority (text "rollout.created_by")
  let createdByOperator ← dcId .operator (text "rollout.created_by_operator")
  let stages ← dcVector (text "rollout.stages") limits.maxStagesPerPlan.toNat
    (fun _ => makeStatus .limitExceeded (text "rollout stage count exceeds max_stages_per_plan"))
    (decodeStageRuntime limits)
  let cursor ← dcU32 (text "rollout.cursor")
  let outstandingAttempts ← dcU32 (text "rollout.outstanding_attempts")
  let maxObservedChangingGlobal ← dcU32 (text "rollout.max_observed_changing_global")
  let evidenceSequences ← dcU64 (text "rollout.evidence_sequences")
  let decisions ← dcVector (text "rollout.decisions") limits.maxDecisionHistory.toNat
    (fun _ => makeStatus .limitExceeded (text "rollout decision history exceeds the bound"))
    (decodeDecision limits)
  ByteReader.require (cursor.toNat ≤ stages.length)
    (makeStatus .corrupt (text "rollout cursor is past the end of the stage list"))
  ByteReader.check (firstFailure (stages.map checkCanonical))
  pure { id, planId, planDigest, sourceDigest, changeId, schemaVersion, generation
         generationCounter, revision, incarnation, controllerEpoch, state, resumeState
         stateReason, createdAt, updatedAt, armedAt, completedAt, createdBy, createdByOperator
         stages, cursor, outstandingAttempts, maxObservedChangingGlobal, evidenceSequences
         decisions }

/-! ## Payloads -/

def kPayloadSchemaVersion : UInt32 := 1

def wrap (tag body : Bytes) : Bytes :=
  [ByteWriter.string tag, ByteWriter.u32 kPayloadSchemaVersion, ByteWriter.bytes body].flatten

/-- The decoder of `unwrap`; it must consume the whole payload. -/
def unwrapDecoder (expected : Bytes) (limits : RuntimeLimits) : Decoder Bytes := do
  let tag ← ByteReader.string 64
  ByteReader.require (tag == expected) (makeStatus .corrupt
    (text "payload tag '" ++ tag ++ text "' is not '" ++ expected ++ text "'"))
  let schema ← ByteReader.u32
  ByteReader.require (schema == kPayloadSchemaVersion) (makeStatus .notSupported
    (text "payload schema version " ++ toStringNat schema.toNat
      ++ text " is not readable by this build"))
  let body ← ByteReader.bytes limits.maxJournalRecordBytes.toNat
  ByteReader.expectEnd
  pure body

/-- Runs a decoder over a whole input and keeps its value. -/
def Decoder.over {α : Type} (d : Decoder α) (input : Bytes) : Result α :=
  match d input with
  | .ok (value, _) => .ok value
  | .error s => .error s

def unwrap (expected input : Bytes) (limits : RuntimeLimits) : Result Bytes :=
  Decoder.over (unwrapDecoder expected limits) input

/-- A digest, then the value; the digest is recomputed from what was decoded. -/
def digested {α : Type} (field : Bytes) (decode : Decoder α) (digestOf : α → Digest256)
    (mismatch : Bytes) : Decoder α := do
  let expected ← dcDigest field
  let value ← decode
  ByteReader.expectEnd
  ByteReader.require (expected == digestOf value) (makeStatus .corrupt mismatch)
  pure value

def rolloutTag : Bytes := text "rollout-fabric/rollout/v1"
def planTag : Bytes := text "rollout-fabric/plan/v1"
def inventoryTag : Bytes := text "rollout-fabric/inventory/v1"

def encodeRolloutPayload (r : Rollout) : Bytes :=
  wrap rolloutTag ((rolloutDigest r).data ++ r.encode)

def decodeRolloutPayload (input : Bytes) (limits : RuntimeLimits) : Result Rollout := do
  let body ← unwrap rolloutTag input limits
  Decoder.over (digested (text "rollout.digest") (decodeRollout limits) rolloutDigest
    (text "the rollout snapshot does not match the digest recorded with it")) body

def encodePlanPayload (p : ChangePlan) : Bytes := wrap planTag (p.planDigest.data ++ p.encode)

def decodePlanPayload (input : Bytes) (limits : RuntimeLimits) : Result ChangePlan := do
  let body ← unwrap planTag input limits
  Decoder.over (digested (text "plan.digest") (decodePlan limits) ChangePlan.planDigest
    (text "the plan payload does not match the digest recorded with it")) body

def encodeInventoryPayload (inventory : TargetInventory) : Bytes :=
  wrap inventoryTag (inventory.inventoryDigest.data
    ++ ByteWriter.vector TargetDescriptor.encode inventory.targets)

/-- The loop of `decode_inventory_payload`: each descriptor is added as soon as it is decoded. -/
def addDecoded (limits : RuntimeLimits) : Nat → TargetInventory → Decoder TargetInventory
  | 0, inventory => pure inventory
  | n + 1, inventory => do
    let descriptor ← decodeTargetDescriptor limits
    match inventory.add descriptor limits with
    | .ok inventory => addDecoded limits n inventory
    | .error s => ByteReader.fail s

def decodeInventory (limits : RuntimeLimits) : Decoder TargetInventory := do
  let count ← dcU32 (text "inventory.count")
  ByteReader.require (count.toNat ≤ limits.maxTotalTargets.toNat)
    (makeStatus .limitExceeded (text "inventory payload declares too many targets"))
  addDecoded limits count.toNat {}

def decodeInventoryPayload (input : Bytes) (limits : RuntimeLimits) : Result TargetInventory := do
  let body ← unwrap inventoryTag input limits
  Decoder.over (digested (text "inventory.digest") (decodeInventory limits)
    TargetInventory.inventoryDigest
    (text "the inventory payload does not match the digest recorded with it")) body

end RolloutFabric
