/-
Change plans: stages, the actions they run and the evidence that completes them, with the
validation that fixes the one order the runtime may execute.
-/
import RolloutFabric.Domain.Selector
import RolloutFabric.Domain.Evidence

namespace RolloutFabric

inductive ActionKind
  | applyConfiguration | restart | drain | upgrade | verify | rollback | compensate | custom
deriving DecidableEq, Repr, Inhabited

inductive RollbackSupport
  | unsupported | supported | bestEffort
deriving DecidableEq, Repr, Inhabited

instance : ByteCoded ActionKind where
  code
    | .applyConfiguration => 0 | .restart => 1 | .drain => 2 | .upgrade => 3 | .verify => 4
    | .rollback => 5 | .compensate => 6 | .custom => 7
  ofCode?
    | 0 => some .applyConfiguration | 1 => some .restart | 2 => some .drain | 3 => some .upgrade
    | 4 => some .verify | 5 => some .rollback | 6 => some .compensate | 7 => some .custom
    | _ => none
  ofCode?_code a := by cases a <;> rfl

instance : ByteCoded RollbackSupport where
  code | .unsupported => 0 | .supported => 1 | .bestEffort => 2
  ofCode? | 0 => some .unsupported | 1 => some .supported | 2 => some .bestEffort | _ => none
  ofCode?_code a := by cases a <;> rfl

/-! ## Actions -/

structure ActionSpec where
  id : ActionId := .nil
  name : Bytes := []
  kind : ActionKind := .applyConfiguration
  artifactDigest : Digest256 := default
  artifact : ArtifactId := .nil
  rollback : RollbackSupport := .unsupported
  parameters : Bytes := []
deriving DecidableEq, Inhabited

namespace ActionSpec

def validate (a : ActionSpec) (limits : RuntimeLimits) : Status := firstFailure [
  refuseIf a.id.isNil (text "action identifier is nil"),
  refuseIf a.name.isEmpty (text "action name must not be empty"),
  (if limits.maxNameBytes.toNat < a.name.length then
    makeStatus .limitExceeded (text "action name exceeds max_name_bytes") else .success),
  refuseIf (!isValidUtf8 a.name) (text "action name is not valid UTF-8"),
  (if limits.maxMessageBytes.toNat < a.parameters.length then
    makeStatus .limitExceeded (text "action '" ++ a.name ++ text "' carries "
      ++ toStringNat a.parameters.length ++ text " parameter bytes, above max_message_bytes")
  else .success),
  refuseIf (a.artifactDigest == default) (text "action '" ++ a.name
    ++ text "' has no artifact digest; the runtime only executes content it can pin")]

def encode (a : ActionSpec) : Bytes := [
  ByteWriter.id a.id, ByteWriter.string a.name, ByteWriter.u8 (ByteCoded.code a.kind),
  ByteWriter.digest a.artifactDigest, ByteWriter.id a.artifact,
  ByteWriter.u8 (ByteCoded.code a.rollback), ByteWriter.bytes a.parameters].flatten

/-- The digest covers the encoding under its own tag. -/
def actionDigest (a : ActionSpec) : Digest256 :=
  sha256 (ByteWriter.string (text "rollout-fabric/action/v1") ++ a.encode)

end ActionSpec

def decodeAction (limits : RuntimeLimits) : Decoder ActionSpec := do
  let id ← dcId .action (text "action.id")
  let name ← dcString (text "action.name") limits.maxNameBytes.toNat
  let kind ← dcEnum (dcU8 (text "action.kind")) fun value => makeStatus .corrupt
    (text "unknown action kind " ++ toStringNat value.toNat)
  let artifactDigest ← dcDigest (text "action.artifact_digest")
  let artifact ← dcId .artifact (text "action.artifact")
  let rollback ← dcEnum (dcU8 (text "action.rollback")) fun _ =>
    makeStatus .corrupt (text "unknown rollback support value")
  let parameters ← dcBytes (text "action.parameters") limits.maxMessageBytes.toNat
  let value : ActionSpec := { id, name, kind, artifactDigest, artifact, rollback, parameters }
  ByteReader.check (value.validate limits)
  pure value

/-! ## Evidence rules -/

structure TargetEvidenceRule where
  successAuthority : EvidenceAuthority := .executionAdapterAttested
  failureAuthority : EvidenceAuthority := .executionAdapterAttested
  requireVerification : Bool := false
  verifier : VerifierId := .nil
  healthSettle : Duration := .fromSeconds 0
  requireHealthAfterSuccess : Bool := false
deriving DecidableEq, Inhabited

namespace TargetEvidenceRule

def validate (rule : TargetEvidenceRule) : Status :=
  if rule.successAuthority = .workerSelfReported then
    makeStatus .policyViolation
      (text "a target may not be declared successful purely on a worker's own report; name an attesting authority")
  else firstFailure [
    refuseIf rule.healthSettle.isNegative
      (text "evidence_rule.health_settle must not be negative"),
    refuseIf (rule.requireHealthAfterSuccess && rule.healthSettle.isZero)
      (text "require_health_after_success needs a non-zero health_settle so that the observation has a defined duration")]

def encode (rule : TargetEvidenceRule) : Bytes := [
  ByteWriter.u8 (ByteCoded.code rule.successAuthority),
  ByteWriter.u8 (ByteCoded.code rule.failureAuthority),
  ByteWriter.boolean rule.requireVerification, ByteWriter.id rule.verifier,
  ByteWriter.duration rule.healthSettle,
  ByteWriter.boolean rule.requireHealthAfterSuccess].flatten

end TargetEvidenceRule

def decodeEvidenceRule : Decoder TargetEvidenceRule := do
  let successAuthority ← dcEnum (dcU8 (text "evidence_rule.success_authority")) fun _ =>
    makeStatus .corrupt (text "unknown success authority in evidence rule")
  let failureAuthority ← dcEnum (dcU8 (text "evidence_rule.failure_authority")) fun _ =>
    makeStatus .corrupt (text "unknown failure authority in evidence rule")
  let requireVerification ← dcBool (text "evidence_rule.require_verification")
  let verifier ← dcId .verifier (text "evidence_rule.verifier")
  let healthSettle ← dcDuration (text "evidence_rule.health_settle")
  let requireHealthAfterSuccess ← dcBool (text "evidence_rule.require_health_after_success")
  pure { successAuthority, failureAuthority, requireVerification, verifier, healthSettle
         requireHealthAfterSuccess }

/-! ## Policy encoding -/

def Ratio.encode (r : Ratio) : Bytes := ByteWriter.u32 r.numerator ++ ByteWriter.u32 r.denominator

def decodeRatio : Decoder Ratio := do
  let numerator ← ByteReader.u32
  let denominator ← ByteReader.u32
  let value : Ratio := { numerator, denominator }
  ByteReader.check value.validate
  pure value

def StagePolicy.encode (p : StagePolicy) : Bytes := [
  ByteWriter.u32 p.maxConcurrency, p.minHealthyFraction.encode,
  ByteWriter.u32 p.failureBudgetTargets, p.failureBudgetFraction.encode,
  ByteWriter.u32 p.canarySize, ByteWriter.boolean p.canaryRequiresHealthGate,
  ByteWriter.boolean p.healthGate.enabled, ByteWriter.duration p.healthGate.maxAge,
  ByteWriter.id p.healthGate.requiredSource, ByteWriter.u32 p.healthGate.minConsecutiveHealthy,
  p.healthGate.minHealthyFraction.encode, ByteWriter.u32 p.healthGate.failureBudgetTargets,
  p.healthGate.failureBudgetFraction.encode,
  ByteWriter.u8 (ByteCoded.code p.evidenceGate.mode), ByteWriter.duration p.evidenceGate.soak,
  ByteWriter.duration p.evidenceGate.maxAge, ByteWriter.id p.evidenceGate.requiredVerifier,
  ByteWriter.u32 p.evidenceGate.minPassingSamples, p.evidenceGate.minPassingFraction.encode,
  ByteWriter.boolean p.evidenceGate.requireFullCoverage,
  ByteWriter.u8 (ByteCoded.code p.entryGate), ByteWriter.u8 (ByteCoded.code p.advanceGate),
  ByteWriter.u32 p.blastRadius.maxTargetsChangingGlobal,
  ByteWriter.u32 p.blastRadius.maxTargetsChangingPerStage,
  ByteWriter.u32 p.blastRadius.maxTargetsChangingPerFailureDomain,
  ByteWriter.u32 p.blastRadius.maxTargetsChangingPerRack,
  ByteWriter.u32 p.blastRadius.maxTargetsChangingPerPod,
  ByteWriter.u32 p.blastRadius.maxTargetsChangingPerSite,
  ByteWriter.u32 p.blastRadius.maxFailureDomainsChanging,
  ByteWriter.duration p.attemptDeadline, ByteWriter.u32 p.maxAttemptsPerTarget,
  ByteWriter.duration p.evidenceMaxAge, ByteWriter.u8 (ByteCoded.code p.pauseInFlight),
  ByteWriter.boolean p.rollbackSupported,
  ByteWriter.vector ByteWriter.id p.compensationActions,
  ByteWriter.boolean p.requirePredecessorsSucceeded, ByteWriter.u32 p.weight].flatten

/-- The digest covers the encoding under its own tag. -/
def StagePolicy.policyDigest (p : StagePolicy) : Digest256 :=
  sha256 (ByteWriter.string (text "rollout-fabric/stage-policy/v1") ++ p.encode)

/-- `read_duration`. -/
def readDuration : Decoder Duration := do
  let nanos ← ByteReader.i64
  pure ⟨nanos⟩

def decodeGateMode (message : Bytes) : Decoder GateMode :=
  dcEnum ByteReader.u8 fun _ => makeStatus .corrupt message

def decodeStagePolicy (limits : RuntimeLimits) : Decoder StagePolicy := do
  let maxConcurrency ← ByteReader.u32
  let minHealthyFraction ← decodeRatio
  let failureBudgetTargets ← ByteReader.u32
  let failureBudgetFraction ← decodeRatio
  let canarySize ← ByteReader.u32
  let canaryRequiresHealthGate ← ByteReader.boolean
  let enabled ← ByteReader.boolean
  let healthMaxAge ← readDuration
  let requiredSource ← ByteReader.id .healthSource
  let minConsecutiveHealthy ← ByteReader.u32
  let healthFraction ← decodeRatio
  let healthBudgetTargets ← ByteReader.u32
  let healthBudgetFraction ← decodeRatio
  let mode ← decodeGateMode (text "unknown evidence gate mode")
  let soak ← readDuration
  let evidenceAge ← readDuration
  let requiredVerifier ← ByteReader.id .verifier
  let minPassingSamples ← ByteReader.u32
  let minPassingFraction ← decodeRatio
  let requireFullCoverage ← ByteReader.boolean
  let entryGate ← decodeGateMode (text "unknown entry gate mode")
  let advanceGate ← decodeGateMode (text "unknown advance gate mode")
  let maxTargetsChangingGlobal ← ByteReader.u32
  let maxTargetsChangingPerStage ← ByteReader.u32
  let maxTargetsChangingPerFailureDomain ← ByteReader.u32
  let maxTargetsChangingPerRack ← ByteReader.u32
  let maxTargetsChangingPerPod ← ByteReader.u32
  let maxTargetsChangingPerSite ← ByteReader.u32
  let maxFailureDomainsChanging ← ByteReader.u32
  let attemptDeadline ← readDuration
  let maxAttemptsPerTarget ← ByteReader.u32
  let evidenceMaxAge ← readDuration
  let pauseInFlight ← dcEnum ByteReader.u8 fun _ =>
    makeStatus .corrupt (text "unknown in-flight policy")
  let rollbackSupported ← ByteReader.boolean
  let actionCount ← ByteReader.u32
  ByteReader.require (actionCount.toNat ≤ limits.maxActionsPerStage.toNat)
    (makeStatus .limitExceeded (text "compensation action count "
      ++ toStringNat actionCount.toNat ++ text " exceeds max_actions_per_stage"))
  let compensationActions ← readN actionCount.toNat (ByteReader.id .action)
  let requirePredecessorsSucceeded ← ByteReader.boolean
  let weight ← ByteReader.u32
  let value : StagePolicy := {
    maxConcurrency, minHealthyFraction, failureBudgetTargets, failureBudgetFraction, canarySize
    canaryRequiresHealthGate, entryGate, advanceGate, attemptDeadline, maxAttemptsPerTarget
    evidenceMaxAge, pauseInFlight, rollbackSupported, compensationActions
    requirePredecessorsSucceeded, weight
    healthGate := {
      enabled, requiredSource, minConsecutiveHealthy, maxAge := healthMaxAge
      minHealthyFraction := healthFraction, failureBudgetTargets := healthBudgetTargets
      failureBudgetFraction := healthBudgetFraction }
    evidenceGate := {
      mode, soak, requiredVerifier, minPassingSamples, minPassingFraction, requireFullCoverage
      maxAge := evidenceAge }
    blastRadius := {
      maxTargetsChangingGlobal, maxTargetsChangingPerStage, maxTargetsChangingPerFailureDomain
      maxTargetsChangingPerRack, maxTargetsChangingPerPod, maxTargetsChangingPerSite
      maxFailureDomainsChanging } }
  ByteReader.check (value.validate limits)
  pure value

/-! ## Stages -/

structure StageSpec where
  id : StageId := .nil
  name : Bytes := []
  ordinal : UInt32 := 0
  predecessors : List StageId := []
  selector : SelectorTerm := default
  policy : StagePolicy := {}
  evidenceRule : TargetEvidenceRule := {}
  actions : List ActionSpec := []
deriving Inhabited

namespace StageSpec

/-- A failure inside the stage, reported under the stage's name. -/
def inStage (name part : Bytes) (s : Status) : Status :=
  if s.isOk then .success
  else makeStatus s.code (text "stage '" ++ name ++ text "'" ++ part ++ s.message)

def validate (s : StageSpec) (limits : RuntimeLimits) : Status := firstFailure [
  refuseIf s.id.isNil (text "stage identifier is nil"),
  refuseIf s.name.isEmpty (text "stage name must not be empty"),
  (if limits.maxNameBytes.toNat < s.name.length then
    makeStatus .limitExceeded (text "stage name exceeds max_name_bytes") else .success),
  (if limits.maxActionsPerStage.toNat < s.actions.length then
    makeStatus .limitExceeded (text "stage '" ++ s.name ++ text "' declares "
      ++ toStringNat s.actions.length ++ text " actions, above max_actions_per_stage")
  else .success),
  inStage s.name (text " selector: ") (s.selector.validate limits),
  inStage s.name (text " policy: ") (s.policy.validate limits),
  inStage s.name (text " evidence rule: ") s.evidenceRule.validate,
  firstFailure (s.actions.map fun action => inStage s.name (text ": ") (action.validate limits)),
  firstFailure (s.policy.compensationActions.map fun compensation =>
    refuseIf (!s.actions.any fun action => action.id == compensation)
      (text "stage '" ++ s.name
        ++ text "' names a compensation action that it does not declare"))]

/-- A predecessor identifier widened to the size of a digest. -/
def widen (id : StageId) : Digest256 := .ofBytes 32 id.bytes.data

def stageDigest (s : StageSpec) : Digest256 := sha256 [
  ByteWriter.string (text "rollout-fabric/stage/v1"), ByteWriter.id s.id,
  ByteWriter.string s.name, ByteWriter.u32 s.ordinal,
  ByteWriter.vector ByteWriter.digest ((s.predecessors.map widen).insertionSort (· ≤ ·)),
  s.selector.selectorDigest.data, s.policy.policyDigest.data, s.evidenceRule.encode,
  ByteWriter.vector (fun action : ActionSpec => action.actionDigest.data) s.actions].flatten

def encode (s : StageSpec) : Bytes := [
  ByteWriter.id s.id, ByteWriter.string s.name, ByteWriter.u32 s.ordinal,
  ByteWriter.vector ByteWriter.id s.predecessors, s.selector.encode, s.policy.encode,
  s.evidenceRule.encode, ByteWriter.vector ActionSpec.encode s.actions].flatten

end StageSpec

def decodeStage (limits : RuntimeLimits) : Decoder StageSpec := do
  let id ← dcId .stage (text "stage.id")
  let name ← dcString (text "stage.name") limits.maxNameBytes.toNat
  let ordinal ← dcU32 (text "stage.ordinal")
  let predecessors ← dcIdVector .stage (text "stage.predecessors") limits.maxStagesPerPlan.toNat
  let selector ← decodeSelectorTerm limits
  let policy ← decodeStagePolicy limits
  let evidenceRule ← decodeEvidenceRule
  let actions ← dcVector (text "stage.actions") limits.maxActionsPerStage.toNat
    (fun _ => makeStatus .limitExceeded (text "stage action count exceeds max_actions_per_stage"))
    (decodeAction limits)
  let value : StageSpec :=
    { id, name, ordinal, predecessors, selector, policy, evidenceRule, actions }
  ByteReader.check (value.validate limits)
  pure value

end RolloutFabric
