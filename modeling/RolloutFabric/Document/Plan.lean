/-
The loader of change plan documents: selectors, policies, actions and stages are read in the order
of the source, names are resolved once every stage is known, and the plan is validated last.
-/
import RolloutFabric.Base.Rfc3339
import RolloutFabric.Document.Reader
import RolloutFabric.Json.Base64

namespace RolloutFabric

def kChangePlanKind : Bytes := text "rollout_fabric.change_plan"

def kSchemaVersion : Int64 := 1

/-! ## Selectors -/

/-- `parse_selector_term` with that many levels of nesting left. -/
def parseSelectorTerm (limits : RuntimeLimits) : Nat → JsonValue → Bytes → Result SelectorTerm
  | 0, _, path => .error (makeStatus .limitExceeded
      (path ++ text ": selector nesting exceeds the maximum depth of "
        ++ toStringNat kMaxSelectorDepth))
  | room + 1, value, path => do
    let object ← value.requireObject path
    let op ← readRequiredEnum object (text "op") path (text "a selector operator") parseSelectorOp
    let ids ← readOptionalIdList object (text "ids") path limits
    let kinds ← readOptional (readList (assignEnum (text "a target kind") parseTargetKind)
      limits.maxSelectorTerms.toNat (text "entries")) object (text "kinds") path []
    let failureDomains ← readOptionalIdList object (text "failure_domains") path limits
    let strings key := readOptionalStringList object key path limits.maxSelectorTerms.toNat
      limits.maxLabelValueBytes.toNat
    let sites ← strings (text "sites")
    let pods ← strings (text "pods")
    let racks ← strings (text "racks")
    let labelKey ← readOptionalString object (text "label_key") path []
    -- unlike the key, a value that is there must be a string
    let labelValue ← readOptional (fun member path => (member.requireString path).map some)
      object (text "label_value") path none
    let children ← readOptional (readList (parseSelectorTerm limits room)
      limits.maxSelectorTerms.toNat (text "children")) object (text "children") path []
    return .mk op ids kinds sites pods racks failureDomains labelKey (labelValue.getD [])
      labelValue.isSome children

/-! ## Policies -/

def parseHealthGate (out : HealthGatePolicy) (value : JsonValue) (path : Bytes) :
    Result HealthGatePolicy := do
  let object ← value.requireObject path
  let enabled ← readOptionalBool object (text "enabled") path out.enabled
  let maxAge ← readOptionalMillis object (text "max_age_ms") path out.maxAge
  let requiredSource ← readOptionalId object (text "required_source") path out.requiredSource
  let minConsecutiveHealthy ←
    readOptionalU32 object (text "min_consecutive_healthy") path out.minConsecutiveHealthy
  let minHealthyFraction ←
    readOptionalRatio object (text "min_healthy_fraction") path out.minHealthyFraction
  let failureBudgetTargets ←
    readOptionalU32 object (text "failure_budget_targets") path out.failureBudgetTargets
  let failureBudgetFraction ←
    readOptionalRatio object (text "failure_budget_fraction") path out.failureBudgetFraction
  return { enabled, maxAge, requiredSource, minConsecutiveHealthy, minHealthyFraction
           failureBudgetTargets, failureBudgetFraction }

def parseEvidenceGate (out : EvidenceGatePolicy) (value : JsonValue) (path : Bytes) :
    Result EvidenceGatePolicy := do
  let object ← value.requireObject path
  let mode ← readOptionalEnum object (text "mode") path (text "a gate mode") parseGateMode out.mode
  let soak ← readOptionalMillis object (text "soak_ms") path out.soak
  let maxAge ← readOptionalMillis object (text "max_age_ms") path out.maxAge
  let requiredVerifier ← readOptionalId object (text "required_verifier") path out.requiredVerifier
  let minPassingSamples ←
    readOptionalU32 object (text "min_passing_samples") path out.minPassingSamples
  let minPassingFraction ←
    readOptionalRatio object (text "min_passing_fraction") path out.minPassingFraction
  let requireFullCoverage ←
    readOptionalBool object (text "require_full_coverage") path out.requireFullCoverage
  return { mode, soak, maxAge, requiredVerifier, minPassingSamples, minPassingFraction
           requireFullCoverage }

def parseBlastRadius (out : BlastRadiusPolicy) (value : JsonValue) (path : Bytes) :
    Result BlastRadiusPolicy := do
  let object ← value.requireObject path
  let maxTargetsChangingGlobal ←
    readOptionalU32 object (text "max_targets_changing_global") path out.maxTargetsChangingGlobal
  let maxTargetsChangingPerStage ← readOptionalU32 object
    (text "max_targets_changing_per_stage") path out.maxTargetsChangingPerStage
  let maxTargetsChangingPerFailureDomain ← readOptionalU32 object
    (text "max_targets_changing_per_failure_domain") path out.maxTargetsChangingPerFailureDomain
  let maxTargetsChangingPerRack ← readOptionalU32 object
    (text "max_targets_changing_per_rack") path out.maxTargetsChangingPerRack
  let maxTargetsChangingPerPod ← readOptionalU32 object
    (text "max_targets_changing_per_pod") path out.maxTargetsChangingPerPod
  let maxTargetsChangingPerSite ← readOptionalU32 object
    (text "max_targets_changing_per_site") path out.maxTargetsChangingPerSite
  let maxFailureDomainsChanging ←
    readOptionalU32 object (text "max_failure_domains_changing") path out.maxFailureDomainsChanging
  return { maxTargetsChangingGlobal, maxTargetsChangingPerStage
           maxTargetsChangingPerFailureDomain, maxTargetsChangingPerRack
           maxTargetsChangingPerPod, maxTargetsChangingPerSite, maxFailureDomainsChanging }

/-- `parse_stage_policy`: the policy, and the names of its compensation actions. -/
def parseStagePolicy (limits : RuntimeLimits) (out : StagePolicy) (value : JsonValue)
    (path : Bytes) : Result (StagePolicy × List Bytes) := do
  let object ← value.requireObject path
  let maxConcurrency ← readOptionalU32 object (text "max_concurrency") path out.maxConcurrency
  let minHealthyFraction ←
    readOptionalRatio object (text "min_healthy_fraction") path out.minHealthyFraction
  let failureBudgetTargets ←
    readOptionalU32 object (text "failure_budget_targets") path out.failureBudgetTargets
  let failureBudgetFraction ←
    readOptionalRatio object (text "failure_budget_fraction") path out.failureBudgetFraction
  let canarySize ← readOptionalU32 object (text "canary_size") path out.canarySize
  let canaryRequiresHealthGate ← readOptionalBool object (text "canary_requires_health_gate") path
    out.canaryRequiresHealthGate
  let entryGate ←
    readOptionalEnum object (text "entry_gate") path (text "a gate mode") parseGateMode out.entryGate
  let advanceGate ← readOptionalEnum object (text "advance_gate") path (text "a gate mode")
    parseGateMode out.advanceGate
  let attemptDeadline ←
    readOptionalMillis object (text "attempt_deadline_ms") path out.attemptDeadline
  let maxAttemptsPerTarget ←
    readOptionalU32 object (text "max_attempts_per_target") path out.maxAttemptsPerTarget
  let evidenceMaxAge ←
    readOptionalMillis object (text "evidence_max_age_ms") path out.evidenceMaxAge
  let pauseInFlight ← readOptionalEnum object (text "pause_in_flight") path
    (text "an in-flight policy") parseInFlightPolicy out.pauseInFlight
  let rollbackSupported ←
    readOptionalBool object (text "rollback_supported") path out.rollbackSupported
  let compensationNames ← readOptionalStringList object (text "compensation_actions") path
    limits.maxActionsPerStage.toNat limits.maxNameBytes.toNat
  let requirePredecessorsSucceeded ← readOptionalBool object
    (text "require_predecessors_succeeded") path out.requirePredecessorsSucceeded
  let weight ← readOptionalU32 object (text "weight") path out.weight
  let healthGate ←
    readOptional (parseHealthGate out.healthGate) object (text "health_gate") path out.healthGate
  let evidenceGate ← readOptional (parseEvidenceGate out.evidenceGate) object
    (text "evidence_gate") path out.evidenceGate
  let blastRadius ←
    readOptional (parseBlastRadius out.blastRadius) object (text "blast_radius") path out.blastRadius
  return ({ maxConcurrency, minHealthyFraction, failureBudgetTargets, failureBudgetFraction
            canarySize, canaryRequiresHealthGate, healthGate, evidenceGate, entryGate, advanceGate
            blastRadius, attemptDeadline, maxAttemptsPerTarget, evidenceMaxAge, pauseInFlight
            rollbackSupported, compensationActions := out.compensationActions
            requirePredecessorsSucceeded, weight }, compensationNames)

def parseEvidenceRule (out : TargetEvidenceRule) (value : JsonValue) (path : Bytes) :
    Result TargetEvidenceRule := do
  let object ← value.requireObject path
  let successAuthority ← readOptionalEnum object (text "success_authority") path
    (text "an evidence authority") parseEvidenceAuthority out.successAuthority
  let failureAuthority ← readOptionalEnum object (text "failure_authority") path
    (text "an evidence authority") parseEvidenceAuthority out.failureAuthority
  let requireVerification ←
    readOptionalBool object (text "require_verification") path out.requireVerification
  let verifier ← readOptionalId object (text "verifier") path out.verifier
  let healthSettle ← readOptionalMillis object (text "health_settle_ms") path out.healthSettle
  let requireHealthAfterSuccess ← readOptionalBool object (text "require_health_after_success")
    path out.requireHealthAfterSuccess
  return { successAuthority, failureAuthority, requireVerification, verifier, healthSettle
           requireHealthAfterSuccess }

/-! ## Actions and stages -/

/-- A required name: neither empty nor above the bound. -/
def readName (limits : RuntimeLimits) (object : JsonValue) (key path : Bytes) : Result Bytes := do
  let name ← readRequiredString object key path
  if name.isEmpty then
    throw (makeStatus .invalidArgument (joinPath path key ++ text " must not be empty"))
  if limits.maxNameBytes.toNat < name.length then
    throw (makeStatus .limitExceeded (joinPath path key ++ text " is " ++ toStringNat name.length
      ++ text " bytes, above max_name_bytes"))
  return name

def parseAction (stage : StageId) (limits : RuntimeLimits) (value : JsonValue) (path : Bytes) :
    Result ActionSpec := do
  let object ← value.requireObject path
  let name ← readName limits object (text "name") path
  let kind ← readRequiredEnum object (text "kind") path (text "an action kind") parseActionKind
  let artifactDigest ← readRequiredDigest object (text "artifact_digest") path
  let rollback ← readOptionalEnum object (text "rollback") path (text "a rollback support value")
    parseRollbackSupport .unsupported
  let parameters ← readOptional (fun member path => do
    let t ← member.requireString path
    decodeBase64 t path limits.maxMessageBytes.toNat) object (text "parameters_base64") path []
  return { id := deriveActionId stage name, name, kind, artifactDigest, rollback, parameters }

structure ParsedStage where
  spec : StageSpec
  predecessorNames : List Bytes
  compensationNames : List Bytes

def parseStage (plan : PlanId) (limits : RuntimeLimits) (value : JsonValue) (path : Bytes) :
    Result ParsedStage := do
  let object ← value.requireObject path
  let name ← readName limits object (text "name") path
  let id := deriveStageId plan name
  let ordinal ← readRequiredU32 object (text "ordinal") path
  let predecessorNames ← readOptionalStringList object (text "predecessors") path
    limits.maxStagesPerPlan.toNat limits.maxNameBytes.toNat
  let selector ← readRequiredObject object (text "selector") path
  let selector ← parseSelectorTerm limits (kMaxSelectorDepth + 1) selector
    (joinPath path (text "selector"))
  let (policy, compensationNames) ←
    readOptional (parseStagePolicy limits {}) object (text "policy") path ({}, [])
  let evidenceRule ← readOptional (parseEvidenceRule {}) object (text "evidence_rule") path {}
  let actions ← readRequired (readList (parseAction id limits) limits.maxActionsPerStage.toNat
    (text "actions")) object (text "actions") path
  return {
    spec := { id, name, ordinal, selector, policy, evidenceRule, actions }
    predecessorNames, compensationNames }

/-! ## Names -/

/-- The loop over the names of predecessors, from `position` on. -/
def resolvePredecessors (parsed : List ParsedStage) (stage : StageSpec) (path : Bytes) :
    Nat → List Bytes → Result (List StageId)
  | _, [] => .ok []
  | position, name :: rest =>
    -- `stages_by_name` keeps the first stage of a name
    match parsed.find? fun (other : ParsedStage) => other.spec.name == name with
    | none => .error (makeStatus .invalidArgument (indexPath path position ++ text ": stage "
        ++ jsonQuoted stage.name ++ text " names the unknown predecessor " ++ jsonQuoted name))
    | some other => do
      let ids ← resolvePredecessors parsed stage path (position + 1) rest
      return other.spec.id :: ids

/-- The loop over the names of compensation actions, from `position` on. -/
def resolveCompensation (stage : StageSpec) (path : Bytes) : Nat → List Bytes → Result (List ActionId)
  | _, [] => .ok []
  | position, name :: rest =>
    let id := deriveActionId stage.id name
    if stage.actions.any fun action => action.id == id then do
      let ids ← resolveCompensation stage path (position + 1) rest
      return id :: ids
    else .error (makeStatus .invalidArgument (indexPath path position ++ text ": stage "
        ++ jsonQuoted stage.name ++ text " names the unknown compensation action " ++ jsonQuoted name
        ++ text "; a stage can only compensate with an action it declares itself"))

/-- One turn of the loop that resolves the names of the stages. -/
def resolveStage (parsed : List ParsedStage) (index : Nat) (stage : ParsedStage) :
    Result StageSpec := do
  let path := indexPath (text "stages") index
  let predecessors ← resolvePredecessors parsed stage.spec (joinPath path (text "predecessors")) 0
    stage.predecessorNames
  let compensationActions ← resolveCompensation stage.spec
    (joinPath path (text "policy.compensation_actions")) 0 stage.compensationNames
  return { stage.spec with predecessors, policy := { stage.spec.policy with compensationActions } }

def resolveStages (parsed : List ParsedStage) : Nat → List ParsedStage → Result (List StageSpec)
  | _, [] => .ok []
  | index, stage :: rest => do
    let spec ← resolveStage parsed index stage
    let specs ← resolveStages parsed (index + 1) rest
    return spec :: specs

/-! ## Documents -/

def requireDocumentKind (document : JsonValue) (expected : Bytes) : Result Unit := do
  let kind ← readRequiredString document (text "kind") []
  if kind ≠ expected then
    throw (makeStatus .invalidArgument
      (text "kind: expected " ++ jsonQuoted expected ++ text ", found " ++ jsonQuoted kind))

def requireSchemaVersion (document : JsonValue) : Result Unit := do
  let version ← readRequiredInteger document (text "schema_version") []
  if version ≠ kSchemaVersion then
    throw (makeStatus .invalidArgument (text "schema_version: this build understands version "
      ++ toStringInt kSchemaVersion.toInt ++ text " only, not " ++ toStringInt version.toInt))

/-- The time of the approval, a failure of its parser reported under the member's name. -/
def readApprovedAt (document : JsonValue) : Result Timestamp := do
  let approvedAt ← readRequiredString document (text "approved_at") []
  match parseRfc3339 approvedAt with
  | .error s => throw (makeStatus s.code (text "approved_at: " ++ s.message))
  | .ok timestamp => return timestamp

def readSummary (document : JsonValue) (limits : RuntimeLimits) : Result Bytes := do
  let summary ← readOptionalString document (text "summary") [] []
  if limits.maxDescriptionBytes.toNat < summary.length then
    throw (makeStatus .limitExceeded (text "summary is " ++ toStringNat summary.length
      ++ text " bytes, above max_description_bytes"))
  return summary

def changePlanFromJson (value : JsonValue) (limits : RuntimeLimits) : Result ChangePlan := do
  let document ← value.requireObject []
  requireDocumentKind document kChangePlanKind
  requireSchemaVersion document
  let sourceDigest ← readRequiredDigest document (text "source_digest") []
  let id := derivePlanId sourceDigest
  let changeId ← readName limits document (text "change_id") []
  let approvedBy ← readName limits document (text "approved_by") []
  let approvedAt ← readApprovedAt document
  let summary ← readSummary document limits
  let parsed ← readRequired (readList (parseStage id limits) limits.maxStagesPerPlan.toNat
    (text "stages")) document (text "stages") []
  let stages ← resolveStages parsed 0 parsed
  let plan : ChangePlan := { id, sourceDigest, changeId, approvedBy, approvedAt, summary, stages }
  plan.validate limits

def parseChangePlan (t : Bytes) (limits : RuntimeLimits) : Result ChangePlan := do
  let document ← parseJson t limits
  changePlanFromJson document limits

end RolloutFabric
