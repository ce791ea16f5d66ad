/-
Stage policy: concurrency, failure budgets, gates, blast-radius limits and compensation, with
the validation every plan passes and every decoded snapshot passes again.
-/
import RolloutFabric.Domain.Lifecycle
import RolloutFabric.Domain.Limits

namespace RolloutFabric

/-! ## Ratios -/

structure Ratio where
  numerator : UInt32 := 0
  denominator : UInt32 := 1
deriving DecidableEq, Inhabited

namespace Ratio

def isInvalid : Bytes :=
  text "a ratio requires a non-zero denominator and a numerator no larger than it"

def validate (r : Ratio) : Status :=
  if r.denominator = 0 then makeStatus .invalidArgument isInvalid
  else if r.denominator < r.numerator then makeStatus .invalidArgument isInvalid
  else .success

def applyFloor (r : Ratio) (value : UInt64) : UInt64 :=
  if r.denominator = 0 then 0
  else if r.numerator = 0 then 0
  else if r.denominator ≤ r.numerator then value
  else
    let denominator := r.denominator.toUInt64
    let numerator := r.numerator.toUInt64
    let quotient := value / denominator
    let remainder := value % denominator
    quotient * numerator + (remainder * numerator) / denominator

def applyCeil (r : Ratio) (value : UInt64) : UInt64 :=
  if r.denominator = 0 ∨ r.numerator = 0 then 0
  else if r.denominator ≤ r.numerator then value
  else
    let floorValue := r.applyFloor value
    let exact := floorValue * r.denominator.toUInt64
    if exact = value * r.numerator.toUInt64 then floorValue else floorValue + 1

/-- `part / whole` is at least this ratio. -/
def satisfiedBy (r : Ratio) (part whole : UInt64) : Bool :=
  if r.denominator = 0 then false
  else if whole = 0 then r.numerator == 0
  else compareProducts part r.denominator.toUInt64 whole r.numerator.toUInt64 != .lt

def toText (r : Ratio) : Bytes :=
  toStringNat r.numerator.toNat ++ text "/" ++ toStringNat r.denominator.toNat

end Ratio

def ratio (numerator denominator : UInt32) : Ratio := ⟨numerator, denominator⟩

/-! ## Gates -/

inductive GateMode
  | automatic | manual
deriving DecidableEq, Repr, Inhabited

inductive GateKind
  | stageEntry | evidence | health | advance | rollback
deriving DecidableEq, Repr, Inhabited

/-- What happens to work that is already dispatched when a pause is applied. -/
inductive InFlightPolicy
  | letFinish | cancel
deriving DecidableEq, Repr, Inhabited

def GateMode.toText : GateMode → Bytes
  | .automatic => text "automatic" | .manual => text "manual"

def GateKind.toText : GateKind → Bytes
  | .stageEntry => text "stage_entry" | .evidence => text "evidence" | .health => text "health"
  | .advance => text "advance" | .rollback => text "rollback"

def InFlightPolicy.toText : InFlightPolicy → Bytes
  | .letFinish => text "let_finish" | .cancel => text "cancel"

instance : ByteCoded GateMode where
  code | .automatic => 0 | .manual => 1
  ofCode? | 0 => some .automatic | 1 => some .manual | _ => none
  ofCode?_code a := by cases a <;> rfl

instance : ByteCoded GateKind where
  code | .stageEntry => 0 | .evidence => 1 | .health => 2 | .advance => 3 | .rollback => 4
  ofCode?
    | 0 => some .stageEntry | 1 => some .evidence | 2 => some .health | 3 => some .advance
    | 4 => some .rollback | _ => none
  ofCode?_code a := by cases a <;> rfl

instance : ByteCoded InFlightPolicy where
  code | .letFinish => 0 | .cancel => 1
  ofCode? | 0 => some .letFinish | 1 => some .cancel | _ => none
  ofCode?_code a := by cases a <;> rfl

structure HealthGatePolicy where
  enabled : Bool := true
  maxAge : Duration := .fromSeconds 30
  requiredSource : HealthSourceId := .nil
  minConsecutiveHealthy : UInt32 := 2
  minHealthyFraction : Ratio := ratio 1 1
  failureBudgetTargets : UInt32 := 0
  failureBudgetFraction : Ratio := ratio 0 1
deriving DecidableEq, Inhabited

structure EvidenceGatePolicy where
  mode : GateMode := .automatic
  soak : Duration := .fromSeconds 0
  maxAge : Duration := .fromSeconds 300
  requiredVerifier : VerifierId := .nil
  minPassingSamples : UInt32 := 1
  minPassingFraction : Ratio := ratio 1 1
  requireFullCoverage : Bool := true
deriving DecidableEq, Inhabited

/-- Limits on how much of a correlated population may be changing at once. -/
structure BlastRadiusPolicy where
  maxTargetsChangingGlobal : UInt32 := 64
  maxTargetsChangingPerStage : UInt32 := 64
  maxTargetsChangingPerFailureDomain : UInt32 := 1
  maxTargetsChangingPerRack : UInt32 := 1
  maxTargetsChangingPerPod : UInt32 := 1
  maxTargetsChangingPerSite : UInt32 := 2
  maxFailureDomainsChanging : UInt32 := 2
deriving DecidableEq, Inhabited

/-! ## Stage policy -/

structure StagePolicy where
  maxConcurrency : UInt32 := 1
  minHealthyFraction : Ratio := ratio 1 1
  failureBudgetTargets : UInt32 := 0
  failureBudgetFraction : Ratio := ratio 0 1
  canarySize : UInt32 := 1
  canaryRequiresHealthGate : Bool := true
  healthGate : HealthGatePolicy := {}
  evidenceGate : EvidenceGatePolicy := {}
  entryGate : GateMode := .automatic
  advanceGate : GateMode := .automatic
  blastRadius : BlastRadiusPolicy := {}
  attemptDeadline : Duration := .fromSeconds 120
  maxAttemptsPerTarget : UInt32 := 3
  evidenceMaxAge : Duration := .fromSeconds 300
  pauseInFlight : InFlightPolicy := .letFinish
  rollbackSupported : Bool := false
  compensationActions : List ActionId := []
  requirePredecessorsSucceeded : Bool := true
  weight : UInt32 := 1
deriving DecidableEq, Inhabited

/-- `validate_ratio`: the checks of `Ratio::validate` with the field's name. -/
def validateRatio (value : Ratio) (field : Bytes) : Status :=
  if value.denominator = 0 then
    makeStatus .invalidArgument (field ++ text ": " ++ Ratio.isInvalid)
  else if value.denominator < value.numerator then
    makeStatus .invalidArgument (field ++
      text ": numerator exceeds denominator (a fraction above one has no meaning for this threshold)")
  else .success

/-- `if (failed) return make_status(kInvalidArgument, message)`. -/
def refuseIf (failed : Bool) (message : Bytes) : Status :=
  if failed then makeStatus .invalidArgument message else .success

@[simp] theorem refuseIf_isOk (failed : Bool) (message : Bytes) :
    (refuseIf failed message).isOk = !failed := by cases failed <;> rfl

@[simp] theorem validateRatio_isOk (value : Ratio) (field : Bytes) :
    (validateRatio value field).isOk = value.validate.isOk := by
  unfold validateRatio Ratio.validate
  split
  · rfl
  · split <;> rfl

namespace StagePolicy

def validate (p : StagePolicy) (_limits : RuntimeLimits) : Status := firstFailure [
  refuseIf (p.maxConcurrency = 0) (text "max_concurrency must be at least 1"),
  validateRatio p.minHealthyFraction (text "min_healthy_fraction"),
  validateRatio p.failureBudgetFraction (text "failure_budget_fraction"),
  validateRatio p.healthGate.minHealthyFraction (text "health_gate.min_healthy_fraction"),
  validateRatio p.healthGate.failureBudgetFraction (text "health_gate.failure_budget_fraction"),
  validateRatio p.evidenceGate.minPassingFraction (text "evidence_gate.min_passing_fraction"),
  refuseIf (p.attemptDeadline.isZero || p.attemptDeadline.isNegative)
    (text "attempt_deadline must be positive"),
  refuseIf (p.evidenceMaxAge.isZero || p.evidenceMaxAge.isNegative)
    (text "evidence_max_age must be positive"),
  refuseIf (p.maxAttemptsPerTarget = 0) (text "max_attempts_per_target must be at least 1"),
  refuseIf (p.healthGate.enabled && p.healthGate.maxAge.isZero)
    (text "health_gate.max_age must be positive when the health gate is enabled"),
  refuseIf (p.healthGate.enabled && p.healthGate.minConsecutiveHealthy = 0)
    (text "health_gate.min_consecutive_healthy must be at least 1 when the health gate is enabled"),
  refuseIf p.evidenceGate.soak.isNegative (text "evidence_gate.soak must not be negative"),
  refuseIf (p.evidenceGate.maxAge.isZero || p.evidenceGate.maxAge.isNegative)
    (text "evidence_gate.max_age must be positive"),
  refuseIf (p.evidenceGate.minPassingSamples = 0)
    (text "evidence_gate.min_passing_samples must be at least 1"),
  refuseIf (p.blastRadius.maxTargetsChangingPerStage = 0
      || p.blastRadius.maxTargetsChangingGlobal = 0)
    (text "blast radius limits must be at least 1; an unbounded rollout is not a configuration this runtime accepts"),
  refuseIf (p.blastRadius.maxTargetsChangingPerFailureDomain = 0
      || p.blastRadius.maxTargetsChangingPerRack = 0
      || p.blastRadius.maxTargetsChangingPerPod = 0
      || p.blastRadius.maxTargetsChangingPerSite = 0
      || p.blastRadius.maxFailureDomainsChanging = 0)
    (text "every blast radius dimension must be at least 1"),
  refuseIf (p.blastRadius.maxTargetsChangingGlobal < p.blastRadius.maxTargetsChangingPerStage)
    (text "max_targets_changing_per_stage exceeds max_targets_changing_global"),
  refuseIf (p.rollbackSupported && p.compensationActions.isEmpty)
    (text "rollback_supported requires at least one compensation action so that a rollback has something to run"),
  refuseIf (!p.rollbackSupported && !p.compensationActions.isEmpty)
    (text "compensation_actions were declared for a stage that does not support rollback; the plan must say which of the two it means"),
  refuseIf (p.weight = 0) (text "weight must be at least 1")]

def describe (p : StagePolicy) : Bytes :=
  text "concurrency=" ++ toStringNat p.maxConcurrency.toNat
    ++ text " min_healthy=" ++ p.minHealthyFraction.toText
    ++ text " failure_budget=" ++ toStringNat p.failureBudgetTargets.toNat
    ++ text "+" ++ p.failureBudgetFraction.toText
    ++ text " canary=" ++ (if p.canarySize = 0 then text "none" else toStringNat p.canarySize.toNat)
    ++ text " entry_gate=" ++ p.entryGate.toText
    ++ text " advance_gate=" ++ p.advanceGate.toText
    ++ text " soak_ms=" ++ toStringInt64 p.evidenceGate.soak.millis
    ++ text " pause_in_flight=" ++ p.pauseInFlight.toText
    ++ text " rollback=" ++ (if p.rollbackSupported then text "supported" else text "unsupported")

end StagePolicy

end RolloutFabric
