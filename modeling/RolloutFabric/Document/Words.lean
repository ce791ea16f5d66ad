/-
The words documents are written in: the names of the enumerations, hexadecimal identifiers and
digests, and the identifiers that are derived from names.
-/
import RolloutFabric.Domain.ChangePlan
import RolloutFabric.Json.Text

namespace RolloutFabric

/-! ## Enumerations -/

def parseSelectorOp (t : Bytes) : Option SelectorOp :=
  if t = text "all" then some .all
  else if t = text "by_ids" ∨ t = text "by-ids" then some .byIds
  else if t = text "by_kind" ∨ t = text "by-kind" then some .byKind
  else if t = text "by_site" ∨ t = text "by-site" then some .bySite
  else if t = text "by_pod" ∨ t = text "by-pod" then some .byPod
  else if t = text "by_rack" ∨ t = text "by-rack" then some .byRack
  else if t = text "by_failure_domain" ∨ t = text "by-failure-domain" then some .byFailureDomain
  else if t = text "by_label" ∨ t = text "by-label" then some .byLabel
  else if t = text "and" then some .and
  else if t = text "or" then some .or
  else if t = text "not" then some .not
  else none

def parseTargetKind (t : Bytes) : Option TargetKind :=
  if t = text "switch" then some .switch
  else if t = text "device" then some .device
  else if t = text "rack" then some .rack
  else if t = text "pod" then some .pod
  else if t = text "site" then some .site
  else if t = text "failure_domain" ∨ t = text "failure-domain" ∨ t = text "domain" then
    some .failureDomain
  else none

def parseGateMode (t : Bytes) : Option GateMode :=
  if t = text "automatic" ∨ t = text "auto" then some .automatic
  else if t = text "manual" then some .manual
  else none

def parseInFlightPolicy (t : Bytes) : Option InFlightPolicy :=
  if t = text "let_finish" ∨ t = text "let-finish" then some .letFinish
  else if t = text "cancel" then some .cancel
  else none

def parseEvidenceAuthority (t : Bytes) : Option EvidenceAuthority :=
  if t = text "worker_self_reported" then some .workerSelfReported
  else if t = text "execution_adapter_attested" then some .executionAdapterAttested
  else if t = text "verifier_attested" then some .verifierAttested
  else if t = text "health_source_attested" then some .healthSourceAttested
  else if t = text "operator_attested" then some .operatorAttested
  else none

def parseActionKind (t : Bytes) : Option ActionKind :=
  if t = text "apply_configuration" ∨ t = text "apply-configuration" then some .applyConfiguration
  else if t = text "restart" then some .restart
  else if t = text "drain" then some .drain
  else if t = text "upgrade" then some .upgrade
  else if t = text "verify" then some .verify
  else if t = text "rollback" then some .rollback
  else if t = text "compensate" then some .compensate
  else if t = text "custom" then some .custom
  else none

def parseRollbackSupport (t : Bytes) : Option RollbackSupport :=
  if t = text "unsupported" ∨ t = text "none" then some .unsupported
  else if t = text "supported" then some .supported
  else if t = text "best_effort" ∨ t = text "best-effort" then some .bestEffort
  else none

/-! ## Hexadecimal -/

/-- The loop of `parse_hex`, over a text of an even number of characters. -/
def parseHexPairs : Bytes → Option Bytes
  | high :: low :: rest => do
    let h ← hexValue high
    let l ← hexValue low
    let bytes ← parseHexPairs rest
    return (h * 16 + l).toUInt8 :: bytes
  | _ => some []

/-- `parse_hex`: exactly two characters for each byte. -/
def parseHex (n : Nat) (t : Bytes) : Option (FixedBytes n) :=
  if t.length = n * 2 then (parseHexPairs t).map (FixedBytes.ofBytes n) else none

/-- `StrongId::parse`. -/
def StrongId.parse {tag : IdTag} (hex : Bytes) : Option (StrongId tag) :=
  (parseHex 16 hex).map StrongId.mk

/-! ## Derived identifiers -/

/-- `Id::from_bytes` of the first half of a digest. -/
def StrongId.ofDigest {tag : IdTag} (digest : Digest256) : StrongId tag :=
  ⟨.ofBytes 16 (digest.data.take 16)⟩

/-- `derive` of the plan module: a domain, then the material. -/
def deriveUnder (domain material : Bytes) : Digest256 := sha256 (ByteWriter.string domain ++ material)

def derivePlanId (sourceDigest : Digest256) : PlanId :=
  .ofDigest (deriveUnder (text "rollout-fabric/plan/v1") sourceDigest.data)

def deriveStageId (plan : PlanId) (stageName : Bytes) : StageId :=
  .ofDigest (deriveUnder (text "rollout-fabric/stage/v1")
    (ByteWriter.id plan ++ ByteWriter.string stageName))

def deriveActionId (stage : StageId) (actionName : Bytes) : ActionId :=
  .ofDigest (deriveUnder (text "rollout-fabric/action/v1")
    (ByteWriter.id stage ++ ByteWriter.string actionName))

/-- The hasher is fed the domain, then the name. -/
def deriveTargetId (name : Bytes) : TargetId :=
  .ofDigest (((Sha256.update {} (text "rollout-fabric/target/v1")).update name).finish)

def deriveFailureDomainId (name : Bytes) : FailureDomainId :=
  .ofDigest (((Sha256.update {} (text "rollout-fabric/failure-domain/v1")).update name).finish)

end RolloutFabric
