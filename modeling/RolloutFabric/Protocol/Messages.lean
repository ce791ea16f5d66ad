/-
The bodies of the control protocol's messages: what each message carries, the bytes it is
written to and the bounds under which it is read.
-/
import RolloutFabric.Domain.EvidenceCodec
import RolloutFabric.Orchestrator.World

namespace RolloutFabric

/-! ## Codes -/

namespace StatusCode

def code : StatusCode → UInt16
  | .ok => 0 | .invalidArgument => 1 | .notFound => 2 | .alreadyExists => 3 | .conflict => 4
  | .preconditionFailed => 5 | .permissionDenied => 6 | .resourceExhausted => 7
  | .unavailable => 8 | .internal => 9 | .corrupt => 10 | .staleEpoch => 11
  | .staleGeneration => 12 | .staleAttempt => 13 | .staleEvidence => 14 | .staleRevision => 15
  | .fenced => 16 | .notSupported => 17 | .cancelled => 18 | .shuttingDown => 19
  | .limitExceeded => 20 | .policyViolation => 21 | .deadlineExceeded => 22 | .ioError => 23
  | .locked => 24 | .immutable => 25 | .unsupportedGate => 26

def ofCode? : UInt16 → Option StatusCode
  | 0 => some .ok | 1 => some .invalidArgument | 2 => some .notFound | 3 => some .alreadyExists
  | 4 => some .conflict | 5 => some .preconditionFailed | 6 => some .permissionDenied
  | 7 => some .resourceExhausted | 8 => some .unavailable | 9 => some .internal
  | 10 => some .corrupt | 11 => some .staleEpoch | 12 => some .staleGeneration
  | 13 => some .staleAttempt | 14 => some .staleEvidence | 15 => some .staleRevision
  | 16 => some .fenced | 17 => some .notSupported | 18 => some .cancelled
  | 19 => some .shuttingDown | 20 => some .limitExceeded | 21 => some .policyViolation
  | 22 => some .deadlineExceeded | 23 => some .ioError | 24 => some .locked
  | 25 => some .immutable | 26 => some .unsupportedGate | _ => none

@[simp] theorem ofCode?_code (c : StatusCode) : ofCode? c.code = some c := by
  cases c <;> rfl

theorem code_of_ofCode? {raw : UInt16} {c : StatusCode} (h : ofCode? raw = some c) :
    c.code = raw := by
  unfold ofCode? at h
  split at h <;> cases h <;> rfl

end StatusCode

instance : ByteCoded DispatchOutcome where
  code
    | .accepted => 0 | .rejected => 1 | .unavailable => 2 | .duplicateSuppressed => 3
    | .throttled => 4 | .fenced => 5
  ofCode?
    | 0 => some .accepted | 1 => some .rejected | 2 => some .unavailable
    | 3 => some .duplicateSuppressed | 4 => some .throttled | 5 => some .fenced | _ => none
  ofCode?_code a := by cases a <;> rfl

instance : ByteCoded ReconcileDisposition where
  code | .completed => 0 | .failed => 1 | .inProgress => 2 | .notStarted => 3 | .unknown => 4
  ofCode?
    | 0 => some .completed | 1 => some .failed | 2 => some .inProgress | 3 => some .notStarted
    | 4 => some .unknown | _ => none
  ofCode?_code a := by cases a <;> rfl

inductive CommandKind
  | create | validate | arm | start | pause | resume | abort | approveGate | retire | regenerate
  | status | explain | inspectStage | inspectCohort | listEvents
deriving DecidableEq, Repr, Inhabited

instance : ByteCoded CommandKind where
  code
    | .create => 0 | .validate => 1 | .arm => 2 | .start => 3 | .pause => 4 | .resume => 5
    | .abort => 6 | .approveGate => 7 | .retire => 8 | .regenerate => 9 | .status => 10
    | .explain => 11 | .inspectStage => 12 | .inspectCohort => 13 | .listEvents => 14
  ofCode?
    | 0 => some .create | 1 => some .validate | 2 => some .arm | 3 => some .start
    | 4 => some .pause | 5 => some .resume | 6 => some .abort | 7 => some .approveGate
    | 8 => some .retire | 9 => some .regenerate | 10 => some .status | 11 => some .explain
    | 12 => some .inspectStage | 13 => some .inspectCohort | 14 => some .listEvents | _ => none
  ofCode?_code a := by cases a <;> rfl

/-! ## Shared parts -/

def unknownValue (field : Bytes) (raw : Nat) : Status :=
  makeStatus .corrupt (field ++ text ": unknown value " ++ toStringNat raw)

def overCeiling (field : Bytes) (declared maximum : Nat) : Status :=
  makeStatus .limitExceeded (field ++ text ": declared count " ++ toStringNat declared
    ++ text " exceeds the maximum " ++ toStringNat maximum)

/-- `decode_enum`: the enumerators of every wire enumeration are numbered without a gap. -/
def decodeEnum {α : Type} [ByteCoded α] (field : Bytes) : Decoder α :=
  dcEnum (dcU8 field) fun raw => unknownValue field raw.toNat

def dcU16 (field : Bytes) : Decoder UInt16 := dcField field ByteReader.u16

def decodeStatusCode (field : Bytes) : Decoder StatusCode := do
  let raw ← dcU16 field
  match StatusCode.ofCode? raw with
  | some code => pure code
  | none => ByteReader.fail (unknownValue field raw.toNat)

/-- `write_fence`. -/
def AttemptFence.write (fence : AttemptFence) : Bytes := [
  ByteWriter.id fence.rollout, ByteWriter.id fence.generation, ByteWriter.id fence.stage,
  ByteWriter.id fence.attempt, ByteWriter.u64 fence.epoch,
  ByteWriter.id fence.incarnation].flatten

def readFence (field : Bytes) : Decoder AttemptFence := do
  let rollout ← dcId .rollout field
  let generation ← dcId .generation field
  let stage ← dcId .stage field
  let attempt ← dcId .attempt field
  let epoch ← dcU64 field
  let incarnation ← dcId .incarnation field
  pure { rollout, generation, stage, attempt, epoch, incarnation }

/-- The fields of a body, and nothing after them. -/
def Decoder.whole {α : Type} (fields : Decoder α) (body : Bytes) : Result α :=
  Decoder.over (do
    let message ← fields
    ByteReader.expectEnd
    pure message) body

/-! ## Hello -/

def kProtocolVersion : UInt32 := 1

structure HelloMessage where
  protocolVersion : UInt32 := kProtocolVersion
  abiVersion : UInt32 := 0
  worker : WorkerId := .nil
  incarnation : IncarnationId := .nil
  name : Bytes := []
  capacity : UInt32 := 0
  startedAtUnixNanos : UInt64 := 0
deriving DecidableEq, Inhabited

def HelloMessage.encode (message : HelloMessage) : Bytes := [
  ByteWriter.u32 message.protocolVersion, ByteWriter.u32 message.abiVersion,
  ByteWriter.id message.worker, ByteWriter.id message.incarnation,
  ByteWriter.string message.name, ByteWriter.u32 message.capacity,
  ByteWriter.u64 message.startedAtUnixNanos].flatten

def helloFields (limits : RuntimeLimits) : Decoder HelloMessage := do
  let protocolVersion ← dcU32 (text "protocol_version")
  ByteReader.require (protocolVersion = kProtocolVersion) (makeStatus .corrupt
    (text "protocol_version " ++ toStringNat protocolVersion.toNat
      ++ text " is not one this build speaks (it speaks "
      ++ toStringNat kProtocolVersion.toNat ++ text ")"))
  let abiVersion ← dcU32 (text "abi_version")
  let worker ← dcId .worker (text "worker")
  let incarnation ← dcId .incarnation (text "incarnation")
  let name ← dcString (text "name") limits.maxNameBytes.toNat
  let capacity ← dcU32 (text "capacity")
  ByteReader.require (capacity ≤ limits.maxConcurrentAttempts) (makeStatus .limitExceeded
    (text "capacity " ++ toStringNat capacity.toNat ++ text " exceeds the configured ceiling of "
      ++ toStringNat limits.maxConcurrentAttempts.toNat))
  let startedAtUnixNanos ← dcU64 (text "started_at_unix_nanos")
  pure { protocolVersion, abiVersion, worker, incarnation, name, capacity, startedAtUnixNanos }

def decodeHello (body : Bytes) (limits : RuntimeLimits) : Result HelloMessage :=
  (helloFields limits).whole body

structure HelloAckMessage where
  protocolVersion : UInt32 := kProtocolVersion
  abiVersion : UInt32 := 0
  controllerIncarnation : IncarnationId := .nil
  controllerEpoch : UInt64 := 0
  maxInFlight : UInt32 := 0
deriving DecidableEq, Inhabited

def HelloAckMessage.encode (message : HelloAckMessage) : Bytes := [
  ByteWriter.u32 message.protocolVersion, ByteWriter.u32 message.abiVersion,
  ByteWriter.id message.controllerIncarnation, ByteWriter.u64 message.controllerEpoch,
  ByteWriter.u32 message.maxInFlight].flatten

def helloAckFields : Decoder HelloAckMessage := do
  let protocolVersion ← dcU32 (text "protocol_version")
  let abiVersion ← dcU32 (text "abi_version")
  let controllerIncarnation ← dcId .incarnation (text "controller_incarnation")
  let controllerEpoch ← dcU64 (text "controller_epoch")
  let maxInFlight ← dcU32 (text "max_in_flight")
  pure { protocolVersion, abiVersion, controllerIncarnation, controllerEpoch, maxInFlight }

def decodeHelloAck (body : Bytes) : Result HelloAckMessage := helloAckFields.whole body

/-! ## Dispatch -/

structure DispatchCommandMessage where
  request : DispatchRequest := {}
  target : TargetId := .nil
  targetName : Bytes := []
deriving DecidableEq, Inhabited

/-- The target of the request is not written; the message names it. -/
def DispatchCommandMessage.encode (message : DispatchCommandMessage) : Bytes := [
  message.request.fence.write, ByteWriter.id message.request.cohort,
  ByteWriter.id message.request.action, ByteWriter.digest message.request.actionDigest,
  ByteWriter.digest message.request.artifactDigest,
  ByteWriter.digest message.request.idempotencyKey, ByteWriter.u32 message.request.attemptNumber,
  ByteWriter.bytes message.request.parameters, ByteWriter.timestamp message.request.deadline,
  ByteWriter.id message.target, ByteWriter.string message.targetName].flatten

def dispatchFields (limits : RuntimeLimits) : Decoder DispatchCommandMessage := do
  let fence ← readFence (text "fence")
  let cohort ← dcId .cohort (text "cohort")
  let action ← dcId .action (text "action")
  let actionDigest ← dcDigest (text "action_digest")
  let artifactDigest ← dcDigest (text "artifact_digest")
  let idempotencyKey ← dcDigest (text "idempotency_key")
  let attemptNumber ← dcU32 (text "attempt_number")
  let parameters ← dcBytes (text "parameters") limits.maxMessageBytes.toNat
  let deadline ← dcTimestamp (text "deadline")
  let target ← dcId .target (text "target")
  let targetName ← dcString (text "target_name") limits.maxNameBytes.toNat
  pure {
    request := { fence, cohort, action, actionDigest, artifactDigest, idempotencyKey
                 attemptNumber, parameters, deadline }
    target, targetName }

def decodeDispatch (body : Bytes) (limits : RuntimeLimits) : Result DispatchCommandMessage :=
  (dispatchFields limits).whole body

structure DispatchAckMessage where
  fence : AttemptFence := {}
  outcome : DispatchOutcome := .unavailable
  detail : Bytes := []
  acceptedAt : Timestamp := {}
deriving DecidableEq, Inhabited

def DispatchAckMessage.encode (message : DispatchAckMessage) : Bytes := [
  message.fence.write, ByteWriter.u8 (ByteCoded.code message.outcome),
  ByteWriter.string message.detail, ByteWriter.timestamp message.acceptedAt].flatten

def dispatchAckFields (limits : RuntimeLimits) : Decoder DispatchAckMessage := do
  let fence ← readFence (text "fence")
  let outcome ← decodeEnum (text "outcome")
  let detail ← dcString (text "detail") limits.maxDescriptionBytes.toNat
  let acceptedAt ← dcTimestamp (text "accepted_at")
  pure { fence, outcome, detail, acceptedAt }

def decodeDispatchAck (body : Bytes) (limits : RuntimeLimits) : Result DispatchAckMessage :=
  (dispatchAckFields limits).whole body

/-! ## Cancel -/

structure CancelMessage where
  fence : AttemptFence := {}
  reason : Bytes := []
deriving DecidableEq, Inhabited

def CancelMessage.encode (message : CancelMessage) : Bytes :=
  [message.fence.write, ByteWriter.string message.reason].flatten

def cancelFields (limits : RuntimeLimits) : Decoder CancelMessage := do
  let fence ← readFence (text "fence")
  let reason ← dcString (text "reason") limits.maxDescriptionBytes.toNat
  pure { fence, reason }

def decodeCancel (body : Bytes) (limits : RuntimeLimits) : Result CancelMessage :=
  (cancelFields limits).whole body

structure CancelAckMessage where
  fence : AttemptFence := {}
  stopped : Bool := false
  detail : Bytes := []
deriving DecidableEq, Inhabited

def CancelAckMessage.encode (message : CancelAckMessage) : Bytes := [
  message.fence.write, ByteWriter.boolean message.stopped,
  ByteWriter.string message.detail].flatten

def cancelAckFields (limits : RuntimeLimits) : Decoder CancelAckMessage := do
  let fence ← readFence (text "fence")
  let stopped ← dcBool (text "stopped")
  let detail ← dcString (text "detail") limits.maxDescriptionBytes.toNat
  pure { fence, stopped, detail }

def decodeCancelAck (body : Bytes) (limits : RuntimeLimits) : Result CancelAckMessage :=
  (cancelAckFields limits).whole body

/-! ## Heartbeat -/

structure HeartbeatMessage where
  incarnation : IncarnationId := .nil
  inFlight : UInt32 := 0
  completed : UInt64 := 0
  failed : UInt64 := 0
  occurredAt : Timestamp := {}
deriving DecidableEq, Inhabited

def HeartbeatMessage.encode (message : HeartbeatMessage) : Bytes := [
  ByteWriter.id message.incarnation, ByteWriter.u32 message.inFlight,
  ByteWriter.u64 message.completed, ByteWriter.u64 message.failed,
  ByteWriter.timestamp message.occurredAt].flatten

def heartbeatFields : Decoder HeartbeatMessage := do
  let incarnation ← dcId .incarnation (text "incarnation")
  let inFlight ← dcU32 (text "in_flight")
  let completed ← dcU64 (text "completed")
  let failed ← dcU64 (text "failed")
  let occurredAt ← dcTimestamp (text "at")
  pure { incarnation, inFlight, completed, failed, occurredAt }

def decodeHeartbeat (body : Bytes) : Result HeartbeatMessage := heartbeatFields.whole body

structure HeartbeatAckMessage where
  controllerIncarnation : IncarnationId := .nil
  controllerEpoch : UInt64 := 0
  acceptWork : Bool := false
deriving DecidableEq, Inhabited

def HeartbeatAckMessage.encode (message : HeartbeatAckMessage) : Bytes := [
  ByteWriter.id message.controllerIncarnation, ByteWriter.u64 message.controllerEpoch,
  ByteWriter.boolean message.acceptWork].flatten

def heartbeatAckFields : Decoder HeartbeatAckMessage := do
  let controllerIncarnation ← dcId .incarnation (text "controller_incarnation")
  let controllerEpoch ← dcU64 (text "controller_epoch")
  let acceptWork ← dcBool (text "accept_work")
  pure { controllerIncarnation, controllerEpoch, acceptWork }

def decodeHeartbeatAck (body : Bytes) : Result HeartbeatAckMessage := heartbeatAckFields.whole body

/-! ## Reconcile -/

/-- The fence of the attempt a record is about. -/
def EvidenceRecord.fence (record : EvidenceRecord) : AttemptFence where
  rollout := record.rollout
  generation := record.generation
  stage := record.stage
  attempt := record.attempt
  epoch := record.attemptEpoch
  incarnation := record.incarnation

structure ReconcileRequestMessage where
  requestId : UInt64 := 0
  fences : List AttemptFence := []
deriving DecidableEq, Inhabited

def ReconcileRequestMessage.encode (message : ReconcileRequestMessage) : Bytes :=
  [ByteWriter.u64 message.requestId, ByteWriter.vector AttemptFence.write message.fences].flatten

def reconcileRequestFields (limits : RuntimeLimits) : Decoder ReconcileRequestMessage := do
  let requestId ← dcU64 (text "request_id")
  let fences ← dcVector (text "fences") limits.maxConcurrentAttempts.toNat
    (fun count => overCeiling (text "fences") count limits.maxConcurrentAttempts.toNat)
    (readFence (text "fences"))
  pure { requestId, fences }

def decodeReconcileRequest (body : Bytes) (limits : RuntimeLimits) :
    Result ReconcileRequestMessage :=
  (reconcileRequestFields limits).whole body

structure ReconcileResponseMessage where
  requestId : UInt64 := 0
  entries : List ReconcileEntry := []
deriving DecidableEq, Inhabited

def ReconcileEntry.write (entry : ReconcileEntry) : Bytes := [
  entry.fence.write, ByteWriter.u8 (ByteCoded.code entry.disposition),
  ByteWriter.u8 (ByteCoded.code entry.outcome), ByteWriter.string entry.detail].flatten

def readReconcileEntry (limits : RuntimeLimits) : Decoder ReconcileEntry := do
  let fence ← readFence (text "entries")
  let disposition ← decodeEnum (text "disposition")
  let outcome ← decodeEnum (text "outcome")
  let detail ← dcString (text "detail") limits.maxDescriptionBytes.toNat
  pure { fence, disposition, outcome, detail }

def ReconcileResponseMessage.encode (message : ReconcileResponseMessage) : Bytes := [
  ByteWriter.u64 message.requestId,
  ByteWriter.vector ReconcileEntry.write message.entries].flatten

def reconcileResponseFields (limits : RuntimeLimits) : Decoder ReconcileResponseMessage := do
  let requestId ← dcU64 (text "request_id")
  let entries ← dcVector (text "entries") limits.maxConcurrentAttempts.toNat
    (fun count => overCeiling (text "entries") count limits.maxConcurrentAttempts.toNat)
    (readReconcileEntry limits)
  pure { requestId, entries }

def decodeReconcileResponse (body : Bytes) (limits : RuntimeLimits) :
    Result ReconcileResponseMessage :=
  (reconcileResponseFields limits).whole body

/-! ## Shutdown and error -/

structure ShutdownMessage where
  reason : Bytes := []
deriving DecidableEq, Inhabited

def ShutdownMessage.encode (message : ShutdownMessage) : Bytes :=
  [ByteWriter.string message.reason].flatten

def shutdownFields (limits : RuntimeLimits) : Decoder ShutdownMessage := do
  let reason ← dcString (text "reason") limits.maxDescriptionBytes.toNat
  pure { reason }

def decodeShutdown (body : Bytes) (limits : RuntimeLimits) : Result ShutdownMessage :=
  (shutdownFields limits).whole body

structure ErrorMessage where
  code : StatusCode := .internal
  detail : Bytes := []
deriving DecidableEq, Inhabited

def ErrorMessage.encode (message : ErrorMessage) : Bytes :=
  [ByteWriter.u16 message.code.code, ByteWriter.string message.detail].flatten

def errorFields (limits : RuntimeLimits) : Decoder ErrorMessage := do
  let code ← decodeStatusCode (text "code")
  let detail ← dcString (text "detail") limits.maxDescriptionBytes.toNat
  pure { code, detail }

def decodeError (body : Bytes) (limits : RuntimeLimits) : Result ErrorMessage :=
  (errorFields limits).whole body

/-! ## Operator commands -/

structure CommandRequestMessage where
  kind : CommandKind := .create
  rollout : RolloutId := .nil
  gate : GateId := .nil
  generation : GenerationId := .nil
  revision : UInt64 := 0
  checkedGeneration : Bool := false
  checkedRevision : Bool := false
  reason : Bytes := []
  operatorName : Bytes := []
  planPath : Bytes := []
deriving DecidableEq, Inhabited

def CommandRequestMessage.encode (message : CommandRequestMessage) : Bytes := [
  ByteWriter.u8 (ByteCoded.code message.kind), ByteWriter.id message.rollout,
  ByteWriter.id message.gate, ByteWriter.id message.generation, ByteWriter.u64 message.revision,
  ByteWriter.boolean message.checkedGeneration, ByteWriter.boolean message.checkedRevision,
  ByteWriter.string message.reason, ByteWriter.string message.operatorName,
  ByteWriter.string message.planPath].flatten

def commandRequestFields (limits : RuntimeLimits) : Decoder CommandRequestMessage := do
  let kind ← decodeEnum (text "kind")
  let rollout ← dcId .rollout (text "rollout")
  let gate ← dcId .gate (text "gate")
  let generation ← dcId .generation (text "generation")
  let revision ← dcU64 (text "revision")
  let checkedGeneration ← dcBool (text "checked_generation")
  let checkedRevision ← dcBool (text "checked_revision")
  let reason ← dcString (text "reason") limits.maxDescriptionBytes.toNat
  let operatorName ← dcString (text "operator_name") limits.maxNameBytes.toNat
  let planPath ← dcString (text "plan_path") limits.maxDescriptionBytes.toNat
  pure { kind, rollout, gate, generation, revision, checkedGeneration, checkedRevision, reason
         operatorName, planPath }

def decodeCommandRequest (body : Bytes) (limits : RuntimeLimits) : Result CommandRequestMessage :=
  (commandRequestFields limits).whole body

structure CommandResponseMessage where
  code : StatusCode := .ok
  detail : Bytes := []
  payload : Bytes := []
  rollout : RolloutId := .nil
  gate : GateId := .nil
deriving DecidableEq, Inhabited

def CommandResponseMessage.encode (message : CommandResponseMessage) : Bytes := [
  ByteWriter.u16 message.code.code, ByteWriter.string message.detail,
  ByteWriter.string message.payload, ByteWriter.id message.rollout,
  ByteWriter.id message.gate].flatten

def commandResponseFields (limits : RuntimeLimits) : Decoder CommandResponseMessage := do
  let code ← decodeStatusCode (text "code")
  let detail ← dcString (text "detail") limits.maxDescriptionBytes.toNat
  let payload ← dcString (text "payload") limits.maxMessageBytes.toNat
  let rollout ← dcId .rollout (text "rollout")
  let gate ← dcId .gate (text "gate")
  pure { code, detail, payload, rollout, gate }

def decodeCommandResponse (body : Bytes) (limits : RuntimeLimits) :
    Result CommandResponseMessage :=
  (commandResponseFields limits).whole body

/-! ## Health -/

structure HealthRequestMessage where
  requestId : UInt64 := 0
  targets : List TargetId := []
  issuedAt : Timestamp := {}
deriving DecidableEq, Inhabited

def HealthRequestMessage.encode (message : HealthRequestMessage) : Bytes := [
  ByteWriter.u64 message.requestId, ByteWriter.vector ByteWriter.id message.targets,
  ByteWriter.timestamp message.issuedAt].flatten

def healthRequestFields (limits : RuntimeLimits) : Decoder HealthRequestMessage := do
  let requestId ← dcU64 (text "request_id")
  let targets ← dcIdVector .target (text "targets") limits.maxTotalTargets.toNat
  let issuedAt ← dcTimestamp (text "issued_at")
  pure { requestId, targets, issuedAt }

def decodeHealthRequest (body : Bytes) (limits : RuntimeLimits) : Result HealthRequestMessage :=
  (healthRequestFields limits).whole body

structure HealthSample where
  target : TargetId := .nil
  healthy : Bool := false
  observedAt : Timestamp := {}
  reason : Bytes := []
deriving DecidableEq, Inhabited

def HealthSample.write (sample : HealthSample) : Bytes := [
  ByteWriter.id sample.target, ByteWriter.boolean sample.healthy,
  ByteWriter.timestamp sample.observedAt, ByteWriter.string sample.reason].flatten

def readHealthSample (limits : RuntimeLimits) : Decoder HealthSample := do
  let target ← dcId .target (text "samples")
  let healthy ← dcBool (text "healthy")
  let observedAt ← dcTimestamp (text "observed_at")
  let reason ← dcString (text "reason") limits.maxDescriptionBytes.toNat
  pure { target, healthy, observedAt, reason }

structure HealthResponseMessage where
  requestId : UInt64 := 0
  source : HealthSourceId := .nil
  observedAt : Timestamp := {}
  live : Bool := false
  samples : List HealthSample := []
deriving DecidableEq, Inhabited

def HealthResponseMessage.encode (message : HealthResponseMessage) : Bytes := [
  ByteWriter.u64 message.requestId, ByteWriter.id message.source,
  ByteWriter.timestamp message.observedAt, ByteWriter.boolean message.live,
  ByteWriter.vector HealthSample.write message.samples].flatten

def healthResponseFields (limits : RuntimeLimits) : Decoder HealthResponseMessage := do
  let requestId ← dcU64 (text "request_id")
  let source ← dcId .healthSource (text "source")
  let observedAt ← dcTimestamp (text "observed_at")
  let live ← dcBool (text "live")
  let samples ← dcVector (text "samples") limits.maxTotalTargets.toNat
    (fun count => overCeiling (text "samples") count limits.maxTotalTargets.toNat)
    (readHealthSample limits)
  pure { requestId, source, observedAt, live, samples }

def decodeHealthResponse (body : Bytes) (limits : RuntimeLimits) : Result HealthResponseMessage :=
  (healthResponseFields limits).whole body

end RolloutFabric
