/-
The process adapter: what it makes of an evidence frame that a worker connection sends.
-/
import RolloutFabric.Domain.EvidenceCodec
import RolloutFabric.Orchestrator.Tick

namespace RolloutFabric

def StatusCode.toText : StatusCode → Bytes
  | .ok => text "ok" | .invalidArgument => text "invalid_argument" | .notFound => text "not_found"
  | .alreadyExists => text "already_exists" | .conflict => text "conflict"
  | .preconditionFailed => text "precondition_failed"
  | .permissionDenied => text "permission_denied"
  | .resourceExhausted => text "resource_exhausted" | .unavailable => text "unavailable"
  | .internal => text "internal" | .corrupt => text "corrupt" | .staleEpoch => text "stale_epoch"
  | .staleGeneration => text "stale_generation" | .staleAttempt => text "stale_attempt"
  | .staleEvidence => text "stale_evidence" | .staleRevision => text "stale_revision"
  | .fenced => text "fenced" | .notSupported => text "not_supported" | .cancelled => text "cancelled"
  | .shuttingDown => text "shutting_down" | .limitExceeded => text "limit_exceeded"
  | .policyViolation => text "policy_violation" | .deadlineExceeded => text "deadline_exceeded"
  | .ioError => text "io_error" | .locked => text "locked" | .immutable => text "immutable"
  | .unsupportedGate => text "unsupported_gate"

/-- `Status::to_string`. -/
def Status.toText (s : Status) : Bytes :=
  if s.message.isEmpty then s.code.toText else s.code.toText ++ text ": " ++ s.message

/-- A `Connection`; of its channel, whether it is closed and why it failed. `serial` is read by no
function: it names the object, whose index changes. -/
structure Connection where
  worker : WorkerId := .nil
  incarnation : IncarnationId := .nil
  name : Bytes := []
  capacity : UInt32 := 0
  inFlight : UInt32 := 0
  completed : UInt64 := 0
  failed : UInt64 := 0
  helloReceived : Bool := false
  index : Nat := 0
  closed : Bool := false
  failure : Status := .success
  serial : Nat := 0
deriving DecidableEq, Inhabited

/-- Two fields are read by no function: the serial of the connection that was asked, and of the
last one whose answer was accepted. -/
structure PendingReconcile where
  requestId : UInt64 := 0
  connectionIndex : Nat := 0
  fences : List AttemptFence := []
  answered : Bool := false
  result : ReconcileResult := {}
  sentTo : Nat := 0
  answeredBy : Option Nat := none
deriving DecidableEq, Inhabited

/-- A `ProcessAdapter`. `attached` is the serial of the next connection. -/
structure ProcessAdapter where
  connections : List Connection := []
  attemptRoutes : Map AttemptId Nat := ∅
  pendingReconciles : List PendingReconcile := []
  nextRequestId : UInt64 := 0
  ids : IdFactory := default
  /-- Was a sink seen, that events can be told. -/
  sinkHint : Bool := false
  dispatched : UInt64 := 0
  dispatchAccepted : UInt64 := 0
  dispatchRefused : UInt64 := 0
  evidenceDelivered : UInt64 := 0
  evidenceRejected : UInt64 := 0
  reconcileRequests : UInt64 := 0
  reconnects : UInt64 := 0
  protocolErrors : UInt64 := 0
  frameSequence : UInt64 := 0
  attached : Nat := 0

/-- The kinds after which an attempt is no longer routed to its worker. -/
def EvidenceKind.endsRoute : EvidenceKind → Bool
  | .executionCompleted | .executionFailed | .rollbackCompleted | .rollbackFailed
  | .cancellationAcknowledged => true
  | _ => false

/-- A worker's record as the adapter attests it. -/
def EvidenceRecord.attest (record : EvidenceRecord) : EvidenceRecord :=
  { record with
    origin := if record.authority = .workerSelfReported then .live else record.origin
    authority := .executionAdapterAttested }

namespace ProcessAdapter

variable (a : ProcessAdapter) (c : Connection)

/-- `protocol_failure`: the event it tells the sink, and the connection is closed. -/
def protocolFailure (now : Timestamp) (what : Bytes) (status : Status) :
    List SinkCall × ProcessAdapter × Connection :=
  ([.event {
      kind := .protocolError
      worker := c.worker
      incarnation := c.incarnation
      detail := what ++ text ": " ++ status.toText
      occurredAt := now }],
    { a with protocolErrors := a.protocolErrors + 1 }, { c with closed := true })

/-- The route of an attempt is given up by the worker it led to. -/
def endRoute (record : EvidenceRecord) : ProcessAdapter × Connection :=
  if a.attemptRoutes.lookup record.attempt = some c.index ∧ record.kind.endsRoute then
    ({ a with attemptRoutes := a.attemptRoutes.erase record.attempt },
      { c with
        inFlight := if 0 < c.inFlight then c.inFlight - 1 else c.inFlight
        completed := if record.kind = .executionCompleted then c.completed + 1 else c.completed
        failed := if record.kind = .executionFailed then c.failed + 1 else c.failed })
  else (a, c)

/-- `handle_evidence`: what the sink is told. -/
def handleEvidence (limits : RuntimeLimits) (now : Timestamp) (body : Bytes) :
    List SinkCall × ProcessAdapter × Connection :=
  match decodeEvidence body limits with
  | .error status =>
    protocolFailure { a with
      evidenceRejected := a.evidenceRejected + 1
      frameSequence := a.frameSequence + 1 } c now (text "evidence") status
  | .ok record =>
    let record := record.attest
    let (a, c) := a.endRoute c record
    ([.evidence record], { a with evidenceDelivered := a.evidenceDelivered + 1 }, c)

end ProcessAdapter

/-- An evidence frame is handled, and what the sink is told of it is drained. -/
def deliverFrame {ρ : Type} (env : Env ρ) (now : Timestamp) (a : ProcessAdapter) (c : Connection)
    (body : Bytes) (acc : TickReport × Orchestrator ρ) : TickReport × Orchestrator ρ :=
  (a.handleEvidence c env.limits now body).1.foldl (fun acc call =>
    match call with
    | .evidence record => drainRecord env now acc record
    | .event event =>
      (acc.1, { acc.2 with impl := acc.2.impl.noteAdapterEvent env.limits event })) acc

end RolloutFabric
