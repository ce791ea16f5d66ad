/-
What each frame of a worker connection changes, and what the sink is told of it.
-/
import RolloutFabric.Adapter.Workers

namespace RolloutFabric

/-- What a frame is handled with: the clock, what the channel does with an answer, what the state
machine behind the sink says of itself and of an attempt, and the health source that was
configured. -/
structure FrameContext where
  limits : RuntimeLimits
  now : Timestamp := {}
  sending : Sending := {}
  incarnation : IncarnationId := .nil
  anchor : AttemptId → Option (TargetId × UInt64) := fun _ => none
  healthSource : HealthSourceId := .nil

/-- What the handler of a frame answers: what the sink is told, the adapter and the connection the
frame came on. -/
abbrev Handled := List SinkCall × ProcessAdapter × Connection

/-- The record an answer is worth, unless nothing happened or nothing can be proved. -/
def ReconcileDisposition.attests :
    ReconcileDisposition → Option (EvidenceKind × EvidenceOutcome)
  | .completed => some (.executionCompleted, .succeeded)
  | .failed => some (.executionFailed, .failed)
  | .inProgress => some (.executionProgress, .inconclusive)
  | .notStarted | .unknown => none

/-- The request is answered on the connection. -/
def PendingReconcile.answer (pending : PendingReconcile)
    (message : ReconcileResponseMessage) (c : Connection) : PendingReconcile := { pending with
  answered := true
  answeredBy := some c.serial
  result := {
    ok := true
    entries := message.entries
    detail := toStringNat message.entries.length ++ text " entr(y/ies) answered by worker "
      ++ c.worker.shortHex } }

namespace ProcessAdapter

variable (a : ProcessAdapter) (c : Connection) (context : FrameContext)

def fail (what : Bytes) (status : Status) : Handled :=
  a.countFrame.protocolFailure c context.now what status

/-- The event of a connection. -/
def tell (c : Connection) (kind : AdapterEventKind) (detail : Bytes) : SinkCall :=
  .event { kind, worker := c.worker, incarnation := c.incarnation, detail
           occurredAt := context.now }

/-! ## Hello -/

/-- An older connection of the worker that announces itself on `c`. -/
def superseded (message : HelloMessage) (candidate : Connection) : Bool :=
  candidate.index != c.index && candidate.helloReceived && candidate.worker == message.worker

def supersededEvent (message : HelloMessage) (candidate : Connection) : SinkCall :=
  if candidate.incarnation = message.incarnation then
    tell context candidate .workerDisconnected (text "worker " ++ candidate.worker.shortHex
      ++ text " announced itself again; the superseded connection is closed")
  else
    tell context candidate .workerIncarnationChanged (text "worker " ++ candidate.worker.shortHex
      ++ text " reconnected under incarnation " ++ candidate.incarnation.shortHex
      ++ text "; the superseded connection is closed")

/-- The connection, announced. -/
def announced (message : HelloMessage) : Connection := { c with
  worker := message.worker
  incarnation := message.incarnation
  name := message.name
  capacity := min message.capacity context.limits.maxConcurrentAttempts
  inFlight := 0
  helloReceived := true }

/-- `handle_hello`, once the announcement was found to be in order. -/
def welcome (message : HelloMessage) : Handled :=
  let events := (a.connections.filter (superseded c message)).map (supersededEvent context message)
  let a := { a with
    connections := a.connections.map fun candidate =>
      if superseded c message candidate then { candidate with closed := true } else candidate }
  let (sent, c) := (announced c context message).sendTo context.sending
  if sent.isOk then
    (events ++ [tell context c .workerConnected (text "worker " ++ c.worker.shortHex
      ++ text " attached with capacity " ++ toStringNat c.capacity.toNat)], a.countFrame, c)
  else
    let (calls, a, c) := a.countFrame.fail c context (text "hello ack") sent
    (events ++ calls, a, c)

/-- `handle_hello`. -/
def handleHello (body : Bytes) : Handled :=
  match decodeHello body context.limits with
  | .error status => a.fail c context (text "hello") status
  | .ok message =>
    if message.abiVersion ≠ kRuntimeAbiVersion then
      a.fail c context (text "hello") (makeStatus .notSupported
        (text "the worker announces ABI version " ++ toStringNat message.abiVersion.toNat
          ++ text " and this controller speaks " ++ toStringNat kRuntimeAbiVersion.toNat))
    else if message.worker.isNil ∨ message.incarnation.isNil then
      a.fail c context (text "hello")
        (makeStatus .corrupt (text "the worker announced no identity"))
    else a.welcome c context message

/-! ## Acknowledgements -/

/-- The connection gives up one of the attempts it carries. -/
def release : Connection := { c with
  inFlight := if 0 < c.inFlight then c.inFlight - 1 else c.inFlight }

/-- `handle_dispatch_ack`. -/
def handleDispatchAck (body : Bytes) : Handled :=
  match decodeDispatchAck body context.limits with
  | .error status => a.fail c context (text "dispatch ack") status
  | .ok ack =>
    if a.attemptRoutes.lookup ack.fence.attempt ≠ some c.index then ([], a, c)
    else if ack.outcome = .accepted then ([], a, c)
    else
      ([tell context c .dispatchRefused (text "worker " ++ c.worker.shortHex
          ++ text " answered attempt " ++ ack.fence.attempt.shortHex ++ text " with "
          ++ ack.outcome.toText ++ text ": " ++ ack.detail)],
        { a.refuse with attemptRoutes := a.attemptRoutes.erase ack.fence.attempt }, release c)

/-- `handle_cancel_ack`. -/
def handleCancelAck (body : Bytes) : Handled :=
  match decodeCancelAck body context.limits with
  | .error status => a.fail c context (text "cancel ack") status
  | .ok ack =>
    if a.attemptRoutes.lookup ack.fence.attempt ≠ some c.index then ([], a, c)
    else if !ack.stopped then ([], a, c)
    else ([], { a with attemptRoutes := a.attemptRoutes.erase ack.fence.attempt }, release c)

/-! ## Reconcile responses -/

/-- The record the adapter makes of an entry. -/
def reconciledRecord (entry : ReconcileEntry) (kind : EvidenceKind) (outcome : EvidenceOutcome) :
    EvidenceRecord where
  id := (a.ids.next .evidence .evidence).1
  rollout := entry.fence.rollout
  generation := entry.fence.generation
  stage := entry.fence.stage
  target := ((context.anchor entry.fence.attempt).map Prod.fst).getD .nil
  attempt := entry.fence.attempt
  attemptEpoch := entry.fence.epoch
  incarnation := entry.fence.incarnation
  kind := kind
  outcome := outcome
  authority := .executionAdapterAttested
  origin := .reconciledFromAdapter
  sequence := ((context.anchor entry.fence.attempt).map Prod.snd).getD (a.frameSequence + 1)
  observedAt := context.now
  recordedAt := context.now
  payloadDigest := sha256 entry.disposition.toText

/-- One turn of the loop over the entries. -/
def believe (context : FrameContext) (acc : List SinkCall × ProcessAdapter)
    (entry : ReconcileEntry) : List SinkCall × ProcessAdapter :=
  match entry.disposition.attests with
  | none => acc
  | some (kind, outcome) =>
    let a := acc.2
    (acc.1 ++ [.evidence (a.reconciledRecord context entry kind outcome)], { a with
      ids := (a.ids.next .evidence .evidence).2
      frameSequence := if (context.anchor entry.fence.attempt).isSome then a.frameSequence
        else a.frameSequence + 1
      evidenceDelivered := a.evidenceDelivered + 1 })

/-- The first request of this number. -/
def pendingAt (requestId : UInt64) : Option Nat :=
  a.pendingReconciles.findIdx? fun pending => pending.requestId == requestId

/-- `handle_reconcile_response`. -/
def handleReconcileResponse (body : Bytes) : Handled :=
  match decodeReconcileResponse body context.limits with
  | .error status => a.fail c context (text "reconcile response") status
  | .ok message =>
    match a.pendingAt message.requestId with
    | none =>
      ([tell context c .protocolError (text "worker " ++ c.worker.shortHex
          ++ text " answered reconcile request " ++ toStringNat message.requestId.toNat
          ++ text ", which is not outstanding")],
        { a with protocolErrors := a.protocolErrors + 1 }, c)
    | some k =>
      let a := { a with pendingReconciles :=
        a.pendingReconciles.modify k fun pending => pending.answer message c }
      let (calls, a) := message.entries.foldl (believe context) ([], a)
      (calls, a, c)

/-! ## Health, heartbeats and errors -/

/-- The record of a sample, `n` frames on. -/
def healthRecord (source : HealthSourceId) (sample : HealthSample) : EvidenceRecord where
  id := (a.ids.next .evidence .evidence).1
  target := sample.target
  kind := .healthSample
  outcome := if sample.healthy then .succeeded else .failed
  authority := .healthSourceAttested
  origin := .live
  sequence := a.frameSequence + 1
  observedAt := sample.observedAt
  recordedAt := context.now
  incarnation := context.incarnation
  healthSource := source
  payloadDigest := sha256 (if sample.healthy then text "healthy" else text "unhealthy")

/-- `handle_health_response`, but for the samples it keeps for `health`. -/
def handleHealthResponse (body : Bytes) : Handled :=
  match decodeHealthResponse body context.limits with
  | .error status => a.fail c context (text "health response") status
  | .ok message =>
    let source := if context.healthSource.isNil then message.source else context.healthSource
    let (calls, a) := message.samples.foldl (fun acc sample =>
      (acc.1 ++ [.evidence (acc.2.healthRecord context source sample)], { acc.2 with
        ids := (acc.2.ids.next .evidence .evidence).2
        frameSequence := acc.2.frameSequence + 1
        evidenceDelivered := acc.2.evidenceDelivered + 1 })) (([] : List SinkCall), a)
    (calls, a, c)

def handleHeartbeat (body : Bytes) : Handled :=
  match decodeHeartbeat body with
  | .error status => a.fail c context (text "heartbeat") status
  | .ok _ => ([], a.countFrame, (c.sendTo context.sending).2)

def handleError (body : Bytes) : Handled :=
  match decodeError body context.limits with
  | .error status => a.fail c context (text "error") status
  | .ok message => a.fail c context (text "the worker reported an error")
      (makeStatus message.code message.detail)

/-- The handler of a frame on the connection. -/
def handle (frame : Frame) : Handled :=
  match frame.type with
  | .hello => a.handleHello c context frame.body
  | .dispatchAck => a.handleDispatchAck c context frame.body
  | .evidence => a.handleEvidence c context.limits context.now frame.body
  | .cancelAck => a.handleCancelAck c context frame.body
  | .reconcileResponse => a.handleReconcileResponse c context frame.body
  | .healthResponse => a.handleHealthResponse c context frame.body
  | .heartbeat => a.handleHeartbeat c context frame.body
  | .error => a.handleError c context frame.body
  | other => a.fail c context (text "unexpected frame") (makeStatus .corrupt
      (text "a worker does not send " ++ other.toText ++ text " to a controller"))

/-- `handle_frame` on the connection at the index. -/
def handleFrame (i : Nat) (frame : Frame) : List SinkCall × ProcessAdapter :=
  let (calls, a, c) := { a with sinkHint := true }.handle (a.connectionAt i) context frame
  (calls, a.setConnection i c)

end ProcessAdapter

end RolloutFabric
