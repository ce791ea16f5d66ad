/-
The target worker: the table of effects its reactor keeps, the effect threads, and what each frame
of the controller and each completion of a thread makes of them.
-/
import RolloutFabric.Domain.IdFactory
import RolloutFabric.Protocol.Messages

namespace RolloutFabric

def EvidenceKind.toText : EvidenceKind → Bytes
  | .dispatchAccepted => text "dispatch_accepted"
  | .executionProgress => text "execution_progress"
  | .executionCompleted => text "execution_completed"
  | .executionFailed => text "execution_failed" | .healthSample => text "health_sample"
  | .rollbackCompleted => text "rollback_completed" | .rollbackFailed => text "rollback_failed"
  | .verificationPassed => text "verification_passed"
  | .verificationFailed => text "verification_failed"
  | .cancellationAcknowledged => text "cancellation_acknowledged"

/-! ## The scenario -/

/-- What a `WorkerTargetScenario` says of the effect; the fields of health are left out. -/
structure WorkerTargetScenario where
  target : TargetId := .nil
  workDuration : Duration := .fromMillis 50
  fail : Bool := false
  neverComplete : Bool := false
  duplicateReport : Bool := false
  reorderReport : Bool := false
  crashOnTarget : Bool := false
deriving DecidableEq, Inhabited

/-- The targets are in the order of their identifiers. -/
structure WorkerScenario where
  fallback : WorkerTargetScenario := {}
  targets : List WorkerTargetScenario := []

/-- `for_target`: the first entry that is not below the target, if it is the target's. -/
def WorkerScenario.forTarget (s : WorkerScenario) (target : TargetId) : WorkerTargetScenario :=
  if target.isNil then s.fallback
  else match (s.targets.dropWhile fun entry => decide (entry.target < target)).head? with
  | none => s.fallback
  | some entry => if entry.target = target then entry else s.fallback

structure WorkerOptions where
  limits : RuntimeLimits := {}
  controllerPort : UInt16 := 0
  name : Bytes := []
  capacity : UInt32 := 4
  scenario : WorkerScenario := {}
  heartbeatInterval : Duration := .fromMillis 250

/-! ## Effects and their threads -/

inductive CompletionKind
  | progress | terminal | stopped
deriving DecidableEq, Inhabited

structure Completion where
  attempt : AttemptId := .nil
  kind : CompletionKind := .terminal
  evidenceKind : EvidenceKind := .executionCompleted
  outcome : EvidenceOutcome := .succeeded
  observedAt : Timestamp := {}
deriving DecidableEq, Inhabited

/-- An `EffectState`. Its stop flag is named by its number. `askers` is read by no function: the
fences that asked for the effect before it had an outcome, the last one first. -/
structure EffectState where
  fence : AttemptFence := {}
  key : Digest256 := default
  target : TargetId := .nil
  targetName : Bytes := []
  cohort : CohortId := .nil
  scenario : WorkerTargetScenario := {}
  stop : Nat := 0
  acceptedAt : Timestamp := {}
  terminalAt : Timestamp := {}
  sequence : UInt64 := 0
  running : Bool := false
  terminal : Bool := false
  cancelled : Bool := false
  duplicateReport : Bool := false
  hasDeferred : Bool := false
  deferred : AttemptFence := {}
  kind : EvidenceKind := .executionCompleted
  outcome : EvidenceOutcome := .inconclusive
  askers : List AttemptFence := []
deriving DecidableEq, Inhabited

namespace EffectState

variable (e : EffectState)

def next : EffectState := { e with sequence := e.sequence + 1 }
def halt : EffectState := { e with running := false }
def cancel : EffectState := { e with cancelled := e.cancelled || e.running }
def date (observedAt : Timestamp) : EffectState := { e with terminalAt := observedAt }
def relieve : EffectState := { e with hasDeferred := false }

def defer (fence : AttemptFence) : EffectState :=
  { e with hasDeferred := true, deferred := fence, askers := fence :: e.askers }

def close (kind : EvidenceKind) (outcome : EvidenceOutcome) : EffectState :=
  { e with terminal := true, running := false, kind, outcome }

end EffectState

/-- A thread that runs an effect: what its plan says, but for how long it works, and how far it
is. -/
structure EffectThread where
  attempt : AttemptId := .nil
  stop : Nat := 0
  fail : Bool := false
  neverComplete : Bool := false
  progressSent : Bool := false
  returned : Bool := false
deriving DecidableEq, Inhabited

/-- What a worker did, for others to see; of a suppressed dispatch, whose effect it was, and of a
record, whether it repeats an outcome. -/
inductive WorkerEvent
  | started (key : Digest256) (attempt : AttemptId)
  | published (attempt : AttemptId) (key : Digest256) (replay : Bool) (record : EvidenceRecord)
  | answered (ack : DispatchAckMessage)
  | suppressed (attempt : AttemptId) (ack : DispatchAckMessage)
  | cancelled (attempt : AttemptId)
  | reconciled (response : ReconcileResponseMessage)
  | evicted (key : Digest256)

/-- A `Worker::Impl`. `channel` is what the channel answers to the frames queued next, and success
when it says nothing; `now` is what the clock says during a step; `ended` is why the loop ended. -/
structure Worker where
  options : WorkerOptions := {}
  ids : IdFactory := default
  effects : Map AttemptId EffectState := ∅
  effectOrder : List AttemptId := []
  keyIndex : Map Digest256 AttemptId := ∅
  threads : List EffectThread := []
  flags : List Bool := []
  completions : List Completion := []
  channel : List Status := []
  outSequence : UInt64 := 0
  servedAttempts : UInt64 := 0
  completedAttempts : UInt64 := 0
  failedAttempts : UInt64 := 0
  capacity : UInt32 := 1
  acceptWork : Bool := true
  now : Timestamp := {}
  ended : Option Status := none
  trace : List WorkerEvent := []

namespace Worker

variable (w : Worker)

def note (event : WorkerEvent) : Worker := { w with trace := w.trace ++ [event] }

def setEffect (attempt : AttemptId) (effect : EffectState) : Worker :=
  { w with effects := w.effects.insert attempt effect }

/-- What follows a call that may fail. -/
def andThen (r : Status × Worker) (next : Worker → Status × Worker) : Status × Worker :=
  if r.1.isOk then next r.2 else r

def runningEffects : UInt32 := (w.effects.entries.countP fun e => e.2.running).toUInt32

/-- The loop of `evict_if_needed`. -/
def evictLoop : Nat → Worker → Worker
  | 0, w => w
  | steps + 1, w =>
    match w.effectOrder with
    | [] => w
    | candidate :: order =>
      match w.effects.lookup candidate with
      | none => evictLoop steps { w with effectOrder := order }
      | some effect =>
        if effect.running then evictLoop steps { w with effectOrder := order ++ [candidate] }
        else note { w with
          effectOrder := order
          keyIndex := w.keyIndex.erase effect.key
          effects := w.effects.erase candidate } (.evicted effect.key)

/-- `evict_if_needed`. -/
def evictIfNeeded : Worker :=
  if w.effects.entries.length < w.options.limits.maxIdempotencyEntries.toNat then w
  else evictLoop w.effectOrder.length w

/-! ## Sending -/

/-- `queue_message`, with the identifier of its frame taken. -/
def queueMessage (body : Bytes) : Status × Worker :=
  let w := { w with outSequence := w.outSequence + 1 }
  if w.options.limits.maxFrameBytes.toNat < body.length then
    (makeStatus .limitExceeded (text "the encoded message is larger than max_frame_bytes"), w)
  else match w.channel with
  | [] => (.success, w)
  | answer :: channel => (answer, { w with channel })

/-- A message that, once queued, is seen. -/
def send (body : Bytes) (event : WorkerEvent) : Status × Worker :=
  let (queued, w) := w.queueMessage body
  (queued, if queued.isOk then w.note event else w)

/-- The record of `emit_record`. -/
def recordOf (effect : EffectState) (fence : AttemptFence) (kind : EvidenceKind)
    (outcome : EvidenceOutcome) (sequence : UInt64) (observedAt : Timestamp) : EvidenceRecord where
  id := (w.ids.next .evidence .evidence).1
  rollout := fence.rollout
  generation := fence.generation
  stage := fence.stage
  cohort := effect.cohort
  target := effect.target
  attempt := fence.attempt
  attemptEpoch := fence.epoch
  incarnation := fence.incarnation
  kind := kind
  outcome := outcome
  authority := .workerSelfReported
  origin := .live
  sequence := sequence
  observedAt := observedAt
  recordedAt := w.now
  payloadDigest := sha256 kind.toText

/-- `emit_record`. -/
def emitRecord (effect : EffectState) (fence : AttemptFence) (kind : EvidenceKind)
    (outcome : EvidenceOutcome) (sequence : UInt64) (observedAt : Timestamp) (replay : Bool) :
    Status × Worker :=
  let record := w.recordOf effect fence kind outcome sequence observedAt
  { w with ids := (w.ids.next .evidence .evidence).2 }.send record.encode
    (.published effect.fence.attempt effect.key replay record)

/-- The outcome of the effect is reported once more, and again if the scenario says so. -/
def replay (effect : EffectState) (fence : AttemptFence) (observedAt : Timestamp) :
    Status × Worker :=
  andThen (w.emitRecord effect fence effect.kind effect.outcome effect.sequence observedAt true)
    fun w => if effect.duplicateReport then
        w.emitRecord effect fence effect.kind effect.outcome effect.sequence observedAt true
      else (.success, w)

def sendAck (ack : DispatchAckMessage) : Status × Worker := w.send ack.encode (.answered ack)

/-! ## Dispatch -/

/-- The effect a key is known by. -/
def known (key : Digest256) : Option (AttemptId × EffectState) :=
  (w.keyIndex.lookup key).bind fun attempt => (w.effects.lookup attempt).map (attempt, ·)

/-- The branch of `handle_dispatch` for a key that is known. -/
def suppress (attempt : AttemptId) (effect : EffectState) (fence : AttemptFence) :
    Status × Worker :=
  let ack : DispatchAckMessage := {
    fence
    outcome := .duplicateSuppressed
    detail := text "this worker already holds the idempotency key; the effect was not started again and its recorded outcome is what follows"
    acceptedAt := w.now }
  let answer (w : Worker) : Status × Worker :=
    { w with servedAttempts := w.servedAttempts + 1 }.send ack.encode (.suppressed attempt ack)
  if effect.terminal then andThen (w.replay effect fence effect.terminalAt) answer
  else answer (w.setEffect attempt (effect.defer fence))

/-- The effect as it is accepted. -/
def accepted (message : DispatchCommandMessage) (scenario : WorkerTargetScenario) :
    EffectState where
  fence := message.request.fence
  key := message.request.idempotencyKey
  target := message.target
  targetName := message.targetName
  cohort := message.request.cohort
  scenario := scenario
  stop := w.flags.length
  acceptedAt := w.now
  sequence := 1
  running := !scenario.neverComplete
  duplicateReport := scenario.duplicateReport

/-- `emplace`: an entry that is there stays. -/
def emplace {α β : Type} [DecidableEq α] (m : Map α β) (x : α) (v : β) : Map α β :=
  if x ∈ m then m else m.insert x v

/-- The effect is admitted to the table. -/
def enroll (message : DispatchCommandMessage) (scenario : WorkerTargetScenario) : Worker :=
  let attempt := message.request.fence.attempt
  { w with
    effects := emplace w.effects attempt (w.accepted message scenario)
    keyIndex := emplace w.keyIndex message.request.idempotencyKey attempt
    effectOrder := w.effectOrder ++ [attempt]
    flags := w.flags ++ [false]
    servedAttempts := w.servedAttempts + 1 }

/-- The thread of the effect is started, unless the scenario keeps it from completing. -/
def start (message : DispatchCommandMessage) (scenario : WorkerTargetScenario)
    (stored : EffectState) : Status × Worker :=
  if scenario.crashOnTarget then
    (.success, { w with ended := some (makeStatus .unavailable (text "crashed on the target")) })
  else if scenario.neverComplete then (.success, w)
  else (.success, note { w with
    threads := w.threads ++ [{
      attempt := message.request.fence.attempt
      stop := stored.stop
      fail := scenario.fail
      neverComplete := scenario.neverComplete
      progressSent := decide (scenario.workDuration < .fromMillis 20) }] }
    (.started message.request.idempotencyKey message.request.fence.attempt))

/-- The rest of `handle_dispatch`, for a key that is not known. -/
def accept (message : DispatchCommandMessage) : Status × Worker :=
  let request := message.request
  let scenario := w.options.scenario.forTarget message.target
  let w := w.evictIfNeeded.enroll message scenario
  let stored := (w.effects.lookup request.fence.attempt).getD default
  andThen (w.emitRecord stored request.fence .dispatchAccepted .succeeded 1 w.now false) fun w =>
  andThen (w.sendAck {
    fence := request.fence
    outcome := .accepted
    detail := text "the worker accepted the attempt and will report completion separately"
    acceptedAt := w.now }) fun w =>
  w.start message scenario stored

/-- `handle_dispatch`. -/
def handleDispatch (body : Bytes) : Status × Worker :=
  match decodeDispatch body w.options.limits with
  | .error status => (status, w)
  | .ok message =>
    let refuse (w : Worker) (outcome : DispatchOutcome) (detail : Bytes) : Status × Worker :=
      w.sendAck { fence := message.request.fence, outcome, detail, acceptedAt := w.now }
    if message.target.isNil then refuse w .fenced (text "the dispatch names no target")
    else if message.request.fence.attempt.isNil then
      refuse w .fenced (text "the dispatch names no attempt")
    else match w.known message.request.idempotencyKey with
    | some (attempt, effect) => w.suppress attempt effect message.request.fence
    | none =>
      let w := { w with keyIndex := w.keyIndex.erase message.request.idempotencyKey }
      if !w.acceptWork then
        refuse w .unavailable (text "the controller told this worker to stop accepting work")
      else if w.capacity ≤ w.runningEffects then
        refuse w .throttled (text "the worker is already running its capacity of attempts")
      else w.accept message

/-! ## Completions -/

def countOutcome (outcome : EvidenceOutcome) : Worker :=
  if outcome = .succeeded then { w with completedAttempts := w.completedAttempts + 1 }
  else { w with failedAttempts := w.failedAttempts + 1 }

/-- `publish_terminal`: the outcome is recorded whether or not its record could be queued. -/
def publishTerminal (attempt : AttemptId) (effect : EffectState) (kind : EvidenceKind)
    (outcome : EvidenceOutcome) (observedAt : Timestamp) : Status × Worker :=
  let r := w.emitRecord effect.next effect.fence kind outcome effect.next.sequence observedAt false
  (r.1, (r.2.setEffect attempt (effect.next.close kind outcome)).countOutcome outcome)

/-- The record of an older observation that a scenario lets follow the outcome. -/
def reorder (attempt : AttemptId) (effect : EffectState) (observedAt : Timestamp) :
    Status × Worker :=
  (w.setEffect attempt effect.next).emitRecord effect.next effect.fence .executionProgress
    .inconclusive effect.next.sequence observedAt false

/-- The outcome is published under the fence that was deferred. -/
def relieve (attempt : AttemptId) (observedAt : Timestamp) : Status × Worker :=
  let effect := (w.effects.lookup attempt).getD default
  if effect.hasDeferred then
    (w.setEffect attempt effect.relieve).replay effect.relieve effect.deferred observedAt
  else (.success, w)

/-- What is published after the outcome of an effect: the reports its scenario asks for, and what
was deferred. -/
def follow (attempt : AttemptId) (effect : EffectState) (observedAt : Timestamp) :
    Status × Worker :=
  andThen (if effect.scenario.duplicateReport then w.emitRecord effect effect.fence effect.kind
      effect.outcome effect.sequence observedAt true else (.success, w)) fun w =>
  andThen (if effect.scenario.reorderReport then w.reorder attempt effect observedAt
    else (.success, w)) fun w =>
  w.relieve attempt observedAt

/-- What `drain_completions` does once the outcome is recorded. -/
def settle (attempt : AttemptId) (observedAt : Timestamp) : Status × Worker :=
  let effect := (w.effects.lookup attempt).getD default
  (w.setEffect attempt (effect.date observedAt)).follow attempt (effect.date observedAt) observedAt

/-- One turn of the loop of `drain_completions`. -/
def complete (completion : Completion) : Status × Worker :=
  match w.effects.lookup completion.attempt with
  | none => (.success, w)
  | some effect =>
    match completion.kind with
    | .stopped => (.success, w.setEffect completion.attempt effect.halt)
    | .progress =>
      if effect.terminal then (.success, w)
      else andThen (w.emitRecord effect effect.fence .executionProgress .inconclusive
          effect.next.sequence completion.observedAt false) fun w =>
        (.success, w.setEffect completion.attempt effect.next)
    | .terminal =>
      if effect.terminal || effect.cancelled then
        (.success, w.setEffect completion.attempt effect.halt)
      else andThen (w.publishTerminal completion.attempt effect completion.evidenceKind
          completion.outcome completion.observedAt) fun w =>
        w.settle completion.attempt completion.observedAt

/-- `drain_completions`. -/
def drainCompletions : Status × Worker :=
  w.completions.foldl (fun r completion => andThen r fun w => w.complete completion)
    (.success, { w with completions := [] })

/-! ## Cancel and reconcile -/

/-- `handle_cancel`. -/
def handleCancel (body : Bytes) : Status × Worker :=
  match decodeCancel body w.options.limits with
  | .error status => (status, w)
  | .ok message =>
    let answer (w : Worker) (stopped : Bool) (detail : Bytes) : Status × Worker :=
      w.queueMessage ({ fence := message.fence, stopped, detail : CancelAckMessage }).encode
    match w.effects.lookup message.fence.attempt with
    | none => answer w false (text "this worker has no record of the attempt")
    | some effect =>
      let stopped := effect.running
      let detail :=
        if effect.running then text "the effect was asked to stop and will not publish an outcome"
        else if effect.terminal then text "the attempt already reached an outcome"
        else text "the attempt had already stopped"
      let w := if effect.running then note { w with flags := w.flags.set effect.stop true }
        (.cancelled effect.fence.attempt) else w
      andThen ((w.setEffect message.fence.attempt effect.cancel.next).emitRecord effect.cancel.next
        effect.fence .cancellationAcknowledged .inconclusive effect.next.sequence w.now false)
        fun w => answer w stopped detail

/-- What is answered of one fence. -/
def entryOf (fence : AttemptFence) : ReconcileEntry :=
  match w.effects.lookup fence.attempt with
  | none => {
      fence, disposition := .notStarted, outcome := .inconclusive
      detail := text "this worker has no record of the attempt" }
  | some effect =>
    if effect.running then {
      fence, disposition := .inProgress, outcome := .inconclusive
      detail := text "the effect is still running" }
    else if effect.terminal then {
      fence
      disposition := if effect.outcome = .succeeded then .completed else .failed
      outcome := effect.outcome
      detail := text "the recorded outcome of the effect" }
    else {
      fence, disposition := .failed, outcome := .inconclusive
      detail := text "the effect was cancelled and will never report an outcome" }

/-- `handle_reconcile`. -/
def handleReconcile (body : Bytes) : Status × Worker :=
  match decodeReconcileRequest body w.options.limits with
  | .error status => (status, w)
  | .ok message =>
    let response : ReconcileResponseMessage := {
      requestId := message.requestId
      entries := message.fences.map w.entryOf }
    w.send response.encode (.reconciled response)

/-- `handle_heartbeat_ack`, but for what it says of the controller. -/
def handleHeartbeatAck (body : Bytes) : Status × Worker :=
  match decodeHeartbeatAck body with
  | .error status => (status, w)
  | .ok message => (.success, { w with acceptWork := message.acceptWork })

/-! ## Threads -/

/-- What a thread hands over: progress once; that it stopped, when it was asked to; or its outcome,
which a thread that has last looked at its flag before it was set still hands over. -/
def push (i : Nat) (kind : CompletionKind) (observedAt : Timestamp) : Worker :=
  match w.threads[i]? with
  | none => w
  | some thread =>
    let hand (thread : EffectThread) (completion : Completion) : Worker := { w with
      threads := w.threads.set i thread
      completions := w.completions ++ [completion] }
    if thread.returned then w
    else match kind with
    | .progress =>
      if thread.progressSent then w
      else hand { thread with progressSent := true } {
        attempt := thread.attempt, kind := .progress, evidenceKind := .executionProgress
        outcome := .inconclusive, observedAt }
    | .stopped =>
      if w.flags.getD thread.stop false then
        hand { thread with returned := true } {
          attempt := thread.attempt, kind := .stopped, observedAt }
      else w
    | .terminal =>
      if thread.neverComplete then { w with threads := w.threads.set i { thread with returned := true } }
      else hand { thread with returned := true } {
        attempt := thread.attempt, kind := .terminal
        evidenceKind := if thread.fail then .executionFailed else .executionCompleted
        outcome := if thread.fail then .failed else .succeeded
        observedAt }

end Worker

/-! ## The system -/

/-- What happens to a worker: a frame of the controller is handled, the completions are drained, a
thread hands something over, or the loop ends. Of a step of the reactor, what the clock says and
what the channel answers to its frames. -/
inductive WorkerStep
  | dispatch (body : Bytes) (now : Timestamp) (channel : List Status)
  | cancel (body : Bytes) (now : Timestamp) (channel : List Status)
  | reconcile (body : Bytes) (now : Timestamp) (channel : List Status)
  | heartbeatAck (body : Bytes)
  | drain (now : Timestamp) (channel : List Status)
  | push (i : Nat) (kind : CompletionKind) (observedAt : Timestamp)
  | stop (outcome : Status)

namespace Worker

variable (w : Worker)

/-- The loop goes on when the handler succeeded. -/
def settled (r : Status × Worker) : Worker :=
  if r.1.isOk then r.2 else { r.2 with ended := some r.1 }

/-- A step of a worker whose loop has not ended. -/
def act : WorkerStep → Worker
  | .dispatch body now channel => settled ({ w with now, channel }.handleDispatch body)
  | .cancel body now channel => settled ({ w with now, channel }.handleCancel body)
  | .reconcile body now channel => settled ({ w with now, channel }.handleReconcile body)
  | .heartbeatAck body => settled (w.handleHeartbeatAck body)
  | .drain now channel => settled { w with now, channel }.drainCompletions
  | .push i kind observedAt => w.push i kind observedAt
  | .stop outcome => { w with ended := some outcome }

def step (s : WorkerStep) : Worker := if w.ended.isSome then w else w.act s

def run (steps : List WorkerStep) : Worker := steps.foldl step w

end Worker

/-- `Worker::create`, with the factory that entropy made. -/
def Worker.create (options : WorkerOptions) (ids : IdFactory) : Result Worker :=
  if !options.limits.validate.isOk then .error options.limits.validate
  else if options.controllerPort = 0 then .error (makeStatus .invalidArgument
    (text "a worker needs the controller's port; zero selects nothing"))
  else if options.capacity = 0 then
    .error (makeStatus .invalidArgument (text "a worker must accept at least one attempt"))
  else if options.limits.maxConcurrentAttempts < options.capacity then .error (makeStatus
    .limitExceeded (text "the requested capacity exceeds max_concurrent_attempts"))
  else if options.heartbeatInterval.isNegative then .error (makeStatus .invalidArgument
    (text "the heartbeat interval must not be negative"))
  else if options.limits.maxNameBytes.toNat < options.name.length then .error (makeStatus
    .limitExceeded (text "the worker name is longer than max_name_bytes"))
  else
    let (_, ids) := ids.next .worker .worker
    let (_, ids) := ids.next .incarnation .incarnation
    .ok { options, ids, capacity := options.capacity }

/-- The handshake is over; the controller said how many attempts it will have in flight. -/
def Worker.welcomed (w : Worker) (maxInFlight : UInt32) : Worker :=
  if 0 < maxInFlight then { w with capacity := min w.capacity maxInFlight } else w

end RolloutFabric
