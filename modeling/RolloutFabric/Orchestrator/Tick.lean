/-
A tick: evidence is drained, every rollout is advanced and the journal is compacted when it has
grown. The evidence sink the adapters call and the reconciliation after a restart are here too.
-/
import RolloutFabric.Orchestrator.Commands

namespace RolloutFabric

variable {ρ : Type}

/-! ## The evidence sink -/

/-- `on_evidence`: queued, never applied at once. -/
def Impl.onEvidence (s : Impl ρ) (limits : RuntimeLimits) (record : EvidenceRecord) : Impl ρ :=
  if limits.maxQueuedFramesPerConnection.toNat * 4 ≤ s.pendingEvidence.length then
    { s with counters := { s.counters with
        evidenceRejected := s.counters.evidenceRejected + 1 } }
  else { s with pendingEvidence := s.pendingEvidence ++ [record] }

def Impl.sink (s : Impl ρ) (limits : RuntimeLimits) : SinkCall → Impl ρ
  | .evidence record => s.onEvidence limits record
  | .event event => s.noteAdapterEvent limits event

/-- The adapter is polled; it answers through the sink. -/
def Impl.poll (s : Impl ρ) (env : Env ρ) : Impl ρ :=
  match env.execution with
  | none => s
  | some execution =>
    let (calls, outside) := execution.poll s.outside
    calls.foldl (fun s call => s.sink env.limits call) { s with outside }

namespace Orchestrator

/-- Counts a record that is not applied. -/
def count (o : Orchestrator ρ) (f : OrchestratorCounters → OrchestratorCounters) :
    Orchestrator ρ :=
  { o with impl := { o.impl with counters := f o.impl.counters } }

/-- Runs a function of the state machine on the `k`-th rollout within a tick. -/
def on (o : Orchestrator ρ) (k : Nat) (report : TickReport) (m : Op ρ Unit) :
    TickReport × Orchestrator ρ :=
  let w := (m.exec (o.world k report)).2
  (w.report, o.put k w)

end Orchestrator

/-! ## Telemetry -/

/-- Whether a stage of the rollout holds the target. -/
def Rollout.holds (r : Rollout) (target : TargetId) : Bool :=
  r.stages.any fun stage => (stage.findTarget target).isSome

/-- A health sample reaches every stage of the rollout that holds its target. -/
def telemetryOn (env : Env ρ) (record : EvidenceRecord) (now : Timestamp) : Op ρ Unit := do
  let r ← Op.read fun w => w.rollout
  if r.holds record.target then do
    (List.range r.stages.length).forM fun j => do
      let stage ← Op.stage j
      match stage.findTarget record.target with
      | none => pure ()
      | some i => do
        let place ← Op.read fun w => w.rollout.place j i
        Op.updateTarget j i (applyHealth env.limits record now)
        Op.log (.observed place stage.policy.healthGate record now)
    Op.latch (persistRollout env)

/-- `apply_telemetry`: routed by target, across every rollout. -/
def applyTelemetry (env : Env ρ) (record : EvidenceRecord) (now : Timestamp)
    (o : Orchestrator ρ) : Orchestrator ρ :=
  let freshness := admissionFreshness env.limits record now
  if !freshness.fresh then
    o.count fun c => { c with evidenceRejected := c.evidenceRejected + 1 }
  else
    let matched := o.held.any fun h => h.rollout.holds record.target
    let o := (List.range o.held.length).foldl
      (fun o k => (o.on k {} (telemetryOn env record now)).2) o
    o.count fun c =>
      if matched then { c with evidenceAccepted := c.evidenceAccepted + 1 }
      else { c with evidenceRejected := c.evidenceRejected + 1 }

/-! ## Draining -/

/-- What `drain_pending` does with one record. -/
def drainRecord (env : Env ρ) (now : Timestamp) (acc : TickReport × Orchestrator ρ)
    (record : EvidenceRecord) : TickReport × Orchestrator ρ :=
  let (report, o) := acc
  if record.isTelemetry then (report, applyTelemetry env record now o)
  else
    let admission := admitRecord env o.impl (o.find record.rollout)
      (o.planFor record.rollout).isSome record now
    if !admission.isAccepted then (report, o.count fun c => c.refuse admission.disposition)
    else
      let o := o.count fun c => { c with evidenceAccepted := c.evidenceAccepted + 1 }
      match o.index record.rollout with
      | none => (report, o)
      | some k => o.on k report (Op.latch (applyEvidence env record now))

/-- `drain_pending`. -/
def drainPending (env : Env ρ) (now : Timestamp) (report : TickReport) (o : Orchestrator ρ) :
    TickReport × Orchestrator ρ :=
  o.impl.pendingEvidence.foldl (drainRecord env now)
    (report, { o with impl := { o.impl with pendingEvidence := [] } })

/-! ## Compaction -/

/-- The records a compaction writes: the inventory, then every rollout after its plan. -/
def compactionEntries (o : Orchestrator ρ) : List JournalEntry :=
  .inventoryStored o.impl.inventory
    :: (o.held.map fun h => [.planStored h.plan, .rolloutSnapshot h.rollout]).flatten

/-- `maybe_compact`; the tick latches its failure. -/
def maybeCompact (env : Env ρ) (o : Orchestrator ρ) : Orchestrator ρ :=
  match env.journal with
  | none => o
  | some device =>
    if !device.isOpen o.impl.outside then o
    else if o.impl.recordsSinceSnapshot < env.limits.snapshotTriggerRecords then o
    else
      let entries := compactionEntries o
      let o := o.count fun c => { c with compactions := c.compactions + 1 }
      let ((status, landed), outside) := journalRewrite env.limits device entries o.impl.outside
      let impl := { o.impl with
        outside
        trace := o.impl.trace
          ++ [Event.rewritten entries o.impl.controllerEpoch status.isOk landed] }
      if status.isOk then { o with impl := { impl with recordsSinceSnapshot := 0 } }
      else { o with impl := { impl with
        storageFailed := true
        storageStatus := makeStatus status.code
          (text "journal compaction failed: " ++ status.message) } }

/-! ## The tick -/

/-- `tick`. -/
def tick (env : Env ρ) (o : Orchestrator ρ) : TickReport × Orchestrator ρ :=
  if o.impl.shuttingDown ∨ o.impl.storageFailed then ({}, o)
  else
    let (now, outside) := env.clock o.impl.outside
    let o := { o with impl := Impl.poll { o.impl with outside } env }
    let (report, o) := drainPending env now {} o
    let (report, o) := (List.range o.held.length).foldl
      (fun (report, o) k => o.on k report (advance env now)) (report, o)
    (report, maybeCompact env o)

/-! ## Reconciliation -/

/-- The attempts of the rollout that are still unfinished, in the order of their identifiers. -/
def Impl.outstanding (s : Impl ρ) (id : RolloutId) : List Attempt :=
  ((s.attempts.entries.map fun e => (e.1, e.2)).filter fun e =>
      e.2.rollout == id && !e.2.finished).insertionSort (fun a b => a.1 ≤ b.1)
    |>.map Prod.snd

/-- The record a terminal answer of the adapter is turned into. -/
def reconciledRecord (id : EvidenceId) (attempt : Attempt) (entry : ReconcileEntry)
    (now : Timestamp) : EvidenceRecord where
  id := id
  rollout := attempt.rollout
  generation := attempt.generation
  stage := attempt.stage
  cohort := attempt.cohort
  target := attempt.target
  attempt := attempt.id
  attemptEpoch := attempt.epoch
  incarnation := attempt.incarnation
  kind := if entry.disposition = .completed then .executionCompleted else .executionFailed
  outcome := if entry.disposition = .completed then .succeeded else .failed
  authority := .executionAdapterAttested
  origin := .reconciledFromAdapter
  sequence := attempt.highestSequence + 1
  observedAt := now
  recordedAt := now
  payloadDigest := sha256 entry.detail

/-- What an answer did: it settled an attempt, released it, or neither. -/
inductive Reconciled
  | resolved | released | kept
deriving DecidableEq

/-- The adapter never started the attempt: the target may be dispatched again. -/
def releaseAttempt (id : AttemptId) (j i : Nat) : Op ρ Unit := do
  Op.updateAttempt id fun a =>
    { a with completed := true, state := .cancelled, outcome := .inconclusive }
  let target ← Op.target j i
  if target.state = .dispatched ∨ target.state = .unknown then Op.enterTarget j i .pending none
  Op.updateTarget j i fun t => { t with currentAttempt := .nil }
  Op.releaseOutstanding

/-- One entry of the adapter's answer; `find` is the list of rollouts given the current one. -/
def reconcileEntry (env : Env ρ) (find : Rollout → RolloutId → Option Rollout) (now : Timestamp)
    (entry : ReconcileEntry) : Op ρ Reconciled := do
  let w ← get
  let id := entry.fence.attempt
  match w.impl.attempts.lookup id with
  | none => pure .kept
  | some attempt => match w.rollout.findStage attempt.stage with
    | none => pure .kept
    | some j => match (w.rollout.stageAt j).findTarget attempt.target with
      | none => pure .kept
      | some i => match entry.disposition with
        | .completed | .failed => do
          -- the executor knows the end of it: its answer is admitted like any other evidence
          let minted := w.impl.ids.next .evidence .evidence
          Op.updateImpl fun s => { s with ids := minted.2 }
          let record := reconciledRecord minted.1 attempt entry now
          let w ← get
          let admission := admitRecord env w.impl (find w.rollout record.rollout)
            (find w.rollout record.rollout).isSome record now
          if !admission.isAccepted then do
            Op.updateCounters fun c => c.refuse admission.disposition
            pure .kept
          else do
            applyEvidence env record now
            pure .resolved
        -- it was never started, so the target can be dispatched again
        | .notStarted => do
          releaseAttempt id j i
          pure .released
        | .inProgress => pure .kept
        | .unknown => do
          let target ← Op.target j i
          -- nobody can say what became of it
          if target.state = .dispatched then Op.enterTarget j i .unknown none
          Op.updateAttempt id fun a => { a with state := .unknown }
          pure .kept

/-- `reconcile_outstanding`, on the rollout it names. -/
def reconcileRollout (env : Env ρ) (find : Rollout → RolloutId → Option Rollout)
    (execution : ExecutionAdapter ρ) : Op ρ Bytes := do
  let w ← get
  let asked := w.impl.outstanding w.rollout.id
  if asked.isEmpty then pure (text "no outstanding attempt needs reconciliation")
  else if env.limits.maxConcurrentAttempts.toNat < asked.length then
    throw (makeStatus .limitExceeded
      (text "more outstanding attempts than max_concurrent_attempts; refusing to issue an unbounded reconcile request"))
  else do
    let result ← Op.ask (execution.reconcile (asked.map Attempt.fence))
    let now ← Op.ask env.clock
    if !result.ok then throw (makeStatus .unavailable
      (text "the execution adapter could not answer the reconciliation: " ++ result.detail))
    let (resolved, released) ← result.entries.foldlM (fun (resolved, released) entry => do
      let done ← reconcileEntry env find now entry
      pure (if done = .resolved then resolved + 1 else resolved,
        if done = .released then released + 1 else released)) ((0, 0) : Nat × Nat)
    commit env now fun w => decisionOf w .reconcile
      |>.inputU64 (text "asked") asked.length.toUInt64
      |>.inputU64 (text "resolved") resolved.toUInt64
      |>.inputU64 (text "released") released.toUInt64
      |>.inputU64 (text "answered") result.entries.length.toUInt64
      |>.select (text "reconciled outstanding attempts against the execution adapter")
      |>.reject (text "dispatch again immediately")
        (text "the adapter is asked first; only attempts it never started are redispatched")
      |>.rationale (toStringNat resolved ++ text " attempt(s) resolved from downstream evidence, "
        ++ toStringNat released
        ++ text " released because the executor never started them; the remainder stay outstanding under the same idempotency keys")
    persistRollout env
    pure (text "reconciled " ++ toStringNat asked.length ++ text " outstanding attempt(s): "
      ++ toStringNat resolved ++ text " resolved, " ++ toStringNat released ++ text " released")

/-- `reconcile_outstanding`. -/
def reconcileOutstanding (env : Env ρ) (o : Orchestrator ρ) (id : RolloutId) :
    Result Bytes × Orchestrator ρ :=
  match o.index id with
  | none => (.error (makeStatus .notFound (text "no such rollout")), o)
  | some k => match env.execution with
    | none => (.error (makeStatus .unavailable (text "no execution adapter is attached")), o)
    | some execution =>
      let (result, w) := (reconcileRollout env (fun r id => (o.setRollout k r).find id)
        execution).exec (o.world k {})
      (result, o.put k w)

end RolloutFabric
