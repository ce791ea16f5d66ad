/-
Recovery: what a restarted controller reads back out of the journal, the rollouts it adopts, and
the runs of a controller through commands, ticks, evidence, crashes and restarts.
-/
import RolloutFabric.Orchestrator.Tick

namespace RolloutFabric

variable {ρ : Type}

/-! ## The journal a trace leaves -/

/-- One more event: an append that landed adds its record, a compaction that landed replaces them
all. A record is kept with the controller epoch it carries. -/
def landEvent (records : List (JournalEntry × UInt64)) : Event → List (JournalEntry × UInt64)
  | .appended entry epoch _ true => records ++ [(entry, epoch)]
  | .rewritten entries epoch _ (some n) => (entries.take n).map fun entry => (entry, epoch)
  | _ => records

def journalRecords (trace : List Event) : List (JournalEntry × UInt64) := trace.foldl landEvent []

/-! ## Restoring one rollout -/

/-- The attempt `restore` reconstructs for a target that looks in flight. -/
def rebuildAttempt (r : Rollout) (stage : StageRuntime) (target : TargetRuntime)
    (action : ActionSpec) (incarnation : IncarnationId) : Attempt where
  id := target.currentAttempt
  rollout := r.id
  generation := r.generation
  stage := stage.id
  cohort := stage.cohort.id
  target := target.target
  action := action.id
  epoch := if target.epoch = 0 then 1 else target.epoch
  attemptNumber := if target.attemptsCreated = 0 then 1 else target.attemptsCreated
  incarnation := incarnation
  actionDigest := action.actionDigest
  artifactDigest := action.artifactDigest
  idempotencyKey := deriveIdempotencyKey r.id r.generation stage.id target.target action.id
  createdAt := target.dispatchedAt
  dispatchedAt := target.dispatchedAt
  deadline := target.dispatchedAt.add stage.policy.attemptDeadline
  state := .dispatched

/-- The turn of `restore` for the target at `j`, `i`. -/
def restoreTarget (env : Env ρ) (previous : IncarnationId) (j i : Nat) : Op ρ Unit := do
  let r ← Op.read fun w => w.rollout
  let stage := r.stageAt j
  let target := r.targetAt j i
  let forget := Op.updateTarget j i fun t => { t with currentAttempt := .nil }
  if target.currentAttempt.isNil then pure ()
  else if !target.state.countsAsChanging then forget
  else
    let action := if target.state = .rollingBack then compensationAction stage target.rollbackStep
      else primaryAction stage
    match action with
    | none => forget
    | some action => do
      let attempt := rebuildAttempt r stage target action previous
      Op.log (.rebuilt attempt target.rollbackStep target.state)
      noteAttempt env attempt
      noteIdempotencyKey env attempt.idempotencyKey
      Op.updateRollout fun r => { r with outstandingAttempts := r.outstandingAttempts + 1 }

/-- The recovered rollout as the new incarnation adopts it. -/
def Rollout.adopt (r : Rollout) (s : Impl ρ) : Rollout :=
  { r with
    incarnation := s.incarnation
    controllerEpoch := s.controllerEpoch
    outstandingAttempts := 0
    stateReason :=
      if r.state.isTerminal then
        if r.stateReason.isEmpty then text "recovered in a terminal state" else r.stateReason
      else text "recovered by controller incarnation " ++ s.incarnation.shortHex ++ text "; "
        ++ r.stateReason }

/-- Why a recovered rollout cannot be adopted under the stored plan. -/
def checkRecovered (r : Rollout) (plan : ChangePlan) : Status := firstFailure [
  failIf (r.planDigest != plan.planDigest) (makeStatus .corrupt
    (text "the stored plan does not match the digest the rollout was created with")),
  failIf (r.planId != plan.id) (makeStatus .corrupt
    (text "the stored plan identifier does not match the rollout")),
  firstFailure (r.stages.map fun stage => firstFailure [
    failIf (plan.findStage stage.id).isNone (makeStatus .corrupt
      (text "the recovered rollout holds a stage the stored plan does not declare")),
    failIf (!stage.cohort.frozen && !r.state.isTerminal) (makeStatus .corrupt
      (text "a recovered non-terminal rollout has an unfrozen cohort; refusing to adopt state whose membership could still change"))])]

/-- `restore`. -/
def restore (env : Env ρ) (o : Orchestrator ρ) (r : Rollout) (plan : ChangePlan) :
    Status × Orchestrator ρ :=
  if r.id.isNil then
    (makeStatus .corrupt (text "the recovered rollout has a nil identifier"), o)
  else match plan.validate env.limits with
  | .error s => (makeStatus s.code (text "the stored plan is not valid: " ++ s.message), o)
  | .ok plan =>
    let checked := checkRecovered r plan
    if !checked.isOk then (checked, o)
    else if (o.index r.id).any fun k => !decide ((o.heldAt k).rollout.revision < r.revision) then
      (makeStatus .staleRevision
        (text "the recovered snapshot is not newer than the state already held"), o)
    else
      -- a snapshot that is newer takes the place of the rollout held
      let held := match o.index r.id with
        | some k => o.held.eraseIdx k
        | none => o.held
      let adopted := r.adopt o.impl
      let w := ((List.range adopted.stages.length).forM fun j =>
        (List.range (adopted.stageAt j).targets.length).forM fun i =>
          restoreTarget env r.incarnation j i).exec
        { impl := { o.impl with trace := o.impl.trace ++ [.restored r] }, rollout := adopted }
      (.success, {
        impl := { w.2.impl with counters := { w.2.impl.counters with
          journalAppends := w.2.impl.counters.journalAppends + 1 } }
        held := held ++ [{ rollout := w.2.rollout, plan }] })

/-! ## Opening the controller -/

/-- What the scan of the records reconstructs. -/
structure Recovered where
  inventory : TargetInventory := {}
  plans : Map PlanId ChangePlan := ∅
  rollouts : Map RolloutId Rollout := ∅

/-- One record of the scan; the last record of a plan or a rollout wins. -/
def recoverRecord (limits : RuntimeLimits) (found : Recovered) (entry : JournalEntry) :
    Result Recovered :=
  match entry with
  | .inventoryStored _ => do
    let inventory ← decodeInventoryPayload entry.payload limits
    pure { found with inventory }
  | .planStored _ => do
    let plan ← decodePlanPayload entry.payload limits
    pure { found with plans := found.plans.insert plan.id plan }
  | .rolloutSnapshot _ => do
    let rollout ← decodeRolloutPayload entry.payload limits
    pure { found with rollouts := found.rollouts.insert rollout.id rollout }
  | _ => pure found

/-- The recovered rollouts in the order of their identifiers. -/
def Recovered.inOrder (found : Recovered) : List Rollout :=
  ((found.rollouts.entries.map fun e => (e.1, e.2)).insertionSort fun a b => a.1 ≤ b.1).map Prod.snd

/-- A rollout without a stored plan, or one `restore` refuses, is skipped. -/
def adoptRollout (env : Env ρ) (plans : Map PlanId ChangePlan) (o : Orchestrator ρ) (r : Rollout) :
    Orchestrator ρ :=
  match plans.lookup r.planId with
  | none => o
  | some plan => (restore env o r plan).2

/-- The entropy a controller draws when it opens: its own seed and the orchestrator's. -/
structure Entropy where
  controller : Digest256
  orchestrator : Digest256

/-- A controller is running, or it stopped and left its journal behind. -/
inductive Node (ρ : Type)
  | running (o : Orchestrator ρ)
  | stopped (trace : List Event) (outside : ρ)

namespace Node

def trace : Node ρ → List Event
  | running o => o.impl.trace
  | stopped trace _ => trace

def held : Node ρ → List Held
  | running o => o.held
  | stopped _ _ => []

end Node

/-- `Controller::create`, which wants valid limits, and `Controller::open`: the next epoch is
claimed in the journal before anything is adopted, and a record that cannot be read stops the
controller. -/
def openController (env : Env ρ) (entropy : Entropy) (trace : List Event) (outside : ρ) : Node ρ :=
  if !env.limits.validate.isOk then .stopped trace outside else
  let records := journalRecords trace
  -- one above the highest epoch that the journal holds
  let epoch := (records.map Prod.snd).foldl max 0 + 1
  let ids : IdFactory := { seed := entropy.controller }
  let incarnation := (ids.next .incarnation .incarnation).1
  let (claimedAt, outside) := env.clock outside
  let fresh : Impl ρ := {
    incarnation
    controllerEpoch := epoch
    ids := { seed := entropy.orchestrator }
    outside
    trace := trace ++ [.opened incarnation] }
  let (claimed, w) := (appendJournal env (.incarnationClaimed incarnation epoch claimedAt)).exec
    { impl := fresh, rollout := default }
  match claimed, (records.map Prod.fst).foldlM (recoverRecord env.limits) {} with
  | .ok (), .ok found => .running <| found.inOrder.foldl (adoptRollout env found.plans)
      { impl := { w.impl with inventory := found.inventory } }
  | _, _ => .stopped w.impl.trace w.impl.outside

/-! ## Runs -/

/-- What can happen to a running orchestrator. -/
inductive Input
  | create (plan : ChangePlan) (context : CommandContext)
  | arm (id : RolloutId) (context : CommandContext)
  | start (id : RolloutId) (context : CommandContext)
  | pause (id : RolloutId) (context : CommandContext) (reason : Bytes)
  | resume (id : RolloutId) (context : CommandContext)
  | abort (id : RolloutId) (context : CommandContext) (reason : Bytes)
  | approveGate (id : RolloutId) (gate : GateId) (context : CommandContext)
  | retire (id : RolloutId) (context : CommandContext)
  | regenerate (id : RolloutId) (context : CommandContext)
  | setInventory (inventory : TargetInventory)
  | onEvidence (record : EvidenceRecord)
  | onAdapterEvent (event : AdapterEvent)
  | reconcile (id : RolloutId)
  | tick
  | noteShutdown

def Orchestrator.step (env : Env ρ) (o : Orchestrator ρ) : Input → Orchestrator ρ
  | .create plan context => (createRollout env o plan context).2
  | .arm id context => (RolloutFabric.arm env o id context).2
  | .start id context => (RolloutFabric.start env o id context).2
  | .pause id context reason => (RolloutFabric.pause env o id context reason).2
  | .resume id context => (RolloutFabric.resume env o id context).2
  | .abort id context reason => (RolloutFabric.abort env o id context reason).2
  | .approveGate id gate context => (RolloutFabric.approveGate env o id gate context).2
  | .retire id context => (RolloutFabric.retire env o id context).2
  | .regenerate id context => (RolloutFabric.regenerate env o id context).2
  | .setInventory inventory => RolloutFabric.setInventory o inventory
  | .onEvidence record => { o with impl := o.impl.onEvidence env.limits record }
  | .onAdapterEvent event => { o with impl := o.impl.noteAdapterEvent env.limits event }
  | .reconcile id => (reconcileOutstanding env o id).2
  | .tick => (RolloutFabric.tick env o).2
  | .noteShutdown => { o with impl := { o.impl with shuttingDown := true } }

/-- A step of a controller. A crash interrupts an input after some number of the events it causes:
what was in memory is lost, and the outside is left as it may be. -/
inductive Step (ρ : Type)
  | input (i : Input)
  | crash (during : Input) (boundary : Nat) (outside : ρ)
  | restart (entropy : Entropy)

def Node.step (env : Env ρ) : Node ρ → Step ρ → Node ρ
  | .running o, .input i => .running (o.step env i)
  | .running o, .crash during boundary outside =>
    let after := (o.step env during).impl.trace
    .stopped (after.take (o.impl.trace.length + boundary)) outside
  | .stopped trace outside, .restart entropy => openController env entropy trace outside
  | n, _ => n

def Node.run (env : Env ρ) (n : Node ρ) (steps : List (Step ρ)) : Node ρ :=
  steps.foldl (Node.step env) n

end RolloutFabric
