/-
The commands of an operator. Each one checks the authority and the fences its context carries,
then works on the rollout it names.
-/
import RolloutFabric.Orchestrator.Advance

namespace RolloutFabric

variable {ρ : Type}

/-! ## The orchestrator -/

structure CommandContext where
  authority : AuthorityId := .nil
  operatorId : OperatorId := .nil
  operatorName : Bytes := []
  incarnation : IncarnationId := .nil
  controllerEpoch : UInt64 := 0
  expectedGeneration : GenerationId := .nil
  expectedRevision : UInt64 := 0
  checkedGeneration : Bool := false
  checkedRevision : Bool := false
deriving Inhabited

/-- A rollout with the plan it was created from. -/
structure Held where
  rollout : Rollout
  plan : ChangePlan
deriving Inhabited

/-- `Orchestrator::Impl`: `rollouts` and `plans` are one list of pairs. -/
structure Orchestrator (ρ : Type) where
  impl : Impl ρ
  held : List Held := []

namespace Orchestrator

/-- `rollout_index`, which is below the number of rollouts when the rollout is held. -/
def index (o : Orchestrator ρ) (id : RolloutId) : Option Nat :=
  o.held.findIdx? fun h => h.rollout.id == id

def find (o : Orchestrator ρ) (id : RolloutId) : Option Rollout :=
  (o.held.find? fun h => h.rollout.id == id).map Held.rollout

def planFor (o : Orchestrator ρ) (id : RolloutId) : Option ChangePlan :=
  (o.held.find? fun h => h.rollout.id == id).map Held.plan

def heldAt (o : Orchestrator ρ) (k : Nat) : Held := o.held.getD k default

def setRollout (o : Orchestrator ρ) (k : Nat) (r : Rollout) : Orchestrator ρ :=
  { o with held := o.held.modify k fun h => { h with rollout := r } }

/-- What a function of the state machine is started on. -/
def world (o : Orchestrator ρ) (k : Nat) (report : TickReport) : World ρ :=
  { impl := o.impl, rollout := (o.heldAt k).rollout, report }

/-- What it leaves behind. -/
def put (o : Orchestrator ρ) (k : Nat) (w : World ρ) : Orchestrator ρ :=
  { o.setRollout k w.rollout with impl := w.impl }

end Orchestrator

/-! ## Fences -/

def checkAuthority (s : Impl ρ) (context : CommandContext) : Status := firstFailure [
  failIf (!context.incarnation.isNil && context.incarnation != s.incarnation)
    (makeStatus .staleEpoch (text "the command names controller incarnation "
      ++ context.incarnation.shortHex ++ text ", this controller is " ++ s.incarnation.shortHex)),
  failIf (context.controllerEpoch != 0 && context.controllerEpoch != s.controllerEpoch)
    (makeStatus .staleEpoch (text "the command names controller epoch "
      ++ toStringNat context.controllerEpoch.toNat ++ text ", this controller holds epoch "
      ++ toStringNat s.controllerEpoch.toNat))]

def checkFences (r : Rollout) (context : CommandContext) : Status := firstFailure [
  failIf (context.checkedGeneration && context.expectedGeneration != r.generation)
    (makeStatus .staleGeneration (text "the command was issued against generation "
      ++ context.expectedGeneration.shortHex ++ text " but the rollout is at generation "
      ++ r.generation.shortHex)),
  failIf (context.checkedRevision && context.expectedRevision != r.revision)
    (makeStatus .staleRevision (text "the command was issued against revision "
      ++ toStringNat context.expectedRevision.toNat ++ text " but the rollout is at revision "
      ++ toStringNat r.revision.toNat))]

/-- What every command on a rollout begins with; the body answers with the command's detail. -/
def Orchestrator.command (o : Orchestrator ρ) (id : RolloutId) (context : CommandContext)
    (body : ChangePlan → Op ρ Bytes) : Result Bytes × Orchestrator ρ :=
  let authority := checkAuthority o.impl context
  if !authority.isOk then (.error authority, o)
  else match o.index id with
  | none => (.error (makeStatus .notFound (text "no such rollout")), o)
  | some k =>
    let fences := checkFences (o.heldAt k).rollout context
    if !fences.isOk then (.error fences, o)
    else
      let (result, w) := (body (o.heldAt k).plan).exec (o.world k {})
      (result, o.put k w)

/-- A command that is only meant for some states. -/
def requireState (allowed : RolloutState → Bool) (message : Bytes) : Op ρ Unit := do
  let state ← Op.read fun w => w.rollout.state
  if !allowed state then throw (makeStatus .preconditionFailed (message ++ state.toText))

/-! ## Creating rollouts -/

/-- A stage as the plan declares it, over the cohort its selector matched. -/
def StageSpec.begin (spec : StageSpec) (membership : CohortMembership) : StageRuntime where
  id := spec.id
  ordinal := spec.ordinal
  predecessors := spec.predecessors
  policy := spec.policy
  evidenceRule := spec.evidenceRule
  actions := spec.actions
  cohort := membership
  targets := membership.members.map fun member => { target := member }

/-- One turn of the loop over the plan's order; how a failure is worded is the caller's. -/
def addStage (env : Env ρ) (plan : ChangePlan) (now : Timestamp) (failed : StageSpec → Status → Status)
    (truncated : StageSpec → CohortMaterialization → Status) (refuseEmpty : Bool)
    (stageId : StageId) : Op ρ Unit := do
  match plan.findStage stageId with
  | none => throw (makeStatus .internal (text "plan order names a stage the plan does not hold"))
  | some spec => do
    let w ← get
    match materializeCohort spec.selector w.impl.inventory spec.id w.rollout.generation env.limits
        now with
    | .error s => throw (failed spec s)
    | .ok cohort => do
      -- a partial cohort is never run
      if !cohort.truncated.isEmpty then throw (truncated spec cohort)
      let minted ← Op.read fun w => w.impl.ids.next .cohort .cohort
      Op.updateImpl fun s => { s with ids := minted.2 }
      if refuseEmpty ∧ cohort.membership.members.isEmpty then
        throw (makeStatus .preconditionFailed
          (text "stage '" ++ spec.name ++ text "' selects no targets"))
      Op.updateRollout fun r => { r with
        stages := r.stages ++ [spec.begin { cohort.membership with id := minted.1 }] }

/-- Every stage is entered as a successor of its predecessors. -/
def Rollout.linkSuccessors (r : Rollout) : Rollout :=
  (r.stages.map fun stage => stage.predecessors.map fun p => (p, stage.id)).flatten.foldl
    (fun r (predecessor, id) => match r.findStage predecessor with
      | none => r
      | some p => r.modifyStage p fun stage => { stage with successors := stage.successors ++ [id] })
    r

/-- The rollout `create_rollout` starts from. -/
def freshRollout (s : Impl ρ) (plan : ChangePlan) (context : CommandContext) (now : Timestamp) :
    Rollout × IdFactory :=
  let (id, ids) := s.ids.next .rollout .rollout
  let (generation, ids) := ids.next .generation .generation
  ({ id
     planId := plan.id
     planDigest := plan.planDigest
     sourceDigest := plan.sourceDigest
     changeId := plan.changeId
     generation
     generationCounter := 1
     revision := 1
     incarnation := s.incarnation
     controllerEpoch := s.controllerEpoch
     stateReason := text "created from plan " ++ plan.changeId
     createdAt := now
     updatedAt := now
     createdBy := context.authority
     createdByOperator := context.operatorId }, ids)

/-- The body of `create_rollout` on the rollout it builds. -/
def buildRollout (env : Env ρ) (plan : ChangePlan) (context : CommandContext) (now : Timestamp) :
    Op ρ Unit := do
  plan.order.forM <| addStage env plan now
    (fun spec s => makeStatus s.code (text "stage '" ++ spec.name ++ text "': " ++ s.message))
    (fun spec cohort => makeStatus .limitExceeded (text "stage '" ++ spec.name
      ++ text "' selects "
      ++ toStringNat (cohort.truncated.length + cohort.membership.members.length)
      ++ text " targets, above max_targets_per_cohort; the runtime refuses to silently run a partial cohort"))
    true
  Op.updateRollout Rollout.linkSuccessors
  commit env now fun w => decisionOf w .validatePlan
    |>.authority context.authority
    |>.input (text "change_id") plan.changeId
    |>.inputDigest (text "source_digest") plan.sourceDigest
    |>.inputDigest (text "plan_digest") w.rollout.planDigest
    |>.inputU64 (text "stages") w.rollout.stages.length.toUInt64
    |>.inputU64 (text "targets")
      (w.rollout.stages.map fun (stage : StageRuntime) => stage.cohort.members.length).sum.toUInt64
    |>.policyDigest w.rollout.planDigest
    |>.select (text "rollout created and plan validated")
    |>.rationale (text "the plan parsed, its dependency graph is acyclic, every stage selector matched at least one target and no cohort was truncated")
  transition env .validated (text "plan validated and cohorts materialised") now false
  let inventory ← Op.read fun w => w.impl.inventory
  appendJournal env (.planStored plan)
  appendJournal env (.inventoryStored inventory)

/-- `create_rollout`: the rollout is held only when every step of its creation succeeded. -/
def createRollout (env : Env ρ) (o : Orchestrator ρ) (plan : ChangePlan)
    (context : CommandContext) : Result (RolloutId × Bytes) × Orchestrator ρ :=
  let authority := checkAuthority o.impl context
  if !authority.isOk then (.error authority, o)
  else if o.impl.storageFailed then (.error o.impl.storageStatus, o)
  else match plan.validate env.limits with
  | .error s => (.error s, o)
  | .ok plan =>
    if plan.id.isNil then
      (.error (makeStatus .invalidArgument (text "plan identifier is nil")), o)
    else
      let (now, outside) := env.clock o.impl.outside
      let (rollout, ids) := freshRollout o.impl plan context now
      let (result, w) := (buildRollout env plan context now).exec
        { impl := { o.impl with outside, ids }, rollout }
      match result with
      | .error s => (.error s, { o with impl := w.impl })
      | .ok () =>
        (.ok (w.rollout.id, text "rollout " ++ w.rollout.id.shortHex ++ text " created with "
            ++ toStringNat w.rollout.stages.length ++ text " stage(s)"),
          { impl := w.impl, held := o.held ++ [{ rollout := w.rollout, plan }] })

/-! ## Arming and starting -/

/-- One turn of the loop that freezes every cohort. -/
def freezeStage (now : Timestamp) (j : Nat) : Op ρ Unit := do
  let stage ← Op.stage j
  match freezeCohort stage now with
  | .error s => throw s
  | .ok frozen => Op.updateStage j fun _ => frozen

def armedInputs (b : DecisionBuilder) (stage : StageRuntime) : DecisionBuilder :=
  b |>.input (text "stage") stage.id.shortHex
    |>.inputU64 (text "members") stage.cohort.members.length.toUInt64
    |>.inputDigest (text "membership") stage.cohort.membershipDigest

def armRollout (env : Env ρ) (context : CommandContext) : Op ρ Bytes := do
  requireState (fun s => s == .validated || s == .created)
    (text "a rollout can only be armed from validated or created, it is ")
  let now ← Op.ask env.clock
  let r ← Op.read fun w => w.rollout
  (List.range r.stages.length).forM (freezeStage now)
  commit env now fun w =>
    w.rollout.stages.foldl (fun b stage =>
        armedInputs b stage |>.inputDigest (text "inventory") stage.cohort.inventoryDigest)
      (decisionOf w .armRollout |>.authority context.authority
        |>.inputU64 (text "generation") w.rollout.generationCounter)
    |>.select (text "cohorts frozen; rollout armed")
    |>.rationale (text "every stage cohort is non-empty and has been frozen against the current inventory; membership cannot change without a new rollout generation")
  transition env .armed (text "cohorts frozen and armed") now false
  let r ← Op.read fun w => w.rollout
  pure (text "rollout " ++ r.id.shortHex ++ text " armed at generation "
    ++ toStringNat r.generationCounter.toNat)

/-- `arm`. -/
def arm (env : Env ρ) (o : Orchestrator ρ) (id : RolloutId) (context : CommandContext) :
    Result Bytes × Orchestrator ρ :=
  o.command id context fun _ => armRollout env context

def startRollout (env : Env ρ) : Op ρ Bytes := do
  requireState (fun s => s == .armed) (text "a rollout can only be started from armed, it is ")
  let r ← Op.read fun w => w.rollout
  if r.currentStage.isNone then
    throw (makeStatus .preconditionFailed (text "the rollout has no stage to start"))
  match r.stages.find? fun stage => !stage.cohort.frozen with
  | some stage => throw (makeStatus .immutable (text "stage " ++ stage.id.shortHex
      ++ text " has no frozen cohort; the rollout was not correctly armed"))
  | none => do
    let now ← Op.ask env.clock
    transition env .running (text "started by operator") now false
    pure (text "rollout " ++ r.id.shortHex ++ text " running")

/-- `start`. -/
def start (env : Env ρ) (o : Orchestrator ρ) (id : RolloutId) (context : CommandContext) :
    Result Bytes × Orchestrator ρ :=
  o.command id context fun _ => startRollout env

/-! ## Pausing and resuming -/

def pauseRollout (env : Env ρ) (context : CommandContext) (reason : Bytes) : Op ρ Bytes := do
  let previous ← Op.read fun w => w.rollout.state
  if !previous.canPause then
    throw (makeStatus .preconditionFailed (text "a rollout in state " ++ previous.toText
      ++ text " cannot be paused"))
  let now ← Op.ask env.clock
  Op.updateRollout fun r => { r with resumeState := previous }
  let r ← Op.read fun w => w.rollout
  -- the stage that is current decides what happens to the attempts under way
  let inFlight := match r.currentStage with
    | some j => (r.stageAt j).policy.pauseInFlight
    | none => .letFinish
  commit env now fun w => decisionOf w .pauseRollout
    |>.authority context.authority
    |>.input (text "previous_state") previous.toText
    |>.input (text "reason") reason
    |>.input (text "in_flight_policy") inFlight.toText
    |>.select (text "rollout paused")
    |>.rationale (text "no further work will be dispatched while the rollout is paused; attempts already dispatched are "
      ++ (if inFlight = .letFinish then text "allowed to finish" else text "cancelled"))
  transition env .paused (if reason.isEmpty then text "paused by operator" else reason) now false
  match inFlight, r.currentStage with
  | .cancel, some j => match r.findStage (r.stageAt j).id with
    | some j => cancelInFlight env j now
    | none => pure ()
  | _, _ => pure ()
  pure (text "rollout " ++ r.id.shortHex ++ text " paused; new dispatch is stopped")

/-- `pause`. -/
def pause (env : Env ρ) (o : Orchestrator ρ) (id : RolloutId) (context : CommandContext)
    (reason : Bytes) : Result Bytes × Orchestrator ρ :=
  o.command id context fun _ => pauseRollout env context reason

def resumeRollout (env : Env ρ) (context : CommandContext) : Op ρ Bytes := do
  requireState (fun s => s == .paused) (text "a rollout can only be resumed from paused, it is ")
  let r ← Op.read fun w => w.rollout
  let next := r.resumeState
  if !RolloutState.paused.legalTransition next then
    throw (makeStatus .conflict (text "the recorded resume state " ++ next.toText
      ++ text " is not reachable from paused"))
  let now ← Op.ask env.clock
  commit env now fun w => decisionOf w .resumeRollout
    |>.authority context.authority
    |>.input (text "resume_state") next.toText
    |>.select (text "rollout resumed")
    |>.rationale (text "the rollout returns to the exact state it was paused in")
  transition env next (text "resumed by operator") now false
  pure (text "rollout " ++ r.id.shortHex ++ text " resumed into " ++ next.toText)

/-- `resume`. -/
def resume (env : Env ρ) (o : Orchestrator ρ) (id : RolloutId) (context : CommandContext) :
    Result Bytes × Orchestrator ρ :=
  o.command id context fun _ => resumeRollout env context

/-! ## Aborting -/

/-- One turn of the loop of `abort` over the stages. -/
def abortStage (env : Env ρ) (now : Timestamp) (j : Nat) : Op ρ Unit := do
  let stage ← Op.stage j
  if stage.state = .pending ∨ stage.state = .blocked then stageTransition env j .skipped now true
  else if stage.state.isTerminal then pure ()
  else do
    cancelInFlight env j now
    stageTransition env j .aborted now true

def abortRollout (env : Env ρ) (context : CommandContext) (reason : Bytes) : Op ρ Bytes := do
  let r ← Op.read fun w => w.rollout
  if r.state.isTerminal ∨ r.state = .aborting ∨ r.state = .rollingBack then
    throw (makeStatus .preconditionFailed (text "a rollout in state " ++ r.state.toText
      ++ text " cannot be aborted"))
  let now ← Op.ask env.clock
  -- decided before the stages are aborted
  let compensation := r.hasCompensation
  commit env now fun w => decisionOf w .abortRollout
    |>.authority context.authority
    |>.input (text "reason") reason
    |>.input (text "compensation_available") (if compensation then text "yes" else text "no")
    |>.select (text "rollout aborting")
    |>.rationale (if compensation then
        text "future stages are stopped and the plan declares compensation, so rollback begins"
      else text "future stages are stopped; the plan declares no compensation for the stages that ran, so the rollout fails without pretending to undo the change")
  transition env .aborting (if reason.isEmpty then text "aborted by operator" else reason) now false
  (List.range r.stages.length).forM (abortStage env now)
  if compensation then beginRollback env (text "abort requested by operator") now
  else failRollout env (text "aborted with no compensation declared by the plan") now
  pure (text "rollout " ++ r.id.shortHex ++ text " aborting; "
    ++ (if compensation then text "compensation started" else text "no compensation is available"))

/-- `abort`. -/
def abort (env : Env ρ) (o : Orchestrator ρ) (id : RolloutId) (context : CommandContext)
    (reason : Bytes) : Result Bytes × Orchestrator ρ :=
  o.command id context fun _ => abortRollout env context reason

/-! ## Approving gates -/

def approvePending (env : Env ρ) (context : CommandContext) (gate : GateId) : Op ρ Bytes := do
  let r ← Op.read fun w => w.rollout
  match r.stages.findIdx? fun stage => !stage.pendingGate.isNil && stage.pendingGate == gate with
  | none => throw (makeStatus .notFound (text "gate " ++ gate.shortHex
      ++ text " is not pending; a gate can only be approved once, and only while it is open"))
  | some j => do
    let now ← Op.ask env.clock
    let stage ← Op.stage j
    let kind := stage.pendingGateKind
    commit env now fun w => decisionOf w .openGate
      |>.authority context.authority
      |>.stage stage.id
      |>.input (text "gate") gate.toHex
      |>.input (text "gate_kind") kind.toText
      |>.input (text "operator")
        (if context.operatorName.isEmpty then text "operator" else context.operatorName)
      |>.select (text "manual gate opened by operator")
      |>.rationale (text "the operator explicitly approved the pending " ++ kind.toText
        ++ text " gate; the approval is single use and fenced by generation and revision")
    -- the gate is used up before what it guards is tried
    Op.updateStage j fun s => { s with pendingGate := .nil, pendingGateSince := {} }
    Op.log (.approved r.id r.generation stage.id kind)
    match kind with
    | .stageEntry => beginStage env j now
    | .evidence | .advance => completeStage env j now true
    | .health => stageTransition env j .running now true
    | .rollback => beginRollback env (text "operator approved rollback") now
    pure (text "gate " ++ gate.shortHex ++ text " approved")

/-- `approve_gate`. -/
def approveGate (env : Env ρ) (o : Orchestrator ρ) (id : RolloutId) (gate : GateId)
    (context : CommandContext) : Result Bytes × Orchestrator ρ :=
  o.command id context fun _ => approvePending env context gate

/-! ## Retiring and regenerating -/

def retireRollout (env : Env ρ) : Op ρ Bytes := do
  requireState (fun s => s == .failed || s == .completed)
    (text "only a failed or completed rollout can be retired; this one is ")
  let now ← Op.ask env.clock
  transition env .retired (text "retired by operator") now false
  let r ← Op.read fun w => w.rollout
  appendJournal env (.rolloutRetired r.id)
  pure (text "rollout " ++ r.id.shortHex ++ text " retired")

/-- `retire`. -/
def retire (env : Env ρ) (o : Orchestrator ρ) (id : RolloutId) (context : CommandContext) :
    Result Bytes × Orchestrator ρ :=
  o.command id context fun _ => retireRollout env

def regenerateRollout (env : Env ρ) (context : CommandContext) (plan : ChangePlan) : Op ρ Bytes := do
  requireState (fun s => s == .failed || s == .completed)
    (text "a new generation can only be created from a failed or completed rollout; this one is ")
  let now ← Op.ask env.clock
  let minted ← Op.read fun w => w.impl.ids.next .generation .generation
  Op.updateImpl fun s => { s with ids := minted.2 }
  Op.updateRollout fun r => { r with
    generationCounter := r.generationCounter + 1
    generation := minted.1
    cursor := 0
    outstandingAttempts := 0
    stages := [] }
  plan.order.forM <| addStage env plan now (fun _ s => s)
    (fun spec _ => makeStatus .limitExceeded (text "regenerating stage '" ++ spec.name
      ++ text "' would truncate its cohort; refusing to run a partial cohort"))
    false
  Op.updateRollout Rollout.linkSuccessors
  commit env now fun w =>
    w.rollout.stages.foldl armedInputs
      (decisionOf w .armRollout |>.authority context.authority
        |>.inputU64 (text "new_generation") w.rollout.generationCounter
        |>.inputDigest (text "inventory") w.impl.inventory.inventoryDigest)
    |>.select (text "new rollout generation created")
    |>.rationale (text "membership is immutable within a generation, so refreshing it required creating a new one; every stage cohort was re-materialised against the current inventory")
  -- the state is assigned, not reached by a transition
  Op.updateRollout fun r => { r with
    revision := r.revision + 1
    stateReason := text "regenerated into generation " ++ toStringNat r.generationCounter.toNat
    completedAt := {}
    state := .validated
    resumeState := .validated
    updatedAt := now }
  persistRollout env
  let r ← Op.read fun w => w.rollout
  pure (text "rollout " ++ r.id.shortHex ++ text " regenerated as " ++ r.generation.shortHex)

/-- `regenerate`. -/
def regenerate (env : Env ρ) (o : Orchestrator ρ) (id : RolloutId) (context : CommandContext) :
    Result Bytes × Orchestrator ρ :=
  o.command id context fun plan => regenerateRollout env context plan

/-- `set_inventory`: a frozen cohort keeps the membership it was armed with. -/
def setInventory (o : Orchestrator ρ) (inventory : TargetInventory) : Orchestrator ρ :=
  { o with impl := { o.impl with inventory } }

end RolloutFabric
