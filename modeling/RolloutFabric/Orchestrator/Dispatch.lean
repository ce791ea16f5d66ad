/-
Dispatch planning: the actions a stage runs, blast-radius accounting around one candidate, and
the walk over the cohort that builds one tick's batch.
-/
import RolloutFabric.Domain.Rollout

namespace RolloutFabric

/-! ## Actions -/

def ActionKind.isPrimary : ActionKind → Bool
  | .applyConfiguration | .restart | .drain | .upgrade | .custom => true
  | .verify | .rollback | .compensate => false

def primaryAction (stage : StageRuntime) : Option ActionSpec :=
  match stage.actions.find? fun action => action.kind.isPrimary with
  | some action => some action
  | none => stage.actions.head?

def compensationAction (stage : StageRuntime) (step : UInt32) : Option ActionSpec :=
  match stage.policy.compensationActions[step.toNat]? with
  | none => none
  | some id => stage.actions.find? fun action => action.id == id

/-! ## Blast radius -/

/-- The targets of a rollout that are changing now, stage by stage. -/
def Rollout.changing (r : Rollout) : List TargetRuntime :=
  (r.stages.map fun stage => stage.targets.filter TargetRuntime.countsAsChanging).flatten

/-- The descriptors of the changing targets that the inventory holds. -/
def changingDescriptors (r : Rollout) (inventory : TargetInventory) : List TargetDescriptor :=
  r.changing.filterMap fun t => inventory.find t.target

structure DimensionUsage where
  perFailureDomain : Nat := 0
  perRack : Nat := 0
  perPod : Nat := 0
  perSite : Nat := 0
  distinctDomains : Nat := 0
  domainPresent : Bool := false
deriving DecidableEq, Inhabited

/-- How much of each correlated population is changing, around one candidate. -/
def usageAround (r : Rollout) (inventory : TargetInventory) (candidate : TargetDescriptor) :
    DimensionUsage :=
  let changing := changingDescriptors r inventory
  let place := candidate.placement
  let sameDomain := changing.countP fun d => d.placement.failureDomain == place.failureDomain
  { perFailureDomain := sameDomain
    domainPresent := decide (0 < sameDomain)
    perRack := changing.countP fun d => !place.rack.isEmpty && d.placement.rack == place.rack
    perPod := changing.countP fun d => !place.pod.isEmpty && d.placement.pod == place.pod
    perSite := changing.countP fun d => !place.site.isEmpty && d.placement.site == place.site
    distinctDomains := (changing.map fun d => d.placement.failureDomain).dedup.length }

def targetLabel (d : TargetDescriptor) : Bytes := if d.name.isEmpty then d.id.shortHex else d.name

/-- A refused candidate: the status returned and the text written through `reason`. -/
def refuseRadius (message reason : Bytes) : Except (Status × Bytes) Unit :=
  .error (makeStatus .policyViolation message, reason)

/-- `blast_radius_admits`: success, or the status with the reason that names the dimension. -/
def blastRadiusAdmits (r : Rollout) (stage : StageRuntime) (inventory : TargetInventory)
    (candidate : TargetId) : Except (Status × Bytes) Unit :=
  match inventory.find candidate with
  | none => .error (makeStatus .notFound (text "target is not in the inventory"),
      text "target " ++ candidate.shortHex ++ text " is not in the inventory")
  | some descriptor =>
    let policy := stage.policy.blastRadius
    let place := descriptor.placement
    let usage := usageAround r inventory descriptor
    if policy.maxTargetsChangingGlobal.toNat ≤ r.changingCount then
      refuseRadius (text "global blast radius exhausted") (text "global blast radius: "
        ++ toStringNat r.changingCount ++ text " of "
        ++ toStringNat policy.maxTargetsChangingGlobal.toNat
        ++ text " targets are already changing")
    else if policy.maxTargetsChangingPerStage.toNat ≤ stage.changingCount then
      refuseRadius (text "stage blast radius exhausted") (text "stage blast radius: "
        ++ toStringNat stage.changingCount ++ text " of "
        ++ toStringNat policy.maxTargetsChangingPerStage.toNat
        ++ text " targets are already changing in this stage")
    else if policy.maxTargetsChangingPerFailureDomain.toNat ≤ usage.perFailureDomain then
      refuseRadius (text "failure-domain blast radius exhausted") (text "failure domain "
        ++ place.failureDomain.shortHex ++ text " already has "
        ++ toStringNat usage.perFailureDomain ++ text " of "
        ++ toStringNat policy.maxTargetsChangingPerFailureDomain.toNat
        ++ text " targets changing")
    else if !usage.domainPresent ∧ policy.maxFailureDomainsChanging.toNat ≤ usage.distinctDomains
    then
      refuseRadius (text "failure-domain count limit reached") (text "already "
        ++ toStringNat usage.distinctDomains ++ text " failure domain(s) changing, the limit is "
        ++ toStringNat policy.maxFailureDomainsChanging.toNat)
    else if !place.rack.isEmpty ∧ policy.maxTargetsChangingPerRack.toNat ≤ usage.perRack then
      refuseRadius (text "rack blast radius exhausted") (text "rack " ++ place.rack
        ++ text " already has " ++ toStringNat usage.perRack ++ text " of "
        ++ toStringNat policy.maxTargetsChangingPerRack.toNat ++ text " targets changing")
    else if !place.pod.isEmpty ∧ policy.maxTargetsChangingPerPod.toNat ≤ usage.perPod then
      refuseRadius (text "pod blast radius exhausted") (text "pod " ++ place.pod
        ++ text " already has " ++ toStringNat usage.perPod ++ text " of "
        ++ toStringNat policy.maxTargetsChangingPerPod.toNat ++ text " targets changing")
    else if !place.site.isEmpty ∧ policy.maxTargetsChangingPerSite.toNat ≤ usage.perSite then
      refuseRadius (text "site blast radius exhausted") (text "site " ++ place.site
        ++ text " already has " ++ toStringNat usage.perSite ++ text " of "
        ++ toStringNat policy.maxTargetsChangingPerSite.toNat ++ text " targets changing")
    else .ok ()

/-! ## The planner -/

structure DispatchPlanEntry where
  target : TargetId := .nil
  epoch : UInt64 := 0
  action : ActionId := .nil
  attemptNumber : UInt32 := 1
  rollbackStep : UInt32 := 0
deriving DecidableEq, Inhabited

structure DispatchPlan where
  admitted : List DispatchPlanEntry := []
  rejected : List RejectedAlternative := []
  changingBefore : Nat := 0
deriving DecidableEq, Inhabited

namespace DispatchPlan

def reject (plan : DispatchPlan) (action reason : Bytes) : DispatchPlan :=
  { plan with rejected := plan.rejected ++ [{ action, reason }] }

def take (plan : DispatchPlan) (entry : DispatchPlanEntry) : DispatchPlan :=
  { plan with admitted := plan.admitted ++ [entry] }

end DispatchPlan

def planEntry (action : ActionSpec) (t : TargetRuntime) : DispatchPlanEntry :=
  { target := t.target, epoch := t.epoch + 1, action := action.id
    attemptNumber := t.attemptsCreated + 1 }

/-- The room left under `max_concurrency`, the batch bound and the two blast-radius counts. -/
def dispatchCapacity (r : Rollout) (stage : StageRuntime) (limits : RuntimeLimits) : Nat :=
  let radius := stage.policy.blastRadius
  let inFlight := stage.changingCount
  min (min (min (stage.policy.maxConcurrency.toNat - inFlight) limits.maxDispatchBatch.toNat)
    (radius.maxTargetsChangingPerStage.toNat - inFlight))
    (radius.maxTargetsChangingGlobal.toNat - r.changingCount)

/-- One step of the walk over the cohort, on the plan so far and the new admissions in it. -/
def planTarget (r : Rollout) (stage : StageRuntime) (inventory : TargetInventory)
    (action : ActionSpec) (capacity : Nat) (acc : DispatchPlan × Nat) (t : TargetRuntime) :
    DispatchPlan × Nat :=
  let (plan, newAdmissions) := acc
  let canaryAdmitted := stage.targets.countP fun t => decide (0 < t.attemptsCreated)
  let canaryActive := !stage.canaryCleared && decide (0 < stage.policy.canarySize)
  -- the batch is full for every target after it, pending or not
  if capacity ≤ plan.admitted.length then
    (plan.reject t.target.shortHex (text "the dispatch batch for this tick is full ("
      ++ toStringNat capacity ++ text ")"), newAdmissions)
  else if t.state ≠ .pending then acc
  else if canaryActive ∧ stage.policy.canarySize.toNat ≤ canaryAdmitted + newAdmissions
      ∧ t.attemptsCreated = 0 then
    (plan.reject t.target.shortHex (text "the canary batch of "
      ++ toStringNat stage.policy.canarySize.toNat
      ++ text " target(s) has been dispatched and has not yet cleared its health gate"),
      newAdmissions)
  else match blastRadiusAdmits r stage inventory t.target with
    | .error (_, reason) =>
      let label := match inventory.find t.target with
        | some descriptor => targetLabel descriptor
        | none => t.target.shortHex
      (plan.reject label reason, newAdmissions)
    | .ok () =>
      (plan.take (planEntry action t),
        if t.attemptsCreated = 0 then newAdmissions + 1 else newAdmissions)

def planDispatch (r : Rollout) (stage : StageRuntime) (inventory : TargetInventory)
    (limits : RuntimeLimits) : DispatchPlan :=
  let plan : DispatchPlan := { changingBefore := r.changingCount }
  let radius := stage.policy.blastRadius
  if radius.maxTargetsChangingGlobal.toNat ≤ r.changingCount then
    plan.reject (text "dispatch") (text "global blast radius: " ++ toStringNat r.changingCount
      ++ text " of " ++ toStringNat radius.maxTargetsChangingGlobal.toNat
      ++ text " targets are already changing")
  else if radius.maxTargetsChangingPerStage.toNat ≤ stage.changingCount then
    plan.reject (text "dispatch") (text "stage blast radius: " ++ toStringNat stage.changingCount
      ++ text " of " ++ toStringNat radius.maxTargetsChangingPerStage.toNat
      ++ text " targets are already changing in this stage")
  else if dispatchCapacity r stage limits = 0 then
    plan.reject (text "dispatch")
      (text "no dispatch capacity is available under the current concurrency and blast radius limits")
  else match primaryAction stage with
    | none => plan.reject (text "dispatch") (text "the stage declares no action to run")
    | some action =>
      (stage.targets.foldl
        (planTarget r stage inventory action (dispatchCapacity r stage limits)) (plan, 0)).1

end RolloutFabric
