/-
Forward work stays within the concurrency and the counts of the current stage: the planner is the
only one to enforce the limits, and they hold in every state a run reaches as long as no rollback
has begun in the generation.
-/
import RolloutFabric.Orchestrator.Runs

namespace RolloutFabric

variable {ρ : Type} {env : Env ρ}

/-! ## What is changing forward -/

theorem StageCore.Placed.changing {s : StageCore} {current : Prop} (h : s.Placed current) :
    s.changing = s.busy := by
  unfold StageCore.changing StageCore.busy
  refine List.countP_congr fun t ht => ?_
  have hforward := h.forward t ht
  cases hstate : t.state <;> simp_all [TargetState.countsAsChanging]

/-- Nothing is changing on a stage that is not the current one. -/
theorem RolloutCore.Placed.behind {r : RolloutCore} (h : r.Placed) {j : Nat}
    (hj : r.cursor.toNat ≠ j) : (r.stageAt j).changing = 0 := by
  rw [(h j).changing]
  by_contra hbusy
  exact hj ((h j).busy hbusy).1

theorem sum_le_of_only {l : List Nat} {k b : Nat} (hk : l.getD k 0 ≤ b)
    (h : ∀ j, k ≠ j → l.getD j 0 = 0) : l.sum ≤ b := by
  induction l generalizing k b with
  | nil => exact Nat.zero_le b
  | cons n l ih =>
    rw [List.sum_cons]
    cases k with
    | zero =>
      have hrest : l.sum ≤ 0 := by
        refine ih (k := l.length) (by simp) fun j _ => ?_
        simpa using h (j + 1) (by omega)
      have hn : n ≤ b := by simpa using hk
      omega
    | succ k =>
      have hn : n = 0 := by simpa using h 0 (by omega)
      have hrest : l.sum ≤ b := by
        refine ih (k := k) (by simpa using hk) fun j hj => ?_
        simpa using h (j + 1) (by omega)
      omega

theorem RolloutCore.changing_getD (r : RolloutCore) (j : Nat) :
    (r.stages.map StageCore.changing).getD j 0 = (r.stageAt j).changing := by
  simp only [stageAt, List.getD_eq_getElem?_getD, List.getElem?_map]
  cases r.stages[j]? <;> rfl

/-- All that is changing is on the current stage. -/
theorem RolloutCore.Placed.changing_le {r : RolloutCore} (h : r.Placed) {b : Nat}
    (hb : (r.stageAt r.cursor.toNat).changing ≤ b) : r.changing ≤ b := by
  refine sum_le_of_only (k := r.cursor.toNat) ?_ fun j hj => ?_
  · rwa [changing_getD]
  · rw [changing_getD]
    exact h.behind hj

/-! ## Every run -/

/-- The current stage keeps to its concurrency and its count limits, and nothing is changing on
the stages before it. -/
structure Rollout.WithinCounts (r : Rollout) : Prop where
  stage : (r.stageAt r.cursor.toNat).changingCount
    ≤ min (r.stageAt r.cursor.toNat).policy.maxConcurrency.toNat
      (r.stageAt r.cursor.toNat).policy.blastRadius.maxTargetsChangingPerStage.toNat
  overall : r.changingCount
    ≤ (r.stageAt r.cursor.toNat).policy.blastRadius.maxTargetsChangingGlobal.toNat
  before : ∀ j < r.cursor.toNat, (r.stageAt j).changingCount = 0

theorem Rollout.withinCounts_of_placed {r : Rollout} (h : r.core.Placed) : r.WithinCounts := by
  have hcursor : r.core.cursor = r.cursor := rfl
  have hpolicy : (r.core.stageAt r.cursor.toNat).policy = (r.stageAt r.cursor.toNat).policy :=
    (congrArg StageCore.policy (r.core_stageAt r.cursor.toNat)).symm
  have hchanging (j : Nat) : (r.core.stageAt j).changing = (r.stageAt j).changingCount := by
    rw [← StageRuntime.changing_core, Rollout.core_stageAt]
  have hcurrent := h r.cursor.toNat
  have hbusy := hcurrent.changing
  rw [hchanging] at hbusy
  refine ⟨?_, ?_, fun j hj => ?_⟩
  · rw [hbusy, ← hpolicy]
    exact Nat.le_min.2 ⟨hcurrent.concurrency, hcurrent.perStage⟩
  · rw [← Rollout.changing_core]
    refine h.changing_le ?_
    rw [hcursor, hchanging, hbusy, ← hpolicy]
    exact hcurrent.overall
  · rw [← hchanging]
    exact h.behind (by rw [hcursor]; omega)

/-- In every state that a run reaches, crashes and restarts included, the forward work of a
rollout is bounded while no rollback has begun in its generation. -/
theorem forward_work_bounded {n : Node ρ} (hn : n.Initial) (steps : List (Step ρ)) {h : Held}
    (hh : h ∈ (n.run env steps).held)
    (hforward : .rolloutEntered h.rollout.id h.rollout.generation .rollingBack
      ∉ (n.run env steps).trace) : h.rollout.WithinCounts := by
  have hsound : (n.run env steps).sys.Holds (View.Sound env) := sound_of_run hn steps
  refine Rollout.withinCounts_of_placed
    ((hsound _ (.inr (Node.mem_held hh))).placed (.inr fun hin => hforward ?_))
  rw [← Node.sys_trace]
  exact (mem_history.1 hin).1

/-! ## A rollout over two targets -/

/-- Two targets, each in a failure domain of its own. -/
def twinInventory : TargetInventory where
  targets := [{ id := idOf 1, name := text "a", placement := { failureDomain := idOf 8 } },
    { id := idOf 2, name := text "b", placement := { failureDomain := idOf 9 } }]
  sorted := by decide +kernel

/-- The first of them alone. -/
def loneInventory : TargetInventory where
  targets := twinInventory.targets.take 1
  sorted := by decide +kernel

/-- It accepts every attempt, and answers that what it is asked about is completed. -/
def promptAdapter : ExecutionAdapter Unit where
  dispatch _ s := ({ outcome := .accepted }, s)
  reconcile fences s := ({ ok := true, entries := fences.map fun fence =>
    { fence, disposition := .completed, outcome := .succeeded } }, s)
  cancel _ s := (.success, s)
  poll s := ([], s)

/-- Without a journal: no snapshot is written, and its digest is not looked at. -/
def volatileEnv : Env Unit where
  limits := { maxRationaleBytes := 0, maxDecisionHistory := 1, maxRejectedAlternatives := 1 }
  clock s := (⟨1000⟩, s)
  execution := some promptAdapter
  health := none
  journal := none

def twinPolicy : StagePolicy where
  maxConcurrency := 2
  canarySize := 0
  entryGate := .manual
  advanceGate := .manual
  evidenceGate := { mode := .manual }
  pauseInFlight := .cancel
  maxAttemptsPerTarget := 1
  failureBudgetTargets := 1
  minHealthyFraction := ratio 0 1
  rollbackSupported := true
  compensationActions := [idOf 3]

def twinPlan : ChangePlan where
  id := idOf 4
  sourceDigest := .ofBytes 32 [1]
  changeId := text "c"
  stages := [{
    id := idOf 5
    name := text "s"
    actions := [{ id := idOf 3, name := text "a", artifactDigest := .ofBytes 32 [1] }]
    policy := twinPolicy }]

/-- An orchestrator that did nothing yet. -/
def twinOrchestrator : Orchestrator Unit where
  impl := {
    incarnation := idOf 7
    controllerEpoch := 1
    ids := { seed := default }
    inventory := twinInventory
    outside := () }

def twinNode : Node Unit := .running twinOrchestrator

theorem twinNode_initial : twinNode.Initial := .running _ rfl rfl rfl rfl

/-- The identifier the first rollout is given. -/
def twinRollout : RolloutId := (twinOrchestrator.impl.ids.next .rollout .rollout).1

/-- The rollout that a node holds first. -/
def Node.first (n : Node ρ) : Rollout := (n.held.head?.map Held.rollout).getD default

def Node.pendingGate (n : Node ρ) : GateId := (n.first.stageAt 0).pendingGate

def startTwin : List (Step Unit) :=
  [.input (.create twinPlan {}), .input (.arm twinRollout {}), .input (.start twinRollout {}),
    .input .tick]

/-- The rollout stops at the entry gate of its stage. -/
def twinGated : Node Unit := twinNode.run volatileEnv startTwin

/-- The gate is approved, and the next tick dispatches both targets. -/
def dispatchTwin : List (Step Unit) :=
  startTwin ++ [.input (.approveGate twinRollout twinGated.pendingGate {}), .input .tick]

def twinDispatched : Node Unit := twinNode.run volatileEnv dispatchTwin

/-- What an executor reports about the current attempt of a target of the first stage. -/
def Node.report (n : Node ρ) (i : Nat) (kind : EvidenceKind) (outcome : EvidenceOutcome) :
    EvidenceRecord where
  id := idOf 6
  kind := kind
  outcome := outcome
  sequence := 1
  rollout := n.first.id
  generation := n.first.generation
  stage := (n.first.stageAt 0).id
  target := (n.first.targetAt 0 i).target
  attempt := (n.first.targetAt 0 i).currentAttempt
  attemptEpoch := (n.first.targetAt 0 i).epoch
  incarnation := n.first.incarnation
  observedAt := ⟨1000⟩
  recordedAt := ⟨1000⟩

/-- Two reports on the dispatched attempts, and the tick that applies them. -/
def reportTwin (first second : EvidenceOutcome) : List (Step Unit) :=
  dispatchTwin ++ [.input (.onEvidence (twinDispatched.report 0 .executionCompleted first)),
    .input (.onEvidence (twinDispatched.report 1 .executionCompleted second)), .input .tick]

def Event.beginsRollback : Event → Bool
  | .rolloutEntered _ _ .rollingBack => true
  | _ => false

/-! ### Over one target, without gates -/

def loneOrchestrator : Orchestrator Unit where
  impl := { twinOrchestrator.impl with inventory := loneInventory }

/-- Nothing is compensated. -/
def rerunPlan : ChangePlan := { twinPlan with
  stages := twinPlan.stages.map fun stage => { stage with
    policy := { twinPolicy with
      entryGate := .automatic
      rollbackSupported := false
      compensationActions := [] } } }

def startRerun : List Input := [.arm twinRollout {}, .start twinRollout {}, .tick, .tick]

def firstRun : List Input := .create rerunPlan {} :: startRerun

/-! ### The limits -/

/-- Both targets are changing, and no more than that. -/
theorem twinDispatched_withinCounts :
    0 < twinDispatched.held.length ∧ ∀ h ∈ twinDispatched.held,
      h.rollout.changingCount = 2 ∧ h.rollout.WithinCounts := by
  have hcount : 0 < twinDispatched.held.length
      ∧ (∀ h ∈ twinDispatched.held, h.rollout.changingCount = 2)
      ∧ ∀ e ∈ twinDispatched.trace, e.beginsRollback = false := by decide +kernel
  obtain ⟨hlength, hchanging, hnone⟩ := hcount
  refine ⟨hlength, fun h hh => ⟨hchanging h hh, ?_⟩⟩
  refine forward_work_bounded twinNode_initial dispatchTwin hh fun hmem => ?_
  cases hnone _ hmem

end RolloutFabric
