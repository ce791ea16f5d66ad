/-
A soaked stage that has to wait for an operator: the table of stages has no way from soaking to
gated, so opening the gate gives the storage up instead.
-/
import RolloutFabric.Orchestrator.Standing
import RolloutFabric.Safety.StageGates
import RolloutFabric.Orchestrator.Turns

namespace RolloutFabric

open Program

variable {ρ : Type} {env : Env ρ} {j : Nat} {now : Timestamp} {w : World ρ}

/-! ## Opening a gate on a soaking stage -/

theorem stageState_of_standing {w' : World ρ} (h : w'.standing = w.standing) :
    (w'.rollout.stageAt j).state = (w.rollout.stageAt j).state :=
  congrArg (fun v : Standing => (v.rollout.stageAt j).state) h

/-- The storage is given up, and the stage is still soaking. -/
structure StuckSoaking (j : Nat) (w : World ρ) : Prop where
  storage : w.impl.storageFailed = true
  soaking : (w.rollout.stageAt j).state = .soaking

theorem openGate_soaking {kind : GateKind} (h : (w.rollout.stageAt j).state = .soaking) :
    Effects (fun w => w) w (openGate env j kind now) fun _ w' => StuckSoaking j w' := by
  refine .of_exec ?_
  generalize hminted : w.impl.ids.next .gate .gate = minted
  let named : World ρ := { w with impl := { w.impl with ids := minted.2 } }
  let pending : World ρ := ((Op.updateStage j fun s => s.pend minted.1 kind now).exec named).2
  have hsoaking : (pending.rollout.stageAt j).state = .soaking := (pend_stage named _ kind).trans h
  obtain ⟨s, hs⟩ : ∃ s, (stageTransition env j .gated now false).exec pending
      = (.error s, pending) := by
    refine stageTransition_refused ?_ ?_
    · rw [hsoaking]
      decide
    · rw [hsoaking]
      decide
  have hrun : (openGate env j kind now).exec w = (.ok (), { pending with
      impl := { pending.impl with storageFailed := true, storageStatus := s } }) := by
    unfold openGate
    rw [exec_bind_ok (Op.exec_read _ w), hminted]
    exact (exec_bind_congr _ rfl).trans (exec_latch_error (exec_bind_error hs))
  exact ⟨(), congrArg Prod.fst hrun, by rw [hrun]; exact ⟨rfl, hsoaking⟩⟩

theorem refuseManualGate_soaking {kind : GateKind} {reason selected rationale : Bytes}
    (h : (w.rollout.stageAt j).state = .soaking) :
    Effects (fun w => w) w (refuseManualGate env j kind reason selected rationale now)
      fun _ w' => StuckSoaking j w' := by
  unfold refuseManualGate
  refine .bind (Effects.here effects_stage rfl) fun stage w₁ ⟨h₁, _⟩ => ?_
  refine .bind (Effects.here (effects_commit _) rfl) fun _ w₂ h₂ => ?_
  refine .bind (Effects.here (effects_frames (fun _ => rfl) fun _ => rfl) rfl) fun _ w₃ h₃ => ?_
  exact openGate_soaking ((stageState_of_standing (h₃.trans (h₂.trans h₁))).trans h)

/-- `complete_stage` decides to wait: a gate is not satisfied and waits for an operator. -/
inductive AwaitsOperator (env : Env ρ) (stage : StageRuntime) (now : Timestamp) : Prop
  | evidence (hmode : stage.policy.evidenceGate.mode = .manual)
    (hrefused : (evaluateEvidenceGate stage stage.policy.evidenceGate stage.evidenceRule now
      env.limits).satisfied = false)
  | advance (hmode : stage.policy.advanceGate = .manual)
    (hevidence : (evaluateEvidenceGate stage stage.policy.evidenceGate stage.evidenceRule now
      env.limits).satisfied = true)
    (hrefused : (evaluateAdvanceGate stage now env.limits).satisfied = false)

theorem stageState_modifyStage {r : Rollout} {f : StageRuntime → StageRuntime}
    (hf : ∀ s, (f s).state = s.state) (k : Nat) :
    ((r.modifyStage k f).stageAt j).state = (r.stageAt j).state := by
  simp only [Rollout.stageAt, Rollout.modifyStage, List.getD_eq_getElem?_getD, List.getElem?_modify]
  by_cases hk : k = j
  · cases r.stages[j]? <;> simp [hk, hf]
  · simp [hk]

/-- What is noted on the stage leaves its state alone. -/
theorem updateStage_soaking {f : StageRuntime → StageRuntime} (hf : ∀ s, (f s).state = s.state)
    (h : (w.rollout.stageAt j).state = .soaking) :
    Effects (fun w => w) w (Op.updateStage j f) fun _ w' =>
      (w'.rollout.stageAt j).state = .soaking :=
  .of_exec ⟨(), rfl, (stageState_modifyStage hf j).trans h⟩

theorem countGate_soaking (h : (w.rollout.stageAt j).state = .soaking) :
    Effects (fun w => w) w countGate fun _ w' => (w'.rollout.stageAt j).state = .soaking :=
  .of_exec ⟨(), rfl, h⟩

theorem completeStage_soaking (h : (w.rollout.stageAt j).state = .soaking)
    (hawaits : AwaitsOperator env (w.rollout.stageAt j) now) :
    Effects (fun w => w) w (completeStage env j now false) fun _ w' => StuckSoaking j w' := by
  unfold completeStage
  refine .bind (q := fun a w' => a = w ∧ w' = w) (.of_exec ⟨w, rfl, rfl, rfl⟩)
    fun a w' ⟨ha, hw'⟩ => ?_
  rw [ha, hw']
  refine .bind (q := fun _ w' => (w'.rollout.stageAt j).state = .soaking) (.of_exec ⟨(), rfl, h⟩)
    fun _ w₁ h₁ => ?_
  generalize w.rollout.stageAt j = stage at hawaits ⊢
  refine .bind (updateStage_soaking (fun _ => rfl) h₁) fun _ w₂ h₂ => ?_
  refine .bind (countGate_soaking h₂) fun _ w₃ h₃ => ?_
  refine .bind (updateStage_soaking (fun _ => rfl) h₃) fun _ w₄ h₄ => ?_
  refine .bind (countGate_soaking h₄) fun _ w₅ h₅ => ?_
  cases hawaits with
  | evidence hmode hrefused =>
    rw [if_pos (by simp [hrefused]), if_pos hmode]
    exact refuseManualGate_soaking h₅
  | advance hmode hevidence hrefused =>
    rw [if_neg (by simp [hevidence])]
    refine .bind (updateStage_soaking (fun _ => rfl) h₅) fun _ w₆ h₆ => ?_
    refine .bind (countGate_soaking h₆) fun _ w₇ h₇ => ?_
    rw [if_pos (by simp [hrefused]), if_pos hmode]
    exact refuseManualGate_soaking h₇

/-! ## Running a soaked stage -/

/-- What `run_stage` does before it settles the stage; the answer tells whether every target is
terminal and nothing failed the stage. -/
def settles (env : Env ρ) (j : Nat) (now : Timestamp) : Op ρ Bool := do
  let stage ← Op.stage j
  (List.range stage.targets.length).forM (expireTarget env j now)
  probeHealth env j now
  let stage ← Op.stage j
  if (failureBudget stage).toNat < stage.failedCount then pure false
  else do
    let failed ← clearCanary env j now
    if failed then pure false
    else do
      weigh j now
      let stage ← Op.stage j
      pure (decide (stage.terminalCount = stage.targets.length))

theorem runStage_settles {w₀ : World ρ} (h : (settles env j now).exec w₀ = (.ok true, w)) :
    (runStage env j now).exec w₀ = (settleStage env j now).exec w := by
  unfold settles at h
  unfold runStage
  obtain ⟨stage, w₁, h₁, h⟩ := of_exec_bind_ok h
  rw [exec_bind_ok h₁]
  obtain ⟨_, w₂, h₂, h⟩ := of_exec_bind_ok h
  rw [exec_bind_ok h₂]
  obtain ⟨_, w₃, h₃, h⟩ := of_exec_bind_ok h
  rw [exec_bind_ok h₃]
  obtain ⟨stage', w₄, h₄, h⟩ := of_exec_bind_ok h
  rw [exec_bind_ok h₄]
  dsimp only
  split at h
  · cases h
  next hbudget =>
  rw [if_neg hbudget]
  obtain ⟨failed, w₅, h₅, h⟩ := of_exec_bind_ok h
  rw [exec_bind_ok h₅]
  split at h
  · cases h
  next hfailed =>
  rw [if_neg hfailed]
  obtain ⟨_, w₆, h₆, h⟩ := of_exec_bind_ok h
  rw [exec_bind_ok h₆]
  obtain ⟨stage'', w₇, h₇, h⟩ := of_exec_bind_ok h
  rw [exec_bind_ok h₇]
  rw [exec_pure] at h
  obtain ⟨hterminal, rfl⟩ : stage''.terminalCount = stage''.targets.length ∧ w₇ = w := by
    simpa using h
  rw [if_pos hterminal]

/-- The soak of the stage is over. -/
def StageRuntime.Soaked (stage : StageRuntime) (now : Timestamp) : Prop :=
  stage.policy.evidenceGate.soak.isZero = false ∧ stage.soakStartedAt.isNil = false
    ∧ ¬ now.since stage.soakStartedAt < stage.policy.evidenceGate.soak

theorem settleStage_soaked (h : (w.rollout.stageAt j).Soaked now) :
    (settleStage env j now).exec w = (completeStage env j now false).exec w := by
  obtain ⟨hsoak, hstarted, helapsed⟩ := h
  unfold settleStage Op.stage
  rw [exec_bind_ok (Op.exec_read _ w)]
  dsimp only
  rw [if_neg (by simp [hstarted]), if_neg (by simp [helapsed])]

theorem advance_settles {w₀ : World ρ} (hworking : w₀.rollout.state.working = true)
    (hcurrent : w₀.rollout.currentStage = some j)
    (hactive : (w₀.rollout.stageAt j).state.active = true) :
    (advance env now).exec w₀ = (Op.latch (runStage env j now)).exec w₀ := by
  have hstage : (advanceStage env j now).exec w₀ = (runStage env j now).exec w₀ := by
    unfold advanceStage
    rw [exec_bind_ok (Op.exec_read _ w₀)]
    cases hs : (w₀.rollout.stageAt j).state <;> rw [hs] at hactive <;> first | rfl | cases hactive
  unfold advance
  rw [exec_bind_ok (Op.exec_read _ w₀), hcurrent]
  cases hs : w₀.rollout.state <;> rw [hs] at hworking <;>
    first | exact latch_congr hstage | cases hworking

/-! ## A soaked stage in a tick -/

/-- In its turn in a tick the rollout at `n` enters `complete_stage` on its current stage `j`, which
is soaked, in the world `w`. -/
structure CompletesSoaked (env : Env ρ) (o : Orchestrator ρ) (n j : Nat) (w : World ρ) : Prop where
  inRange : n < o.held.length
  working : (o.turn env n).rollout.state.working = true
  current : (o.turn env n).rollout.currentStage = some j
  active : ((o.turn env n).rollout.stageAt j).state.active = true
  settled : (settles env j (o.tickTime env)).exec (o.turn env n) = (.ok true, w)
  soaking : (w.rollout.stageAt j).state = .soaking
  soaked : (w.rollout.stageAt j).Soaked (o.tickTime env)

/-- The stage waits at a gate for an operator. -/
structure StopsForOperator (o : Orchestrator ρ) (n j : Nat) : Prop where
  storage : o.impl.storageFailed = false
  rollout : (o.heldAt n).rollout.state = .gated
  stage : ((o.heldAt n).rollout.stageAt j).state = .gated
  pending : ((o.heldAt n).rollout.stageAt j).pendingGate ≠ .nil

/-- A soaked stage never stops for an operator: the tick that should gate it gives the storage up
and leaves it soaking. -/
theorem soaked_never_stops {n : Node ρ} (hn : n.Initial) (steps : List (Step ρ))
    {o : Orchestrator ρ} (hrun : n.run env steps = .running o)
    (hup : o.impl.shuttingDown = false) (hopen : o.impl.storageFailed = false) {k : Nat}
    (h : CompletesSoaked env o k j w)
    (hawaits : AwaitsOperator env (w.rollout.stageAt j) (o.tickTime env)) :
    let o' := (tick env o).2
    ¬ StopsForOperator o' k j ∧ o'.impl.storageFailed = true
      ∧ ((o'.heldAt k).rollout.stageAt j).state = .soaking := by
  have hs : o.sys.Holds (View.Sound env) := by
    have hsound : (n.run env steps).sys.Holds (View.Sound env) := sound_of_run hn steps
    rwa [hrun] at hsound
  have hturn := Orchestrator.tick_turn hs hup hopen h.inRange
  have hexec : (advance env (o.tickTime env)).exec (o.turn env k)
      = (Op.latch (completeStage env j (o.tickTime env) false)).exec w := by
    rw [advance_settles h.working h.current h.active]
    exact latch_congr ((runStage_settles h.settled).trans (settleStage_soaked h.soaked))
  obtain ⟨_, hok, hstuck⟩ := completeStage_soaking h.soaking hawaits w rfl
  have hlatch : ((Op.latch (completeStage env j (o.tickTime env) false)).exec w).2
      = ((completeStage env j (o.tickTime env) false).exec w).2 := by
    unfold Op.latch
    rw [exec_tryCatch]
    generalize (completeStage env j (o.tickTime env) false).exec w = result at hok ⊢
    obtain ⟨_, w'⟩ := result
    cases hok
    rfl
  have hafter : ((advance env (o.tickTime env)).exec (o.turn env k)).2
      = ((completeStage env j (o.tickTime env) false).exec w).2 := by rw [hexec, hlatch]
  have hstorage : (tick env o).2.impl.storageFailed = true :=
    hturn.storage ((congrArg (fun w => w.impl.storageFailed) hafter).trans hstuck.storage)
  refine ⟨fun hstops => ?_, hstorage, ?_⟩
  · rw [hstops.storage] at hstorage
    cases hstorage
  · rw [hturn.after]
    exact (congrArg (fun w => (w.rollout.stageAt j).state) hafter).trans hstuck.soaking

/-! ## A stage that soaks -/

/-- The clock moves whenever it is read. -/
def movingEnv : Env Nat where
  limits := volatileEnv.limits
  clock s := (⟨1000 + Int64.ofNat s⟩, s + 1)
  execution := some {
    dispatch _ s := ({ outcome := .accepted }, s)
    reconcile _ s := ({}, s)
    cancel _ s := (.success, s)
    poll s := ([], s) }
  health := none
  journal := none

/-- The stage soaks, and then waits at its evidence gate when its target failed. -/
def soakPlan : ChangePlan := { twinPlan with
  stages := twinPlan.stages.map fun stage => { stage with
    policy := { twinPolicy with
      entryGate := .automatic
      evidenceGate := { mode := .manual, soak := .fromNanos 1 } } } }

/-- One target is left to change. -/
def soakOrchestrator : Orchestrator Nat where
  impl := { twinOrchestrator.impl with
    outside := 0
    inventory := loneInventory }

def dispatchSoak : List Input :=
  [.create soakPlan {}, .arm twinRollout {}, .start twinRollout {}, .tick, .tick]

/-- The target fails, within the budget of the stage, and the stage soaks. -/
def soakOnce : List Input :=
  let dispatched := Node.running (soakOrchestrator.after movingEnv dispatchSoak)
  dispatchSoak ++ [.onEvidence (dispatched.report 0 .executionCompleted .failed), .tick]

def soakedOnce : Orchestrator Nat := soakOrchestrator.after movingEnv soakOnce

/-- What `complete_stage` is entered in by the tick after that. -/
def soakedWorld : World Nat :=
  ((settles movingEnv 0 (soakedOnce.tickTime movingEnv)).exec (soakedOnce.turn movingEnv 0)).2

theorem soakedOnce_checks :
    let now := soakedOnce.tickTime movingEnv
    let turn := soakedOnce.turn movingEnv 0
    let stage := soakedWorld.rollout.stageAt 0
    (soakedOnce.impl.shuttingDown = false ∧ soakedOnce.impl.storageFailed = false
        ∧ 0 < soakedOnce.held.length)
      ∧ (turn.rollout.state.working = true ∧ turn.rollout.currentStage = some 0
        ∧ (turn.rollout.stageAt 0).state.active = true
        ∧ ((settles movingEnv 0 now).exec turn).1.toOption = some true)
      ∧ (stage.state = .soaking ∧ stage.policy.evidenceGate.soak.isZero = false
        ∧ stage.soakStartedAt.isNil = false
        ∧ ¬ now.since stage.soakStartedAt < stage.policy.evidenceGate.soak)
      ∧ (stage.policy.evidenceGate.mode = .manual
        ∧ (evaluateEvidenceGate stage stage.policy.evidenceGate stage.evidenceRule now
          movingEnv.limits).satisfied = false)
      ∧ (((tick movingEnv soakedOnce).2.heldAt 0).rollout.stageAt 0).state = .soaking := by
  decide +kernel

theorem soakedOnce_completes : CompletesSoaked movingEnv soakedOnce 0 0 soakedWorld
    ∧ AwaitsOperator movingEnv (soakedWorld.rollout.stageAt 0) (soakedOnce.tickTime movingEnv) := by
  obtain ⟨⟨-, -, hrange⟩, ⟨hworking, hcurrent, hactive, hok⟩, ⟨hsoaking, hsoaked⟩,
    ⟨hmanual, hrefused⟩, -⟩ := soakedOnce_checks
  refine ⟨⟨hrange, hworking, hcurrent, hactive, ?_, hsoaking, hsoaked⟩, .evidence hmanual hrefused⟩
  unfold soakedWorld
  generalize (settles movingEnv 0 _).exec _ = result at hok ⊢
  obtain ⟨answer, w⟩ := result
  cases answer with
  | error s => cases hok
  | ok b =>
    cases hok
    rfl

theorem soakOrchestrator_initial : (Node.running soakOrchestrator).Initial :=
  .running _ rfl rfl rfl rfl

theorem soakedOnce_run :
    (Node.running soakOrchestrator).run movingEnv (soakOnce.map .input) = .running soakedOnce :=
  Node.run_inputs soakOrchestrator soakOnce

theorem soakedOnce_stuck :
    let o' := (tick movingEnv soakedOnce).2
    ¬ StopsForOperator o' 0 0 ∧ o'.impl.storageFailed = true
      ∧ ((o'.heldAt 0).rollout.stageAt 0).state = .soaking := by
  obtain ⟨⟨hup, hopened, -⟩, -⟩ := soakedOnce_checks
  obtain ⟨hcompletes, hawaits⟩ := soakedOnce_completes
  exact soaked_never_stops soakOrchestrator_initial _ soakedOnce_run hup hopened hcompletes hawaits

/-- The stage soaked, its manual evidence gate is not satisfied, and it is not gated. -/
theorem soakedOnce_not_gated : ∃ (steps : List (Step Nat)) (o : Orchestrator Nat) (w : World Nat),
    (Node.running soakOrchestrator).run movingEnv steps = .running o
      ∧ o.impl.shuttingDown = false ∧ o.impl.storageFailed = false
      ∧ CompletesSoaked movingEnv o 0 0 w
      ∧ AwaitsOperator movingEnv (w.rollout.stageAt 0) (o.tickTime movingEnv)
      ∧ ¬ StopsForOperator (tick movingEnv o).2 0 0 := by
  obtain ⟨⟨hup, hopened, -⟩, -, -, -, hsoaking⟩ := soakedOnce_checks
  obtain ⟨hcompletes, hawaits⟩ := soakedOnce_completes
  refine ⟨_, soakedOnce, soakedWorld, soakedOnce_run, hup, hopened, hcompletes, hawaits, ?_⟩
  intro hstops
  have hgated := hstops.stage
  rw [hsoaking] at hgated
  cases hgated

end RolloutFabric
