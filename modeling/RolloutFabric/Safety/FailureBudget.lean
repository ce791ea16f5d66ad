/-
The failure budget of a stage: what `complete_stage` does where no more targets failed than it
tolerates.
-/
import RolloutFabric.Safety.Approvals
import RolloutFabric.Safety.EvidenceMeaning

namespace RolloutFabric

open Program

variable {ρ : Type} {env : Env ρ} {w : World ρ} {r : Rollout} {j : Nat} {now : Timestamp}

/-! ## A stage that does not succeed -/

/-- The stage has not succeeded, in what transitions go by. -/
def Unsucceeded (j : Nat) (c : RolloutState × UInt32 × List StageRuntime) : Prop :=
  (c.2.2.getD j default).state ≠ .succeeded

/-- A change of stages that makes none succeed. -/
theorem Unsucceeded.modify {s s' : RolloutState} {c c' : UInt32} {stages : List StageRuntime}
    {f : StageRuntime → StageRuntime} {k : Nat} (h : Unsucceeded j (s, c, stages))
    (hf : ∀ t, t.state ≠ .succeeded → (f t).state ≠ .succeeded) :
    Unsucceeded j (s', c', stages.modify k f) := by
  unfold Unsucceeded at h ⊢
  simp only [List.getD_eq_getElem?_getD, List.getElem?_modify] at h ⊢
  by_cases hk : k = j
  · subst hk
    cases hat : stages[k]? with
    | none => simp; decide
    | some t =>
      rw [hat] at h
      simpa using hf t h
  · simpa [hk] using h

section

variable {E : Status → World ρ → Prop}

theorem persistRollout_unsucceeded : Triple (fun w => Unsucceeded j w.rollout.course)
    (persistRollout env) (fun _ w => Unsucceeded j w.rollout.course)
    fun _ w => Unsucceeded j w.rollout.course :=
  .weaken persistRollout_spec (fun _ h => h) (fun _ _ h => h) fun _ _ h => h.2

/-- A transition that is not the success of the stage. -/
theorem stageTransition_unsucceeded {next : StageState} {counted : Bool}
    (hnext : next ≠ .succeeded) : Triple (fun w => Unsucceeded j w.rollout.course)
    (stageTransition env j next now counted) (fun _ w => Unsucceeded j w.rollout.course)
    fun _ w => Unsucceeded j w.rollout.course := by
  unfold stageTransition Op.stage
  refine triple_read_bind fun w hw => ?_
  split
  · exact .pure fun _ h => h
  split
  · refine .bind (Q := fun _ w => Unsucceeded j w.rollout.course)
      (fun w hw => ⟨.refl, fun _ _ => ?_, fun e he => by cases he⟩) fun _ => ?_
    · exact hw.modify fun t _ => hnext
    · exact .skip (countTransition_spec fun _ _ h => h) fun _ => persistRollout_unsucceeded
  · exact .throw fun _ h => h

theorem transition_unsucceeded {next : RolloutState} {reason : Bytes} {counted : Bool} :
    Triple (fun w => Unsucceeded j w.rollout.course) (transition env next reason now counted)
      (fun _ w => Unsucceeded j w.rollout.course) fun _ w => Unsucceeded j w.rollout.course := by
  unfold transition
  refine triple_read_bind fun w hw => ?_
  split
  · exact .pure fun _ h => h
  split
  · refine .skip (fun w hw => ⟨.refl, fun _ _ => hw, fun e he => by cases he⟩) fun _ =>
      .skip (countTransition_spec fun _ _ h => h) fun _ => persistRollout_unsucceeded
  · exact .throw fun _ h => h

theorem updateStage_unsucceeded {f : StageRuntime → StageRuntime} (hf : ∀ t, (f t).state = t.state) :
    Triple (fun w => Unsucceeded j w.rollout.course) (Op.updateStage j f)
      (fun _ w => Unsucceeded j w.rollout.course) E :=
  .modify fun w hw => Unsucceeded.modify (j := j) hw fun t ht => by rw [hf]; exact ht

theorem enterTarget_unsucceeded {k i : Nat} {state : TargetState} {record : Option EvidenceRecord}
    {f : TargetRuntime → TargetRuntime} :
    Triple (fun w => Unsucceeded j w.rollout.course) (Op.enterTarget (ρ := ρ) k i state record f)
      (fun _ w => Unsucceeded j w.rollout.course) E := by
  refine fun w hw => ⟨.refl, fun _ _ => ?_, fun e he => by cases he⟩
  rw [Op.exec_enterTarget]
  exact Unsucceeded.modify hw fun t ht => ht

/-- A step that is only made in one case, before the rest. -/
theorem triple_unless {P : World ρ → Prop} {β : Type} {Q : β → World ρ → Prop} {c : Prop}
    [Decidable c] {m : Op ρ Unit} {k : Unit → Op ρ β} (hm : Triple P m (fun _ => P) E)
    (hk : Triple P (k ()) Q E) : Triple P (if c then m >>= k else k ()) Q E := by
  split
  · exact .skip hm fun _ => hk
  · exact hk

theorem beginRollback_unsucceeded {reason : Bytes} :
    Triple (fun w => Unsucceeded j w.rollout.course) (beginRollback env reason now)
      (fun _ w => Unsucceeded j w.rollout.course) fun _ w => Unsucceeded j w.rollout.course := by
  unfold beginRollback
  refine triple_read_bind fun w hw => ?_
  refine triple_unless transition_unsucceeded (triple_read_bind fun w hw => ?_)
  refine .skip (.forM fun k _ => .forM fun i _ => ?_) fun _ => .skip (commit_spec _) fun _ =>
    .skip (countDecision_spec fun _ _ h => h) fun _ => persistRollout_unsucceeded
  refine triple_read_bind fun _ _ => triple_read_bind fun _ _ => ?_
  split
  · exact enterTarget_unsucceeded
  · exact .pure fun _ h => h

theorem failRollout_unsucceeded {reason : Bytes} :
    Triple (fun w => Unsucceeded j w.rollout.course) (failRollout env reason now)
      (fun _ w => Unsucceeded j w.rollout.course) fun _ w => Unsucceeded j w.rollout.course := by
  unfold failRollout
  refine triple_read_bind fun w hw => ?_
  split
  · exact .pure fun _ h => h
  split
  · exact .skip transition_unsucceeded fun _ => transition_unsucceeded
  · exact transition_unsucceeded

theorem failStage_unsucceeded {reason : Bytes} :
    Triple (fun w => Unsucceeded j w.rollout.course) (failStage env j reason now)
      (fun _ w => Unsucceeded j w.rollout.course) fun _ w => Unsucceeded j w.rollout.course := by
  unfold failStage
  refine .skip (stageTransition_unsucceeded (by decide)) fun _ => triple_get_bind fun w hw => ?_
  split
  · exact beginRollback_unsucceeded
  · exact failRollout_unsucceeded

theorem openGate_unsucceeded {kind : GateKind} :
    Triple (fun w => Unsucceeded j w.rollout.course) (openGate env j kind now)
      (fun _ w => Unsucceeded j w.rollout.course) E := by
  unfold openGate
  refine triple_read_bind fun w _ => .skip (.modify fun _ h => h) fun _ =>
    .skip (updateStage_unsucceeded fun _ => rfl) fun _ => ?_
  refine .tryCatch (E := fun _ w => Unsucceeded j w.rollout.course) ?_ fun _ => .modify fun _ h => h
  refine .skip (stageTransition_unsucceeded (by decide)) fun _ => triple_read_bind fun w hw => ?_
  split
  · exact transition_unsucceeded
  · exact .pure fun _ h => h

/-- A completion stops where the evidence gate is not satisfied and nobody approved it. -/
theorem completeStage_stops (h : (evaluateEvidenceGate (r.stageAt j)
      (r.stageAt j).policy.evidenceGate (r.stageAt j).evidenceRule now env.limits).satisfied = false)
    (hr : (r.stageAt j).state ≠ .succeeded) :
    Triple (fun w => w.rollout.course = r.course) (completeStage env j now false)
      (fun _ w => Unsucceeded j w.rollout.course) fun _ w => Unsucceeded j w.rollout.course := by
  unfold completeStage
  refine triple_get_bind fun w hw => ?_
  dsimp only
  rw [Rollout.stageAt_of_course hw]
  generalize healthEvaluation env (r.stageAt j) now = health
  generalize evaluateEvidenceGate (r.stageAt j) _ _ now env.limits = evidence at h ⊢
  refine .weaken (P := fun w => Unsucceeded j w.rollout.course) ?_
    (fun w hw => by rw [hw]; exact hr) (fun _ _ h => h) fun _ _ h => h
  refine .skip (.modify fun _ h => h) fun _ => .skip (updateStage_unsucceeded fun _ => rfl) fun _ =>
    .skip (.modify fun _ h => h) fun _ => .skip (updateStage_unsucceeded fun _ => rfl) fun _ =>
    .skip (.modify fun _ h => h) fun _ => ?_
  rw [if_pos (by simp [h])]
  split
  · refine triple_read_bind fun w _ => .skip (commit_spec _) fun _ =>
      .skip (countDecision_spec fun _ _ h => h) fun _ => openGate_unsucceeded
  · refine .skip (commit_spec _) fun _ => .skip (countDecision_spec fun _ _ h => h) fun _ =>
      failStage_unsucceeded

end

/-! ## The budget -/

/-- The targets of a stage that has soaked are all terminal, no more failed than the budget
tolerates, the others succeeded and are verified where the stage asks for it, and the health gate
and the healthy fraction are met. -/
structure Tolerable (env : Env ρ) (stage : StageRuntime) (now : Timestamp) : Prop where
  others : ∀ t ∈ stage.targets, t.state.countsAsFailed = true ∨ t.state = .succeeded
    ∧ (stage.evidenceRule.requireVerification = true →
      t.Verified stage.policy.evidenceGate now env.limits)
  budget : stage.failedCount ≤ (failureBudget stage).toNat
  health : (healthEvaluation env stage now).satisfied = true
  fraction : stage.policy.minHealthyFraction.satisfiedBy stage.healthyCount.toUInt32.toUInt64
    stage.targets.length.toUInt64 = true
  soaked : ¬ stage.Soaks stage.policy.evidenceGate now

/-- A stage that `complete_stage` is asked about: `run_stage` runs it, in a rollout that advances. -/
structure Rollout.Runs (r : Rollout) (j : Nat) : Prop where
  stage : j < r.stages.length
  stageState : (r.stageAt j).state = .running ∨ (r.stageAt j).state = .soaking
  state : r.state = .running ∨ r.state = .soaking ∨ r.state = .advancing

theorem Rollout.Runs.completable (h : r.Runs j) : r.Completable j := by
  constructor
  · rcases h.stageState with hs | hs <;> rw [hs] <;> rfl
  · unfold Rollout.afterStage
    rcases h.state with hs | hs | hs <;> rw [hs] <;> split <;> rfl

/-- No target failed, and the sample bound of a partial coverage is within the cohort. -/
def StageRuntime.Flawless (s : StageRuntime) : Prop :=
  s.failedCount = 0 ∧ (s.evidenceRule.requireVerification = true →
    s.policy.evidenceGate.requireFullCoverage = true
      ∨ s.policy.evidenceGate.minPassingSamples.toNat ≤ s.targets.length)

theorem StagePolicy.minPassingFraction_valid {p : StagePolicy} {limits : RuntimeLimits}
    (h : (p.validate limits).isOk = true) :
    p.evidenceGate.minPassingFraction.validate.isOk = true := by
  have hall := (firstFailure_isOk _).1 h
    (validateRatio p.evidenceGate.minPassingFraction (text "evidence_gate.min_passing_fraction"))
    (by simp)
  rwa [validateRatio_isOk] at hall

/-- The share of a population that a valid ratio asks for is within the population. -/
theorem Ratio.applyCeil_le {r : Ratio} (h : r.validate.isOk = true) (value : UInt64) :
    r.applyCeil value ≤ value := by
  obtain ⟨-, hle⟩ := Ratio.validate_isOk.1 h
  rw [UInt64.le_iff_toNat_le, Ratio.applyCeil_le_iff h]
  exact Nat.mul_le_mul_left _ hle

theorem Tolerable.terminal {stage : StageRuntime} (h : Tolerable env stage now)
    {t : TargetRuntime} (ht : t ∈ stage.targets) : t.state.isTerminal = true := by
  rcases h.others t ht with hfailed | ⟨hsucceeded, -⟩
  · generalize t.state = state at hfailed
    cases state <;> simp_all [TargetState.countsAsFailed, TargetState.isTerminal]
  · rw [hsucceeded]
    rfl

theorem Tolerable.evidence_iff {stage : StageRuntime} (h : Tolerable env stage now)
    (hvalid : (stage.policy.validate env.limits).isOk = true)
    (hsize : stage.targets.length < 2 ^ 32) :
    (evaluateEvidenceGate stage stage.policy.evidenceGate stage.evidenceRule now
      env.limits).satisfied = true ↔ stage.Flawless := by
  have hterminal : stage.targets.length ≤ stage.terminalCount :=
    (List.countP_eq_length.2 fun t ht => h.terminal ht).ge
  rw [evaluateEvidenceGate_satisfied, StageRuntime.Flawless]
  simp only [h.soaked, hterminal, not_false_eq_true, true_and]
  refine and_congr_right fun hnone => imp_congr_right fun hrule => ?_
  have hverified : stage.verifiedFor stage.policy.evidenceGate now env.limits
      = stage.targets.length := by
    refine List.countP_eq_length.2 fun t ht => decide_eq_true ?_
    rcases h.others t ht with hfailed | ⟨-, hverified⟩
    · exact absurd hfailed (List.countP_eq_zero.1 hnone t ht)
    · exact hverified hrule
  rw [hverified]
  split
  · next hfull => simp [hfull]
  · next hpart =>
    have hlength : stage.targets.length.toUInt64.toNat = stage.targets.length := by
      rw [UInt64.toNat_ofNat']
      exact Nat.mod_eq_of_lt (by omega)
    rw [uint64_max_le, UInt64.le_iff_toNat_le, UInt32.toNat_toUInt64, hlength]
    simp [hpart, Ratio.applyCeil_le (StagePolicy.minPassingFraction_valid hvalid)]

theorem Tolerable.advance {stage : StageRuntime} (h : Tolerable env stage now) :
    (evaluateAdvanceGate stage now env.limits).satisfied = true := by
  have hpending : stage.pendingCount = 0 := by
    refine List.countP_eq_zero.2 fun t ht hpending => ?_
    have hterminal := h.terminal ht
    rw [eq_of_beq hpending] at hterminal
    cases hterminal
  have hbudget : ¬ failureBudget stage < stage.failedCount.toUInt32.toUInt64 := by
    rw [UInt64.lt_iff_toNat_lt, UInt32.toNat_toUInt64, UInt32.toNat_ofNat', not_lt]
    exact (Nat.mod_le _ _).trans h.budget
  unfold evaluateAdvanceGate baseEvaluation
  dsimp only
  rw [if_neg (by simp [hpending]), if_neg hbudget, if_neg (by simp [h.fraction])]

/-- A stage within its failure budget is passed exactly when nothing failed that the budget is
for. -/
theorem budget_tolerates_iff (hr : w.rollout.Runs j)
    (h : Tolerable env (w.rollout.stageAt j) now)
    (hvalid : ((w.rollout.stageAt j).policy.validate env.limits).isOk = true)
    (hsize : (w.rollout.stageAt j).targets.length < 2 ^ 32)
    (hstored : ∀ s, ((completeStage env j now false).exec w).1 = .error s →
      ¬ StorageFailure env.limits ((completeStage env j now false).exec w).2.impl s) :
    w.rollout.Passes j ((completeStage env j now false).exec w).2.rollout
      ↔ (w.rollout.stageAt j).Flawless := by
  rw [← h.evidence_iff hvalid hsize]
  constructor
  · intro hpasses
    by_contra hnot
    have hstops := @completeStage_stops _ env w.rollout j now
      (by simpa using hnot) (by rcases hr.stageState with hs | hs <;> rw [hs] <;> decide) w rfl
    have hunsucceeded : Unsucceeded j
        ((completeStage env j now false).exec w).2.rollout.course := by
      cases hrun : ((completeStage env j now false).exec w).1 with
      | ok a => exact hstops.2.1 a hrun
      | error s => exact hstops.2.2 s hrun
    exact hunsucceeded hpasses.1
  · intro hevidence
    have hpass := @completeStage_passes _ env w.rollout _ now hr.stage false
      (.inr ⟨hevidence, h.advance⟩) w rfl
    cases hrun : ((completeStage env j now false).exec w).1 with
    | ok a => exact (hpass.2.1 a hrun).2
    | error s =>
      rcases (hpass.2.2 s hrun).1 with hstorage | himpossible
      · exact absurd hstorage (hstored s hrun)
      · exact absurd hr.completable himpossible

/-! ### One target of two -/

/-- A running stage of two targets in these states, which tolerates one failure. -/
def budgetRollout (first second : TargetState) : Rollout where
  state := .running
  stages := [{
    state := .running
    policy := {
      healthGate := { enabled := false }
      minHealthyFraction := ratio 0 1
      failureBudgetTargets := 1 }
    targets := [{ target := idOf 1, state := first }, { target := idOf 2, state := second }] }]

def budgetWorld (first second : TargetState) : World Unit where
  impl := twinOrchestrator.impl
  rollout := budgetRollout first second

theorem budgetRollout_runs (first second : TargetState) : (budgetRollout first second).Runs 0 :=
  ⟨Nat.one_pos, .inl rfl, .inl rfl⟩

theorem budgetRollout_tolerable {first second : TargetState} (hfirst : first = .succeeded)
    (hsecond : second = .succeeded ∨ second = .exhausted) :
    Tolerable volatileEnv ((budgetRollout first second).stageAt 0) ⟨1000⟩ := by
  subst hfirst
  constructor
  · rintro t ht
    rcases List.mem_pair.1 ht with rfl | rfl
    · exact .inr ⟨rfl, nofun⟩
    · rcases hsecond with rfl | rfl
      · exact .inr ⟨rfl, nofun⟩
      · exact .inl rfl
  · rcases hsecond with rfl | rfl <;> decide +kernel
  · rcases hsecond with rfl | rfl <;> decide +kernel
  · rcases hsecond with rfl | rfl <;> decide +kernel
  · rintro ⟨hsoak, -⟩
    cases hsoak

theorem budget_tolerates_iff_succeeded :
    (budgetRollout .succeeded .succeeded).Passes 0
        ((completeStage volatileEnv 0 ⟨1000⟩ false).exec
          (budgetWorld .succeeded .succeeded)).2.rollout
      ↔ ((budgetRollout .succeeded .succeeded).stageAt 0).Flawless := by
  refine budget_tolerates_iff (w := budgetWorld .succeeded .succeeded) (budgetRollout_runs _ _)
    (budgetRollout_tolerable rfl (.inl rfl)) (by decide +kernel) (by show 2 < 2 ^ 32; decide)
    fun s hs => ?_
  have hok : ((completeStage volatileEnv 0 ⟨1000⟩ false).exec
      (budgetWorld .succeeded .succeeded)).1.isOk = true := by decide +kernel
  rw [hs] at hok
  cases hok

/-- The failure that the budget tolerates fails the stage. -/
theorem tolerated_failure_fails_stage :
    (budgetRollout .succeeded .exhausted).Runs 0
      ∧ Tolerable volatileEnv ((budgetRollout .succeeded .exhausted).stageAt 0) ⟨1000⟩
      ∧ (((completeStage volatileEnv 0 ⟨1000⟩ false).exec
          (budgetWorld .succeeded .exhausted)).2.rollout.stageAt 0).state = .failed :=
  ⟨budgetRollout_runs _ _, budgetRollout_tolerable rfl (.inr rfl), by decide +kernel⟩

end RolloutFabric
