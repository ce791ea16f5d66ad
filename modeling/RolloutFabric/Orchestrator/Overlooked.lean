/-
What evidence leaves alone: a view of the rollout that overlooks one target, but for what others
vouch for, and the stage around it, is kept by every record that names the target, except a
verification.
-/
import RolloutFabric.Orchestrator.Standing

namespace RolloutFabric

open Program

variable {ρ V : Type} {env : Env ρ}

/-! ## What others vouch for -/

/-- The health and the verification of a target. -/
structure Attested where
  target : TargetId
  healthy : Bool
  consecutiveHealthy : UInt32
  healthySince : Timestamp
  lastHealthyAt : Timestamp
  lastHealthOriginLive : Bool
  lastHealthSource : HealthSourceId
  verificationObservedAt : Timestamp
  verificationPassed : Bool
  verificationVerifier : VerifierId
deriving DecidableEq

def TargetRuntime.attested (t : TargetRuntime) : Attested where
  target := t.target
  healthy := t.healthy
  consecutiveHealthy := t.consecutiveHealthy
  healthySince := t.healthySince
  lastHealthyAt := t.lastHealthyAt
  lastHealthOriginLive := t.lastHealthOriginLive
  lastHealthSource := t.lastHealthSource
  verificationObservedAt := t.verificationObservedAt
  verificationPassed := t.verificationPassed
  verificationVerifier := t.verificationVerifier

/-! ## Overlooking a target -/

/-- The view shows nothing of the stage at `j` but its targets, and of the target at `i` at most
what others vouch for. -/
structure Overlooks (view : Rollout → V) (j i : Nat) : Prop where
  settled : ∀ r, view r.settled = view r
  target : ∀ (r : Rollout) (f : TargetRuntime → TargetRuntime),
    (∀ t, (f t).attested = t.attested) → view (r.modifyTarget j i f) = view r
  stage : ∀ (r : Rollout) (f : StageRuntime → StageRuntime),
    (∀ s, (f s).targets = s.targets) → view (r.modifyStage j f) = view r

namespace Overlooks

variable {view : Rollout → V} {j i : Nat} {record : EvidenceRecord} {now : Timestamp}

theorem standing_frames {α : Type} {m : Op ρ α} (h : Overlooks view j i)
    (hm : Frames World.standing m) : Frames (fun w => view w.rollout) m := by
  intro w
  have hsettled : (m.exec w).2.rollout.settled = w.rollout.settled :=
    congrArg Standing.rollout (hm w)
  show view (m.exec w).2.rollout = view w.rollout
  rw [← h.settled, hsettled, h.settled]

theorem commit_frames (h : Overlooks view j i) (fill : World ρ → DecisionBuilder) :
    Frames (fun w => view w.rollout) (commit env now fill) :=
  h.standing_frames (Effects.frames fun _ => effects_commit fill)

theorem release_frames (h : Overlooks view j i) :
    Frames (fun w => view w.rollout) (Op.releaseOutstanding (ρ := ρ)) := by
  intro w
  have hsettled : ((Op.releaseOutstanding (ρ := ρ)).exec w).2.rollout.settled = w.rollout.settled :=
    rfl
  show view ((Op.releaseOutstanding (ρ := ρ)).exec w).2.rollout = view w.rollout
  rw [← h.settled, hsettled, h.settled]

theorem updateTarget_frames (h : Overlooks view j i) {f : TargetRuntime → TargetRuntime}
    (hf : ∀ t, (f t).attested = t.attested) :
    Frames (fun w => view w.rollout) (Op.updateTarget (ρ := ρ) j i f) :=
  fun w => h.target w.rollout f hf

theorem updateStage_frames (h : Overlooks view j i) {f : StageRuntime → StageRuntime}
    (hf : ∀ s, (f s).targets = s.targets) :
    Frames (fun w => view w.rollout) (Op.updateStage (ρ := ρ) j f) :=
  fun w => h.stage w.rollout f hf

theorem enterTarget_frames (h : Overlooks view j i) {state : TargetState}
    {f : TargetRuntime → TargetRuntime} {record : Option EvidenceRecord}
    (hf : ∀ t, (f t).attested = t.attested) :
    Frames (fun w => view w.rollout) (Op.enterTarget (ρ := ρ) j i state record f) :=
  fun w => h.target w.rollout _ fun t => hf t

/-! ## Records -/

theorem retryOrExhaust_frames (h : Overlooks view j i) :
    Frames (fun w => view w.rollout) (retryOrExhaust env j i now) := by
  unfold retryOrExhaust
  refine .bind (fun _ => rfl) fun stage => .bind (fun _ => rfl) fun target => ?_
  split
  · refine .bind (h.enterTarget_frames fun _ => rfl) fun _ => ?_
    exact .bind (h.commit_frames _) fun _ => fun _ => rfl
  · dsimp only
    split
    · refine .bind (h.enterTarget_frames fun _ => rfl) fun _ => ?_
      exact .bind (h.commit_frames _) fun _ => fun _ => rfl
    · exact .bind (h.commit_frames _) fun _ => fun _ => rfl

theorem applyTerminalExecution_frames (h : Overlooks view j i) {attempt : Attempt} :
    Frames (fun w => view w.rollout) (applyTerminalExecution env record j i attempt now) := by
  unfold applyTerminalExecution
  refine .bind (fun _ => rfl) fun _ => .bind h.release_frames fun _ => .bind (fun _ => rfl) fun t => ?_
  split
  · refine .bind (fun _ => rfl) fun _ => .bind (h.enterTarget_frames fun _ => rfl) fun _ => ?_
    exact h.updateStage_frames fun _ => rfl
  split
  · exact fun _ => rfl
  split
  · refine .bind (fun _ => rfl) fun _ => .bind (h.enterTarget_frames fun _ => rfl) fun _ => ?_
    refine .bind (h.updateStage_frames fun _ => rfl) fun _ => .bind (fun _ => rfl) fun _ => ?_
    exact .bind (fun _ => rfl) fun _ => .bind (h.commit_frames _) fun _ => fun _ => rfl
  · refine .bind (fun _ => rfl) fun _ => .bind (h.enterTarget_frames fun _ => rfl) fun _ => ?_
    exact .bind (h.updateStage_frames fun _ => rfl) fun _ => h.retryOrExhaust_frames

theorem applyCompensation_frames (h : Overlooks view j i) :
    Frames (fun w => view w.rollout) (applyCompensation env record j i now) := by
  unfold applyCompensation
  refine .bind h.release_frames fun _ => .bind (fun _ => rfl) fun _ => .bind (fun _ => rfl) fun s => ?_
  split
  · refine .bind (h.updateTarget_frames fun _ => rfl) fun _ => .bind (fun _ => rfl) fun t => ?_
    split
    · exact .bind (h.enterTarget_frames fun _ => rfl) fun _ => h.updateStage_frames fun _ => rfl
    · exact .pure _
  · refine .bind (h.enterTarget_frames fun _ => rfl) fun _ => ?_
    refine .bind (h.updateStage_frames fun _ => rfl) fun _ => .bind (fun _ => rfl) fun t => ?_
    exact .bind (h.commit_frames _) fun _ => fun _ => rfl

theorem applyCancellation_frames (h : Overlooks view j i) :
    Frames (fun w : World ρ => view w.rollout) (applyCancellation record j i) := by
  unfold applyCancellation
  refine .bind (fun _ => rfl) fun _ => .bind h.release_frames fun _ => .bind (fun _ => rfl) fun t => ?_
  have hrest : Frames (fun w => view w.rollout) (do
      Op.updateTarget (ρ := ρ) j i fun t => { t with
        currentAttempt := .nil, lastReason := text "the executor acknowledged the cancellation" }
      Op.updateStage j fun s => { s with cancelledTotal := s.cancelledTotal + 1 }) :=
    .bind (h.updateTarget_frames fun _ => rfl) fun _ => h.updateStage_frames fun _ => rfl
  dsimp only
  split
  · exact .bind (h.enterTarget_frames fun _ => rfl) fun _ => hrest
  · exact hrest

/-- Every class of evidence but a verification is overlooked. -/
theorem applyClass_frames (h : Overlooks view j i) {attempt : Attempt}
    (hclass : evidenceClass record.kind ≠ .verification) :
    Frames (fun w => view w.rollout) (applyClass env record j i attempt now) := by
  unfold applyClass
  cases hc : evidenceClass record.kind with
  | verification => exact absurd hc hclass
  | telemetry | acceptance => exact .pure _
  | cancellation => exact h.applyCancellation_frames
  | execution =>
    refine .bind (fun _ => rfl) fun t => ?_
    split
    · exact .pure _
    split
    · exact h.applyCompensation_frames
    · exact h.applyTerminalExecution_frames
  | compensation => exact h.applyCompensation_frames

end Overlooks

/-- A record that is applied leaves alone what its class does, of a target that is found. -/
theorem applyEvidence_kept (view : Rollout → V) {record : EvidenceRecord} {now : Timestamp}
    {j i : Nat} {a : Attempt} {w : World ρ}
    (hstage : w.rollout.findStage record.stage = some j)
    (htarget : (w.rollout.stageAt j).findTarget record.target = some i)
    (ha : w.impl.attempts.lookup record.attempt = some a)
    (hclass : Frames (fun w => view w.rollout) (applyClass env record j i a now)) :
    view ((Op.latch (applyEvidence env record now)).exec w).2.rollout = view w.rollout := by
  let body : Op ρ Unit := do
    Op.log (.applied record a w.rollout.generation (w.rollout.targetAt j i).currentAttempt)
    Op.updateAttempt record.attempt fun a => a.heard record
    applyClass env record j i a now
    persistRollout env
  have hpersist : Frames (fun w => view w.rollout) (persistRollout env) :=
    persistRollout_frames.map (g := fun b => view b.1)
  have hbody : Frames (fun w => view w.rollout) body :=
    .bind (fun _ => rfl) fun _ => .bind (fun _ => rfl) fun _ => .bind hclass fun _ => hpersist
  have hrun : (applyEvidence env record now).exec w = body.exec w := by
    unfold applyEvidence
    rw [exec_bind_ok (exec_get w)]
    simp only [hstage, htarget, ha]
    rfl
  have hlatch : (Op.latch (applyEvidence env record now)).exec w = (Op.latch body).exec w := by
    simp only [Op.latch, exec_tryCatch, hrun]
  have hframes : Frames (fun w => view w.rollout) (Op.latch body) :=
    .tryCatch hbody fun _ => fun _ => rfl
  rw [hlatch]
  exact hframes w

end RolloutFabric
