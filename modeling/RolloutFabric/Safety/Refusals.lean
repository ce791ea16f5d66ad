/-
A dispatch that the execution adapter does not accept: what `create_and_dispatch` puts back, and
the three fields of the target it does not.
-/
import RolloutFabric.Orchestrator.Standing
import RolloutFabric.Orchestrator.Turns
import RolloutFabric.Safety.Concurrency

namespace RolloutFabric

open Program

variable {ρ : Type} {env : Env ρ} {w : World ρ} {j i : Nat} {id : TargetId} {action : ActionSpec}
  {step : UInt32} {epoch : UInt64} {now : Timestamp}

/-! ## A refusal -/

/-- The adapter, where there is one, does not accept the attempt minted for the target. -/
def Refuses (env : Env ρ) (w : World ρ) (j : Nat) (id : TargetId) (action : ActionSpec)
    (epoch : UInt64) (now : Timestamp) : Prop :=
  ∀ execution, env.execution = some execution → ∀ i, (w.rollout.stageAt j).findTarget id = some i →
    let attempt := mintAttempt w (w.rollout.stageAt j) (w.rollout.targetAt j i) action epoch now
    (execution.dispatch (attempt.request action.parameters) w.impl.outside).1.isAccepted = false

/-- The rollout, the attempt table and the idempotency keys are as they were. -/
structure Untouched (w w' : World ρ) : Prop where
  rollout : w'.rollout = w.rollout
  attempts : w'.impl.attempts = w.impl.attempts
  attemptOrder : w'.impl.attemptOrder = w.impl.attemptOrder
  idempotencyKeys : w'.impl.idempotencyKeys = w.impl.idempotencyKeys
  idempotencyOrder : w'.impl.idempotencyOrder = w.impl.idempotencyOrder

/-- What a refused attempt writes to its target and leaves there. -/
def TargetRuntime.brush (t : TargetRuntime) (attempt : AttemptId) (now : Timestamp) :
    TargetRuntime :=
  { t with lastAttempt := attempt, dispatchedAt := now, lastChangeAt := now }

theorem TargetRuntime.brush_eq_self {t : TargetRuntime} {attempt : AttemptId} :
    t.brush attempt now = t
      ↔ t.lastAttempt = attempt ∧ t.dispatchedAt = now ∧ t.lastChangeAt = now := by
  cases t
  simp only [brush, mk.injEq, true_and, and_true]
  constructor
  · rintro ⟨hattempt, hdispatched, hchange⟩
    exact ⟨hattempt.symm, hdispatched.symm, hchange.symm⟩
  · rintro ⟨hattempt, hdispatched, hchange⟩
    exact ⟨hattempt.symm, hdispatched.symm, hchange.symm⟩

/-- A target that is found is one of the stage, and the stage one of the rollout. -/
theorem Rollout.lt_of_findTarget {r : Rollout} (h : (r.stageAt j).findTarget id = some i) :
    j < r.stages.length ∧ i < (r.stageAt j).targets.length := by
  have hi : i < (r.stageAt j).targets.length := by
    rw [StageRuntime.findTarget_core] at h
    simpa [StageRuntime.core] using (StageCore.findTarget_lt h).1
  refine ⟨?_, hi⟩
  by_contra hj
  have hnone : r.stages[j]? = none := List.getElem?_eq_none (by omega)
  have hempty : (r.stageAt j).targets = [] := by
    rw [Rollout.stageAt, List.getD_eq_getElem?_getD, hnone]
    rfl
  rw [hempty] at hi
  cases hi

theorem Rollout.target_of_findTarget {r : Rollout} (h : (r.stageAt j).findTarget id = some i) :
    (r.targetAt j i).target = id := by
  rw [StageRuntime.findTarget_core, Rollout.core_stageAt] at h
  exact (congrArg TargetCore.target (Rollout.core_targetAt r j i)).trans (StageCore.findTarget_lt h).2

/-- A list that is changed at one place is the same exactly when nothing changes there. -/
theorem modify_eq_self {α : Type} {l : List α} {f : α → α} (hi : i < l.length) :
    l.modify i f = l ↔ f l[i] = l[i] := by
  constructor
  · intro h
    have hat : (l.modify i f)[i]? = l[i]? := by rw [h]
    simpa [hi] using hat
  · intro h
    apply List.ext_getElem?
    intro n
    rw [List.getElem?_modify]
    split
    · next hn =>
      subst hn
      simp [hi, h]
    · simp

theorem Rollout.modifyStage_eq_self {r : Rollout} {f : StageRuntime → StageRuntime}
    (hj : j < r.stages.length) : r.modifyStage j f = r ↔ f (r.stageAt j) = r.stageAt j := by
  have hstage : r.stages[j] = r.stageAt j := by simp [stageAt, hj]
  have hself := modify_eq_self (f := f) hj
  rw [hstage] at hself
  rw [← hself]
  exact ⟨fun h => congrArg Rollout.stages h, fun h => by rw [modifyStage, h]⟩

/-- The rollout keeps its targets exactly when the change is none on the one it is about. -/
theorem Rollout.modifyTarget_eq_self {r : Rollout} {f : TargetRuntime → TargetRuntime}
    (hj : j < r.stages.length) (hi : i < (r.stageAt j).targets.length) :
    r.modifyTarget j i f = r ↔ f (r.targetAt j i) = r.targetAt j i := by
  have htarget : (r.stageAt j).targets[i] = r.targetAt j i := by simp [targetAt, hi]
  have hself := modify_eq_self (f := f) hi
  rw [htarget] at hself
  rw [modifyTarget, modifyStage_eq_self hj, ← hself]
  exact ⟨fun h => congrArg StageRuntime.targets h, fun h => by rw [h]⟩

/-- A refused dispatch: the target keeps the attempt it was offered under and the time. -/
theorem createAndDispatch_refused {execution : ExecutionAdapter ρ} {w' : World ρ}
    (hexecution : env.execution = some execution)
    (hfind : (w.rollout.stageAt j).findTarget id = some i)
    (h : Refuses env w j id action epoch now)
    (hw : ((createAndDispatch env j id action step epoch now).exec w).2 = w') :
    w'.rollout = w.rollout.modifyTarget j i (fun t =>
        t.brush (w.impl.ids.next .attempt .attempt).1 now)
      ∧ w'.impl.attempts = w.impl.attempts ∧ w'.impl.attemptOrder = w.impl.attemptOrder
      ∧ w'.impl.idempotencyKeys = w.impl.idempotencyKeys
      ∧ w'.impl.idempotencyOrder = w.impl.idempotencyOrder := by
  have hanswer := h execution hexecution i hfind
  dsimp only at hanswer
  subst hw
  unfold createAndDispatch
  simp only [exec_bind, exec_get, hfind, hexecution, Op.updateImpl, Op.updateTarget,
    Op.updateRollout, Op.updateCounters, Op.log, Op.ask, Op.read, exec_modify, exec_pure, hanswer,
    Bool.not_false, if_true]
  exact ⟨rfl, trivial, trivial, trivial, trivial⟩

/-! ## When a refusal leaves no trace -/

/-- The target was last offered under the identifier that is minted next, at this very time. -/
def TargetRuntime.Brushed (t : TargetRuntime) (ids : IdFactory) (now : Timestamp) : Prop :=
  t.lastAttempt = (ids.next .attempt .attempt).1 ∧ t.dispatchedAt = now ∧ t.lastChangeAt = now

/-- It has no worker to hand an attempt to. -/
def idleAdapter : ExecutionAdapter Unit := { promptAdapter with
  dispatch _ s := ({ outcome := .unavailable }, s) }

def idleEnv : Env Unit := { volatileEnv with execution := some idleAdapter }

/-- The first stage is past its entry gate, and nothing was dispatched yet. -/
def idleWorld : World Unit :=
  (twinOrchestrator.after idleEnv [.create twinPlan {}, .arm twinRollout {}, .start twinRollout {},
    .tick, .approveGate twinRollout twinGated.pendingGate {}]).world 0 {}

/-- The first target is offered to the adapter. -/
def idleDispatch : Op Unit Unit :=
  createAndDispatch idleEnv 0 (idOf 1) ((primaryAction (idleWorld.rollout.stageAt 0)).getD default)
    0 1 ⟨1000⟩

end RolloutFabric
