/-
What every function of the state machine but a dispatch does to the tally of its rollout: it
settles targets, writes the journal, and leaves the counts alone.
-/
import RolloutFabric.Safety.Refusals
import RolloutFabric.Safety.Tally

namespace RolloutFabric

open Program

variable {ρ : Type} {env : Env ρ} {I : Tally → Prop} {strict : Prop} {now : Timestamp} {j i : Nat}
  {p : StagePolicy} {t : TargetTally}

/-! ## Followers -/

namespace TargetTally

/-- A new state, with the current attempt kept. -/
theorem Follows.kept {state : TargetState} (hr : t.state ≠ .rollingBack)
    (htried : state.touched = true → t.Tried) (hlive : state.forward = true → t.Live)
    (haloft : TargetTally.Aloft { t with state } → t.Aloft) : t.Follows { t with state } where
  target := rfl
  attempts := rfl
  tried := fun h => h.elim htried .inr
  live := fun h => h.elim hlive fun hc => .inr ⟨hc.1, hr⟩
  aloft := haloft

/-- A new state, with the current attempt given up. -/
theorem Follows.cleared {state : TargetState} (htried : state.touched = true → t.Tried)
    (hlive : state.forward = true → t.Live)
    (haloft : TargetTally.Aloft { t with state } → t.Aloft) :
    t.Follows { t with state, currentAttempt := .nil } where
  target := rfl
  attempts := rfl
  tried := fun h => h.elim htried fun hc => absurd rfl hc
  live := fun h => h.elim hlive fun hc => absurd rfl hc.1
  aloft := haloft

/-- The current attempt is given up. -/
theorem Follows.forget : t.Follows { t with currentAttempt := .nil } :=
  .cleared .inl .inl id

theorem Aloft.ne_rollingBack (h : t.Aloft) : t.state ≠ .rollingBack := by
  rcases h with h | h <;> simp [h]

theorem Aloft.tried (h : t.Aloft) : t.Tried := by
  rcases h with h | h <;> exact .inl (by rw [h]; rfl)

theorem Aloft.live (h : t.Aloft) : t.Live := by
  rcases h with h | h <;> exact .inl (by rw [h]; rfl)

theorem not_aloft {state : TargetState} (hd : state ≠ .dispatched) (hu : state ≠ .unknown) :
    ¬ TargetTally.Aloft { t with state } := fun h => h.elim hd hu

end TargetTally

open TargetTally

/-! ## Evidence -/

theorem retryOrExhaust_settles (hI : Settled strict I) (ht : t.state = .failed) :
    Settles I j i p t (retryOrExhaust env j i now) := by
  unfold retryOrExhaust
  have hlive : t.Live := .inl (by rw [ht]; rfl)
  have htried : t.Tried := .inl (by rw [ht]; rfl)
  refine .stage_bind fun stage hstage => .target_bind fun target htarget => ?_
  split
  · next hleft =>
    refine .enter hI (u := { t with state := .pending, currentAttempt := .nil })
      (fun r hr => by subst hr; rfl)
      (.cleared (fun _ => htried) (fun _ => hlive) fun h => absurd h (not_aloft (by simp) (by simp)))
      (fun _ _ => .inr ?_) fun _ => .of_upholds (decide_upholds hI.toLogged)
    subst htarget hstage
    exact hleft
  · dsimp only
    split
    · refine .enter hI (u := { t with state := .exhausted }) (fun r hr => by subst hr; rfl)
        (.kept (by simp [ht]) (fun _ => htried) (fun _ => hlive)
          fun h => absurd h (not_aloft (by simp) (by simp)))
        (fun _ h => by cases h) fun _ => .of_upholds (decide_upholds hI.toLogged)
    · exact .of_upholds (decide_upholds hI.toLogged)

theorem applyTerminalExecution_settles {record : EvidenceRecord} {attempt : Attempt}
    (hI : Settled strict I) (ht : t.state ≠ .rollingBack) (hnamed : record.attempt ≠ .nil) :
    Settles I j i p t (applyTerminalExecution env record j i attempt now) := by
  unfold applyTerminalExecution
  refine .skip .updateAttempt fun _ => .skip .releaseOutstanding fun _ => ?_
  refine .target_bind fun target htarget => ?_
  split
  · refine .skip .updateAttempt fun _ => ?_
    refine .enter hI (u := { t with state := .cancelled }) (fun r hr => by subst hr; rfl)
      (.kept ht (fun h => by cases h) (fun h => by cases h)
        fun h => absurd h (not_aloft (by simp) (by simp)))
      (fun _ h => by cases h) fun _ => .of_upholds (.updateStage fun _ => rfl)
  split
  · exact .of_upholds .updateAttempt
  next hcurrent =>
  have hcurrent : t.currentAttempt ≠ .nil := by
    subst htarget
    exact fun hnil => hnamed ((not_not.1 hcurrent).symm.trans hnil)
  have htried : t.Tried := .inr hcurrent
  have hlive : t.Live := .inr ⟨hcurrent, ht⟩
  split
  · refine .skip .updateAttempt fun _ => ?_
    refine .enter hI (u := { t with state := .succeeded }) (fun r hr => by subst hr; rfl)
      (.kept ht (fun _ => htried) (fun h => by cases h)
        fun h => absurd h (not_aloft (by simp) (by simp)))
      (fun _ h => by cases h) fun _ => .of_upholds ?_
    refine .bind (.updateStage fun _ => rfl) fun _ => .bind (.modify fun _ => rfl) fun _ => ?_
    exact .read_bind fun _ => decide_upholds hI.toLogged
  · refine .skip .updateAttempt fun _ => ?_
    refine .enter hI (u := { t with state := .failed }) (fun r hr => by subst hr; rfl)
      (.kept ht (fun _ => htried) (fun _ => hlive)
        fun h => absurd h (not_aloft (by simp) (by simp)))
      (fun _ h => by cases h) fun _ => .skip (.updateStage fun _ => rfl) fun _ => ?_
    exact retryOrExhaust_settles hI rfl

theorem applyCompensation_settles {record : EvidenceRecord} (hI : Settled strict I) :
    Settles I j i p t (applyCompensation env record j i now) := by
  unfold applyCompensation
  refine .skip .releaseOutstanding fun _ => .skip .updateAttempt fun _ => ?_
  refine .stage_bind fun stage hstage => ?_
  split
  · refine .skip (.updateTarget fun _ => rfl) fun _ => .target_bind fun target htarget => ?_
    split
    · refine .enter hI (u := { t with state := .rolledBack, currentAttempt := .nil })
        (fun r hr => by subst hr; rfl)
        (.cleared (fun h => by cases h) (fun h => by cases h)
          fun h => absurd h (not_aloft (by simp) (by simp)))
        (fun _ h => by cases h) fun _ => .of_upholds (.updateStage fun _ => rfl)
    · exact .pure _
  · refine .enter hI (u := { t with state := .rollbackFailed, currentAttempt := .nil })
      (fun r hr => by subst hr; rfl)
      (.cleared (fun h => by cases h) (fun h => by cases h)
        fun h => absurd h (not_aloft (by simp) (by simp)))
      (fun _ h => by cases h) fun _ => .of_upholds ?_
    refine .bind (.updateStage fun _ => rfl) fun _ => .read_bind fun _ => ?_
    exact decide_upholds hI.toLogged

/-- A target gives up its attempt. -/
theorem forget_settles {f : TargetRuntime → TargetRuntime} (hI : Settled strict I)
    (hf : ∀ r, (f r).tally = { r.tally with currentAttempt := .nil }) {k : Unit → Op ρ Unit}
    (hk : ∀ a, Upholds I (k a)) : Settles I j i p t (Op.updateTarget j i f >>= k) :=
  .update hI (fun r hr => by rw [hf, hr]) .forget (fun _ h => .inl h) fun a => .of_upholds (hk a)

theorem applyCancellation_settles {record : EvidenceRecord} (hI : Settled strict I) :
    Settles I j i p t (applyCancellation (ρ := ρ) record j i) := by
  unfold applyCancellation
  refine .skip .updateAttempt fun _ => .skip .releaseOutstanding fun _ => ?_
  refine .target_bind fun target htarget => ?_
  dsimp only
  split
  · next haloft =>
    have haloft : t.Aloft := htarget ▸ haloft
    refine .enter hI (u := { t with state := .cancelled }) (fun r hr => by subst hr; rfl)
      (.kept haloft.ne_rollingBack (fun h => by cases h) (fun h => by cases h)
        fun h => absurd h (not_aloft (by simp) (by simp)))
      (fun _ h => by cases h) fun _ => ?_
    exact forget_settles hI (fun _ => rfl) fun _ => .updateStage fun _ => rfl
  · exact forget_settles hI (fun _ => rfl) fun _ => .updateStage fun _ => rfl

theorem applyClass_settles {record : EvidenceRecord} {attempt : Attempt} (hI : Settled strict I)
    (hnamed : record.attempt ≠ .nil) :
    Settles I j i p t (applyClass env record j i attempt now) := by
  unfold applyClass
  cases evidenceClass record.kind with
  | telemetry | acceptance => exact .pure _
  | cancellation => exact applyCancellation_settles hI
  | execution =>
    refine .target_bind fun target htarget => ?_
    split
    · exact .pure _
    split
    · exact applyCompensation_settles hI
    · next hrolling => exact applyTerminalExecution_settles hI (htarget ▸ hrolling) hnamed
  | compensation => exact applyCompensation_settles hI
  | verification => exact .of_upholds (.updateTarget fun _ => rfl)

theorem applyEvidence_upholds {record : EvidenceRecord} (hI : Settled strict I)
    (hnamed : record.attempt ≠ .nil) : Upholds I (applyEvidence env record now) := by
  unfold applyEvidence
  refine Triple.of_each fun w hw => triple_get_bind fun w' hw' => ?_
  subst hw'
  split
  · exact Upholds.here (.pure _) hw
  split
  · exact Upholds.here (.pure _) hw
  next j _ _ i htarget =>
  split
  · exact Upholds.here (.pure _) hw
  obtain ⟨hj, hi⟩ := Rollout.lt_of_findTarget htarget
  refine Settles.here ?_ hw (Rollout.shows_tally hj hi)
  refine .skip (.log hI.at fun _ _ => trivial) fun _ => .skip .updateAttempt fun _ => ?_
  exact Triple.bind (applyClass_settles hI hnamed) fun _ => persistRollout_upholds hI.toLogged

theorem applyHealth_tally {limits : RuntimeLimits} {record : EvidenceRecord} (r : TargetRuntime) :
    (applyHealth limits record now r).tally = r.tally := by
  unfold applyHealth
  dsimp only
  split
  · rfl
  split <;> rfl

theorem telemetryOn_upholds {record : EvidenceRecord} (hI : Logged I) :
    Upholds I (telemetryOn env record now) := by
  unfold telemetryOn
  refine .read_bind fun r => ?_
  split
  · refine .bind (.forM fun j _ => .read_bind fun stage => ?_) fun _ =>
      .latch (persistRollout_upholds hI)
    split
    · exact .pure _
    · refine .read_bind fun place => .bind (.updateTarget applyHealth_tally) fun _ => ?_
      exact .log hI fun _ _ => trivial
  · exact .pure _

/-! ## Reconciliation -/

/-- The answer releases no target that has used up its attempts. -/
def World.Unspent (w : World ρ) (entry : ReconcileEntry) : Prop :=
  entry.disposition = .notStarted → ∀ attempt j i,
    w.impl.attempts.lookup entry.fence.attempt = some attempt →
    w.rollout.findStage attempt.stage = some j →
    (w.rollout.stageAt j).findTarget attempt.target = some i →
    (w.rollout.targetAt j i).state = .dispatched ∨ (w.rollout.targetAt j i).state = .unknown →
    (w.rollout.targetAt j i).attemptsCreated < (w.rollout.stageAt j).policy.maxAttemptsPerTarget

theorem releaseAttempt_settles {id : AttemptId} (hI : Settled strict I)
    (hleft : strict → t.Aloft → t.attemptsCreated < p.maxAttemptsPerTarget) :
    Settles I j i p t (releaseAttempt (ρ := ρ) id j i) := by
  unfold releaseAttempt
  refine .skip .updateAttempt fun _ => .target_bind fun target htarget => ?_
  dsimp only
  split
  · next haloft =>
    have haloft : t.Aloft := htarget ▸ haloft
    refine .enter hI (u := { t with state := .pending }) (fun r hr => by subst hr; rfl)
      (.kept haloft.ne_rollingBack (fun _ => haloft.tried) (fun _ => haloft.live) fun _ => haloft)
      (fun hs _ => .inr (hleft hs haloft)) fun _ => ?_
    exact forget_settles hI (fun _ => rfl) fun _ => .releaseOutstanding
  · exact forget_settles hI (fun _ => rfl) fun _ => .releaseOutstanding

theorem reconcileEntry_upholds {find : Rollout → RolloutId → Option Rollout}
    {answer : ReconcileEntry} {w : World ρ} (hI : Settled strict I) (hw : I w.tally)
    (hleft : strict → w.Unspent answer) :
    Triple (fun s => s = w) (reconcileEntry env find now answer) (fun _ w => I w.tally)
      fun _ w => I w.tally := by
  unfold reconcileEntry
  refine triple_get_bind fun w' hw' => ?_
  subst hw'
  dsimp only
  split
  · exact Upholds.here (.pure _) hw
  next attempt hlookup =>
  split
  · exact Upholds.here (.pure _) hw
  next j hstage =>
  split
  · exact Upholds.here (.pure _) hw
  next i htarget =>
  obtain ⟨hj, hi⟩ := Rollout.lt_of_findTarget htarget
  cases hd : answer.disposition
  case completed | failed =>
    refine Upholds.here (.bind (.updateImpl fun _ => rfl) fun _ => .get_bind fun w => ?_) hw
    split
    · exact .bind (.modify fun _ => rfl) fun _ => .pure _
    next haccepted =>
    rw [Bool.not_eq_true, Bool.not_eq_false'] at haccepted
    obtain ⟨-, _, _, _, _, -, hadmitted⟩ := admit_isAccepted.1 haccepted
    refine .bind (applyEvidence_upholds hI ?_) fun _ => .pure _
    exact EvidenceRecord.attempt_ne_nil_of_validate hadmitted.valid (reconciledRecord_isTelemetry ..)
  case notStarted =>
    refine Settles.here (Triple.bind (releaseAttempt_settles hI fun hs haloft => ?_)
      fun _ => Upholds.pure _) hw (Rollout.shows_tally hj hi)
    exact hleft hs hd attempt j i hlookup hstage htarget haloft
  case inProgress => exact Upholds.here (.pure _) hw
  case unknown =>
    refine Settles.here (.target_bind fun target htarget => ?_) hw (Rollout.shows_tally hj hi)
    split
    · next hstate =>
      have haloft : (w'.rollout.targetAt j i).tally.Aloft := .inl (htarget ▸ hstate)
      refine .enter hI (u := { (w'.rollout.targetAt j i).tally with state := .unknown })
        (fun r hr => by rw [← hr]; rfl)
        (.kept haloft.ne_rollingBack (fun _ => haloft.tried) (fun _ => haloft.live) fun _ => haloft)
        (fun _ h => by cases h) fun _ => ?_
      exact .of_upholds (.bind .updateAttempt fun _ => .pure _)
    · exact .of_upholds (.bind .updateAttempt fun _ => .pure _)

/-! ## Gates -/

theorem probeHealth_upholds : Upholds I (probeHealth env j now) := by
  unfold probeHealth
  refine .read_bind fun stage => ?_
  split
  · exact .pure _
  split
  · exact .pure _
  next health _ _ =>
  refine .get_bind fun w => ?_
  have hask : Upholds I (do
      Op.updateImpl fun s => { s with
        lastProbeAt := s.lastProbeAt.insert w.rollout.id now
        healthRequestId := s.healthRequestId + 1 }
      let requestId ← Op.read fun w => w.impl.healthRequestId
      let status ← Op.ask (health.requestProbe
        { targets := stage.cohort.members, issuedAt := now, requestId })
      if !status.isOk then
        Op.updateCounters fun c => { c with evidenceRejected := c.evidenceRejected + 1 }) := by
    refine .bind (.updateImpl fun _ => rfl) fun _ => .read_bind fun requestId => ?_
    refine .ask_bind fun status => ?_
    split
    · exact .modify fun _ => rfl
    · exact .pure _
  dsimp only
  split <;> split <;> first | exact hask | exact .pure _

section

variable (hI : Logged I)
include hI

theorem openGate_upholds {kind : GateKind} : Upholds I (openGate env j kind now) := by
  unfold openGate
  refine .read_bind fun minted => .bind (.updateImpl fun _ => rfl) fun _ => ?_
  refine .bind (.updateStage fun _ => rfl) fun _ => .latch ?_
  refine .bind (stageTransition_upholds hI) fun _ => .read_bind fun state => ?_
  split
  · exact transition_upholds hI
  · exact .pure _

theorem failRollout_upholds {reason : Bytes} : Upholds I (failRollout env reason now) := by
  unfold failRollout
  refine .read_bind fun state => ?_
  split
  · exact .pure _
  · dsimp only
    split
    · exact .bind (transition_upholds hI) fun _ => transition_upholds hI
    · exact transition_upholds hI

theorem startStage_upholds : Upholds I (startStage env j now) := by
  unfold startStage
  refine .bind (stageTransition_upholds hI) fun _ => .get_bind fun w => ?_
  dsimp only
  split
  · exact .bind (transition_upholds hI) fun _ => decide_upholds hI
  · exact decide_upholds hI

theorem beginStage_upholds : Upholds I (beginStage env j now) := by
  unfold beginStage
  refine .get_bind fun w => ?_
  dsimp only
  split
  · exact .throw _
  · exact .pure _
  · refine .bind (commit_upholds hI) fun _ => .bind countDecision_upholds fun _ => ?_
    exact failRollout_upholds hI
  · split
    · refine .bind (stageTransition_upholds hI) fun _ => ?_
      split
      · refine .bind (commit_upholds hI) fun _ => .bind countDecision_upholds fun _ => ?_
        exact openGate_upholds hI
      · exact startStage_upholds hI
    · exact startStage_upholds hI

theorem cancelTarget_upholds : Upholds I (cancelTarget env j now i) := by
  unfold cancelTarget
  refine .read_bind fun target => .read_bind fun found => ?_
  split
  · exact .pure _
  · exact .pure _
  next attempt =>
  split
  · exact .pure _
  refine .bind .updateAttempt fun _ => .bind (.log hI fun _ _ => trivial) fun _ => ?_
  split
  · exact .read_bind fun stage => commit_upholds hI
  · refine .ask_bind fun status => ?_
    dsimp only
    split
    · refine .bind ?_ fun _ => .read_bind fun stage => commit_upholds hI
      unfold Op.check
      split
      · exact .pure _
      · exact .throw _
    · exact .read_bind fun stage => commit_upholds hI

theorem cancelInFlight_upholds : Upholds I (cancelInFlight env j now) := by
  unfold cancelInFlight
  refine .read_bind fun stage => .bind (.forM fun i _ => cancelTarget_upholds hI) fun _ => ?_
  exact persistRollout_upholds hI

theorem finishRollback_upholds : Upholds I (finishRollback env now) := by
  unfold finishRollback
  refine .read_bind fun r => ?_
  split
  · exact persistRollout_upholds hI
  · refine .bind (.log hI fun _ _ => trivial) fun _ => ?_
    refine .bind (.forM fun j _ => stageTransition_upholds hI) fun _ => .read_bind fun reason => ?_
    exact failRollout_upholds hI

theorem advanceCursor_upholds {health evidence advance : GateEvaluation} :
    Upholds I (advanceCursor env j health evidence advance now) := by
  unfold advanceCursor
  refine .bind (stageTransition_upholds hI) fun _ => .bind (stageTransition_upholds hI) fun _ => ?_
  refine .bind (.updateRollout fun _ => rfl) fun _ => .read_bind fun r => ?_
  refine .bind (commit_upholds hI) fun _ => .bind countDecision_upholds fun _ => ?_
  split
  · exact transition_upholds hI
  · exact transition_upholds hI

theorem refuseManualGate_upholds {kind : GateKind} {reason selected rationale : Bytes} :
    Upholds I (refuseManualGate env j kind reason selected rationale now) := by
  unfold refuseManualGate
  refine .read_bind fun stage => .bind (commit_upholds hI) fun _ => ?_
  exact .bind countDecision_upholds fun _ => openGate_upholds hI

theorem holdForHealth_upholds : Upholds I (holdForHealth env j now) := by
  unfold holdForHealth
  refine .read_bind fun stage => .bind (.updateStage fun _ => rfl) fun _ => ?_
  refine .bind (commit_upholds hI) fun _ => .bind countDecision_upholds fun _ => ?_
  exact persistRollout_upholds hI

theorem skipStage_upholds : Upholds I (skipStage env now) := by
  unfold skipStage
  refine .bind (.updateRollout fun _ => rfl) fun _ => .read_bind fun r => ?_
  split
  · exact transition_upholds hI
  · exact transition_upholds hI

end

/-! ## Failure and completion -/

/-- A target that is marked to be compensated was tried. -/
theorem mark_settles (hI : Settled strict I) (ht : t.state = .succeeded ∨ t.state = .failed) :
    Settles I j i p t (Op.enterTarget (ρ := ρ) j i .rollingBack none fun t =>
      { t with rollbackStep := 0, currentAttempt := .nil }) := by
  refine .enter_last hI (u := { t with state := .rollingBack, currentAttempt := .nil })
    (fun r hr => by subst hr; rfl) (.cleared (fun _ => .inl ?_) (fun h => by cases h)
      fun h => absurd h (not_aloft (by simp) (by simp))) fun _ h => by cases h
  rcases ht with ht | ht <;> rw [ht] <;> rfl

theorem beginRollback_upholds {reason : Bytes} (hI : Settled strict I) :
    Upholds I (beginRollback env reason now) := by
  have hmark (j i : Nat) : Upholds (ρ := ρ) I (do
      let stage ← Op.stage j
      let target ← Op.target j i
      if stage.marks target then do
        Op.enterTarget j i .rollingBack none fun t =>
          { t with rollbackStep := 0, currentAttempt := .nil }) := by
    refine Triple.of_each fun w₀ hw => triple_read_bind fun w₁ h₁ => triple_read_bind fun w h => ?_
    subst h₁ h
    split
    · next hmarks =>
      have hstate : (w.rollout.targetAt j i).state = .succeeded
          ∨ (w.rollout.targetAt j i).state = .failed := by
        simp only [StageRuntime.marks, Bool.and_eq_true, Bool.or_eq_true, beq_iff_eq] at hmarks
        exact hmarks.2
      refine Settles.here (mark_settles hI hstate) hw (Rollout.shows_of_state ?_)
      rcases hstate with h | h <;> simp [h]
    · exact Upholds.here (.pure _) hw
  have hrest (r : Rollout) : Upholds (ρ := ρ) I (do
      (List.range r.stages.length).reverse.forM fun j =>
        (List.range (r.stageAt j).targets.length).forM fun i => do
          let stage ← Op.stage j
          let target ← Op.target j i
          if stage.marks target then do
            Op.enterTarget j i .rollingBack none fun t =>
              { t with rollbackStep := 0, currentAttempt := .nil }) :=
    .forM fun j _ => .forM fun i _ => hmark j i
  unfold beginRollback
  refine .read_bind fun state => ?_
  dsimp only
  split
  · refine .bind (transition_upholds hI.toLogged) fun _ => .read_bind fun r => ?_
    refine .bind (hrest r) fun _ => .bind (commit_upholds hI.toLogged) fun _ => ?_
    exact .bind countDecision_upholds fun _ => persistRollout_upholds hI.toLogged
  · refine .read_bind fun r => .bind (hrest r) fun _ => .bind (commit_upholds hI.toLogged) fun _ => ?_
    exact .bind countDecision_upholds fun _ => persistRollout_upholds hI.toLogged

section

variable (hI : Settled strict I)
include hI

theorem failStage_upholds {reason : Bytes} : Upholds I (failStage env j reason now) := by
  unfold failStage
  refine .bind (stageTransition_upholds hI.toLogged) fun _ => .get_bind fun w => ?_
  split
  · exact beginRollback_upholds hI
  · exact failRollout_upholds hI.toLogged

theorem completeStage_upholds {approved : Bool} : Upholds I (completeStage env j now approved) := by
  unfold completeStage
  refine .get_bind fun w => .bind (.log hI.toLogged fun _ _ => trivial) fun _ => ?_
  refine .bind (.updateStage fun _ => rfl) fun _ => .bind countGate_upholds fun _ => ?_
  refine .bind (.updateStage fun _ => rfl) fun _ => .bind countGate_upholds fun _ => ?_
  split
  · split
    · exact refuseManualGate_upholds hI.toLogged
    · refine .bind (commit_upholds hI.toLogged) fun _ => .bind countDecision_upholds fun _ => ?_
      exact failStage_upholds hI
  · refine .bind (.updateStage fun _ => rfl) fun _ => .bind countGate_upholds fun _ => ?_
    split
    · split
      · exact refuseManualGate_upholds hI.toLogged
      · exact decide_upholds hI.toLogged
    · exact advanceCursor_upholds hI.toLogged

theorem expireTarget_upholds : Upholds I (expireTarget env j now i) := by
  unfold expireTarget
  refine Triple.of_each fun w₀ hw => triple_read_bind fun w₁ h₁ => triple_read_bind fun w h => ?_
  subst h₁ h
  split
  · exact Upholds.here (.pure _) hw
  split
  · exact Upholds.here (.pure _) hw
  next hlive =>
  split
  · exact Upholds.here (.pure _) hw
  have hstate : (w.rollout.targetAt j i).state = .dispatched := by
    by_contra hne
    exact hlive (.inl hne)
  have haloft : (w.rollout.targetAt j i).tally.Aloft := .inl hstate
  have hshows : w.rollout.tally.Shows j i _ _ := Rollout.shows_of_state (by rw [hstate]; simp)
  refine Settles.here ?_ hw hshows
  clear hshows
  generalize (w.rollout.stageAt j).policy = p
  generalize (w.rollout.targetAt j i).tally = t at haloft ⊢
  refine .skip .updateAttempt fun _ => .skip .releaseOutstanding fun _ => ?_
  split
  · refine .enter hI (u := { t with state := .cancelled, currentAttempt := .nil })
      (fun r hr => by subst hr; rfl) (.cleared (fun h => by cases h) (fun h => by cases h)
        fun h => absurd h (not_aloft (by simp) (by simp))) (fun _ h => by cases h) fun _ => ?_
    exact .of_upholds (.updateStage fun _ => rfl)
  · refine .stage_bind fun stage _ => ?_
    refine .enter hI (u := { t with state := .failed, currentAttempt := .nil })
      (fun r hr => by subst hr; rfl) (.cleared (fun _ => haloft.tried) (fun _ => haloft.live)
        fun h => absurd h (not_aloft (by simp) (by simp))) (fun _ h => by cases h) fun _ => ?_
    refine .skip (.updateStage fun _ => rfl) fun _ => .skip (commit_upholds hI.at) fun _ => ?_
    refine .skip countDecision_upholds fun _ => ?_
    exact retryOrExhaust_settles hI rfl

theorem settleStage_upholds : Upholds I (settleStage env j now) := by
  unfold settleStage
  refine .read_bind fun stage => ?_
  dsimp only
  split
  · refine .bind (.updateStage fun _ => rfl) fun _ => ?_
    refine .bind (stageTransition_upholds hI.toLogged) fun _ => .read_bind fun state => ?_
    split
    · exact .bind (transition_upholds hI.toLogged) fun _ => decide_upholds hI.toLogged
    · exact decide_upholds hI.toLogged
  split
  · exact persistRollout_upholds hI.toLogged
  · exact completeStage_upholds hI

end

/-! ## Commands -/

theorem requireState_upholds {allowed : RolloutState → Bool} {message : Bytes} :
    Upholds I (requireState (ρ := ρ) allowed message) := by
  unfold requireState
  refine .read_bind fun state => ?_
  split
  · exact .throw _
  · exact .pure _

/-- A cohort is frozen, and nothing else of its stage. -/
theorem freezeStage_upholds : Upholds I (freezeStage (ρ := ρ) now j) := by
  unfold freezeStage
  refine Triple.of_each fun w₀ hw => triple_read_bind fun w h => ?_
  subst h
  cases hf : freezeCohort (w.rollout.stageAt j) now with
  | error s => exact Upholds.here (.throw s) hw
  | ok frozen =>
    have hfrozen : frozen.tally = (w.rollout.stageAt j).tally := by
      unfold freezeCohort at hf
      split at hf
      · cases hf
      split at hf
      · cases hf
      · cases hf
        rfl
    have hsame : (w.rollout.modifyStage j fun _ => frozen).tally = w.rollout.tally := by
      simp only [Rollout.tally, Rollout.modifyStage, RolloutTally.mk.injEq, true_and]
      apply List.ext_getElem?
      intro n
      simp only [List.getElem?_map, List.getElem?_modify]
      by_cases hn : j = n
      · subst hn
        cases hs : w.rollout.stages[j]? with
        | none => rfl
        | some s => simp [hfrozen, Rollout.stageAt, hs]
      · simp [hn]
    refine Triple.modify fun w' hw' => ?_
    subst hw'
    show I ⟨(w'.rollout.modifyStage j fun _ => frozen).tally, w'.impl.trace⟩
    rw [hsame]
    exact hw

section

variable (hI : Logged I) {context : CommandContext} {reason : Bytes}
include hI

theorem armRollout_upholds : Upholds I (armRollout env context) := by
  unfold armRollout
  refine .bind requireState_upholds fun _ => .ask_bind fun now => .read_bind fun r => ?_
  refine .bind (.forM fun j _ => freezeStage_upholds) fun _ => .bind (commit_upholds hI) fun _ => ?_
  exact .bind (transition_upholds hI) fun _ => .read_bind fun r => .pure _

theorem startRollout_upholds : Upholds I (startRollout env) := by
  unfold startRollout
  refine .bind requireState_upholds fun _ => .read_bind fun r => ?_
  dsimp only
  split
  · exact .throw_bind
  · cases r.stages.find? fun stage => !stage.cohort.frozen with
    | some stage => exact .throw _
    | none => exact .ask_bind fun now => .bind (transition_upholds hI) fun _ => .pure _

theorem pauseRollout_upholds : Upholds I (pauseRollout env context reason) := by
  unfold pauseRollout
  refine .read_bind fun previous => ?_
  dsimp only
  split
  · exact .throw_bind
  refine .ask_bind fun now => .bind (.updateRollout fun _ => rfl) fun _ => .read_bind fun r => ?_
  refine .bind (commit_upholds hI) fun _ => .bind (transition_upholds hI) fun _ => ?_
  split
  · split
    · exact .bind (cancelInFlight_upholds hI) fun _ => .pure _
    · exact .pure _
  · exact .pure _

theorem resumeRollout_upholds : Upholds I (resumeRollout env context) := by
  unfold resumeRollout
  refine .bind requireState_upholds fun _ => .read_bind fun r => ?_
  dsimp only
  split
  · exact .throw_bind
  · refine .ask_bind fun now => .bind (commit_upholds hI) fun _ => ?_
    exact .bind (transition_upholds hI) fun _ => .pure _

theorem retireRollout_upholds : Upholds I (retireRollout env) := by
  unfold retireRollout
  refine .bind requireState_upholds fun _ => .ask_bind fun now => ?_
  refine .bind (transition_upholds hI) fun _ => .read_bind fun r => ?_
  exact .bind (appendJournal_upholds hI fun _ _ _ _ _ => trivial) fun _ => .pure _

theorem abortStage_upholds : Upholds I (abortStage env now j) := by
  unfold abortStage
  refine .read_bind fun stage => ?_
  split
  · exact stageTransition_upholds hI
  split
  · exact .pure _
  · exact .bind (cancelInFlight_upholds hI) fun _ => stageTransition_upholds hI

end

section

variable (hI : Settled strict I) {context : CommandContext}
include hI

theorem abortRollout_upholds {reason : Bytes} : Upholds I (abortRollout env context reason) := by
  unfold abortRollout
  refine .read_bind fun r => ?_
  dsimp only
  split
  · exact .throw_bind
  refine .ask_bind fun now => .bind (commit_upholds hI.toLogged) fun _ => ?_
  refine .bind (transition_upholds hI.toLogged) fun _ => ?_
  refine .bind (.forM fun j _ => abortStage_upholds hI.toLogged) fun _ => ?_
  split
  · exact .bind (beginRollback_upholds hI) fun _ => .pure _
  · exact .bind (failRollout_upholds hI.toLogged) fun _ => .pure _

theorem approvePending_upholds {gate : GateId} : Upholds I (approvePending env context gate) := by
  unfold approvePending
  refine .read_bind fun r => ?_
  split
  · exact .throw _
  refine .ask_bind fun now => .read_bind fun stage => .bind (commit_upholds hI.toLogged) fun _ => ?_
  refine .bind (.updateStage fun _ => rfl) fun _ => .bind (.log hI.toLogged fun _ _ => trivial) fun _ => ?_
  split
  · exact .bind (beginStage_upholds hI.toLogged) fun _ => .pure _
  · exact .bind (completeStage_upholds hI) fun _ => .pure _
  · exact .bind (completeStage_upholds hI) fun _ => .pure _
  · exact .bind (stageTransition_upholds hI.toLogged) fun _ => .pure _
  · exact .bind (beginRollback_upholds hI) fun _ => .pure _

/-! ## Restoring -/

theorem restoreTarget_upholds {previous : IncarnationId} :
    Upholds I (restoreTarget env previous j i) := by
  unfold restoreTarget
  refine Triple.of_each fun w₀ hw => triple_read_bind fun w h => ?_
  subst h
  dsimp only
  split
  · exact Upholds.here (.pure _) hw
  next hcurrent =>
  have hshows : w.rollout.tally.Shows j i _ _ :=
    Rollout.shows_of_ne_default fun hd => hcurrent (by rw [hd]; rfl)
  have hforgets : Settles (ρ := ρ) I j i (w.rollout.stageAt j).policy (w.rollout.targetAt j i).tally
      (Op.updateTarget j i (fun t => { t with currentAttempt := .nil }) >>= Pure.pure) :=
    forget_settles hI (fun _ => rfl) fun a => .pure a
  rw [bind_pure] at hforgets
  have hforget := hforgets.here hw hshows
  split
  · exact hforget
  split
  · exact hforget
  · refine Upholds.here (.bind (.log hI.toLogged fun _ _ => trivial) fun _ => ?_) hw
    refine .bind (.updateImpl fun _ => rfl) fun _ => .bind (.updateImpl fun s => ?_) fun _ => ?_
    · split <;> rfl
    · exact .updateRollout fun _ => rfl

end

end RolloutFabric
