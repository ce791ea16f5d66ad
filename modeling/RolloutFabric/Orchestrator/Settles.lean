/-
Evidence and reconciliation settle attempts: they move targets and attempts, and never the
rollout, its stages or its cursor.
-/
import RolloutFabric.Orchestrator.Performs

namespace RolloutFabric

variable {ρ : Type} {env : Env ρ} {e : View → Prop} {c : Core} {j i : Nat} {now : Timestamp}

variable [Tolerates e]

/-! ## Retries -/

theorem retryOrExhaust_performs {allowed : Act → Bool} [Writes allowed]
    (hl : ∀ t, allowed (.assign j i t none) = true)
    (h : (c.rollout.targetAt j i).state = .failed) (hf : c.failing = some (j, i)) :
    Performs env allowed e c (retryOrExhaust env j i now) fun _ c' =>
      Touched c c' j i ∧ c'.failing = none := by
  unfold retryOrExhaust
  refine .read_bind fun w _ => .read_bind fun w hw => ?_
  split
  · refine .bind (.enterTarget (fun t => { t with state := .pending, currentAttempt := .nil })
      (fun _ => rfl) (hl _) (.retry h hf)) fun _ c₁ h₁ => ?_
    refine .skip commit_performs.wrote fun _ => countDecision_performs.wrote.weaken fun _ _ h => ?_
    subst h₁ h
    exact ⟨.modify (fun t => { t with state := .pending, currentAttempt := .nil }) (fun _ => rfl)
      rfl, rfl⟩
  · rw [World.targetState_core hw, h]
    refine .bind (.enterTarget (fun t => { t with state := .exhausted }) (fun _ => rfl) (hl _)
      (.exhaust h hf)) fun _ c₁ h₁ => ?_
    refine .skip commit_performs.wrote fun _ => countDecision_performs.wrote.weaken fun _ _ h => ?_
    subst h₁ h
    exact ⟨.modify (fun t => { t with state := .exhausted }) (fun _ => rfl) rfl, rfl⟩

/-! ## Terminal evidence -/

/-- The attempt a record was applied to is in the table, unfinished. -/
structure Reported (c : Core) (record : EvidenceRecord) (j i : Nat) (attempt entry : Attempt) :
    Prop where
  applies : Applies c record j i attempt
  found : c.attempts record.attempt = some entry
  unfinished : entry.finished = false

variable {record : EvidenceRecord} {attempt entry : Attempt}

theorem Applies.targetAt_modifyTarget (h : Applies c record j i attempt)
    (f : TargetCore → TargetCore) :
    (c.rollout.modifyTarget j i f).targetAt j i = f (c.rollout.targetAt j i) := by
  rw [RolloutCore.targetAt_modifyTarget, if_pos]
  exact ⟨⟨rfl, rfl⟩, (RolloutCore.findStage_lt h.1).1, (StageCore.findTarget_lt h.2.1).1⟩

/-- A report about the attempt leaves everything else as it was. -/
theorem Reported.report (h : Reported c record j i attempt entry) {new : Attempt}
    (hnew : new.finished = false) :
    Reported ((Act.report record.attempt new).after c) record j i attempt new where
  applies := h.applies
  found := Function.update_self ..
  unfinished := hnew

omit [Tolerates e] in
/-- The last report about the attempt. -/
theorem Reported.update (h : Reported c record j i attempt entry) {f : Attempt → Attempt}
    (hf : Continues entry (f entry)) :
    Performs env Act.isSettling e c (Op.updateAttempt record.attempt f)
      fun _ c' => c'.rollout = c.rollout ∧ Applies c' record j i attempt := by
  refine .weaken (.updateAttempt h.found rfl hf (.inr h.unfinished)) fun _ c' hc' => ?_
  subst hc'
  exact ⟨rfl, h.applies⟩

theorem applyTerminalExecution_performs (h : Reported c record j i attempt entry)
    (hrolling : (c.rollout.targetAt j i).state ≠ .rollingBack) :
    Performs env Act.isSettling e c (applyTerminalExecution env record j i attempt now)
      fun _ _ => True := by
  unfold applyTerminalExecution
  refine .bind (.updateAttempt h.found rfl ⟨rfl, rfl, rfl, rfl, rfl, rfl, rfl, rfl, rfl, rfl⟩
    (.inr h.unfinished)) fun _ c₁ h₁ => ?_
  have hr : Reported c₁ record j i attempt { entry with
      completed := true, lastEvidenceAt := record.recordedAt, outcome := record.outcome } :=
    h₁ ▸ h.report h.unfinished
  have hroll : c₁.rollout = c.rollout := h₁ ▸ rfl
  rw [← hroll] at hrolling
  clear h₁ hroll h
  refine .skip .releaseOutstanding fun _ => .read_bind fun w hw => ?_
  have hcurrent := World.currentAttempt_core hw j i
  have hsame {f : Attempt → Attempt} (hf : ∀ a, Continues a (f a)) :
      Performs env Act.isSettling e c₁ (Op.updateAttempt record.attempt f)
        fun _ c' => c'.rollout = c₁.rollout ∧ Applies c' record j i attempt := hr.update (hf _)
  split
  -- what was cancelled by request ends as cancelled, whatever its outcome
  · next hcancelled =>
    refine .bind (hsame fun a => ⟨rfl, rfl, rfl, rfl, rfl, rfl, rfl, rfl, rfl, rfl⟩)
      fun _ c₂ ⟨_, happlies⟩ => ?_
    refine .bind (.enterTarget (fun t => { t with state := .cancelled }) (fun _ => rfl) rfl
      (.cancelled record attempt happlies hcancelled)) fun _ _ _ => ?_
    exact .weaken (.updateStage fun _ => rfl) fun _ _ _ => trivial
  next hcancelled =>
  rw [hcurrent]
  split
  · exact .weaken (hsame fun a => ⟨rfl, rfl, rfl, rfl, rfl, rfl, rfl, rfl, rfl, rfl⟩)
      fun _ _ _ => trivial
  -- the attempt is still the one the target waits for
  next hmatch =>
  rw [not_not] at hmatch
  rw [Bool.not_eq_true] at hcancelled
  split
  · next hsucceeded =>
    refine .bind (hsame fun a => ⟨rfl, rfl, rfl, rfl, rfl, rfl, rfl, rfl, rfl, rfl⟩)
      fun _ c₂ ⟨hroll, happlies⟩ => ?_
    rw [← hroll] at hmatch hrolling
    refine .bind (.enterTarget (fun t => { t with state := .succeeded }) (fun _ => rfl) rfl
      (.succeed record attempt happlies hcancelled hmatch hsucceeded.2 hsucceeded.1 hrolling))
      fun _ _ _ => ?_
    refine .skip (.updateStage fun _ => rfl) fun _ => .skip .updateReport fun _ => ?_
    refine .read_bind fun w _ => .skip commit_performs.wrote fun _ => ?_
    exact countDecision_performs.wrote.weaken fun _ _ _ => trivial
  -- a failure is retried, or exhausts what the target may spend
  · refine .bind (hsame fun a => ⟨rfl, rfl, rfl, rfl, rfl, rfl, rfl, rfl, rfl, rfl⟩)
      fun _ c₂ ⟨hroll, happlies⟩ => ?_
    rw [← hroll] at hmatch hrolling
    refine .bind (.enterTarget (fun t => { t with state := .failed }) (fun _ => rfl) rfl
      (.fail record attempt happlies hcancelled hmatch hrolling)) fun _ c₃ h₃ => ?_
    refine .skip (.updateStage fun _ => rfl) fun _ =>
      .weaken (retryOrExhaust_performs (fun _ => rfl) ?_ (by rw [h₃]; rfl)) fun _ _ _ => trivial
    subst h₃
    change (RolloutCore.targetAt (RolloutCore.modifyTarget _ j i _) j i).state = .failed
    rw [happlies.targetAt_modifyTarget]

/-! ## Compensation and cancellation -/

theorem applyCompensation_performs (h : Reported c record j i attempt entry)
    (hs : record.Compensates (c.rollout.targetAt j i).state) :
    Performs env Act.isSettling e c (applyCompensation env record j i now) fun _ _ => True := by
  unfold applyCompensation
  refine .skip .releaseOutstanding fun _ => ?_
  refine .bind (h.update ⟨rfl, rfl, rfl, rfl, rfl, rfl, rfl, rfl, rfl, rfl⟩) fun _ c₁ ⟨hroll, h₁⟩ => ?_
  rw [← hroll] at hs
  refine .read_bind fun w hw => ?_
  have hpolicy : (w.rollout.stageAt j).policy = (c₁.rollout.stageAt j).policy :=
    congrArg StageCore.policy (World.stageAt_core hw j)
  split
  -- the step is passed, and the record still applies to the target
  · next hsucceeded =>
    refine .bind (.alterTarget (fun t => { t with rollbackStep := t.rollbackStep + 1 })
      (fun _ => rfl) rfl (.step record attempt h₁ hsucceeded hs)) fun _ c₂ h₂ => ?_
    have hstep : c₂.rollout = c₁.rollout.modifyTarget j i fun t =>
        { t with rollbackStep := t.rollbackStep + 1 } := by
      subst h₂
      exact modifyTarget_const _ j i fun t => { t with rollbackStep := t.rollbackStep + 1 }
    have happlies : Applies c₂ record j i attempt := by
      obtain ⟨hstage, htarget, hist, current, hlog, hcurrent⟩ := h₁
      refine ⟨?_, ?_, hist, current, ?_, ?_⟩
      · rw [hstep, RolloutCore.findStage_modifyTarget]
        exact hstage
      · rw [hstep, RolloutCore.findTarget_modifyTarget]
        · exact htarget
        · exact fun _ => rfl
      · subst h₂
        exact hlog
      · rw [hstep, RolloutCore.targetAt_modifyTarget]
        split <;> exact hcurrent
    refine .read_bind fun w' hw' => ?_
    have htarget : (w'.rollout.targetAt j i).rollbackStep
        = (c₂.rollout.targetAt j i).rollbackStep :=
      congrArg TargetCore.rollbackStep (World.targetAt_core hw' j i)
    have hs' : record.Compensates (c₂.rollout.targetAt j i).state := by
      rw [hstep, RolloutCore.targetAt_modifyTarget]
      split <;> exact hs
    have hpolicy' : (c₂.rollout.stageAt j).policy = (c₁.rollout.stageAt j).policy := by
      rw [hstep, RolloutCore.modifyTarget, RolloutCore.stageAt_modifyStage]
      split <;> rfl
    rw [hpolicy, htarget, ← hpolicy']
    split
    -- past the last compensation the target is rolled back
    · next hlast =>
      refine .bind (.enterTarget (fun t => { t with state := .rolledBack, currentAttempt := .nil })
        (fun _ => rfl) rfl (.rolledBack record attempt happlies hsucceeded hs' hlast)) fun _ _ _ => ?_
      exact .weaken (.updateStage fun _ => rfl) fun _ _ _ => trivial
    · exact .pure trivial
  · next hfailed =>
    refine .bind (.enterTarget
      (fun t => { t with state := .rollbackFailed, currentAttempt := .nil })
      (fun _ => rfl) rfl (.rollbackFailed record attempt h₁ hfailed hs)) fun _ _ _ => ?_
    refine .skip (.updateStage fun _ => rfl) fun _ => .read_bind fun w _ => ?_
    refine .skip commit_performs.wrote fun _ => ?_
    exact countDecision_performs.wrote.weaken fun _ _ _ => trivial

omit [Tolerates e] in
theorem applyCancellation_performs (h : Reported c record j i attempt entry) :
    Performs env Act.isSettling e c (applyCancellation (ρ := ρ) record j i) fun _ _ => True := by
  unfold applyCancellation
  refine .bind (.updateAttempt h.found rfl ⟨rfl, rfl, rfl, rfl, rfl, rfl, rfl, rfl, rfl, rfl⟩
    (.inl rfl)) fun _ c₁ h₁ => ?_
  have happlies : Applies c₁ record j i attempt := h₁ ▸ h.applies
  have hfound : c₁.attempts record.attempt = some { entry with
      completed := true, state := .cancelled, outcome := .inconclusive } := by
    rw [h₁]
    exact Function.update_self ..
  refine .skip .releaseOutstanding fun _ => .read_bind fun w hw => ?_
  rw [World.targetState_core hw]
  refine .when (I := fun c' => c'.attempts = c₁.attempts) (fun hstate => ?_) (fun _ => rfl)
    fun c₂ h₂ => ?_
  · refine .weaken (.enterTarget (fun t => { t with state := .cancelled }) (fun _ => rfl) rfl
      (.acknowledged record attempt happlies hstate)) fun _ c' hc' => ?_
    subst hc'
    rfl
  · refine .bind (.alterTarget (fun t => { t with currentAttempt := .nil }) (fun _ => rfl) rfl
      (.acknowledged _ _ (h₂ ▸ hfound) rfl)) fun _ _ _ => ?_
    exact .weaken (.updateStage fun _ => rfl) fun _ _ _ => trivial

/-! ## Applying a record -/

theorem applyClass_performs (h : Reported c record j i attempt entry) :
    Performs env Act.isSettling e c (applyClass env record j i attempt now) fun _ _ => True := by
  unfold applyClass
  cases hclass : evidenceClass record.kind with
  | telemetry => exact .pure trivial
  | acceptance => exact .pure trivial
  | cancellation => exact applyCancellation_performs h
  | execution =>
    refine .read_bind fun w hw => ?_
    rw [World.targetState_core hw]
    split
    · exact .pure trivial
    split
    · next hrolling => exact applyCompensation_performs h (.inr hrolling)
    next hrolling => exact applyTerminalExecution_performs h hrolling
  | compensation => exact applyCompensation_performs h (.inl hclass)
  | verification => exact .weaken (.updateTarget fun _ => rfl) fun _ _ _ => trivial

/-- The record is applied to the attempt it names. -/
theorem Admits.apply (h : Admits c record j i attempt) :
    Reported ((Act.apply record j i attempt).after c) record j i attempt { attempt with
      highestSequence := record.sequence
      lastEvidenceAt := record.recordedAt
      acceptedEvidence := attempt.acceptedEvidence + 1 } where
  applies := ⟨h.stage, h.target, c.history, _, rfl, rfl⟩
  found := Function.update_self ..
  unfinished := h.unfinished

theorem applyEvidence_performs (h : Admits c record j i attempt) :
    Performs env Act.isSettling e c (applyEvidence env record now) fun _ _ => True := by
  unfold applyEvidence
  refine .get_bind fun w hw => ?_
  have hattempt : w.impl.attempts.lookup record.attempt = some attempt := by
    rw [World.lookup_core hw, h.found]
  simp only [World.findStage_core hw, h.stage, World.findTarget_core hw, h.target, hattempt]
  rw [World.generation_core hw, World.currentAttempt_core hw]
  refine .pair (.act (.apply record j i attempt) rfl rfl (fun w' hw' => ⟨_, rfl, ?_⟩) h)
    fun _ c₁ h₁ => ?_
  · rw [← World.generation_core hw', ← World.currentAttempt_core hw']
    refine (updateAttempt_view _ (h.found ▸ World.lookup_core hw' record.attempt)).trans ?_
    have hcurrent : (w'.view.rollout.targetAt j i).currentAttempt
        = (w'.rollout.targetAt j i).currentAttempt :=
      congrArg TargetCore.currentAttempt (Rollout.core_targetAt ..).symm
    rw [Act.run, hcurrent]
    rfl
  subst h₁
  refine .bind (applyClass_performs h.apply) fun _ _ _ => ?_
  exact persistRollout_performs.wrote.weaken fun _ _ _ => trivial

/-! ## Reconciliation -/

/-- An accepted record passes the fences of the machine, if it came through the rollout or was
made from the attempt. -/
theorem Admitted.admits {w : World ρ} {r : Rollout} {j' i' : Nat} (hw : w.core = c)
    (h : Admitted env w.impl r record now j' i' attempt) (htel : record.isTelemetry = false)
    (hstage : c.rollout.findStage record.stage = some j)
    (htarget : (c.rollout.stageAt j).findTarget record.target = some i)
    (hcurrent : record.rollout = c.rollout.id ∧ record.generation = c.rollout.generation
      ∨ record.rollout = attempt.rollout ∧ record.generation = attempt.generation
        ∧ record.stage = attempt.stage ∧ record.target = attempt.target) :
    Admits c record j i attempt where
  named := EvidenceRecord.attempt_ne_nil_of_validate h.valid htel
  found := by rw [← World.lookup_core hw, h.attempt]
  stage := hstage
  target := htarget
  epoch := h.epoch
  sequence := h.sequence
  unfinished := h.unfinished
  current := hcurrent

theorem reconciledRecord_isTelemetry (id : EvidenceId) (attempt : Attempt)
    (answer : ReconcileEntry) (now : Timestamp) :
    (reconciledRecord id attempt answer now).isTelemetry = false := by
  unfold reconciledRecord EvidenceRecord.isTelemetry
  split <;> rfl

omit [Tolerates e] in
theorem releaseAttempt_performs {id : AttemptId} {old : Attempt} (h : c.attempts id = some old)
    (hstage : c.rollout.findStage old.stage = some j)
    (htarget : (c.rollout.stageAt j).findTarget old.target = some i) :
    Performs env Act.isSettling e c (releaseAttempt (ρ := ρ) id j i) fun _ _ => True := by
  unfold releaseAttempt
  refine .bind (.updateAttempt h rfl ⟨rfl, rfl, rfl, rfl, rfl, rfl, rfl, rfl, rfl, rfl⟩ (.inl rfl))
    fun _ c₁ h₁ => ?_
  have hreleased : Released c₁ j i id { old with
      completed := true, state := .cancelled, outcome := .inconclusive } := by
    subst h₁
    exact ⟨Function.update_self .., rfl, hstage, htarget⟩
  refine .read_bind fun w hw => ?_
  rw [World.targetState_core hw]
  refine .when (I := fun c' => ∃ a, Released c' j i id a) (fun hstate => ?_)
    (fun _ => ⟨_, hreleased⟩) fun c₂ ⟨a, h₂⟩ => ?_
  · refine .weaken (.enterTarget (fun t => { t with state := .pending }) (fun _ => rfl) rfl
      (.release id _ hreleased hstate)) fun _ c' hc' => ?_
    subst hc'
    refine ⟨_, hreleased.found, hreleased.finished, ?_, ?_⟩
    · exact (RolloutCore.findStage_modifyTarget ..).trans hreleased.stage
    · refine Eq.trans ?_ hreleased.target
      refine (congrArg (fun r : RolloutCore => (r.stageAt j).findTarget old.target)
        (modifyTarget_const c₁.rollout j i fun t => { t with state := .pending })).trans ?_
      refine RolloutCore.findTarget_modifyTarget (h := ?_) ..
      exact fun _ => rfl
  · refine .bind (.alterTarget (fun t => { t with currentAttempt := .nil }) (fun _ => rfl) rfl
      (.released id a h₂)) fun _ _ _ => ?_
    exact .weaken .releaseOutstanding fun _ _ _ => trivial

omit [Tolerates e] in
/-- The state of an attempt whose executor does not know it any more. -/
theorem loseAttempt_performs {id : AttemptId} {old : Attempt} (h : c.attempts id = some old) :
    Performs env Act.isSettling e c
      (Op.updateAttempt (ρ := ρ) id fun a => { a with state := .unknown }) fun _ _ => True := by
  refine .weaken (.act (.lose id) rfl rfl (fun w hw => ⟨_, rfl, ?_⟩) ?_) fun _ _ _ => trivial
  · refine (updateAttempt_view w (h ▸ World.lookup_core hw id)).trans ?_
    have hfound : w.view.attempts id = some old := h ▸ World.lookup_core hw id
    rw [Act.run, hfound]
    rfl
  · simp [Act.Guard, h]

theorem reconcileEntry_performs {find : Rollout → RolloutId → Option Rollout}
    {answer : ReconcileEntry} (hkeyed : c.Keyed) :
    Performs env Act.isSettling e c (reconcileEntry env find now answer) fun _ _ => True := by
  unfold reconcileEntry
  refine .get_bind fun w hw => ?_
  dsimp only
  cases hlive : w.impl.attempts.lookup answer.fence.attempt with
  | none => exact .pure trivial
  | some attempt =>
  have hfound : c.attempts answer.fence.attempt = some attempt := by
    rw [← World.lookup_core hw, hlive]
  dsimp only
  rw [World.findStage_core hw]
  cases hstage : c.rollout.findStage attempt.stage with
  | none => exact .pure trivial
  | some j =>
  dsimp only
  rw [World.findTarget_core hw]
  cases htarget : (c.rollout.stageAt j).findTarget attempt.target with
  | none => exact .pure trivial
  | some i =>
  cases answer.disposition
  -- an end that was reported is admitted like any evidence
  case completed | failed =>
    refine .skip (.updateImpl (fun _ => rfl) (fun _ => rfl) fun _ => rfl) fun _ => ?_
    refine .get_bind fun w hw => ?_
    split
    · exact .skip .updateCounters fun _ => .pure trivial
    next haccepted =>
      rw [Bool.not_eq_true, Bool.not_eq_false'] at haccepted
      obtain ⟨-, r, j', i', live, -, hadmitted⟩ := admit_isAccepted.1 haccepted
      -- the attempt admitted is the one that was looked up, as attempts are kept by their key
      have hsame : live = attempt := by
        have hlookup := hadmitted.attempt
        rw [World.lookup_core hw] at hlookup
        change c.attempts attempt.id = some live at hlookup
        rw [hkeyed _ _ hfound, hfound] at hlookup
        exact (Option.some.inj hlookup).symm
      subst hsame
      refine .bind (applyEvidence_performs (hadmitted.admits hw
        (reconciledRecord_isTelemetry ..) hstage htarget (.inr ⟨rfl, rfl, rfl, rfl⟩))) fun _ _ _ => .pure trivial
  case notStarted =>
    exact .bind (releaseAttempt_performs hfound hstage htarget) fun _ _ _ => .pure trivial
  case inProgress => exact .pure trivial
  -- a lost attempt leaves its target unknown
  case unknown =>
    refine .read_bind fun w hw => ?_
    rw [World.targetState_core hw]
    refine .when (I := fun c' => c'.attempts = c.attempts) (fun hstate => ?_) (fun _ => rfl)
      fun c₁ h₁ => ?_
    · refine .weaken (.enterTarget (fun t => { t with state := .unknown }) (fun _ => rfl) rfl
        (.lose hstate)) fun _ c' hc' => ?_
      subst hc'
      rfl
    · exact .bind (loseAttempt_performs (h₁ ▸ hfound)) fun _ _ _ => .pure trivial

omit [Tolerates e] in
theorem reconcileRollout_performs {find : Rollout → RolloutId → Option Rollout}
    {execution : ExecutionAdapter ρ} (hkeyed : c.Keyed) :
    Performs env Act.isSettling (fun _ => True) c (reconcileRollout env find execution) fun _ _ => True := by
  unfold reconcileRollout
  refine .get_bind fun w hw => ?_
  dsimp only
  split
  · exact .pure trivial
  split
  · exact .throw fun _ _ => trivial
  refine .skip .ask fun result => .skip .ask fun now => ?_
  refine .when (I := Core.Keyed) (fun _ => .throw fun _ _ => trivial) (fun _ => hkeyed) fun c₁ h₁ => ?_
  refine .bind (q := fun _ _ => True) (.weaken (.foldlM (I := Core.Keyed) h₁ fun _ answer _ c hc =>
    ?_) fun _ _ _ => trivial) fun counts _ _ => ?_
  · refine .bind (q := fun _ => Core.Keyed) ?_ fun done c hc => .pure hc
    exact .weaken (.keep (fun a c _ _ => keyed_after a c) hc (reconcileEntry_performs hc))
      fun _ _ h => h.2
  · refine .skip commit_performs.wrote fun _ => ?_
    refine .skip persistRollout_performs.wrote fun _ => .pure trivial

/-! ## Telemetry -/

/-- A fresh health sample writes the health of the target. -/
theorem applyHealth_core {limits : RuntimeLimits} {sample : EvidenceRecord}
    (hfresh : (admissionFreshness limits sample now).fresh = true) (t : TargetRuntime) :
    (applyHealth limits sample now t).core = { t.core with health := sample.health } := by
  simp only [applyHealth, hfresh, Bool.not_true, Bool.false_eq_true, if_false]
  split
  · next houtcome => simp [TargetRuntime.core, EvidenceRecord.health, houtcome]
  · next houtcome => simp [TargetRuntime.core, EvidenceRecord.health, houtcome]

omit [Tolerates e] in
theorem observe_performs {sample : EvidenceRecord} {gate : HealthGatePolicy} {j i : Nat}
    (hg : (Act.observe sample now j i).Guard env c)
    (hgate : (c.rollout.stageAt j).policy.healthGate = gate) :
    Performs env Act.isSettling e c (do
      let place ← Op.read fun w => w.rollout.place j i
      Op.updateTarget j i (applyHealth env.limits sample now)
      Op.log (.observed place gate sample now)) fun _ _ => True := by
  subst hgate
  refine Performs.weaken (.act (.observe sample now j i) rfl rfl (fun w hw => ⟨_, rfl, ?_⟩) hg)
    fun _ _ _ => trivial
  subst hw
  have hcore := Rollout.core_modifyTarget
    (g := fun t => { t with health := sample.health }) (applyHealth_core hg.2) w.rollout j i
  simp only [World.view, Act.run, View.log, View.setRollout, Rollout.core_place, hcore]
  rfl

omit [Tolerates e] in
theorem telemetryOn_performs {sample : EvidenceRecord}
    (hfresh : (admissionFreshness env.limits sample now).fresh = true) :
    Performs env Act.isSettling e c (telemetryOn env sample now) fun _ _ => True := by
  unfold telemetryOn
  refine .read_bind fun w hw => ?_
  split
  · refine .bind (.forM (I := fun _ => True) trivial fun j _ c' _ => .read_bind fun w' hw' => ?_)
      fun _ c' _ => ?_
    · split
      · exact .pure trivial
      · next i hi =>
        refine observe_performs ⟨?_, hfresh⟩ (World.policy_core hw' j ▸ rfl)
        rw [← World.findTarget_core hw']
        exact hi
    · exact (Performs.latch_any persistRollout_performs.wrote rfl).weaken fun _ _ _ => trivial
  · exact .pure trivial

end RolloutFabric
