/-
What a record leaves behind, exactly. The standing of a rollout is its stages with all their
targets and the attempt table; writing the journal and recording decisions leave it alone, and
each class of evidence changes it in one way.
-/
import RolloutFabric.Lib.Effects
import RolloutFabric.Orchestrator.Performs

namespace RolloutFabric

open Program

variable {ρ α β : Type}

/-- A rollout without its decisions and its count of outstanding attempts, the attempt table and
the incarnation: what evidence is judged by and what it changes. -/
structure Standing where
  rollout : Rollout
  attempts : AttemptId → Option Attempt
  incarnation : IncarnationId

def Rollout.settled (r : Rollout) : Rollout := { r with decisions := [], outstandingAttempts := 0 }

def World.standing (w : World ρ) : Standing where
  rollout := w.rollout.settled
  attempts := fun id => w.impl.attempts.lookup id
  incarnation := w.impl.incarnation

namespace Standing

def modifyStage (v : Standing) (j : Nat) (f : StageRuntime → StageRuntime) : Standing :=
  { v with rollout := v.rollout.modifyStage j f }

def modifyTarget (v : Standing) (j i : Nat) (f : TargetRuntime → TargetRuntime) : Standing :=
  { v with rollout := v.rollout.modifyTarget j i f }

def setAttempt (v : Standing) (id : AttemptId) (a : Attempt) : Standing :=
  { v with attempts := Function.update v.attempts id (some a) }

end Standing

namespace Rollout

variable {r : Rollout} {j i : Nat}

theorem targetAt_modifyTarget (hj : j < r.stages.length) (hi : i < (r.stageAt j).targets.length)
    (f : TargetRuntime → TargetRuntime) :
    (r.modifyTarget j i f).targetAt j i = f (r.targetAt j i) := by
  have hstage : (r.modifyTarget j i f).stageAt j
      = { r.stageAt j with targets := (r.stageAt j).targets.modify i f } := by
    simp [modifyTarget, modifyStage, stageAt, hj]
  rw [targetAt, hstage]
  simp [targetAt, hi]

/-- A change of the stage around its targets. -/
theorem targetAt_modifyStage {g : StageRuntime → StageRuntime}
    (h : ∀ s, (g s).targets = s.targets) (k : Nat) :
    (r.modifyStage k g).targetAt j i = r.targetAt j i := by
  simp only [targetAt, stageAt, modifyStage, List.getD_eq_getElem?_getD, List.getElem?_modify]
  by_cases hk : k = j
  · cases r.stages[j]? <;> simp [hk, h]
  · simp [hk]

theorem policy_modifyTarget (f : TargetRuntime → TargetRuntime) (k : Nat) :
    ((r.modifyTarget j i f).stageAt k).policy = (r.stageAt k).policy := by
  simp only [stageAt, modifyTarget, modifyStage, List.getD_eq_getElem?_getD, List.getElem?_modify]
  by_cases hk : j = k
  · cases r.stages[k]? <;> simp [hk]
  · simp [hk]

end Rollout

/-! ## What leaves the standing alone -/

/-- What writing the journal leaves alone. -/
def World.base (w : World ρ) : Rollout × Map AttemptId Attempt × IncarnationId :=
  (w.rollout, w.impl.attempts, w.impl.incarnation)

def Standing.ofBase (b : Rollout × Map AttemptId Attempt × IncarnationId) : Standing where
  rollout := b.1.settled
  attempts := fun id => b.2.1.lookup id
  incarnation := b.2.2

section
variable {limits : RuntimeLimits} {env : Env ρ} {now : Timestamp}

theorem standing_of_base {m : Op ρ α} (h : Frames World.base m) : Frames World.standing m :=
  h.map (g := Standing.ofBase)

theorem read_frames (f : World ρ → α) : Frames World.base (Op.read f) :=
  fun _ => rfl

theorem ask_frames (f : ρ → α × ρ) : Frames World.base (Op.ask f) := fun _ => rfl

theorem log_frames (e : Event) : Frames World.base (Op.log (ρ := ρ) e) := fun _ => rfl

theorem updateImpl_frames {f : Impl ρ → Impl ρ} (ha : ∀ s, (f s).attempts = s.attempts)
    (hi : ∀ s, (f s).incarnation = s.incarnation) :
    Frames World.base (Op.updateImpl f) := by
  intro w
  simp only [Op.exec_updateImpl, World.base, ha, hi]

theorem journalAppend_frames (device : JournalDevice ρ) (entry : JournalEntry) :
    Frames World.base (journalAppend limits device entry) := by
  unfold journalAppend
  refine .bind (read_frames _) fun _ => .bind (read_frames _) fun _ => ?_
  split
  · exact .bind (log_frames _) fun _ => .pure _
  split
  · exact .bind (log_frames _) fun _ => .pure _
  · refine .bind (ask_frames _) fun _ => .bind (log_frames _) fun _ => ?_
    split
    · exact .bind (updateImpl_frames (fun _ => rfl) fun _ => rfl) fun _ => .pure _
    · exact .pure _

theorem appendJournal_frames (entry : JournalEntry) :
    Frames World.base (appendJournal env entry) := by
  unfold appendJournal
  split
  · exact .pure _
  next device _ =>
  refine .bind (read_frames _) fun _ => ?_
  split
  · exact .bind (read_frames _) fun _ => .throw _
  refine .bind (journalAppend_frames device entry) fun _ => ?_
  split
  · exact updateImpl_frames (fun _ => rfl) fun _ => rfl
  · exact .bind (updateImpl_frames (fun _ => rfl) fun _ => rfl) fun _ => .throw _

theorem persistRollout_frames : Frames World.base (persistRollout env) := by
  unfold persistRollout
  refine .bind .get fun w => ?_
  dsimp only
  split
  · exact .bind (log_frames _) fun _ => .throw _
  split
  · exact .bind (appendJournal_frames _) fun _ =>
      updateImpl_frames (fun _ => rfl) fun _ => rfl
  · exact updateImpl_frames (fun _ => rfl) fun _ => rfl

theorem latch_frames {m : Op ρ Unit} (h : Frames World.base m) :
    Frames World.base (Op.latch m) :=
  .tryCatch h fun _ => updateImpl_frames (fun _ => rfl) fun _ => rfl

/-- What is caught does not fail. -/
theorem latch_returns (m : Op ρ Unit) (w : World ρ) : ((Op.latch m).exec w).1 = .ok () := by
  unfold Op.latch
  rw [exec_tryCatch]
  split
  · rfl
  · rfl

end

/-! ## Effects of the operations -/

section
variable {v : Standing} {j i : Nat} {env : Env ρ} {now : Timestamp}

theorem effects_read (f : World ρ → α) :
    Effects World.standing v (Op.read f) fun a v' => v' = v ∧ ∃ w : World ρ, w.standing = v ∧ a = f w :=
  fun w hw => ⟨f w, rfl, hw, w, hw, rfl⟩

theorem effects_stage : Effects World.standing v (Op.stage (ρ := ρ) j) fun s v' =>
    v' = v ∧ s = v.rollout.stageAt j := by
  rintro w rfl
  exact ⟨_, rfl, rfl, rfl⟩

theorem effects_target : Effects World.standing v (Op.target (ρ := ρ) j i) fun t v' =>
    v' = v ∧ t = v.rollout.targetAt j i := by
  rintro w rfl
  exact ⟨_, rfl, rfl, rfl⟩

theorem effects_updateStage (f : StageRuntime → StageRuntime) :
    Effects World.standing v (Op.updateStage (ρ := ρ) j f) fun _ v' => v' = v.modifyStage j f := by
  rintro w rfl
  exact ⟨_, rfl, rfl⟩

theorem effects_updateTarget (f : TargetRuntime → TargetRuntime) :
    Effects World.standing v (Op.updateTarget (ρ := ρ) j i f) fun _ v' =>
      v' = v.modifyTarget j i f := by
  rintro w rfl
  exact ⟨_, rfl, rfl⟩

theorem effects_enterTarget (state : TargetState) (record : Option EvidenceRecord)
    (f : TargetRuntime → TargetRuntime) :
    Effects World.standing v (Op.enterTarget (ρ := ρ) j i state record f) fun _ v' =>
      v' = v.modifyTarget j i fun t => { f t with state } := by
  rintro w rfl
  exact ⟨_, rfl, rfl⟩

theorem effects_updateAttempt {id : AttemptId} {a : Attempt} (f : Attempt → Attempt)
    (h : v.attempts id = some a) :
    Effects World.standing v (Op.updateAttempt (ρ := ρ) id f) fun _ v' =>
      v' = v.setAttempt id (f a) := by
  rintro w rfl
  refine ⟨_, rfl, ?_⟩
  change w.impl.attempts.lookup id = some a at h
  simp only [Op.updateAttempt, Op.exec_updateImpl, h, World.standing, Standing.setAttempt,
    Standing.mk.injEq, true_and, and_true]
  funext x
  by_cases hx : x = id
  · subst hx
    rw [AList.lookup_insert, Function.update_self]
  · rw [AList.lookup_insert_ne hx, Function.update_of_ne hx]

theorem effects_frames {m : Op ρ Unit} (hm : Frames World.standing m)
    (hok : ∀ w, (m.exec w).1 = .ok ()) : Effects World.standing v m fun _ v' => v' = v :=
  .of_frames hm fun w => ⟨_, hok w⟩

theorem effects_base {m : Op ρ Unit} (hm : Frames World.base m) (hok : ∀ w, (m.exec w).1 = .ok ()) :
    Effects World.standing v m fun _ v' => v' = v :=
  effects_frames (standing_of_base hm) hok

theorem effects_commit (fill : World ρ → DecisionBuilder) :
    Effects World.standing v (commit env now fill) fun _ v' => v' = v := by
  unfold commit commitDecision
  refine .bind (effects_read _) fun _ v' hv => .bind (effects_read _) fun _ v'' hv' => ?_
  rw [hv'.1, hv.1]
  refine .skip (effects_base (updateImpl_frames (fun _ => rfl) fun _ => rfl) fun _ => rfl) ?_
  refine .skip (effects_frames (fun _ => rfl) fun _ => rfl) ?_
  exact effects_base (latch_frames (appendJournal_frames _)) (latch_returns _)

/-! ## Effects of a record -/

/-- What a verification leaves in a target. -/
def TargetRuntime.verification (t : TargetRuntime) : Timestamp × Bool × VerifierId :=
  (t.verificationObservedAt, t.verificationPassed, t.verificationVerifier)

variable {record : EvidenceRecord} {a b : Attempt}

/-- An attempt that a report completed. -/
def Attempt.succeed (b : Attempt) (record : EvidenceRecord) : Attempt := { b with
  completed := true
  lastEvidenceAt := record.recordedAt
  outcome := record.outcome
  state := .succeeded }

/-- The terminal report that completes a target in flight. -/
theorem effects_succeed (hj : j < v.rollout.stages.length)
    (hi : i < (v.rollout.stageAt j).targets.length) (hb : v.attempts record.attempt = some b)
    (hcancelled : a.wasCancelled = false)
    (hcurrent : (v.rollout.targetAt j i).currentAttempt = record.attempt)
    (hkind : record.kind = .executionCompleted) (houtcome : record.outcome = .succeeded) :
    Effects World.standing v (applyTerminalExecution env record j i a now) fun _ v' =>
      v'.rollout.id = v.rollout.id
        ∧ v'.attempts record.attempt = some (b.succeed record)
        ∧ (v'.rollout.targetAt j i).state = .succeeded
        ∧ (v'.rollout.targetAt j i).verification = (v.rollout.targetAt j i).verification := by
  unfold applyTerminalExecution
  refine .bind (effects_updateAttempt _ hb) fun _ v₁ h₁ => ?_
  refine .skip (effects_frames (fun _ => rfl) fun _ => rfl) ?_
  refine .bind effects_target fun t v₂ ⟨h₂, ht⟩ => ?_
  have hcurrent' : ¬ t.currentAttempt ≠ record.attempt := by
    rw [ht, h₁]
    exact not_not.2 hcurrent
  -- the attempt is marked first, and found again as marked
  have hfound : v₂.attempts record.attempt = some { b with
      completed := true, lastEvidenceAt := record.recordedAt, outcome := record.outcome } := by
    rw [h₂, h₁]
    exact Function.update_self ..
  have hroll : v₂.rollout = v.rollout := by rw [h₂, h₁]; rfl
  rw [hcancelled, if_neg (by simp), if_neg hcurrent', if_pos ⟨houtcome, hkind⟩]
  clear h₁ h₂ ht
  refine .bind (effects_updateAttempt _ hfound) fun _ v₃ h₃ => ?_
  refine .bind (effects_enterTarget _ _ _) fun _ v₄ h₄ => ?_
  refine .bind (effects_updateStage _) fun _ v₅ h₅ => ?_
  refine .skip (effects_frames (fun _ => rfl) fun _ => rfl) ?_
  refine .bind effects_stage fun s v₆ ⟨h₆, hs⟩ => ?_
  refine .skip (effects_commit _) ?_
  refine .weaken (effects_frames (fun _ => rfl) fun _ => rfl) fun _ v' hv' => ?_
  -- the target ends as succeeded, and keeps its verification
  have htarget : v'.rollout.targetAt j i = { v.rollout.targetAt j i with
      outcome := .succeeded, completedAt := record.observedAt, lastTerminalEvidence := record.id
      lastReason := [], state := .succeeded } := by
    rw [hv', h₆, h₅, h₄, h₃]
    refine (Rollout.targetAt_modifyStage (h := ?_) j).trans ?_
    · exact fun _ => rfl
    · change (v₂.rollout.modifyTarget j i _).targetAt j i = _
      rw [hroll, Rollout.targetAt_modifyTarget hj hi]
  refine ⟨?_, ?_, ?_, ?_⟩
  · rw [hv', h₆, h₅, h₄, h₃]
    show v₂.rollout.id = v.rollout.id
    rw [hroll]
  · rw [hv', h₆, h₅, h₄, h₃]
    exact Function.update_self ..
  · rw [htarget]
  · rw [htarget]
    rfl

theorem effects_complete (hj : j < v.rollout.stages.length)
    (hi : i < (v.rollout.stageAt j).targets.length) (hb : v.attempts record.attempt = some b)
    (hcancelled : a.wasCancelled = false)
    (hcurrent : (v.rollout.targetAt j i).currentAttempt = record.attempt)
    (hstate : (v.rollout.targetAt j i).state ≠ .rollingBack)
    (hkind : record.kind = .executionCompleted) (houtcome : record.outcome = .succeeded) :
    Effects World.standing v (applyClass env record j i a now) fun _ v' =>
      v'.rollout.id = v.rollout.id
        ∧ v'.attempts record.attempt = some (b.succeed record)
        ∧ (v'.rollout.targetAt j i).state = .succeeded
        ∧ (v'.rollout.targetAt j i).verification = (v.rollout.targetAt j i).verification := by
  have hclass : evidenceClass record.kind = .execution := by rw [hkind]; rfl
  unfold applyClass
  rw [hclass]
  refine .bind effects_target fun t v' ⟨hv', ht⟩ => ?_
  rw [if_neg (fun h => h.1 hkind), if_neg (ht ▸ hstate), hv']
  exact effects_succeed hj hi hb hcancelled hcurrent hkind houtcome

/-- A verification of a target. -/
def EvidenceRecord.verify (record : EvidenceRecord) (t : TargetRuntime) : TargetRuntime :=
  { t with
    verificationObservedAt := record.observedAt
    verificationPassed := record.kind == .verificationPassed
    verificationVerifier := record.verifier
    lastReason := if record.kind = .verificationPassed then t.lastReason
      else text "verification failed" }

/-- Progress and acceptances are noted on the attempt alone. -/
def EvidenceKind.isProgress : EvidenceKind → Bool
  | .executionProgress | .dispatchAccepted => true
  | _ => false

theorem effects_progress (hkind : record.kind.isProgress = true) :
    Effects World.standing v (applyClass env record j i a now) fun _ v' => v' = v := by
  unfold applyClass
  cases hk : record.kind with
  | dispatchAccepted => exact .pure rfl
  | executionProgress =>
    refine .bind effects_target fun t v' ⟨hv', _⟩ => ?_
    rw [if_pos (by decide), hv']
    exact .pure rfl
  | _ => rw [hk] at hkind; cases hkind

theorem effects_verify (hclass : evidenceClass record.kind = .verification) :
    Effects World.standing v (applyClass env record j i a now) fun _ v' =>
      v' = v.modifyTarget j i record.verify := by
  unfold applyClass
  rw [hclass]
  exact effects_updateTarget _

/-- What an attempt keeps of the last record applied to it. -/
def Attempt.heard (a : Attempt) (record : EvidenceRecord) : Attempt := { a with
  highestSequence := record.sequence
  lastEvidenceAt := record.recordedAt
  acceptedEvidence := a.acceptedEvidence + 1 }

/-- A record is noted on its attempt, its class takes effect, and the snapshot changes nothing. -/
theorem applyEvidence_standing {w : World ρ} {q : Standing → Prop}
    (hstage : w.rollout.findStage record.stage = some j)
    (htarget : (w.rollout.stageAt j).findTarget record.target = some i)
    (ha : w.impl.attempts.lookup record.attempt = some a)
    (hclass : Effects World.standing (w.standing.setAttempt record.attempt (a.heard record))
      (applyClass env record j i a now) fun _ v' => q v') :
    q ((Op.latch (applyEvidence env record now)).exec w).2.standing := by
  have hprefix : Effects World.standing w.standing (do
      Op.log (.applied record a w.rollout.generation (w.rollout.targetAt j i).currentAttempt)
      Op.updateAttempt record.attempt fun b => b.heard record
      applyClass env record j i a now) fun _ v' => q v' := by
    refine .skip (effects_frames (fun _ => rfl) fun _ => rfl) ?_
    refine .bind (effects_updateAttempt _ ha) fun _ v' hv' => ?_
    rw [hv']
    exact hclass
  obtain ⟨_, hok, hq⟩ := hprefix w rfl
  generalize ht : Program.exec _ w = result at hok hq
  obtain ⟨_, t⟩ := result
  cases hok
  have hrun : (applyEvidence env record now).exec w = (persistRollout env).exec t := by
    have hbind := exec_bind_ok (f := fun _ => persistRollout env) ht
    simp only [bind_assoc] at hbind
    unfold applyEvidence
    rw [exec_bind_ok (exec_get w), ← hbind]
    simp only [hstage, htarget, ha]
    rfl
  have hlatch : (Op.latch (applyEvidence env record now)).exec w
      = (Op.latch (persistRollout env)).exec t := by
    simp only [Op.latch, exec_tryCatch, hrun]
  rw [hlatch, standing_of_base (latch_frames persistRollout_frames) t]
  exact hq

end

end RolloutFabric
