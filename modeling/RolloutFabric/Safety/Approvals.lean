/-
What a refused approval leaves behind. The decision is recorded and the gate cleared before what
the gate held back is carried out, so a rollout is left as it was exactly when that cannot fail.
-/
import RolloutFabric.Lib.Triple
import RolloutFabric.Orchestrator.Standing
import RolloutFabric.Safety.Paused

namespace RolloutFabric

open Program

variable {ρ α β : Type}

/-! ## Rules -/

section

variable {P : World ρ → Prop} {Q : β → World ρ → Prop} {E : Status → World ρ → Prop}

theorem triple_read (f : World ρ → α) :
    Triple P (Op.read f) (fun a w => a = f w ∧ P w) E :=
  fun w hw => ⟨.refl, fun a ha => (by cases ha; exact ⟨rfl, hw⟩), fun e he => by cases he⟩

/-- What is read is known from the state it is read in. -/
theorem triple_read_bind {f : World ρ → α} {k : α → Op ρ β}
    (h : ∀ w, P w → Triple P (k (f w)) Q E) : Triple P (Op.read f >>= k) Q E :=
  fun w hw => h w hw w hw

theorem triple_get_bind {k : World ρ → Op ρ β} (h : ∀ w, P w → Triple P (k w) Q E) :
    Triple P ((get : Op ρ (World ρ)) >>= k) Q E :=
  fun w hw => h w hw w hw

theorem triple_ask_bind {f : ρ → α × ρ} {k : α → Op ρ β}
    (hP : ∀ w outside, P w → P { w with impl := { w.impl with outside } })
    (h : ∀ a, Triple P (k a) Q E) : Triple P (Op.ask f >>= k) Q E :=
  fun w hw => h _ _ (hP w _ hw)

end

/-! ## Storage failures -/

/-- The status of a storage failure: the one that was latched, or the refusal to write a snapshot
above the bound. -/
inductive StorageFailure (limits : RuntimeLimits) (s : Impl ρ) : Status → Prop
  | latched (h : s.storageFailed = true) : StorageFailure limits s s.storageStatus
  | tooLarge {size : Nat} (h : limits.maxJournalRecordBytes.toNat < size) :
    StorageFailure limits s (makeStatus .resourceExhausted (text "rollout snapshot is "
      ++ toStringNat size
      ++ text " bytes, above max_journal_record_bytes; reduce the cohort size or raise the limit deliberately"))

section

variable {env : Env ρ} {w w' : World ρ} {s : Status} {E : Status → World ρ → Prop}

/-- The status of an append is returned, not thrown. -/
theorem journalAppend_returns (limits : RuntimeLimits) (device : JournalDevice ρ)
    (entry : JournalEntry) :
    Triple (fun _ => True) (journalAppend limits device entry) (fun _ _ => True) E := by
  unfold journalAppend
  refine triple_read_bind fun _ _ => triple_read_bind fun _ _ => ?_
  split
  · exact .skip (.modify fun _ _ => trivial) fun _ => .pure fun _ _ => trivial
  split
  · exact .skip (.modify fun _ _ => trivial) fun _ => .pure fun _ _ => trivial
  · refine triple_ask_bind (fun _ _ h => h) fun answer =>
      .skip (.modify fun _ _ => trivial) fun _ => ?_
    split
    · exact .skip (.modify fun _ _ => trivial) fun _ => .pure fun _ _ => trivial
    · exact .pure fun _ _ => trivial

theorem appendJournal_fails {entry : JournalEntry}
    (h : (appendJournal env entry).exec w = (.error s, w')) :
    StorageFailure env.limits w'.impl s := by
  suffices hall : Triple (fun _ => True) (appendJournal env entry) (fun _ _ => True)
      fun s w => StorageFailure env.limits w.impl s from hall.of_error trivial h
  unfold appendJournal
  split
  · exact .pure fun _ _ => trivial
  next device _ =>
  refine .bind (triple_read _) fun failed => ?_
  split
  · next hfailed =>
    refine .bind (triple_read _) fun status => .throw fun w hw => ?_
    rw [hw.1]
    exact .latched (hw.2.1.symm.trans hfailed)
  · refine Triple.bind (Q := fun _ _ => True)
      (.weaken (journalAppend_returns env.limits device entry) (fun _ _ => trivial)
        (fun _ _ _ => trivial) fun _ _ h => h) fun status => ?_
    split
    · exact .modify fun _ _ => trivial
    · refine .bind (.modify (Q := fun _ w => w.impl.storageFailed = true
        ∧ w.impl.storageStatus = makeStatus status.code
          (text "journal append failed: " ++ status.message)) fun _ _ => ⟨rfl, rfl⟩) fun _ => ?_
      refine .throw fun w hw => ?_
      rw [← hw.2]
      exact .latched hw.1

theorem persistRollout_fails (h : (persistRollout env).exec w = (.error s, w')) :
    StorageFailure env.limits w'.impl s := by
  unfold persistRollout at h
  rw [exec_bind, exec_get] at h
  dsimp only at h
  split at h
  · next hsize =>
    cases h
    exact .tooLarge hsize.1
  · split at h
    · rw [exec_bind] at h
      split at h
      · cases h
      · next happend =>
        cases h
        exact appendJournal_fails happend
    · cases h

end

/-! ## The course of a rollout -/

/-- The rollout is in this state, or a legal transition leads there. -/
def RolloutState.mayEnter (s next : RolloutState) : Bool := s == next || s.legalTransition next

def StageState.mayEnter (s next : StageState) : Bool := s == next || s.legalTransition next

namespace Rollout

/-- What transitions go by and change: the state, the cursor and the stages. -/
def course (r : Rollout) : RolloutState × UInt32 × List StageRuntime := (r.state, r.cursor, r.stages)

/-- The pending gates of the stages. -/
def gates (r : Rollout) : List GateId := r.stages.map StageRuntime.pendingGate

/-- The rollout after a transition of the stage was asked for and not refused. -/
def enterAt (r : Rollout) (j : Nat) (next : StageState) (now : Timestamp) : Rollout :=
  if (r.stageAt j).state = next then r else r.modifyStage j fun s => s.enter next now

variable {r r' : Rollout} {j : Nat} {next : StageState} {now : Timestamp}

theorem stageAt_of_course (h : r'.course = r.course) (j : Nat) : r'.stageAt j = r.stageAt j := by
  rw [stageAt, stageAt, (Prod.mk.inj (Prod.mk.inj h).2).2]

theorem state_of_course (h : r'.course = r.course) : r'.state = r.state := (Prod.mk.inj h).1

theorem cursor_of_course (h : r'.course = r.course) : r'.cursor = r.cursor :=
  (Prod.mk.inj (Prod.mk.inj h).2).1

theorem stages_of_course (h : r'.course = r.course) : r'.stages = r.stages :=
  (Prod.mk.inj (Prod.mk.inj h).2).2

theorem gates_of_course (h : r'.course = r.course) : r'.gates = r.gates := by
  rw [gates, gates, stages_of_course h]

theorem gates_modifyStage {f : StageRuntime → StageRuntime}
    (h : ∀ s, (f s).pendingGate = s.pendingGate) (j : Nat) : (r.modifyStage j f).gates = r.gates :=
  map_modify_same h r.stages j

theorem gates_enterAt : (r.enterAt j next now).gates = r.gates := by
  unfold enterAt
  split
  · rfl
  · refine gates_modifyStage ?_ j
    exact fun _ => rfl

theorem state_enterAt : (r.enterAt j next now).state = r.state := by
  unfold enterAt
  split <;> rfl

theorem cursor_enterAt : (r.enterAt j next now).cursor = r.cursor := by
  unfold enterAt
  split <;> rfl

theorem stages_enterAt_length : (r.enterAt j next now).stages.length = r.stages.length := by
  unfold enterAt
  split
  · rfl
  · exact List.length_modify ..

theorem stageAt_modifyStage_self (f : StageRuntime → StageRuntime) (hj : j < r.stages.length) :
    (r.modifyStage j f).stageAt j = f (r.stageAt j) := by
  simp [modifyStage, stageAt, hj]

theorem stageState_enterAt (hj : j < r.stages.length) :
    ((r.enterAt j next now).stageAt j).state = next := by
  unfold enterAt
  split
  · assumption
  · rw [stageAt_modifyStage_self _ hj, StageRuntime.enter]

end Rollout

/-! ## Transitions -/

/-- A failure for want of storage or because what was attempted is impossible, with the gates as
they were. -/
def Refused (env : Env ρ) (possible : Prop) (gates : List GateId) (s : Status) (w : World ρ) :
    Prop :=
  (StorageFailure env.limits w.impl s ∨ ¬ possible) ∧ w.rollout.gates = gates

section

variable {env : Env ρ} {r : Rollout} {j : Nat} {now : Timestamp} {counted : Bool}
  {possible possible' : Prop}

theorem Refused.weaken {gates gates' : List GateId} {s : Status} {w : World ρ}
    (h : Refused env possible gates s w) (hpossible : possible' → possible)
    (hgates : gates = gates') : Refused env possible' gates' s w :=
  ⟨h.1.imp_right (mt hpossible), h.2.trans hgates⟩

theorem persistRollout_spec {p : RolloutState × UInt32 × List StageRuntime → Prop} :
    Triple (fun w => p w.rollout.course) (persistRollout env) (fun _ w => p w.rollout.course)
      fun s w => StorageFailure env.limits w.impl s ∧ p w.rollout.course :=
  .of_frames (fun w : World ρ => w.rollout.course)
    (persistRollout_frames.map (g := fun b => b.1.course))
    fun _ _ _ _ hrun hcourse => ⟨persistRollout_fails hrun, hcourse⟩

theorem countTransition_spec {P : World ρ → Prop} {E : Status → World ρ → Prop}
    (h : ∀ w report, P w → P { w with report }) :
    Triple P (countTransition counted : Op ρ Unit) (fun _ => P) E := by
  unfold countTransition
  split
  · exact .modify fun w hw => h w _ hw
  · exact .pure fun _ hw => hw

/-- A transition of a stage is made when it is legal or there is nothing to do. -/
theorem stageTransition_spec (next : StageState) :
    Triple (fun w => w.rollout.course = r.course) (stageTransition env j next now counted)
      (fun _ w => (r.stageAt j).state.mayEnter next = true
        ∧ w.rollout.course = (r.enterAt j next now).course)
      (Refused env ((r.stageAt j).state.mayEnter next = true) r.gates) := by
  unfold stageTransition Op.stage
  refine triple_read_bind fun w hw => ?_
  rw [Rollout.stageAt_of_course hw]
  split
  · next hsame =>
    refine .pure fun w hw => ⟨by simp [StageState.mayEnter, hsame], ?_⟩
    rw [Rollout.enterAt, if_pos hsame, hw]
  next hne =>
  split
  · next hlegal =>
    have henter : r.enterAt j next now = r.modifyStage j fun s => s.enter next now := by
      rw [Rollout.enterAt, if_neg hne]
    refine .bind (Q := fun _ w => w.rollout.course = (r.enterAt j next now).course)
      (fun w hw => ⟨.refl, fun _ _ => ?_, fun e he => by cases he⟩) fun _ => ?_
    · show (w.rollout.state, w.rollout.cursor, w.rollout.stages.modify j _) = _
      rw [Rollout.state_of_course hw, Rollout.cursor_of_course hw, Rollout.stages_of_course hw,
        henter]
      rfl
    refine .skip (countTransition_spec fun _ _ h => h) fun _ => ?_
    exact .weaken (persistRollout_spec (p := fun c => c = (r.enterAt j next now).course))
      (fun _ h => h) (fun _ _ h => ⟨by simp [StageState.mayEnter, hlegal], h⟩)
      fun _ _ h => ⟨.inl h.1, (Rollout.gates_of_course h.2).trans Rollout.gates_enterAt⟩
  · next hillegal =>
    exact .throw fun w hw => ⟨.inr (by simp [StageState.mayEnter, hne, hillegal]),
      Rollout.gates_of_course hw⟩

/-- A transition of the rollout is made when it is legal or there is nothing to do. -/
theorem transition_spec (next : RolloutState) (reason : Bytes) :
    Triple (fun w => w.rollout.course = r.course) (transition env next reason now counted)
      (fun _ w => r.state.mayEnter next = true
        ∧ w.rollout.course = { r with state := next }.course)
      (Refused env (r.state.mayEnter next = true) r.gates) := by
  unfold transition
  refine triple_read_bind fun w hw => ?_
  rw [Rollout.state_of_course hw]
  split
  · next hsame =>
    refine .pure fun w hw => ⟨by simp [RolloutState.mayEnter, hsame], ?_⟩
    rw [hw, ← hsame]
  next hne =>
  split
  · next hlegal =>
    refine .bind (Q := fun _ w => w.rollout.course = { r with state := next }.course)
      (fun w hw => ⟨.refl, fun _ _ => ?_, fun e he => by cases he⟩) fun _ => ?_
    · show (next, w.rollout.cursor, w.rollout.stages) = _
      rw [Rollout.cursor_of_course hw, Rollout.stages_of_course hw]
      rfl
    refine .skip (countTransition_spec fun _ _ h => h) fun _ => ?_
    exact .weaken (persistRollout_spec (p := fun c => c = { r with state := next }.course))
      (fun _ h => h) (fun _ _ h => ⟨by simp [RolloutState.mayEnter, hlegal], h⟩)
      fun _ _ h => ⟨.inl h.1, Rollout.gates_of_course (r := { r with state := next }) h.2⟩
  · next hillegal =>
    exact .throw fun w hw => ⟨.inr (by simp [RolloutState.mayEnter, hne, hillegal]),
      Rollout.gates_of_course hw⟩

theorem commit_frames (fill : World ρ → DecisionBuilder) :
    Frames (fun w => w.rollout.course) (commit env now fill) := by
  unfold commit commitDecision
  refine .bind (fun _ => rfl) fun _ => .bind (fun _ => rfl) fun _ => .bind (fun _ => rfl) fun _ =>
    .bind (fun _ => rfl) fun _ => ?_
  exact (latch_frames (appendJournal_frames _)).map (g := fun b => b.1.course)

theorem commit_returns (fill : World ρ → DecisionBuilder) (w : World ρ) :
    ((commit env now fill).exec w).1 = .ok () := by
  unfold commit commitDecision
  rw [exec_bind_ok (Op.exec_read ..), exec_bind_ok (Op.exec_read ..),
    exec_bind_ok (Op.exec_updateImpl ..), exec_bind_ok (Op.exec_updateRollout ..)]
  exact latch_returns _ _

/-- A decision is recorded whatever becomes of it in the journal. -/
theorem commit_spec {p : RolloutState × UInt32 × List StageRuntime → Prop}
    {E : Status → World ρ → Prop} (fill : World ρ → DecisionBuilder) :
    Triple (fun w => p w.rollout.course) (commit env now fill) (fun _ w => p w.rollout.course) E :=
  .of_frames (fun w : World ρ => w.rollout.course) (commit_frames fill)
    fun w _ e t hrun _ => by
      have hok : ((commit env now fill).exec w).1 = .ok () := commit_returns fill w
      rw [hrun] at hok
      cases hok

end

/-! ## What a gate holds back -/

namespace Rollout

/-- A stage can be started. -/
def Startable (r : Rollout) (j : Nat) : Prop :=
  (r.stageAt j).state.mayEnter .running = true ∧ r.state.mayEnter .running = true

/-- A rollout can fail, or has come to its end. -/
def Failable (r : Rollout) : Prop :=
  r.state.isTerminal = true ∨ r.state.legalTransition .failed = true

/-- A stage can be begun: there is nothing to do until its predecessors are done, and one of them
that failed fails the rollout. -/
def Enterable (r : Rollout) (j : Nat) : Prop :=
  match readiness r (r.stageAt j) (r.stageAt j).predecessors with
  | .missing => False
  | .waiting => True
  | .refused _ => r.Failable
  | .ready =>
    if (r.stageAt j).state = .pending then
      (r.stageAt j).policy.entryGate = .manual ∨ r.state.mayEnter .running = true
    else r.Startable j

/-- The state a rollout moves to when its current stage is done. -/
def afterStage (r : Rollout) : RolloutState :=
  if r.stages.length ≤ (r.cursor + 1).toNat then .completed else .advancing

/-- A stage can be completed, and the rollout move on from it. -/
def Completable (r : Rollout) (j : Nat) : Prop :=
  (r.stageAt j).state.mayEnter .advancing = true ∧ r.state.mayEnter r.afterStage = true

/-- What a gate of this kind holds back on the stage can be carried out. -/
def Approvable (r : Rollout) (j : Nat) : GateKind → Prop
  | .stageEntry => r.Enterable j
  | .evidence | .advance => r.Completable j
  | .health => (r.stageAt j).state.mayEnter .running = true
  | .rollback => r.state.mayEnter .rollingBack = true

end Rollout

section

variable {env : Env ρ} {r : Rollout} {j : Nat} {now : Timestamp}

theorem countDecision_spec {P : World ρ → Prop} {E : Status → World ρ → Prop}
    (h : ∀ w report, P w → P { w with report }) :
    Triple P (countDecision : Op ρ Unit) (fun _ => P) E :=
  .modify fun w hw => h w _ hw

theorem startStage_spec :
    Triple (fun w => w.rollout.course = r.course) (startStage env j now)
      (fun _ _ => r.Startable j) (Refused env (r.Startable j) r.gates) := by
  unfold startStage
  refine .bind (.weaken (stageTransition_spec .running) (fun _ h => h) (fun _ _ h => h)
    fun _ _ h => h.weaken And.left rfl) fun _ => ?_
  refine triple_get_bind fun w hw => ?_
  obtain ⟨hstage, hcourse⟩ := hw
  rw [Rollout.state_of_course hcourse, Rollout.state_enterAt]
  have hrest : Triple (fun _ => r.Startable j) (do
      commit env now fun w' => decisionOf w' .startStage
        |>.stage (w.rollout.stageAt j).id
        |>.inputU64 (text "members") (w.rollout.stageAt j).cohort.members.length.toUInt64
        |>.inputDigest (text "membership") (w.rollout.stageAt j).cohort.membershipDigest
        |>.input (text "policy") (w.rollout.stageAt j).policy.describe
        |>.select (text "stage started")
        |>.reject (text "skip to the next stage")
          (text "the deterministic plan order forbids skipping")
        |>.rationale (text "every predecessor is succeeded, the entry gate is open, and the cohort is frozen at "
          ++ toStringNat (w.rollout.stageAt j).cohort.members.length ++ text " member(s)")
      countDecision : Op ρ Unit)
      (fun _ _ => r.Startable j) (Refused env (r.Startable j) r.gates) :=
    .skip (commit_spec (p := fun _ => r.Startable j) _) fun _ =>
      countDecision_spec fun _ _ h => h
  by_cases hrunning : r.state = .running
  · rw [if_neg (not_not.2 hrunning)]
    refine .weaken hrest (fun _ _ => ⟨hstage, by simp [RolloutState.mayEnter, hrunning]⟩)
      (fun _ _ h => h) fun _ _ h => h
  · rw [if_pos hrunning]
    refine .bind (.weaken (transition_spec (r := r.enterAt j .running now) .running _)
      (fun _ h => h.2) (fun _ _ h => (⟨hstage, Rollout.state_enterAt ▸ h.1⟩ : r.Startable j))
      fun _ _ h => h.weaken (fun hstart => ?_) Rollout.gates_enterAt) fun _ => hrest
    rw [Rollout.state_enterAt]
    exact hstart.2

/-- Opening a gate does not fail. -/
theorem openGate_spec {P : World ρ → Prop} {E : Status → World ρ → Prop} (kind : GateKind) :
    Triple P (openGate env j kind now) (fun _ _ => True) E := by
  unfold openGate
  refine triple_read_bind fun _ _ => .bind (Q := fun _ _ => True) (.modify fun _ _ => trivial)
    fun _ => .bind (Q := fun _ _ => True) (.modify fun _ _ => trivial) fun _ => fun w _ => ?_
  refine ⟨.refl, fun _ _ => trivial, fun e he => ?_⟩
  have hok := latch_returns (do
    stageTransition env j .gated now false
    let state ← Op.read fun w => w.rollout.state
    if state.legalTransition .gated then
      transition env .gated (text "waiting for a manual " ++ kind.toText ++ text " gate") now false) w
  rw [hok] at he
  cases he

theorem failRollout_spec (reason : Bytes) :
    Triple (fun w => w.rollout.course = r.course) (failRollout env reason now)
      (fun _ _ => r.Failable) (Refused env r.Failable r.gates) := by
  unfold failRollout
  refine triple_read_bind fun w hw => ?_
  rw [Rollout.state_of_course hw]
  split
  · next hterminal => exact .pure fun _ _ => .inl hterminal
  next hgoing =>
  split
  · next hpaused =>
    have hfail : r.Failable := .inr (by rw [hpaused]; rfl)
    refine .bind (.weaken (transition_spec .running _) (fun _ h => h) (fun _ _ h => h.2)
      fun _ _ h => h.weaken (fun _ => by rw [hpaused]; rfl) rfl) fun _ => ?_
    exact .weaken (transition_spec .failed reason) (fun _ h => h) (fun _ _ _ => hfail)
      fun _ _ h => h.weaken (fun _ => rfl) rfl
  · refine .weaken (transition_spec .failed reason) (fun _ h => h) (fun _ _ h => ?_)
      fun _ _ h => h.weaken (fun hfail => ?_) rfl
    · have hmay : r.state = .failed ∨ r.state.legalTransition .failed = true := by
        simpa [RolloutState.mayEnter] using h.1
      rcases hmay with hfailed | hlegal
      · exact .inl (by rw [hfailed]; rfl)
      · exact .inr hlegal
    · rcases hfail with hterminal | hlegal
      · exact absurd hterminal hgoing
      · simp [RolloutState.mayEnter, hlegal]

theorem readiness_of_course {r' : Rollout} (h : r'.course = r.course) (stage : StageRuntime)
    (predecessors : List StageId) : readiness r' stage predecessors = readiness r stage predecessors := by
  have hfind (id : StageId) : r'.findStage id = r.findStage id := by
    rw [Rollout.findStage, Rollout.findStage, Rollout.stages_of_course h]
  induction predecessors with
  | nil => rfl
  | cons predecessor rest ih =>
    unfold readiness
    rw [hfind, ih]
    split
    · rfl
    · rw [Rollout.stageAt_of_course h]

/-- A stage whose gate was cleared is begun, unless that is impossible. -/
theorem beginStage_spec (hj : j < r.stages.length)
    (hcleared : (r.stageAt j).pendingGate.isNil = true) :
    Triple (fun w => w.rollout.course = r.course) (beginStage env j now)
      (fun _ _ => r.Enterable j) (Refused env (r.Enterable j) r.gates) := by
  unfold beginStage
  refine triple_get_bind fun w hw => ?_
  dsimp only
  rw [Rollout.stageAt_of_course hw, readiness_of_course hw]
  cases hready : readiness r (r.stageAt j) (r.stageAt j).predecessors with
  | missing =>
    refine .throw fun w hw => ⟨.inr ?_, Rollout.gates_of_course hw⟩
    simp [Rollout.Enterable, hready]
  | waiting => exact .pure fun _ _ => by simp [Rollout.Enterable, hready]
  | refused previous =>
    have henterable : r.Enterable j ↔ r.Failable := by simp [Rollout.Enterable, hready]
    refine .skip (commit_spec (p := fun c => c = r.course) _) fun _ =>
      .skip (countDecision_spec fun _ _ h => h) fun _ => ?_
    exact .weaken (failRollout_spec _) (fun _ h => h) (fun _ _ h => henterable.2 h)
      fun _ _ h => h.weaken henterable.1 rfl
  | ready =>
    by_cases hpending : (r.stageAt j).state = .pending
    -- an armed stage waits at a manual gate, or starts at once
    · have henterable : r.Enterable j
          ↔ (r.stageAt j).policy.entryGate = .manual ∨ r.state.mayEnter .running = true := by
        simp [Rollout.Enterable, hready, hpending]
      dsimp only
      rw [if_pos hpending]
      refine .bind (.weaken (stageTransition_spec .armed) (fun _ h => h) (fun _ _ h => h.2)
        fun _ _ h => h.weaken (fun _ => by rw [hpending]; rfl) rfl) fun _ => ?_
      by_cases hmanual : (r.stageAt j).policy.entryGate = .manual
      · rw [if_pos ⟨hmanual, hcleared⟩]
        refine .skip (commit_spec (p := fun c => c = (r.enterAt j .armed now).course) _) fun _ =>
          .skip (countDecision_spec fun _ _ h => h) fun _ => ?_
        exact .weaken (openGate_spec _) (fun _ h => h) (fun _ _ _ => henterable.2 (.inl hmanual))
          fun _ _ h => h
      · rw [if_neg fun h => hmanual h.1]
        have hstart : (r.enterAt j .armed now).Startable j ↔ r.Enterable j := by
          rw [henterable, Rollout.Startable, Rollout.stageState_enterAt hj, Rollout.state_enterAt]
          simp [hmanual, StageState.mayEnter, StageState.legalTransition]
        exact .weaken startStage_spec (fun _ h => h) (fun _ _ h => hstart.1 h)
          fun _ _ h => h.weaken hstart.2 Rollout.gates_enterAt
    -- a stage past its entry starts
    · have henterable : r.Enterable j ↔ r.Startable j := by
        simp [Rollout.Enterable, hready, hpending]
      dsimp only
      rw [if_neg hpending]
      exact .weaken startStage_spec (fun _ h => h) (fun _ _ h => henterable.2 h)
        fun _ _ h => h.weaken henterable.1 rfl

/-- The stage succeeded and the cursor is past it. -/
def Rollout.Passes (r : Rollout) (j : Nat) (r' : Rollout) : Prop :=
  (r'.stageAt j).state = .succeeded ∧ r'.cursor = r.cursor + 1

/-- A stage is completed, unless it or the rollout cannot move on. -/
theorem advanceCursor_spec (hj : j < r.stages.length) (health evidence advance : GateEvaluation) :
    Triple (fun w => w.rollout.course = r.course)
      (advanceCursor env j health evidence advance now)
      (fun _ w => r.Completable j ∧ r.Passes j w.rollout)
      (Refused env (r.Completable j) r.gates) := by
  unfold advanceCursor
  refine .bind (.weaken (stageTransition_spec .advancing) (fun _ h => h) (fun _ _ h => h)
    fun _ _ h => h.weaken And.left rfl) fun _ => ?_
  refine .extract fun hstage => ?_
  -- an advancing stage may succeed, so only the first move can be refused
  have hadvancing : ((r.enterAt j .advancing now).stageAt j).state.mayEnter .succeeded = true := by
    rw [Rollout.stageState_enterAt hj]
    rfl
  refine .bind (.weaken (stageTransition_spec (r := r.enterAt j .advancing now) .succeeded)
    (fun _ h => h) (fun _ _ h => h.2)
    fun _ _ h => h.weaken (fun _ => hadvancing) Rollout.gates_enterAt) fun _ => ?_
  -- two moves of one stage leave the rest of the rollout
  generalize hend : ((r.enterAt j .advancing now).enterAt j .succeeded now) = done
  have hgates : done.gates = r.gates := by rw [← hend, Rollout.gates_enterAt, Rollout.gates_enterAt]
  have hstate : done.state = r.state := by rw [← hend, Rollout.state_enterAt, Rollout.state_enterAt]
  have hcursor : done.cursor = r.cursor := by
    rw [← hend, Rollout.cursor_enterAt, Rollout.cursor_enterAt]
  have hlength : done.stages.length = r.stages.length := by
    rw [← hend, Rollout.stages_enterAt_length, Rollout.stages_enterAt_length]
  have hsucceeded : (done.stageAt j).state = .succeeded := by
    rw [← hend]
    exact Rollout.stageState_enterAt (by rw [Rollout.stages_enterAt_length]; exact hj)
  refine .bind (Q := fun _ w => w.rollout.course = { done with cursor := r.cursor + 1 }.course)
    (.modify fun w hw => ?_) fun _ => triple_read_bind fun w hw => ?_
  · show (w.rollout.state, w.rollout.cursor + 1, w.rollout.stages) = _
    rw [Rollout.state_of_course hw, Rollout.cursor_of_course hw, Rollout.stages_of_course hw,
      hcursor]
    rfl
  refine .skip (commit_spec (p := fun c => c = { done with cursor := r.cursor + 1 }.course) _)
    fun _ => .skip (countDecision_spec fun _ _ h => h) fun _ => ?_
  rw [Rollout.stages_of_course hw, Rollout.cursor_of_course hw]
  have htransition (reason : Bytes) :
      Triple (fun w => w.rollout.course = { done with cursor := r.cursor + 1 }.course)
        (transition env r.afterStage reason now true)
        (fun _ w => r.Completable j ∧ r.Passes j w.rollout)
        (Refused env (r.Completable j) r.gates) :=
    .weaken (transition_spec (r := { done with cursor := r.cursor + 1 }) r.afterStage reason)
      (fun _ h => h) (fun _ w h => ⟨⟨hstage, hstate ▸ h.1⟩,
        (congrArg StageRuntime.state (Rollout.stageAt_of_course h.2 j)).trans hsucceeded,
        Rollout.cursor_of_course h.2⟩)
      fun _ _ h => h.weaken (fun hmay => (congrArg (·.mayEnter r.afterStage) hstate).trans hmay.2)
        hgates
  unfold Rollout.afterStage at htransition
  split
  · next hfinished =>
    rw [if_pos (by simpa [hlength] using hfinished)] at htransition
    exact htransition _
  · next hmore =>
    rw [if_neg (by simpa [hlength] using hmore)] at htransition
    exact htransition _

theorem updateStage_spec {f : StageRuntime → StageRuntime} {E : Status → World ρ → Prop} :
    Triple (fun w => w.rollout.course = r.course) (Op.updateStage j f)
      (fun _ w => w.rollout.course = (r.modifyStage j f).course) E :=
  .modify fun w hw => by
    show (w.rollout.state, w.rollout.cursor, w.rollout.stages.modify j f) = _
    rw [Rollout.state_of_course hw, Rollout.cursor_of_course hw, Rollout.stages_of_course hw]
    rfl

/-- A completion that is approved, or whose two gates are satisfied, goes straight to the end of
the stage. -/
theorem completeStage_passes (hj : j < r.stages.length) {approved : Bool}
    (hpass : approved = true ∨ (evaluateEvidenceGate (r.stageAt j)
        (r.stageAt j).policy.evidenceGate (r.stageAt j).evidenceRule now env.limits).satisfied = true
      ∧ (evaluateAdvanceGate (r.stageAt j) now env.limits).satisfied = true) :
    Triple (fun w => w.rollout.course = r.course) (completeStage env j now approved)
      (fun _ w => r.Completable j ∧ r.Passes j w.rollout)
      (Refused env (r.Completable j) r.gates) := by
  have hupdate {r : Rollout} (f : StageRuntime → StageRuntime)
      (hgate : ∀ s, (f s).pendingGate = s.pendingGate)
      (hstate : ∀ s, (f s).state = s.state) (hj : j < r.stages.length) :
      (r.modifyStage j f).gates = r.gates ∧ ((r.modifyStage j f).Completable j ↔ r.Completable j)
        ∧ j < (r.modifyStage j f).stages.length := by
    refine ⟨Rollout.gates_modifyStage hgate j, ?_, by simpa [Rollout.modifyStage] using hj⟩
    rw [Rollout.Completable, Rollout.stageAt_modifyStage_self f hj, hstate]
    simp [Rollout.Completable, Rollout.afterStage, Rollout.modifyStage]
  unfold completeStage
  refine triple_get_bind fun w hw => ?_
  dsimp only
  rw [Rollout.stageAt_of_course hw]
  refine .skip (.modify fun _ h => h) fun _ => ?_
  generalize healthEvaluation env (r.stageAt j) now = health
  refine .bind updateStage_spec fun _ => .skip (.modify fun _ h => h) fun _ => ?_
  generalize evaluateEvidenceGate (r.stageAt j) _ _ now env.limits = evidence at hpass ⊢
  generalize evaluateAdvanceGate (r.stageAt j) now env.limits = advance at hpass ⊢
  refine .bind updateStage_spec fun _ => .skip (.modify fun _ h => h) fun _ => ?_
  rw [if_neg (by rcases hpass with h | ⟨h, -⟩ <;> simp [h])]
  refine .bind updateStage_spec fun _ => .skip (.modify fun _ h => h) fun _ => ?_
  rw [if_neg (by rcases hpass with h | ⟨-, h⟩ <;> simp [h])]
  obtain ⟨hgates, hiff, hj'⟩ := hupdate (fun s => { s with lastHealthGate := health })
    (fun _ => rfl) (fun _ => rfl) hj
  obtain ⟨hgates', hiff', hj''⟩ := hupdate (fun s => { s with lastEvidenceGate := evidence })
    (fun _ => rfl) (fun _ => rfl) hj'
  obtain ⟨hgates'', hiff'', hl⟩ := hupdate (fun s => { s with lastAdvanceGate := advance })
    (fun _ => rfl) (fun _ => rfl) hj''
  have hall := hiff''.trans (hiff'.trans hiff)
  exact .weaken (advanceCursor_spec hl _ _ _) (fun _ h => h) (fun _ _ h => ⟨hall.1 h.1, h.2⟩)
    fun _ _ h => h.weaken hall.2 (hgates''.trans (hgates'.trans hgates))

/-- An approved completion looks at no gate. -/
theorem completeStage_spec (hj : j < r.stages.length) :
    Triple (fun w => w.rollout.course = r.course) (completeStage env j now true)
      (fun _ _ => r.Completable j) (Refused env (r.Completable j) r.gates) :=
  .weaken (completeStage_passes hj (.inl rfl)) (fun _ h => h) (fun _ _ h => h.1) fun _ _ h => h

/-- Marking a target for compensation leaves the gates alone. -/
theorem enterTarget_spec {i : Nat} {state : TargetState} {record : Option EvidenceRecord}
    {f : TargetRuntime → TargetRuntime} {gates : List GateId} {E : Status → World ρ → Prop} :
    Triple (fun w => w.rollout.gates = gates) (Op.enterTarget (ρ := ρ) j i state record f)
      (fun _ w => w.rollout.gates = gates) E := by
  refine fun w hw => ⟨.refl, fun _ _ => ?_, fun e he => by cases he⟩
  rw [Op.exec_enterTarget]
  refine (Rollout.gates_modifyStage ?_ j).trans hw
  exact fun _ => rfl

/-- A transition that is only made when it leads somewhere else. -/
theorem transition_unless (next : RolloutState) (reason : Bytes) {k : Unit → Op ρ β}
    {Q : β → World ρ → Prop}
    (hk : r.state.mayEnter next = true →
      Triple (fun w => w.rollout.gates = r.gates) (k ()) Q
        (Refused env (r.state.mayEnter next = true) r.gates)) :
    Triple (fun w => w.rollout.course = r.course)
      (if r.state ≠ next then transition env next reason now true >>= k else k ()) Q
      (Refused env (r.state.mayEnter next = true) r.gates) := by
  split
  · refine .bind (transition_spec next reason) fun _ => .extract fun hmay => ?_
    exact .weaken (hk hmay)
      (fun _ h => Rollout.gates_of_course (r := { r with state := next }) h) (fun _ _ h => h)
      fun _ _ h => h
  · next hsame =>
    have hmay : r.state.mayEnter next = true := by simp [RolloutState.mayEnter, not_not.1 hsame]
    exact .weaken (hk hmay) (fun _ h => Rollout.gates_of_course h) (fun _ _ h => h) fun _ _ h => h

/-- A rollback begins, unless the rollout cannot be rolled back. -/
theorem beginRollback_spec (reason : Bytes) :
    Triple (fun w => w.rollout.course = r.course) (beginRollback env reason now)
      (fun _ _ => r.state.mayEnter .rollingBack = true)
      (Refused env (r.state.mayEnter .rollingBack = true) r.gates) := by
  unfold beginRollback
  refine triple_read_bind fun w hw => ?_
  rw [Rollout.state_of_course hw]
  refine transition_unless .rollingBack reason fun hmay => triple_read_bind fun w _ => ?_
  refine .skip (.forM fun j _ => .forM fun i _ => ?_) fun _ => ?_
  · refine triple_read_bind fun _ _ => triple_read_bind fun _ _ => ?_
    split
    · exact enterTarget_spec
    · exact .pure fun _ h => h
  refine .skip (commit_spec (p := fun c => c.2.2.map StageRuntime.pendingGate = r.gates) _)
    fun _ => .skip (countDecision_spec fun _ _ h => h) fun _ => ?_
  exact .weaken (persistRollout_spec (p := fun c => c.2.2.map StageRuntime.pendingGate = r.gates))
    (fun _ h => h) (fun _ _ _ => hmay) fun _ _ h => ⟨.inl h.1, h.2⟩

end

/-! ## Approving -/

/-- The gate of the stage is cleared. -/
def StageRuntime.clearGate (s : StageRuntime) : StageRuntime :=
  { s with pendingGate := .nil, pendingGateSince := {} }

def Rollout.clearGate (r : Rollout) (j : Nat) : Rollout := r.modifyStage j StageRuntime.clearGate

@[simp] theorem StageRuntime.clearGate_state (s : StageRuntime) : s.clearGate.state = s.state := rfl

@[simp] theorem StageRuntime.clearGate_policy (s : StageRuntime) :
    s.clearGate.policy = s.policy := rfl

@[simp] theorem StageRuntime.clearGate_predecessors (s : StageRuntime) :
    s.clearGate.predecessors = s.predecessors := rfl

@[simp] theorem StageRuntime.clearGate_pendingGate (s : StageRuntime) :
    s.clearGate.pendingGate = .nil := rfl

@[simp] theorem Rollout.clearGate_state (r : Rollout) (j : Nat) : (r.clearGate j).state = r.state :=
  rfl

section

variable {env : Env ρ} {r : Rollout} {j : Nat} {now : Timestamp}

/-- A readiness up to the predecessor it names. -/
def Readiness.erase : Readiness → Readiness
  | .refused _ => .refused default
  | other => other

theorem readiness_modifyStage {f : StageRuntime → StageRuntime} (hid : ∀ s, (f s).id = s.id)
    (hstate : ∀ s, (f s).state = s.state) {stage stage' : StageRuntime}
    (hpolicy : stage'.policy = stage.policy) (predecessors : List StageId) :
    (readiness (r.modifyStage j f) stage' predecessors).erase
      = (readiness r stage predecessors).erase := by
  induction predecessors with
  | nil => rfl
  | cons predecessor rest ih =>
    have hfind : (r.modifyStage j f).findStage predecessor = r.findStage predecessor := by
      have hmap := map_modify_same hid r.stages j
      have hany (l : List StageRuntime) : l.findIdx? (fun stage => stage.id == predecessor)
          = (l.map StageRuntime.id).findIdx? fun id => id == predecessor := by
        rw [List.findIdx?_map]
        rfl
      rw [Rollout.findStage, Rollout.findStage, hany, hany, ← hmap]
      rfl
    have hat (p : Nat) : ((r.modifyStage j f).stageAt p).state = (r.stageAt p).state := by
      simp only [Rollout.stageAt, Rollout.modifyStage, List.getD_eq_getElem?_getD,
        List.getElem?_modify]
      by_cases hp : j = p
      · cases r.stages[p]? <;> simp [hp, hstate]
      · simp [hp]
    unfold readiness
    rw [hfind]
    split
    · rfl
    · dsimp only
      rw [hat, hpolicy]
      split
      · exact ih
      split
      · split
        · rfl
        · exact ih
      · rfl

/-- What a gate holds back does not depend on the gate. -/
theorem approvable_clearGate (hj : j < r.stages.length) (kind : GateKind) :
    (r.clearGate j).Approvable j kind ↔ r.Approvable j kind := by
  have hstage : (r.clearGate j).stageAt j = (r.stageAt j).clearGate :=
    Rollout.stageAt_modifyStage_self _ hj
  have hafter : (r.clearGate j).afterStage = r.afterStage := by
    simp [Rollout.afterStage, Rollout.clearGate, Rollout.modifyStage]
  have hready : (readiness (r.clearGate j) ((r.clearGate j).stageAt j)
        ((r.clearGate j).stageAt j).predecessors).erase
      = (readiness r (r.stageAt j) (r.stageAt j).predecessors).erase := by
    rw [hstage]
    have hpolicy : (r.stageAt j).clearGate.policy = (r.stageAt j).policy := rfl
    exact readiness_modifyStage (f := StageRuntime.clearGate) (fun _ => rfl) (fun _ => rfl) hpolicy _
  cases kind with
  | stageEntry =>
    unfold Rollout.Approvable Rollout.Enterable
    revert hready
    cases readiness r (r.stageAt j) (r.stageAt j).predecessors <;>
      cases readiness (r.clearGate j) ((r.clearGate j).stageAt j)
        ((r.clearGate j).stageAt j).predecessors <;> intro hready <;> try cases hready
    · simp [Rollout.Startable, hstage]
    · rfl
    · rfl
    · rfl
  | evidence | advance => simp [Rollout.Approvable, Rollout.Completable, hstage, hafter]
  | health => simp [Rollout.Approvable, hstage]
  | rollback => rfl

/-- The operation a gate of this kind holds back. -/
def approved (env : Env ρ) (j : Nat) (now : Timestamp) : GateKind → Op ρ Unit
  | .stageEntry => beginStage env j now
  | .evidence | .advance => completeStage env j now true
  | .health => stageTransition env j .running now true
  | .rollback => beginRollback env (text "operator approved rollback") now

theorem approved_spec (hj : j < r.stages.length)
    (hcleared : (r.stageAt j).pendingGate.isNil = true) (kind : GateKind) :
    Triple (fun w => w.rollout.course = r.course) (approved env j now kind)
      (fun _ _ => r.Approvable j kind) (Refused env (r.Approvable j kind) r.gates) := by
  cases kind with
  | stageEntry => exact beginStage_spec hj hcleared
  | evidence => exact completeStage_spec hj
  | advance => exact completeStage_spec hj
  | health =>
    exact .weaken (stageTransition_spec .running) (fun _ h => h) (fun _ _ h => h.1) fun _ _ h => h
  | rollback => exact beginRollback_spec _

/-- The stage an approval of the gate is about. -/
def Rollout.pendingAt (r : Rollout) (gate : GateId) : Option Nat :=
  r.stages.findIdx? fun stage => !stage.pendingGate.isNil && stage.pendingGate == gate

theorem pendingAt_some {gate : GateId} (h : r.pendingAt gate = some j) :
    j < r.stages.length ∧ (r.stageAt j).pendingGate ≠ .nil := by
  obtain ⟨hj, hgate, -⟩ := List.findIdx?_eq_some_iff_getElem.1 h
  refine ⟨hj, ?_⟩
  rw [Rollout.stageAt, List.getD_eq_getElem?_getD, List.getElem?_eq_getElem hj, Option.getD_some]
  simp only [Bool.and_eq_true, Bool.not_eq_true'] at hgate
  exact StrongId.isNil_eq_false_iff.1 hgate.1

/-- Clearing a pending gate changes the rollout. -/
theorem gates_clearGate_ne (hj : j < r.stages.length) (h : (r.stageAt j).pendingGate ≠ .nil) :
    (r.clearGate j).gates ≠ r.gates := by
  intro hsame
  have hat (r : Rollout) (hj : j < r.stages.length) :
      r.gates[j]? = some (r.stageAt j).pendingGate := by
    simp [Rollout.gates, Rollout.stageAt, hj]
  have hj' : j < (r.clearGate j).stages.length := by
    simpa [Rollout.clearGate, Rollout.modifyStage] using hj
  have hcleared := hat (r.clearGate j) hj'
  rw [hsame, hat r hj, Rollout.clearGate, Rollout.stageAt_modifyStage_self _ hj] at hcleared
  exact h (Option.some.inj hcleared)

variable {context : CommandContext} {gate : GateId}

/-- An approval of a pending gate goes through exactly when what the gate holds back can be carried
out, storage failures apart; the gate is cleared in any case. -/
theorem approvePending_spec (h : r.pendingAt gate = some j) :
    Triple (fun w => w.rollout = r) (approvePending env context gate)
      (fun _ _ => r.Approvable j (r.stageAt j).pendingGateKind)
      (Refused env (r.Approvable j (r.stageAt j).pendingGateKind) (r.clearGate j).gates) := by
  obtain ⟨hj, -⟩ := pendingAt_some h
  unfold Rollout.pendingAt at h
  unfold approvePending
  refine triple_read_bind fun w hw => ?_
  rw [hw]
  dsimp only
  rw [h]
  refine triple_ask_bind (fun _ _ h => h) fun now => triple_read_bind fun w hw => ?_
  subst hw
  refine .bind (Q := fun _ w' => w'.rollout.course = w.rollout.course)
    (.weaken (commit_spec (p := fun c => c = w.rollout.course) _)
      (fun w' hw' => congrArg Rollout.course hw') (fun _ _ h => h) fun _ _ h => h) fun _ => ?_
  refine .bind (updateStage_spec (f := StageRuntime.clearGate)) fun _ =>
    .skip (.modify fun _ h => h) fun _ => ?_
  have hspec (kind : GateKind) : Triple
      (fun w' : World ρ => w'.rollout.course = (w.rollout.clearGate j).course)
      (approved env j now kind) (fun _ _ => w.rollout.Approvable j kind)
      (Refused env (w.rollout.Approvable j kind) (w.rollout.clearGate j).gates) := by
    have hiff := approvable_clearGate hj kind
    refine .weaken (approved_spec (r := w.rollout.clearGate j) ?_ ?_ kind) (fun _ h => h)
      (fun _ _ h => hiff.1 h) fun _ _ h => h.weaken hiff.2 rfl
    · simpa [Rollout.clearGate, Rollout.modifyStage] using hj
    · rw [Rollout.clearGate, Rollout.stageAt_modifyStage_self _ hj]
      simp
  cases (w.rollout.stageAt j).pendingGateKind with
  | stageEntry => exact .bind (hspec .stageEntry) fun _ => .pure fun _ h => h
  | evidence => exact .bind (hspec .evidence) fun _ => .pure fun _ h => h
  | advance => exact .bind (hspec .advance) fun _ => .pure fun _ h => h
  | health => exact .bind (hspec .health) fun _ => .pure fun _ h => h
  | rollback => exact .bind (hspec .rollback) fun _ => .pure fun _ h => h

/-- A gate that is not pending is refused before anything happens. -/
theorem approvePending_unknown {w : World ρ} (h : w.rollout.pendingAt gate = none) :
    ∃ s, (approvePending env context gate).exec w = (.error s, w) := by
  unfold Rollout.pendingAt at h
  unfold approvePending
  rw [exec_bind, Op.exec_read]
  dsimp only
  rw [h]
  exact ⟨_, rfl⟩

end

section

variable {o : Orchestrator ρ}

/-- A refused approval, storage failures apart, leaves every rollout as it was exactly when no
approval gets to a gate that holds back what cannot be carried out. -/
theorem refused_approval_keeps_iff (env : Env ρ) (o : Orchestrator ρ) (id : RolloutId)
    (gate : GateId) (context : CommandContext)
    (h : ∀ s, (approveGate env o id gate context).1 = .error s →
      ¬ StorageFailure env.limits (approveGate env o id gate context).2.impl s) :
    (∀ s, (approveGate env o id gate context).1 = .error s →
      (approveGate env o id gate context).2.held = o.held)
    ↔ ∀ k j, o.Passes id context k → (o.heldAt k).rollout.pendingAt gate = some j →
      (o.heldAt k).rollout.Approvable j ((o.heldAt k).rollout.stageAt j).pendingGateKind := by
  unfold approveGate Orchestrator.command at h ⊢
  dsimp only at h ⊢
  split
  · next hauthority =>
    -- without the authority nothing ran, and no rollout passes
    refine ⟨fun _ k j hpasses => ?_, fun _ _ _ => rfl⟩
    have hok := hpasses.authority
    simp [hok] at hauthority
  next hauthority =>
  rw [if_neg hauthority] at h
  cases hindex : o.index id with
  -- an unknown rollout is answered with what is held
  | none =>
    refine ⟨fun _ k j hpasses => ?_, fun _ _ _ => rfl⟩
    have hsome := hpasses.index
    rw [hindex] at hsome
    cases hsome
  | some k =>
  rw [hindex] at h
  dsimp only at h ⊢
  split
  · next hfences =>
    refine ⟨fun _ k' j hpasses => ?_, fun _ _ _ => rfl⟩
    obtain rfl : k = k' := Option.some.inj (hindex.symm.trans hpasses.index)
    have hok := hpasses.fences
    simp [hok] at hfences
  next hfences =>
  rw [if_neg hfences] at h
  have hpasses : o.Passes id context k :=
    ⟨hindex, by simpa using hauthority, by simpa using hfences⟩
  have hk := index_lt hindex
  cases hpending : (o.heldAt k).rollout.pendingAt gate with
  | none =>
    -- no stage waits at the gate, and the rollout is put back as it was
    obtain ⟨s, hexec⟩ : ∃ s, (approvePending env context gate).exec (o.world k {})
        = (.error s, o.world k {}) := approvePending_unknown hpending
    rw [hexec, Orchestrator.put_world]
    refine ⟨fun _ k' j hpasses' hj => ?_, fun _ _ _ => rfl⟩
    obtain rfl : k = k' := Option.some.inj (hindex.symm.trans hpasses'.index)
    rw [hpending] at hj
    cases hj
  | some j =>
  obtain ⟨hj, hgate⟩ := pendingAt_some hpending
  have hspec : Triple _ (approvePending env context gate) _ _ :=
    approvePending_spec hpending
  cases hexec : (approvePending env context gate).exec (o.world k {}) with
  | mk answer w =>
  rw [hexec] at h
  dsimp only at h ⊢
  cases answer with
  | ok detail =>
    refine ⟨fun _ k' j' hpasses' hj' => ?_, fun _ s hs => by cases hs⟩
    obtain rfl : k = k' := Option.some.inj (hindex.symm.trans hpasses'.index)
    obtain rfl : j = j' := Option.some.inj (hpending.symm.trans hj')
    exact hspec.of_ok rfl hexec
  -- the gate was cleared before the command failed, so what is held has changed
  | error s =>
    obtain ⟨hwhy, hgates⟩ := hspec.of_error rfl hexec
    have himpossible := hwhy.resolve_left (h s rfl)
    refine ⟨fun hkeeps => ?_, fun hall => absurd (hall k j hpasses hpending) himpossible⟩
    have hsame : (o.put k w).held = o.held := hkeeps s rfl
    have hat : ((o.put k w).heldAt k).rollout = (o.heldAt k).rollout := by
      rw [Orchestrator.heldAt, hsame]
      rfl
    rw [Orchestrator.heldAt_put_self hk] at hat
    exact absurd (hgates.symm.trans (congrArg Rollout.gates hat)) (gates_clearGate_ne hj hgate)

end

/-! ## A gate of an aborted stage -/

/-- The rollout waits at the entry gate of its stage when it is aborted. -/
def twinAborted : Orchestrator Unit := twinOrchestrator.after volatileEnv
  [.create twinPlan {}, .arm twinRollout {}, .start twinRollout {}, .tick,
    .abort twinRollout {} []]

def twinAbortedGate : GateId := ((twinAborted.heldAt 0).rollout.stageAt 0).pendingGate

def refusedWith (code : StatusCode) : Result Bytes → Bool
  | .error s => s.code == code
  | .ok _ => false

/-- A refusal of any other kind is not one of the storage, while that is open. -/
theorem not_storageFailure_of_refusedWith {code : StatusCode} {result : Result Bytes}
    {limits : RuntimeLimits} {impl : Impl ρ} (hcode : refusedWith code result = true)
    (hother : code ≠ .resourceExhausted) (hopen : impl.storageFailed = false) (s : Status)
    (h : result = .error s) : ¬ StorageFailure limits impl s := by
  rw [h] at hcode
  rintro (hfailed | hlong)
  · rw [hopen] at hfailed
    cases hfailed
  · exact hother (eq_of_beq hcode).symm

/-- The approval is refused, for the stage cannot be started any more, and the gate is gone. -/
theorem twinAborted_refused :
    (∃ s, (approveGate volatileEnv twinAborted twinRollout twinAbortedGate {}).1 = .error s)
      ∧ (∀ s, (approveGate volatileEnv twinAborted twinRollout twinAbortedGate {}).1 = .error s →
        ¬ StorageFailure volatileEnv.limits
          (approveGate volatileEnv twinAborted twinRollout twinAbortedGate {}).2.impl s)
      ∧ (approveGate volatileEnv twinAborted twinRollout twinAbortedGate {}).2.held
        ≠ twinAborted.held := by
  have hrun : refusedWith .conflict
        (approveGate volatileEnv twinAborted twinRollout twinAbortedGate {}).1 = true
      ∧ (approveGate volatileEnv twinAborted twinRollout
          twinAbortedGate {}).2.impl.storageFailed = false
      ∧ (approveGate volatileEnv twinAborted twinRollout
          twinAbortedGate {}).2.held.map (fun h => h.rollout.gates)
        ≠ twinAborted.held.map fun h => h.rollout.gates := by decide +kernel
  generalize approveGate volatileEnv twinAborted twinRollout twinAbortedGate {} = answer at hrun ⊢
  obtain ⟨hcode, hstorage, hgates⟩ := hrun
  refine ⟨?_, not_storageFailure_of_refusedWith hcode (by decide) hstorage,
    fun hsame => hgates (by rw [hsame])⟩
  cases hanswer : answer.1 with
  | error s => exact ⟨s, rfl⟩
  | ok detail =>
    rw [hanswer] at hcode
    cases hcode

theorem twinAborted_not_approvable :
    ¬ ∀ k j, twinAborted.Passes twinRollout {} k →
      (twinAborted.heldAt k).rollout.pendingAt twinAbortedGate = some j →
      (twinAborted.heldAt k).rollout.Approvable j
        ((twinAborted.heldAt k).rollout.stageAt j).pendingGateKind := by
  obtain ⟨⟨s, hs⟩, hstorage, hchanged⟩ := twinAborted_refused
  rw [← refused_approval_keeps_iff volatileEnv twinAborted twinRollout twinAbortedGate {} hstorage]
  exact fun hall => hchanged (hall s hs)

/-- A refused approval may change the rollout. -/
theorem refused_approval_changes :
    ¬ ∀ s, (approveGate volatileEnv twinAborted twinRollout twinAbortedGate {}).1 = .error s →
      ¬ StorageFailure volatileEnv.limits
        (approveGate volatileEnv twinAborted twinRollout twinAbortedGate {}).2.impl s →
      (approveGate volatileEnv twinAborted twinRollout twinAbortedGate {}).2.held
        = twinAborted.held := by
  obtain ⟨⟨s, hs⟩, hstorage, hchanged⟩ := twinAborted_refused
  exact fun hall => hchanged (hall s hs (hstorage s hs))

end RolloutFabric
