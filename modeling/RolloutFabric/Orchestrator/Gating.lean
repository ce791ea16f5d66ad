/-
The functions that the commands share with the tick: gates, stage entry, failure, rollback and
the completion of a stage. They move stages and mark targets for compensation, and dispatch
nothing.
-/
import RolloutFabric.Orchestrator.Performs

namespace RolloutFabric

variable {ρ : Type} {env : Env ρ} {e : View → Prop} {c : Core} {j i : Nat} {now : Timestamp}

instance : Writes Act.isShared := ⟨fun a => by cases a <;> simp [Act.isWrite, Act.isShared]⟩

/-! ## Opening a gate -/

theorem exec_bind_congr {α β : Type} {m m' : Op ρ α} {w w' : World ρ} (f : α → Op ρ β)
    (h : m.exec w = m'.exec w') : (m >>= f).exec w = (m' >>= f).exec w' := by
  rw [Program.exec_bind, Program.exec_bind, h]

theorem latch_congr {m m' : Op ρ Unit} {w w' : World ρ} (h : m.exec w = m'.exec w') :
    (Op.latch m).exec w = (Op.latch m').exec w' := by
  unfold Op.latch
  rw [Program.exec_tryCatch, Program.exec_tryCatch, h]

theorem exec_bind_error {α β : Type} {m : Op ρ α} {f : α → Op ρ β} {w w' : World ρ} {s : Status}
    (h : m.exec w = (.error s, w')) : (m >>= f).exec w = (.error s, w') := by
  rw [Program.exec_bind, h]

theorem exec_latch_error {m : Op ρ Unit} {w w' : World ρ} {s : Status}
    (h : m.exec w = (.error s, w')) : (Op.latch m).exec w = (.ok (), { w' with
      impl := { w'.impl with storageFailed := true, storageStatus := s } }) := by
  unfold Op.latch
  rw [Program.exec_tryCatch, h]
  rfl

/-- What is left of a transition once it was found to be legal. -/
theorem stageTransition_exec {next : StageState} {counted : Bool} {w : World ρ}
    (hne : (w.rollout.stageAt j).state ≠ next)
    (hlegal : (w.rollout.stageAt j).state.legalTransition next = true) :
    (stageTransition env j next now counted).exec w
      = (do countTransition counted; persistRollout env : Op ρ Unit).exec
        ((Op.enterStage j next now).exec w).2 := by
  unfold stageTransition Op.stage
  rw [Program.exec_bind, Op.exec_read]
  simp only [if_neg hne, if_pos hlegal]
  rfl

/-- A refused transition leaves everything as it was. -/
theorem stageTransition_refused {next : StageState} {counted : Bool} {w : World ρ}
    (hne : (w.rollout.stageAt j).state ≠ next)
    (hillegal : ¬ (w.rollout.stageAt j).state.legalTransition next = true) :
    ∃ s, (stageTransition env j next now counted).exec w = (.error s, w) := by
  unfold stageTransition Op.stage
  rw [Program.exec_bind, Op.exec_read]
  simp only [if_neg hne, if_neg hillegal]
  exact ⟨_, rfl⟩

theorem pend_view (w : World ρ) (gate : GateId) (kind : GateKind) :
    ((Op.updateStage j fun s => s.pend gate kind now).exec w).2.view
      = w.view.setRollout (w.view.rollout.modifyStage j fun s =>
          { s with pendingGate := gate, pendingGateKind := kind }) := by
  simp only [Op.exec_updateStage, World.view, View.setRollout, View.mk.injEq, and_true]
  exact Rollout.core_modifyStage (fun _ => rfl) w.rollout j

theorem pend_stage (w : World ρ) (gate : GateId) (kind : GateKind) :
    (((Op.updateStage j fun s => s.pend gate kind now).exec w).2.rollout.stageAt j).state
      = (w.rollout.stageAt j).state := by
  have hview : ((Op.updateStage j fun s => s.pend gate kind now).exec w).2.view = _ :=
    pend_view w gate kind
  have h := congrArg (fun v : View => (v.rollout.stageAt j).state) hview
  refine (congrArg StageCore.state (Rollout.core_stageAt ..)).trans (h.trans ?_)
  rw [View.setRollout, RolloutCore.stageAt_modifyStage]
  refine Eq.trans ?_ (congrArg StageCore.state (Rollout.core_stageAt w.rollout j)).symm
  split <;> rfl

/-- The gate is pending and the stage gated: one act. -/
theorem gate_view (w : World ρ) (gate : GateId) (kind : GateKind)
    (hlegal : (w.view.rollout.stageAt j).state.legalTransition .gated = true) :
    ((Op.enterStage j .gated now).exec
      ((Op.updateStage j fun s => s.pend gate kind now).exec w).2).2.view
      = (Act.gate j gate kind).run w.view := by
  rw [enterStage_view, pend_view]
  simp only [Act.run, View.setRollout, if_pos hlegal, View.log]
  rw [RolloutCore.modifyStage_modifyStage, RolloutCore.stageAt_modifyStage]
  split <;> rfl

theorem openGate_performs {kind : GateKind} (hcurrent : c.rollout.cursor.toNat = j)
    (hidle : c.failing = none)
    (h : kind = .stageEntry ∧ (c.rollout.stageAt j).state = .armed
      ∨ (c.rollout.stageAt j).state.active = true ∧ (c.rollout.stageAt j).Terminal
        ∧ ∃ stage now, StopsAt env c j kind stage now) :
    Performs env Act.isShared e c (openGate env j kind now) fun _ _ => True := by
  unfold openGate
  refine .read_bind fun w _ => .skip (.updateImpl (fun _ => rfl) (fun _ => rfl) fun _ => rfl)
    fun _ => ?_
  generalize w.impl.ids.next .gate .gate = minted
  have hguard : (Act.gate j minted.1 kind).Guard env c := ⟨hcurrent, hidle, h⟩
  -- a stage at a gate is never asked to wait at another
  have hne : (c.rollout.stageAt j).state ≠ .gated := by
    rcases h with ⟨-, h⟩ | ⟨h, -⟩ <;> intro hgated <;> simp [hgated, StageState.active] at h
  -- the rollout follows its stage where it may
  have hrest (c' : Core) : Performs env Act.isShared Fault c' (do
      let state ← Op.read fun w => w.rollout.state
      if state.legalTransition .gated then
        transition env .gated (text "waiting for a manual " ++ kind.toText ++ text " gate") now false)
      fun _ _ => True := by
    refine .read_bind fun w' hw' => ?_
    rw [World.state_core hw']
    split
    · next hlegal => exact .weaken (transition_performs rfl (.inr (.inl hlegal))) fun _ _ _ => trivial
    · exact .pure trivial
  by_cases hlegal : (c.rollout.stageAt j).state.legalTransition .gated = true
  · refine .jump (p := fun _ => True) (fun w hw => ⟨_, (exec_bind_congr _ rfl).trans
      (latch_congr (exec_bind_congr _ (stageTransition_exec ?_ ?_))), .single (.act rfl rfl hw
        hguard (gate_view w minted.1 kind ?_)), trivial⟩)
      fun c' _ => .latch_any (.bind (q := fun _ _ => True) ?_ fun _ c'' _ => hrest c'') rfl
    · exact (pend_stage w minted.1 kind).trans_ne ((World.stageState_core hw j).trans_ne hne)
    · exact (congrArg (·.legalTransition .gated) ((pend_stage w minted.1 kind).trans
        (World.stageState_core hw j))).trans hlegal
    · rw [← hw] at hlegal
      exact hlegal
    · refine .skip countTransition_performs.wrote fun _ => ?_
      exact persistRollout_performs.wrote.weaken fun _ _ _ => trivial
  -- the move is refused, and only the pending gate is left
  · refine .weaken (.act (.gate j minted.1 kind) rfl rfl (fun w hw => ?_) hguard)
      fun _ _ _ => trivial
    obtain ⟨s, hs⟩ : ∃ s, (stageTransition env j .gated now false).exec
        ((Op.updateStage j fun s => s.pend minted.1 kind now).exec w).2 = (.error s, _) :=
      stageTransition_refused
        ((pend_stage w minted.1 kind).trans_ne ((World.stageState_core hw j).trans_ne hne))
        (by rw [pend_stage, World.stageState_core hw]; exact hlegal)
    refine ⟨_, (exec_bind_congr _ rfl).trans (exec_latch_error (exec_bind_error hs)), ?_⟩
    have hview : ((Op.updateStage j fun s => s.pend minted.1 kind now).exec w).2.view = _ :=
      pend_view w minted.1 kind
    rw [← hw] at hlegal
    change ¬ (w.view.rollout.stageAt j).state.legalTransition .gated = true at hlegal
    rw [Act.run, if_neg hlegal, ← hview]
    rfl

/-! ## Health probes -/

theorem probeHealth_performs {allowed : Act → Bool} :
    Performs env allowed e c (probeHealth env j now) fun _ c' => c' = c := by
  unfold probeHealth
  refine .read_bind fun w _ => ?_
  cases env.health with
  | none => exact .pure rfl
  | some health =>
    refine .ite (fun _ => .pure rfl) fun _ => .get_bind fun w _ => ?_
    refine .ite (fun _ => ?_) fun _ => .pure rfl
    refine .skip (.updateImpl (fun _ => rfl) (fun _ => rfl) fun _ => rfl) fun _ => ?_
    refine .read_bind fun w _ => .skip .ask fun status => ?_
    exact .ite (fun _ => .updateCounters) fun _ => .pure rfl

/-! ## Failure and rollback -/

variable [Tolerates e]

/-- The rollouts that `fail_rollout` takes to failed. -/
def RolloutState.canFail (s : RolloutState) : Bool :=
  s.isTerminal || s == .paused || s.legalTransition .failed

theorem failRollout_performs {allowed : Act → Bool} [Writes allowed] {reason : Bytes}
    (hl : allowed (.enter .failed) = true)
    (hp : c.rollout.state = .paused → allowed (.enter .running) = true)
    (h : c.rollout.state.canFail = true ∨ ∀ v, e v) :
    Performs env allowed e c (failRollout env reason now)
      fun _ c' => c.rollout.state.isTerminal = false → c'.rollout.state = .failed := by
  unfold failRollout
  refine .read_bind fun w hw => ?_
  rw [World.state_core hw]
  split
  · next hover => exact .pure fun hlive => absurd hover (by simp [hlive])
  next hlive =>
  refine .when (I := fun c' => c'.rollout.state.legalTransition .failed = true ∨ ∀ v, e v)
    (fun hpaused => ?_) (fun hpaused => ?_) fun c' hc' => ?_
  · refine .weaken (transition_performs (hp hpaused) (.inr (.inl (by rw [hpaused]; rfl))))
      fun _ c' hc' => ?_
    exact .inl (by rw [hc', Core.enter_state]; rfl)
  · refine h.imp_left fun h => ?_
    simp only [RolloutState.canFail, Bool.or_eq_true, beq_iff_eq] at h
    tauto
  · refine .weaken (transition_performs hl (.inr hc')) fun _ c'' hc'' _ => ?_
    rw [hc'', Core.enter_state]

theorem beginRollback_performs {reason : Bytes}
    (h : c.rollout.state = .rollingBack ∨ c.rollout.state.legalTransition .rollingBack = true
      ∨ ∀ v, e v) :
    Performs env Act.isShared e c (beginRollback env reason now)
      fun _ c' => c'.rollout.state = .rollingBack := by
  unfold beginRollback
  refine .read_bind fun w hw => ?_
  rw [World.state_core hw]
  refine .when (I := fun c' => c'.rollout.state = .rollingBack) (fun _ => ?_) (fun h => ?_)
    fun c₁ h₁ => ?_
  · exact .weaken (transition_performs rfl h) fun _ c' hc' => by rw [hc', Core.enter_state]
  · simpa using h
  refine .read_bind fun w₁ _ => ?_
  refine .bind (.forM (I := fun c' => c'.rollout.state = .rollingBack) h₁ fun j _ c₂ h₂ =>
    .forM (I := fun c' => c'.rollout.state = .rollingBack) h₂ fun i _ c₃ h₃ => ?_) fun _ c₂ h₂ => ?_
  · refine .read_bind fun w hw => .read_bind fun w' hw' => ?_
    split
    · next hmarks =>
      simp only [StageRuntime.marks, Bool.and_eq_true, Bool.or_eq_true, beq_iff_eq,
        Bool.not_eq_true'] at hmarks
      refine .weaken (.enterTarget
        (fun t => { t with state := .rollingBack, rollbackStep := 0, currentAttempt := .nil })
        (fun _ => rfl) rfl (.mark ?_ h₃ ?_ ?_)) fun _ c' hc' => ?_
      · rw [← World.targetState_core hw']
        exact hmarks.2
      · rw [← World.stageState_core hw]
        exact hmarks.1.1
      · rw [← World.policy_core hw]
        exact hmarks.1.2
      · rw [hc']
        exact h₃
    · exact .pure h₃
  · refine .skip commit_performs.wrote fun _ => .skip countDecision_performs.wrote fun _ => ?_
    exact persistRollout_performs.wrote.weaken fun _ c' hc' => hc' ▸ h₂

theorem RolloutState.working_canFail {s : RolloutState} (h : s.working = true) :
    s.canFail = true := by
  cases s <;> simp_all [working, canFail, legalTransition, isTerminal]

theorem RolloutState.working_rollingBack {s : RolloutState} (h : s.working = true) :
    s.legalTransition .rollingBack = true := by
  cases s <;> simp_all [working, legalTransition]

theorem failStage_performs {reason : Bytes}
    (h : (c.rollout.stageAt j).state.legalTransition .failed = true
      ∧ c.rollout.state.working = true ∨ ∀ v, e v) :
    Performs env Act.isShared e c (failStage env j reason now) fun _ _ => True := by
  unfold failStage
  refine .bind (stageTransition_performs rfl (.inr (h.imp_left And.left)) fun _ => trivial)
    fun _ c₁ ⟨h₁, _⟩ => .get_bind fun w _ => ?_
  have hstate : c₁.rollout.state = c.rollout.state := by rw [h₁, Core.enterStage_state]
  refine .ite (fun _ => .weaken (beginRollback_performs (.inr ?_)) fun _ _ _ => trivial)
    fun _ => .weaken (failRollout_performs rfl (fun _ => rfl) ?_) fun _ _ _ => trivial
  · exact h.imp_left fun h => hstate ▸ RolloutState.working_rollingBack h.2
  · exact h.imp_left fun h => hstate ▸ RolloutState.working_canFail h.2

/-! ## Stage entry -/

theorem readiness_missing {r : Rollout} {stage : StageRuntime} {ids : List StageId}
    (h : readiness r stage ids = .missing) : ∃ id ∈ ids, r.findStage id = none := by
  induction ids with
  | nil => simp [readiness] at h
  | cons id rest ih =>
    cases hfind : r.findStage id with
    | none => exact ⟨id, List.mem_cons_self .., hfind⟩
    | some p =>
      have hrest : readiness r stage rest = .missing := by
        simp only [readiness, hfind] at h
        split at h
        · exact h
        split at h
        · split at h
          · cases h
          · exact h
        · cases h
      obtain ⟨id', hmem, hnone⟩ := ih hrest
      exact ⟨id', List.mem_cons_of_mem _ hmem, hnone⟩

/-- A stage is ready once every predecessor is over. -/
theorem readiness_ready {r : Rollout} {stage : StageRuntime} {ids : List StageId}
    (h : readiness r stage ids = .ready) :
    ∀ id ∈ ids, ∃ p, r.findStage id = some p ∧ (r.stageAt p).state.isTerminal = true := by
  induction ids with
  | nil => simp
  | cons id rest ih =>
    simp only [readiness] at h
    split at h
    · cases h
    next p hfind =>
      obtain ⟨hover, hrest⟩ : (r.stageAt p).state.isTerminal = true
          ∧ readiness r stage rest = .ready := by
        split at h
        · next hdone => exact ⟨by rw [hdone]; rfl, h⟩
        split at h
        · next hover =>
          split at h
          · cases h
          · exact ⟨hover, h⟩
        · cases h
      rintro id' hmem
      rcases List.mem_cons.1 hmem with rfl | hmem
      · exact ⟨p, hfind, hover⟩
      · exact ih hrest id' hmem

theorem startStage_performs
    (h : (c.rollout.stageAt j).state.legalTransition .running = true
      ∧ c.rollout.state.working = true ∨ ∀ v, e v)
    (hentry : StageEntry env c j .running) :
    Performs env Act.isShared e c (startStage env j now) fun _ _ => True := by
  unfold startStage
  refine .bind (stageTransition_performs rfl (.inr (h.imp_left And.left)) fun _ => hentry)
    fun _ c₁ ⟨h₁, _⟩ => .get_bind fun w hw => ?_
  refine .when (I := fun _ => True) (fun hne => ?_) (fun _ => trivial) fun c₂ _ => ?_
  · refine .weaken (transition_performs rfl (.inr (h.imp_left fun h => ?_))) fun _ _ _ => trivial
    have hworking : c₁.rollout.state.working = true := by rw [h₁, Core.enterStage_state, h.2]
    rw [World.state_core hw] at hne
    revert hworking hne
    cases c₁.rollout.state <;> simp [RolloutState.working, RolloutState.legalTransition]
  · refine .skip commit_performs.wrote fun _ => ?_
    exact countDecision_performs.wrote.weaken fun _ _ _ => trivial

theorem beginStage_performs (hj : j < c.rollout.stages.length)
    (hcurrent : (c.rollout.stageAt j).state = .pending →
      c.rollout.cursor.toNat = j ∧ c.rollout.state.working = true)
    (hidle : c.failing = none) (hgate : (c.rollout.stageAt j).pendingGate = .nil)
    (happroved : (c.rollout.stageAt j).state = .pending
      ∨ .approved c.rollout.id c.rollout.generation (c.rollout.stageAt j).id .stageEntry
        ∈ c.history)
    (hmissing : ∀ v : View, v.core = c → ∀ id ∈ (c.rollout.stageAt j).predecessors,
      c.rollout.findStage id = none → e v)
    (h : (c.rollout.stageAt j).state = .pending ∧ c.rollout.state.working = true ∨ ∀ v, e v) :
    Performs env Act.isShared e c (beginStage env j now) fun _ _ => True := by
  unfold beginStage
  refine .get_bind fun w hw => ?_
  have hstage := World.stageAt_core hw j
  dsimp only
  cases hready : readiness w.rollout (w.rollout.stageAt j) (w.rollout.stageAt j).predecessors with
  | waiting => exact .pure trivial
  | missing =>
    obtain ⟨id, hmem, hnone⟩ := readiness_missing hready
    rw [World.findStage_core hw] at hnone
    exact .throw fun v hv => hmissing v hv id (hstage ▸ hmem) hnone
  -- a stage before it ended badly, and the rollout fails
  | refused previous =>
    refine .skip commit_performs.wrote fun _ => .skip countDecision_performs.wrote fun _ => ?_
    refine .weaken (failRollout_performs rfl (fun _ => rfl) ?_) fun _ _ _ => trivial
    exact h.imp_left fun h => RolloutState.working_canFail h.2
  -- a pending stage is armed first, and waits at a manual entry gate
  | ready =>
    refine .ite (fun hpending => ?_) fun hpending => startStage_performs (.inr ?_) ⟨hgate, ?_⟩
    · rw [World.stageState_core hw] at hpending
      refine .bind (stageTransition_performs rfl (.inr (.inl (by rw [hpending]; rfl)))
        fun _ => ⟨(hcurrent hpending).1, (hcurrent hpending).2, fun id hid => ?_⟩)
        fun _ c₁ ⟨h₁, _⟩ => ?_
      · rw [← hstage] at hid
        obtain ⟨p, hfind, hover⟩ := readiness_ready hready id hid
        rw [World.findStage_core hw] at hfind
        exact ⟨p, hfind, World.stageState_core hw p ▸ hover⟩
      have hstage₁ : c₁.rollout.stageAt j = { c.rollout.stageAt j with state := .armed } := by
        rw [h₁, Core.enterStage_stageAt _ hj]
      have hcurrent₁ : c₁.rollout.cursor.toNat = j := by
        rw [h₁, Core.enterStage_cursor, (hcurrent hpending).1]
      refine .ite (fun _ => ?_) fun hauto => startStage_performs ?_ ⟨by rw [hstage₁]; exact hgate, ?_⟩
      · refine .skip commit_performs.wrote fun _ => .skip countDecision_performs.wrote fun _ => ?_
        exact openGate_performs hcurrent₁ (by rw [h₁, Core.enterStage_failing, hidle])
          (.inl ⟨rfl, by rw [hstage₁]⟩)
      · refine h.imp_left fun h => ⟨by rw [hstage₁]; rfl, ?_⟩
        rw [h₁, Core.enterStage_state, h.2]
      -- no entry was asked for: the gate is automatic
      · left
        rw [hstage₁, ← hstage]
        have hnil : (w.rollout.stageAt j).pendingGate.isNil = true := by
          rw [StrongId.isNil_iff, ← hgate, ← hstage]
          rfl
        cases hentry : (w.rollout.stageAt j).policy.entryGate with
        | automatic => exact hentry
        | manual => exact absurd ⟨hentry, hnil⟩ hauto
    · rw [World.stageState_core hw] at hpending
      exact h.resolve_left fun h => hpending h.1
    · rw [World.stageState_core hw] at hpending
      exact .inr (happroved.resolve_left hpending)

/-! ## Stage completion -/

/-- A stage that is advancing, or may be. -/
def StageState.leaves (s : StageState) : Prop :=
  s = .advancing ∨ s.legalTransition .advancing = true

/-- If the stage may leave for advancing, it is the current one, and nothing of it is in flight. -/
structure Leaves (c : Core) (j : Nat) : Prop where
  inRange : j < c.rollout.stages.length
  current : (c.rollout.stageAt j).state.leaves → c.rollout.cursor.toNat = j
  quiet : (c.rollout.stageAt j).state.leaves → c.Calm → (c.rollout.stageAt j).busy = 0

theorem advanceCursor_performs {health evidence advance : GateEvaluation} {stage : StageRuntime}
    {since : Timestamp} {approved : Bool} (hleaves : Leaves c j)
    (hid : stage.id = (c.rollout.stageAt j).id)
    (hpolicy : stage.policy = (c.rollout.stageAt j).policy)
    (hpasses : approved = true
      ∨ (evaluateEvidenceGate stage stage.policy.evidenceGate stage.evidenceRule since
          env.limits).satisfied = true
        ∧ (evaluateAdvanceGate stage since env.limits).satisfied = true)
    (hrecent : ∃ h, c.history
      = h ++ [.completing c.rollout.id c.rollout.generation stage since approved])
    (h : ((c.rollout.stageAt j).state = .advancing
        ∨ (c.rollout.stageAt j).state.legalTransition .advancing = true)
      ∧ c.rollout.state.working = true ∨ ∀ v, e v) :
    Performs env Act.isShared e c (advanceCursor env j health evidence advance now)
      fun _ _ => True := by
  unfold advanceCursor
  obtain ⟨before, hhistory⟩ := hrecent
  refine .bind (stageTransition_performs rfl ?_ fun hlegal =>
    ⟨fun hcalm => ⟨hleaves.quiet (.inr hlegal) hcalm, hleaves.current (.inr hlegal)⟩, stage,
      since, approved, hid, hpolicy, hpasses, before, .inl hhistory⟩) fun _ c₁ hadvancing => ?_
  · rcases h with ⟨h, -⟩ | h
    · exact h.imp_right .inl
    · exact .inr (.inr h)
  obtain ⟨h₁, hfrom⟩ := hadvancing
  -- the stage is calm and current when it moves to advancing
  have hcurrent := hleaves.current hfrom
  have hquiet := hleaves.quiet hfrom
  have hstage₁ : c₁.rollout.stageAt j = { c.rollout.stageAt j with state := .advancing } := by
    rw [h₁, Core.enterStage_stageAt _ hleaves.inRange]
  have hcurrent₁ : c₁.rollout.cursor.toNat = j := by rw [h₁, Core.enterStage_cursor, hcurrent]
  have hquiet₁ : c₁.Calm → (c₁.rollout.stageAt j).busy = 0 ∧ c₁.rollout.cursor.toNat = j := by
    refine fun hcalm => ⟨?_, hcurrent₁⟩
    rw [h₁, Core.enterStage_calm] at hcalm
    rw [hstage₁]
    exact hquiet hcalm
  have hrange₁ : j < c₁.rollout.stages.length := by
    rw [h₁, Core.enterStage_length]
    exact hleaves.inRange
  -- the stage succeeds for the reason it was completed for
  have hcompletes : Completes env c₁ j stage since approved := by
    refine ⟨by rw [hstage₁, hid], by rw [hstage₁, hpolicy], hpasses, before, ?_⟩
    subst h₁
    unfold Core.enterStage
    split
    · exact .inl hhistory
    · right
      simp [Act.after, Act.run, View.log, View.setRollout, RolloutCore.modifyStage, hhistory, hid,
        hpolicy]
  refine .bind (stageTransition_performs rfl (.inr (.inl (by rw [hstage₁]; rfl))) fun _ =>
    ⟨hquiet₁, stage, since, approved, hcompletes⟩) fun _ c₂ hsucceeded => ?_
  obtain ⟨h₂, -⟩ := hsucceeded
  -- the cursor leaves a stage that has succeeded
  have hskip : (c₂.rollout.stageAt c₂.rollout.cursor.toNat).state = .succeeded := by
    rw [h₂, Core.enterStage_cursor, hcurrent₁, Core.enterStage_stageAt _ hrange₁]
  refine .bind (.act .skip rfl rfl (fun w hw => ⟨_, rfl, rfl⟩) (.inl hskip)) fun _ c₃ h₃ => ?_
  have hworking : c₃.rollout.state.working = true ∨ ∀ v, e v := by
    refine h.imp_left fun h => ?_
    subst h₃
    change c₂.rollout.state.working = true
    rw [h₂, Core.enterStage_state, h₁, Core.enterStage_state, h.2]
  refine .read_bind fun w _ => .skip commit_performs.wrote fun _ => ?_
  refine .skip countDecision_performs.wrote fun _ => ?_
  -- past the last stage the rollout completes, else it goes on to the next
  refine .ite (fun _ => .weaken (transition_performs rfl (.inr ?_)) fun _ _ _ => trivial)
    fun _ => .weaken (transition_performs rfl ?_) fun _ _ _ => trivial
  · refine hworking.imp_left fun h => ?_
    revert h
    cases c₃.rollout.state <;> simp [RolloutState.working, RolloutState.legalTransition]
  · rcases hworking with h | h
    · revert h
      cases c₃.rollout.state <;> simp [RolloutState.working, RolloutState.legalTransition]
    · exact .inr (.inr h)

theorem refuseManualGate_performs {kind : GateKind} {reason selected rationale : Bytes}
    {stage : StageRuntime} {since : Timestamp} (hcurrent : c.rollout.cursor.toNat = j)
    (hidle : c.failing = none) (hactive : (c.rollout.stageAt j).state.active = true)
    (hterminal : (c.rollout.stageAt j).Terminal) (hstops : StopsAt env c j kind stage since) :
    Performs env Act.isShared e c
      (refuseManualGate env j kind reason selected rationale now) fun _ _ => True := by
  unfold refuseManualGate
  refine .read_bind fun w _ => .skip commit_performs.wrote fun _ => ?_
  refine .skip countDecision_performs.wrote fun _ => ?_
  exact openGate_performs hcurrent hidle (.inr ⟨hactive, hterminal, stage, since, hstops⟩)

theorem StageState.active_leaves {s : StageState} (h : s.active = true) :
    s.legalTransition .advancing = true ∧ s.legalTransition .failed = true := by
  cases s <;> simp_all [active, legalTransition]

theorem completeStage_performs {approved : Bool} (hleaves : Leaves c j)
    (hreason : approved = false ∨ (c.rollout.stageAt j).state = .advancing
      ∨ ((c.rollout.stageAt j).pendingGateKind = .evidence
          ∨ (c.rollout.stageAt j).pendingGateKind = .advance)
        ∧ ∃ h, c.history = h ++ [.approved c.rollout.id c.rollout.generation
          (c.rollout.stageAt j).id (c.rollout.stageAt j).pendingGateKind])
    (hstops : approved = false → (c.rollout.stageAt j).state.active = true
      ∧ c.rollout.cursor.toNat = j ∧ (c.rollout.stageAt j).Terminal ∧ c.failing = none)
    (h : ((c.rollout.stageAt j).state = .advancing
        ∨ (c.rollout.stageAt j).state.legalTransition .advancing = true)
      ∧ c.rollout.state.working = true ∨ ∀ v, e v) :
    Performs env Act.isShared e c (completeStage env j now approved) fun _ _ => True := by
  unfold completeStage
  refine .get_bind fun w hw => ?_
  have hstage := World.stageAt_core hw j
  have hid : (w.rollout.stageAt j).id = (c.rollout.stageAt j).id := by rw [← hstage]; rfl
  have hpolicy : (w.rollout.stageAt j).policy = (c.rollout.stageAt j).policy := by
    rw [← hstage]; rfl
  have hstate := World.stageState_core hw j
  have hkind : (w.rollout.stageAt j).pendingGateKind = (c.rollout.stageAt j).pendingGateKind := by
    rw [← hstage]; rfl
  rw [show w.rollout.id = c.rollout.id from congrArg RolloutCore.id (World.rollout_core hw),
    World.generation_core hw]
  generalize w.rollout.stageAt j = stage at *
  -- the completion is logged with the stage that the gates weigh
  refine .bind (.act (.completing j stage now approved) rfl rfl (fun w hw => ⟨_, rfl, ?_⟩)
    ⟨hstage, hreason.imp_right (Or.imp hstate.trans fun h => by rwa [hkind, hid])⟩) fun _ c₁ h₁ => ?_
  · subst hw
    rfl
  have hroll : c₁.rollout = c.rollout := h₁ ▸ rfl
  have hfailing : c₁.failing = c.failing := h₁ ▸ rfl
  have hrecent : c₁.history
      = c.history ++ [.completing c₁.rollout.id c₁.rollout.generation stage now approved] := by
    rw [h₁]
    rfl
  clear h₁
  rw [← hfailing] at hstops
  rw [← hroll] at hstage hid hpolicy hstate hstops h
  replace hleaves : Leaves c₁ j := by
    refine ⟨hroll ▸ hleaves.inRange, hroll ▸ hleaves.current, ?_⟩
    have hcalm : c₁.Calm ↔ c.Calm := by simp [Core.Calm, hroll, hrecent]
    rw [hcalm, hroll]
    exact hleaves.quiet
  refine .skip (.updateStage fun _ => rfl) fun _ => .skip .updateReport fun _ => ?_
  refine .skip (.updateStage fun _ => rfl) fun _ => .skip .updateReport fun _ => ?_
  -- an evidence gate that is not met is waited at, or fails the stage
  refine .ite (fun hunsatisfied => ?_) fun hevidence => ?_
  · simp only [Bool.not_eq_true'] at hunsatisfied
    obtain ⟨hrefused, rfl⟩ := hunsatisfied
    obtain ⟨hactive, hcurrent, hterminal, hidle⟩ := hstops rfl
    refine .ite (fun hmanual => ?_) fun _ => ?_
    · exact refuseManualGate_performs hcurrent hidle hactive hterminal
        ⟨hstage, .inl ⟨rfl, hmanual, hrefused⟩, _, hrecent⟩
    · refine .skip commit_performs.wrote fun _ => .skip countDecision_performs.wrote fun _ => ?_
      exact failStage_performs (h.imp_left fun h => ⟨(StageState.active_leaves hactive).2, h.2⟩)
  refine .skip (.updateStage fun _ => rfl) fun _ => .skip .updateReport fun _ => ?_
  -- an advance gate that is not met is waited at, or weighed again later
  refine .ite (fun hunsatisfied => ?_) fun hadvance => ?_
  · simp only [Bool.not_eq_true'] at hunsatisfied
    obtain ⟨hrefused, rfl⟩ := hunsatisfied
    obtain ⟨hactive, hcurrent, hterminal, hidle⟩ := hstops rfl
    refine .ite (fun hmanual => ?_) fun _ => ?_
    · exact refuseManualGate_performs hcurrent hidle hactive hterminal
        ⟨hstage, .inr ⟨rfl, hmanual, hrefused⟩, _, hrecent⟩
    · refine .skip commit_performs.wrote fun _ => ?_
      exact countDecision_performs.wrote.weaken fun _ _ _ => trivial
  · refine advanceCursor_performs hleaves hid hpolicy ?_ ⟨_, hrecent⟩ h
    cases approved with
    | true => exact .inl rfl
    | false => exact .inr ⟨by simpa using hevidence, by simpa using hadvance⟩

end RolloutFabric
