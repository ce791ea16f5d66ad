/-
What the commands of an operator do to the rollout they name, and what a creation and a new
generation build.
-/
import RolloutFabric.Orchestrator.Orderly

namespace RolloutFabric

variable {ρ : Type} {env : Env ρ} {c : Core} {j i : Nat} {now : Timestamp} {e : View → Prop}

instance : Writes Act.isCommand :=
  ⟨fun a => by cases a <;> simp [Act.isWrite, Act.isCommand, Act.isShared]⟩

instance : Writes Act.isAbort :=
  ⟨fun a => by cases a <;> simp [Act.isWrite, Act.isAbort, Act.isCommand, Act.isShared]⟩

instance : Writes Act.isBuild := ⟨fun a => by cases a <;> simp [Act.isWrite, Act.isBuild]⟩

theorem Act.isCommand_of_isShared {a : Act} (h : a.isShared = true) : a.isCommand = true := by
  cases a <;> simp_all [isShared, isCommand]

theorem Act.isAbort_of_isCommand {a : Act} (h : a.isCommand = true) : a.isAbort = true := by
  cases a <;> simp_all [isCommand, isAbort]

theorem Performs.commanded {α : Type} {m : Op ρ α} {q : α → Core → Prop}
    (h : Performs env Act.isShared e c m q) : Performs env Act.isCommand e c m q :=
  h.mono fun _ => Act.isCommand_of_isShared

theorem Performs.aborting {α : Type} {m : Op ρ α} {q : α → Core → Prop}
    (h : Performs env Act.isCommand e c m q) : Performs env Act.isAbort e c m q :=
  h.mono fun _ => Act.isAbort_of_isCommand

/-- A command may fail: nothing is asked of how it does. -/
abbrev Commands {α : Type} (env : Env ρ) (c : Core) (m : Op ρ α) (q : α → Core → Prop) : Prop :=
  Performs env Act.isCommand (fun _ => True) c m q

theorem Performs.check {allowed : Act → Bool} {s : Status} (h : s.isOk = true ∨ ∀ v, e v) :
    Performs env allowed e c (Op.check s) fun _ c' => c' = c := by
  unfold Op.check
  refine .ite (fun _ => .pure rfl) fun hrefused => .throw fun v _ => ?_
  exact h.resolve_left hrefused v

theorem Performs.requireState {allowed : Act → Bool} {states : RolloutState → Bool}
    {message : Bytes} : Performs env allowed (fun _ => True) c (requireState states message)
      fun _ c' => c' = c ∧ states c.rollout.state = true := by
  unfold RolloutFabric.requireState
  refine .read_bind fun w hw => ?_
  rw [World.state_core hw]
  refine .ite (fun _ => .throw fun _ _ => trivial) fun h => .pure ⟨rfl, ?_⟩
  simpa using h

/-! ## Cancelling -/

/-- The adapter cancelled the attempt, or knows nothing of it. -/
def Status.cancels (s : Status) : Bool := s.isOk || s.code == .notFound

/-- Whatever is in flight on the stage, the adapter cancels when it is asked. -/
def Cancels (env : Env ρ) (c : Core) (j : Nat) : Prop :=
  ∀ execution, env.execution = some execution → ∀ i attempt,
    (c.rollout.targetAt j i).currentAttempt ≠ .nil →
      c.attempts (c.rollout.targetAt j i).currentAttempt = some attempt →
        attempt.finished = false → ∀ s, (execution.cancel attempt.fence s).1.cancels = true

/-- Marking an attempt leaves its fence as it was. -/
theorem Cancels.marked {c' : Core} (h : Cancels env c j) (hroll : c'.rollout = c.rollout)
    {id : AttemptId} (hattempts : c'.attempts = Function.update c.attempts id
      ((c.attempts id).map fun a => { a with cancelledEpoch := a.epoch })) : Cancels env c' j := by
  intro execution hexecution i attempt hnil hfound hunfinished s
  rw [hroll] at hnil hfound
  rw [hattempts] at hfound
  by_cases hid : (c.rollout.targetAt j i).currentAttempt = id
  · rw [hid, Function.update_self] at hfound
    obtain ⟨old, hold, rfl⟩ := Option.map_eq_some_iff.1 hfound
    exact h execution hexecution i old hnil (hid ▸ hold) hunfinished s
  · rw [Function.update_of_ne hid] at hfound
    exact h execution hexecution i attempt hnil hfound hunfinished s

section Cancelling

variable [Tolerates e]

theorem cancelTarget_performs (h : Cancels env c j ∨ ∀ v, e v) :
    Performs env Act.isCommand e c (cancelTarget env j now i)
      fun _ c' => c'.rollout = c.rollout ∧ ∀ k, Cancels env c k → Cancels env c' k := by
  unfold cancelTarget
  refine .read_bind fun w hw => .read_bind fun w' hw' => ?_
  rw [World.lookup_core hw', World.currentAttempt_core hw]
  cases hnil : (c.rollout.targetAt j i).currentAttempt.isNil with
  | true => exact .pure ⟨rfl, fun _ h => h⟩
  | false =>
  cases hfound : c.attempts (c.rollout.targetAt j i).currentAttempt with
  | none => exact .pure ⟨rfl, fun _ h => h⟩
  | some attempt =>
  refine .ite (fun _ => .pure ⟨rfl, fun _ h => h⟩) fun hunfinished => ?_
  rw [Bool.not_eq_true] at hunfinished
  refine .pair (.act (.cancel (c.rollout.targetAt j i).currentAttempt) rfl rfl
    (fun w hw => ⟨_, rfl, ?_⟩) ⟨attempt, hfound, hunfinished⟩) fun _ c₁ h₁ => ?_
  · have hlookup := (World.lookup_core hw (c.rollout.targetAt j i).currentAttempt).trans hfound
    have hview := updateAttempt_view (f := fun a => { a with cancelledEpoch := a.epoch }) w hlookup
    have hattempts : w.view.attempts (c.rollout.targetAt j i).currentAttempt = some attempt :=
      hlookup
    rw [Act.run, hattempts, Option.map_some, ← hview]
    rfl
  have hkept : c₁.rollout = c.rollout ∧ ∀ k, Cancels env c k → Cancels env c₁ k := by
    subst h₁
    exact ⟨rfl, fun _ h => h.marked rfl rfl⟩
  -- every branch that is not refused ends with the decision
  have hcommit : Performs env Act.isCommand e c₁ (do
      let stage ← Op.stage j
      commit env now fun w' => decisionOf w' .cancelAttempt
        |>.stage stage.id |>.target (w.rollout.targetAt j i).target |>.attempt attempt.id
        |>.inputU64 (text "epoch") attempt.epoch
        |>.select (text "attempt cancelled")
        |>.reject (text "let the attempt finish") (text "the active policy cancels in-flight work")
        |>.rationale (text "the attempt was cancelled; whatever it reports later is recorded but can never be counted as a successful change"))
      fun _ c' => c'.rollout = c.rollout ∧ ∀ k, Cancels env c k → Cancels env c' k :=
    .read_bind fun w _ => commit_performs.wrote.weaken fun _ _ hc => hc ▸ hkept
  cases hexecution : env.execution with
  | none => exact hcommit
  | some execution =>
    refine .bind (.asked (p := fun status => status.cancels = true ∨ ∀ v, e v) fun s => ?_)
      fun status c₂ hasked => ?_
    · exact h.imp_left fun h => h execution hexecution i attempt
        (StrongId.isNil_eq_false_iff.1 hnil) hfound hunfinished s
    · obtain ⟨hstatus, h₂⟩ := hasked
      rw [h₂]
      refine .ite (fun hne => .skip (.check ?_) fun _ => hcommit) fun _ => hcommit
      refine hstatus.imp_left fun h => ?_
      simp only [Status.cancels, Bool.or_eq_true, beq_iff_eq] at h
      exact h.resolve_right hne

theorem cancelInFlight_performs (h : Cancels env c j ∨ ∀ v, e v) :
    Performs env Act.isCommand e c (cancelInFlight env j now)
      fun _ c' => c'.rollout = c.rollout ∧ ∀ k, Cancels env c k → Cancels env c' k := by
  unfold cancelInFlight
  refine .read_bind fun w _ => .bind (.forM (I := fun c' => (c'.rollout = c.rollout
    ∧ ∀ k, Cancels env c k → Cancels env c' k) ∧ (Cancels env c' j ∨ ∀ v, e v))
    ⟨⟨rfl, fun _ h => h⟩, h⟩ fun i _ c₁ ⟨⟨hroll, hkept⟩, h₁⟩ => ?_) fun _ c₁ h₁ =>
    persistRollout_performs.wrote.weaken fun _ _ hc => hc ▸ h₁.1
  refine (cancelTarget_performs h₁).weaken fun _ c₂ ⟨hroll₂, hkept₂⟩ => ?_
  exact ⟨⟨hroll₂.trans hroll, fun k hk => hkept₂ k (hkept k hk)⟩, h₁.imp_left (hkept₂ j)⟩

end Cancelling

/-! ## The life of a rollout -/

theorem transition_commands {next : RolloutState} {reason : Bytes} {counted : Bool}
    (hne : next ≠ .aborting) (hp : next = .paused → c.rollout.resumeState.canPause = true) :
    Commands env c (transition env next reason now counted) fun _ c' => c' = c.enter next :=
  transition_performs (by simpa [Act.isCommand] using hne) (.inr (.inr fun _ => trivial)) hp

theorem freezeStage_performs {allowed : Act → Bool} :
    Performs env allowed (fun _ => True) c (freezeStage now j) fun _ c' => c' = c := by
  unfold freezeStage
  refine .read_bind fun w hw => ?_
  have hfrozen (s : StageRuntime) (h : freezeCohort (w.rollout.stageAt j) now = .ok s) :
      s.core = c.rollout.stageAt j := by
    rw [← World.stageAt_core hw]
    unfold freezeCohort at h
    split at h
    · cases h
    split at h
    · cases h
    · cases h
      rfl
  cases hfreeze : freezeCohort (w.rollout.stageAt j) now with
  | error s => exact .throw fun _ _ => trivial
  | ok frozen => exact .setStage (hfrozen frozen hfreeze)

theorem armRollout_performs {context : CommandContext} :
    Commands env c (armRollout env context) fun _ _ => True := by
  unfold armRollout
  refine .bind .requireState fun _ _ ⟨h, _⟩ => h ▸ .skip .ask fun now => ?_
  refine .read_bind fun w _ => .skip (.forM_same fun j _ => freezeStage_performs) fun _ => ?_
  refine .skip commit_performs.wrote fun _ => .bind (transition_commands (by simp) (by simp))
    fun _ _ _ => ?_
  exact .read_bind fun w _ => .pure trivial

theorem startRollout_performs : Commands env c (startRollout env) fun _ _ => True := by
  unfold startRollout
  refine .bind .requireState fun _ _ ⟨h, _⟩ => h ▸ .read_bind fun w _ => ?_
  refine .when (I := fun _ => True) (fun _ => .throw fun _ _ => trivial) (fun _ => trivial)
    fun c₁ _ => ?_
  split
  · exact .throw fun _ _ => trivial
  · refine .skip .ask fun now => .bind (transition_commands (by simp) (by simp)) fun _ _ _ => ?_
    exact .pure trivial

theorem pauseRollout_performs {context : CommandContext} {reason : Bytes} :
    Commands env c (pauseRollout env context reason) fun _ _ => True := by
  unfold pauseRollout
  refine .read_bind fun w hw => .when (I := fun c' => c' = c ∧ c.rollout.state.canPause = true)
    (fun _ => .throw fun _ _ => trivial) (fun hcan => ⟨rfl, ?_⟩)
    fun c₁ ⟨h₁, hcan⟩ => h₁ ▸ .skip .ask fun now => ?_
  · rw [World.state_core hw] at hcan
    simpa using hcan
  refine .bind (.act (.park c.rollout.state) rfl rfl (fun w' hw' => ⟨_, rfl, ?_⟩) hcan)
    fun _ c₂ h₂ => .read_bind fun w _ => ?_
  · rw [World.state_core hw]
    rfl
  refine .skip commit_performs.wrote fun _ => .bind (transition_commands (by simp) fun _ => ?_)
    fun _ c₃ _ => ?_
  · rw [h₂]
    exact hcan
  dsimp only
  split
  · split
    · exact .bind (cancelInFlight_performs (.inr fun _ => trivial)) fun _ _ _ => .pure trivial
    · exact .pure trivial
  · exact .pure trivial

/-- A pause was made in a state that can be paused, so it leads neither to an abort nor to another
pause. -/
theorem resumeRollout_performs (ht : c.Tidy) {context : CommandContext} :
    Commands env c (resumeRollout env context) fun _ _ => True := by
  unfold resumeRollout
  refine .bind .requireState fun _ _ ⟨h, hpaused⟩ => h ▸ .read_bind fun w hw => ?_
  have hcan : w.rollout.resumeState.canPause = true := by
    rw [show w.rollout.resumeState = c.rollout.resumeState from
      congrArg RolloutCore.resumeState (World.rollout_core hw)]
    exact ht.resumes (by simpa using hpaused)
  refine .when (I := fun _ => True) (fun _ => .throw fun _ _ => trivial) (fun _ => trivial)
    fun c₁ _ => .skip .ask fun now => ?_
  refine .skip commit_performs.wrote fun _ => .bind (transition_commands ?_ fun hp => ?_)
    fun _ _ _ => .pure trivial
  · rintro heq
    rw [heq] at hcan
    cases hcan
  · rw [hp] at hcan
    cases hcan

theorem retireRollout_performs : Commands env c (retireRollout env) fun _ _ => True := by
  unfold retireRollout
  refine .bind .requireState fun _ _ ⟨h, _⟩ => h ▸ .skip .ask fun now => ?_
  refine .bind (transition_commands (by simp) (by simp)) fun _ c₁ _ => .read_bind fun w _ => ?_
  exact .skip (appendJournal_performs (by trivial)).wrote fun _ => .pure trivial

/-! ## Aborting -/

/-- The stages an abort has something to cancel on. -/
def StageState.cancellable : StageState → Bool
  | .armed | .running | .gated | .soaking | .advancing => true
  | _ => false

/-- The rollout is being aborted, and the adapter cancels what is still to be cancelled. -/
structure Aborting (env : Env ρ) (e : View → Prop) (c : Core) : Prop where
  state : c.rollout.state = .aborting
  cancels : (∀ k, (c.rollout.stageAt k).state.cancellable = true → Cancels env c k) ∨ ∀ v, e v

theorem Aborting.enterStage {next : StageState} (h : Aborting env e c)
    (hnext : next.cancellable = false) : Aborting env e (c.enterStage j next) := by
  unfold Core.enterStage
  split
  · exact h
  refine ⟨h.state, h.cancels.imp_left fun hc k hk execution hexecution i attempt hnil hfound => ?_⟩
  have htargets : ((c.rollout.modifyStage j fun s => { s with state := next }).stageAt k).targets
      = (c.rollout.stageAt k).targets := by
    rw [RolloutCore.stageAt_modifyStage]
    split <;> rfl
  have htarget : (c.rollout.modifyStage j fun s => { s with state := next }).targetAt k i
      = c.rollout.targetAt k i := by
    simp only [RolloutCore.targetAt, StageCore.targetAt, htargets]
  change (RolloutCore.targetAt (c.rollout.modifyStage j _) k i).currentAttempt ≠ _ at hnil
  change c.attempts (RolloutCore.targetAt (c.rollout.modifyStage j _) k i).currentAttempt = _
    at hfound
  rw [htarget] at hnil hfound
  refine hc k ?_ execution hexecution i attempt hnil hfound
  change ((c.rollout.modifyStage j _).stageAt k).state.cancellable = true at hk
  rw [RolloutCore.stageAt_modifyStage] at hk
  split at hk
  · rw [hnext] at hk
    cases hk
  · exact hk

section Aborting

variable [Tolerates e]

theorem abortStage_performs (h : Aborting env e c) :
    Performs env Act.isCommand e c (abortStage env now j) fun _ => Aborting env e := by
  unfold abortStage
  refine .read_bind fun w hw => ?_
  have hstage := World.stageState_core hw j
  rw [hstage]
  refine .ite (fun hearly => ?_) fun hearly => .ite (fun _ => .pure h) fun hlive => ?_
  · refine .weaken (stageTransition_performs rfl (.inr (.inl ?_)) fun _ => h.state)
      fun _ c' ⟨hc, _⟩ => hc ▸ h.enterStage rfl
    rcases hearly with hs | hs <;> rw [hs] <;> rfl
  · have hcancellable : (c.rollout.stageAt j).state.cancellable = true := by
      revert hearly hlive
      cases (c.rollout.stageAt j).state <;> simp [StageState.isTerminal, StageState.cancellable]
    refine .bind (cancelInFlight_performs (h.cancels.imp_left fun hc => hc j hcancellable))
      fun _ c₁ ⟨hroll, hkept⟩ => ?_
    have h₁ : Aborting env e c₁ := ⟨hroll ▸ h.state, h.cancels.imp_left fun hc k hk =>
      hkept k (hc k (hroll ▸ hk))⟩
    refine .weaken (stageTransition_performs rfl (.inr (.inl ?_)) fun _ => h₁.state)
      fun _ c' ⟨hc, _⟩ => hc ▸ h₁.enterStage rfl
    rw [hroll]
    revert hcancellable
    cases (c.rollout.stageAt j).state <;> simp [StageState.cancellable, StageState.legalTransition]

/-- An abort ends in a rollback or in failure, unless it is refused from the start, cannot be
recorded, or the adapter does not cancel. -/
theorem abortRollout_performs {context : CommandContext} {reason : Bytes}
    (hlegal : c.rollout.state.legalTransition .aborting = true ∨ ∀ v, e v)
    (hcancels : (∀ k, (c.rollout.stageAt k).state.cancellable = true → Cancels env c k)
      ∨ ∀ v, e v) :
    Performs env Act.isAbort e c (abortRollout env context reason)
      fun _ c' => c'.rollout.state = .rollingBack ∨ c'.rollout.state = .failed := by
  unfold abortRollout
  refine .read_bind fun w hw => .when (I := fun c' => c' = c) (fun hover => .throw fun v _ => ?_)
    (fun _ => rfl) fun c₁ h₁ => h₁ ▸ .skip .ask fun now => ?_
  · refine hlegal.resolve_left ?_ v
    rw [World.state_core hw] at hover
    revert hover
    cases c.rollout.state <;> simp [RolloutState.isTerminal, RolloutState.legalTransition]
  refine .skip commit_performs.wrote fun _ => .bind (transition_performs rfl (.inr hlegal))
    fun _ c₂ h₂ => ?_
  have hstart : Aborting env e c₂ := by
    have hcancels₂ : (∀ k, (c.rollout.stageAt k).state.cancellable = true → Cancels env c k) →
        ∀ k, (c₂.rollout.stageAt k).state.cancellable = true → Cancels env c₂ k := by
      rw [h₂, Core.enter]
      split <;> exact id
    exact ⟨by rw [h₂, Core.enter_state], hcancels.imp_left hcancels₂⟩
  refine .bind (.forM hstart fun j _ c hc => (abortStage_performs hc).aborting) fun _ c₃ h₃ => ?_
  have hback : c₃.rollout.state.legalTransition .rollingBack = true := by
    rw [h₃.state]
    rfl
  refine .ite (fun _ => ?_) fun _ => ?_
  · exact .bind (beginRollback_performs (.inr (.inl hback))).commanded.aborting
      fun _ _ h => .pure (.inl h)
  · refine .bind (failRollout_performs rfl (fun _ => rfl) (.inl ?_)).commanded.aborting fun _ _ h => .pure (.inr (h ?_))
    · rw [h₃.state]
      rfl
    · rw [h₃.state]
      rfl

end Aborting

/-! ## Approving -/

/-- The stage of a pending gate is the current one, and nothing of it is in flight. -/
theorem Core.Tidy.leaves {c c' : Core} (hp : c.Calm → c.rollout.Placed)
    (hgate : (c.rollout.stageAt j).pendingGate ≠ .nil)
    (hj : j < c'.rollout.stages.length) (hcalm : c'.Calm → c.Calm)
    (hcursor : c'.rollout.cursor = c.rollout.cursor)
    (hstage : c'.rollout.stageAt j = { c.rollout.stageAt j with pendingGate := .nil })
    (ht : c.Tidy) : Leaves c' j where
  inRange := hj
  current := fun hstate => by
    rw [hcursor]
    rw [hstage] at hstate
    refine (ht.ordered j).current (.inl ?_)
    revert hstate
    change StageState.leaves (c.rollout.stageAt j).state → _
    unfold StageState.leaves
    cases (c.rollout.stageAt j).state <;> simp [StageState.underway, StageState.legalTransition]
  quiet := fun _ h => by
    rw [hstage]
    exact ((hp (hcalm h) j).pending hgate).1

theorem approvePending_performs {context : CommandContext} {gate : GateId} (ht : c.Tidy)
    (hp : c.Calm → c.rollout.Placed) (hidle : c.failing = none) :
    Commands env c (approvePending env context gate) fun _ _ => True := by
  unfold approvePending
  refine .read_bind fun w hw => ?_
  have hstage (k : Nat) := World.stageAt_core hw k
  have hroll := World.rollout_core hw
  dsimp only
  cases hfind : w.rollout.stages.findIdx? fun stage =>
      !stage.pendingGate.isNil && stage.pendingGate == gate with
  | none => exact .throw fun _ _ => trivial
  | some j =>
  obtain ⟨hj, hpending, -⟩ := List.findIdx?_eq_some_iff_getElem.1 hfind
  have hjc : j < c.rollout.stages.length := by
    rw [← hroll, Rollout.core, List.length_map]
    exact hj
  have hgate : (c.rollout.stageAt j).pendingGate ≠ .nil := by
    rw [← hstage]
    simp only [Rollout.stageAt, List.getD_eq_getElem?_getD, List.getElem?_eq_getElem hj]
    simp only [Bool.and_eq_true, Bool.not_eq_true'] at hpending
    exact StrongId.isNil_eq_false_iff.1 hpending.1
  refine .skip .ask fun now => .read_bind fun w₁ hw₁ => ?_
  have hkind : (w₁.rollout.stageAt j).pendingGateKind = (c.rollout.stageAt j).pendingGateKind :=
    congrArg StageCore.pendingGateKind (World.stageAt_core hw₁ j)
  have hid : (w₁.rollout.stageAt j).id = (c.rollout.stageAt j).id :=
    congrArg StageCore.id (World.stageAt_core hw₁ j)
  refine .skip commit_performs.wrote fun _ => ?_
  refine .pair (.act (.approve j) rfl rfl (fun w' hw' => ⟨_, rfl, ?_⟩) hgate) fun _ c₁ h₁ => ?_
  -- the act clears the gate and logs what was approved
  · have hview : (w'.rollout.modifyStage j fun s =>
          { s with pendingGate := .nil, pendingGateSince := {} }).core
        = w'.rollout.core.modifyStage j fun s => { s with pendingGate := .nil } :=
      Rollout.core_modifyStage (fun _ => rfl) w'.rollout j
    have hroll' : w'.rollout.core = c.rollout := World.rollout_core hw'
    simp only [World.view, Act.run, View.log, View.setRollout, View.mk.injEq]
    refine ⟨hview, trivial, ?_, trivial, trivial⟩
    rw [hroll', hkind, hid, ← hroll]
    rfl
  have happroved : c₁ = (Act.approve j).after c := h₁
  have hstage₁ : c₁.rollout.stageAt j = { c.rollout.stageAt j with pendingGate := .nil } := by
    rw [happroved]
    exact (RolloutCore.stageAt_modifyStage ..).trans (if_pos ⟨rfl, hjc⟩)
  have hlength : c₁.rollout.stages.length = c.rollout.stages.length := by
    rw [happroved]
    exact List.length_modify ..
  -- the approval is the last event, under the identifiers of the stage
  have hlast : c₁.history = c.history ++ [.approved c₁.rollout.id c₁.rollout.generation
      (c₁.rollout.stageAt j).id (c.rollout.stageAt j).pendingGateKind] := by
    rw [hstage₁, happroved]
    rfl
  have hdone (c : Core) : Commands env c
      (pure (text "gate " ++ gate.shortHex ++ text " approved")) fun _ _ => True := .pure trivial
  have hcomplete (hk : (c.rollout.stageAt j).pendingGateKind = .evidence
      ∨ (c.rollout.stageAt j).pendingGateKind = .advance) :
      Commands env c₁ (completeStage env j now true) fun _ _ => True := by
    refine (completeStage_performs (ht.leaves hp hgate (hlength ▸ hjc) (fun h => ?_) ?_ hstage₁)
      (.inr (.inr ?_)) (fun h => by cases h) (.inr fun _ => trivial)).commanded
    rotate_right
    · rw [hstage₁] at hlast ⊢
      exact ⟨hk, _, hlast⟩
    · rw [happroved] at h
      have hguard : (Act.approve j).Guard env c := hgate
      exact calm_before rfl hguard h
    · rw [happroved]
      rfl
  rw [hkind]
  cases hk : (c.rollout.stageAt j).pendingGateKind with
  -- the stage begins; it is not running, since an early stage has no gate pending
  | stageEntry =>
    refine .bind (Performs.commanded (beginStage_performs (hlength ▸ hjc) (fun h => ?_) ?_ ?_
      (.inr ?_) (fun _ _ _ _ _ => trivial) (.inr fun _ => trivial))) fun _ c _ => hdone c
    · rw [hstage₁] at h
      exact absurd ((ht.stages j).early (by rw [h]; rfl)) hgate
    · rw [happroved]
      exact hidle
    · rw [hstage₁]
    · rw [hlast, hk]
      exact List.mem_append_right _ (List.mem_singleton_self _)
  | evidence => exact .bind (hcomplete (.inl hk)) fun _ c _ => hdone c
  | advance => exact .bind (hcomplete (.inr hk)) fun _ c _ => hdone c
  -- no stage waits at a health or a rollback gate
  | health => exact absurd (ht.stages j).kind (by rw [hk]; simp [GateKind.opened])
  | rollback => exact absurd (ht.stages j).kind (by rw [hk]; simp [GateKind.opened])

/-! ## Building -/

/-- What is built: stages that nothing happened to yet. -/
structure Building (c : Core) : Prop where
  cursor : c.rollout.cursor = 0
  state : c.rollout.state = .created ∨ c.rollout.state.over = true
  stages : ∀ s ∈ c.rollout.stages, s.Fresh

theorem materializeCohort_sorted {selector : SelectorTerm} {inventory : TargetInventory}
    {stage : StageId} {generation : GenerationId} {limits : RuntimeLimits}
    {cohort : CohortMaterialization}
    (h : materializeCohort selector inventory stage generation limits now = .ok cohort) :
    cohort.membership.members.Pairwise (· < ·) := by
  unfold materializeCohort at h
  cases hvalid : (selector.validate limits).toResult with
  | error s => rw [hvalid] at h; cases h
  | ok _ =>
    rw [hvalid] at h
    cases h
    have hmatched : ((inventory.targets.filter fun d => selectorMatches d selector).map
        TargetDescriptor.id).Pairwise (· < ·) :=
      inventory.sorted.sublist (List.Sublist.map _ List.filter_sublist)
    have hsorted := hmatched.imp fun h => le_of_lt h
    dsimp only
    rw [List.Pairwise.insertionSort_eq hsorted]
    exact hmatched.sublist (List.take_sublist ..)

theorem StageSpec.begin_fresh {spec : StageSpec} {membership : CohortMembership}
    (h : membership.members.Pairwise (· < ·)) : (spec.begin membership).core.Fresh where
  state := rfl
  noGate := rfl
  kind := rfl
  sorted := by
    rw [StageCore.Sorted, StageRuntime.ids_core]
    simpa [StageSpec.begin, Function.comp_def] using h
  targets := fun t ht => by
    simp only [StageRuntime.core, StageSpec.begin, List.map_map, List.mem_map] at ht
    obtain ⟨member, -, rfl⟩ := ht
    exact ⟨rfl, rfl, rfl, rfl⟩

/-- What creates a rollout may fail at any point. -/
abbrev Builds {α : Type} (env : Env ρ) (c : Core) (m : Op ρ α) (q : α → Core → Prop) : Prop :=
  Performs env Act.isBuild (fun _ => True) c m q

theorem addStage_performs {plan : ChangePlan} {failed : StageSpec → Status → Status}
    {truncated : StageSpec → CohortMaterialization → Status} {refuseEmpty : Bool} {id : StageId}
    (h : Building c) :
    Builds env c (addStage env plan now failed truncated refuseEmpty id)
      fun _ c' => Building c' ∧ c'.rollout.state = c.rollout.state := by
  unfold addStage
  cases plan.findStage id with
  | none => exact .throw fun _ _ => trivial
  | some spec =>
  refine .get_bind fun w hw => ?_
  dsimp only
  cases hcohort : materializeCohort spec.selector w.impl.inventory spec.id w.rollout.generation
      env.limits now with
  | error s => exact .throw fun _ _ => trivial
  | ok cohort =>
  refine .when (I := fun c' => c' = c) (fun _ => .throw fun _ _ => trivial) (fun _ => rfl)
    fun c₁ h₁ => ?_
  subst h₁
  refine .read_bind fun w _ => .skip (.updateImpl (fun _ => rfl) (fun _ => rfl) fun _ => rfl)
    fun _ => ?_
  refine .when (I := fun c' => c' = c₁) (fun _ => .throw fun _ _ => trivial) (fun _ => rfl)
    fun c₂ h₂ => ?_
  subst h₂
  have hfresh : (spec.begin { cohort.membership with
      id := (w.impl.ids.next .cohort .cohort).1 }).core.Fresh :=
    StageSpec.begin_fresh (materializeCohort_sorted hcohort)
  refine .weaken (.act (.grow (spec.begin { cohort.membership with
    id := (w.impl.ids.next .cohort .cohort).1 }).core) rfl rfl (fun w _ => ⟨_, rfl, ?_⟩)
    ⟨hfresh, h.cursor, h.state, h.stages⟩) fun _ c₃ h₃ => ?_
  · simp [World.view, Act.run, View.setRollout, Rollout.core]
  · subst h₃
    refine ⟨⟨h.cursor, h.state, fun s hs => ?_⟩, rfl⟩
    rcases List.mem_append.1 hs with hs | hs
    · exact h.stages s hs
    · rw [List.mem_singleton.1 hs]
      exact hfresh

theorem linkSuccessors_core (r : Rollout) : r.linkSuccessors.core = r.core := by
  unfold Rollout.linkSuccessors
  generalize (r.stages.map fun stage => stage.predecessors.map fun p => (p, stage.id)).flatten = l
  induction l generalizing r with
  | nil => rfl
  | cons link l ih =>
    rw [List.foldl_cons, ih]
    dsimp only
    split
    · rfl
    · refine core_modifyStage_same (h := ?_) ..
      exact fun _ => rfl

theorem buildRollout_performs {plan : ChangePlan} {context : CommandContext} (h : Building c) :
    Builds env c (buildRollout env plan context now) fun _ _ => True := by
  unfold buildRollout
  refine .bind (.forM h fun id _ c hc => (addStage_performs hc).weaken fun _ _ h => h.1)
    fun _ c₁ _ => ?_
  refine .skip (.updateRollout linkSuccessors_core) fun _ => ?_
  refine .skip commit_performs.wrote fun _ => .bind (transition_performs rfl (.inr (.inr fun _ => trivial)))
    fun _ c₂ _ => ?_
  refine .read_bind fun w _ => .skip (appendJournal_performs (by trivial)).wrote fun _ => ?_
  exact (appendJournal_performs (by trivial)).wrote.weaken fun _ _ _ => trivial

theorem regenerateRollout_performs {context : CommandContext} {plan : ChangePlan} :
    Builds env c (regenerateRollout env context plan) fun _ _ => True := by
  unfold regenerateRollout
  refine .bind .requireState fun _ _ ⟨h, hover⟩ => h ▸ .skip .ask fun now => ?_
  replace hover : c.rollout.state.over = true := by
    revert hover
    cases c.rollout.state <;> simp [RolloutState.over]
  refine .read_bind fun w _ => ?_
  refine .skip (.updateImpl (fun _ => rfl) (fun _ => rfl) fun _ => rfl) fun _ => ?_
  refine .bind (.act (.regenerate (w.impl.ids.next .generation .generation).1) rfl rfl
    (fun w _ => ⟨_, rfl, rfl⟩) hover) fun _ c₁ h₁ => ?_
  have hstart : Building c₁ ∧ c₁.rollout.state.over = true := by
    subst h₁
    exact ⟨⟨rfl, .inr hover, fun _ hs => by cases hs⟩, hover⟩
  refine .bind (.forM (I := fun c => Building c ∧ c.rollout.state.over = true) hstart
    fun id _ c hc => (addStage_performs hc.1).weaken fun _ _ h => ⟨h.1, h.2 ▸ hc.2⟩)
    fun _ c₂ h₂ => ?_
  refine .skip (.updateRollout linkSuccessors_core) fun _ => ?_
  refine .skip commit_performs.wrote fun _ => ?_
  refine .bind (.act .revalidate rfl rfl (fun w _ => ⟨_, rfl, rfl⟩)
    ⟨h₂.2, h₂.1.cursor, h₂.1.stages⟩) fun _ c₃ _ => ?_
  refine .skip persistRollout_performs.wrote fun _ => ?_
  exact .read_bind fun w _ => .pure trivial

end RolloutFabric
