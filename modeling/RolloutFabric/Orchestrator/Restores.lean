/-
What a restore does to the rollout it adopts: the attempts of the targets that look in flight are
rebuilt, and no other target keeps one.
-/
import RolloutFabric.Orchestrator.Operator

namespace RolloutFabric

variable {ρ : Type} {env : Env ρ} {c : Core} {j i : Nat} {e : View → Prop}

/-- What restoring a rollout does. -/
def Act.isRestoring : Act → Bool
  | rebuild .. | evict .. => true
  | alter _ _ target => target.currentAttempt == .nil
  | _ => false

/-- A loop whose turns each establish something that the others keep. -/
theorem Performs.forM_each {β : Type} {allowed : Act → Bool} {g : β → Op ρ Unit} {I : Core → Prop}
    {P : β → Core → Prop} {l : List β} (hc : I c)
    (h : ∀ b ∈ l, ∀ c, I c → Performs env allowed e c (g b) fun _ c' =>
      I c' ∧ P b c' ∧ ∀ b', P b' c → P b' c') :
    Performs env allowed e c (l.forM g) fun _ c' =>
      I c' ∧ (∀ b ∈ l, P b c') ∧ ∀ b', P b' c → P b' c' := by
  induction l generalizing c with
  | nil => exact .pure ⟨hc, fun _ hb => (by cases hb), fun _ hp => hp⟩
  | cons b l ih =>
    refine .bind (h b (List.mem_cons_self ..) c hc) fun _ c₁ ⟨h₁, hp, hkeep⟩ => ?_
    refine (ih h₁ fun b' hb' => h b' (List.mem_cons_of_mem _ hb')).weaken
      fun _ c₂ ⟨h₂, hall, hkeep'⟩ => ⟨h₂, fun b' hb' => ?_, fun b' hp' => hkeep' b' (hkeep b' hp')⟩
    rcases List.mem_cons.1 hb' with rfl | hb'
    · exact hkeep' _ hp
    · exact hall b' hb'

/-! ## One target -/

/-- No target has changed its state since `c`. -/
def Still (c c' : Core) : Prop :=
  ∀ j i, (c'.rollout.targetAt j i).state = (c.rollout.targetAt j i).state

/-- The target is not done, or keeps no attempt. -/
def RolloutCore.Released (r : RolloutCore) (j i : Nat) : Prop :=
  (r.targetAt j i).state.isTerminal = true → (r.targetAt j i).currentAttempt = .nil

theorem TargetState.changing_of_terminal {s : TargetState} (h : s.isTerminal = true) :
    s.countsAsChanging = false := by
  cases s <;> simp_all [isTerminal, countsAsChanging]

/-- A target loses its attempt. -/
theorem forget_released {c' : Core}
    (h : c' = (Act.alter j i { c.rollout.targetAt j i with currentAttempt := .nil }).after c) :
    Still c c' ∧ c'.rollout.Released j i
      ∧ ∀ j' i', c.rollout.Released j' i' → c'.rollout.Released j' i' := by
  have hat (j' i' : Nat) : c'.rollout.targetAt j' i' = c.rollout.targetAt j' i'
      ∨ c'.rollout.targetAt j' i' = { c.rollout.targetAt j i with currentAttempt := .nil }
        ∧ j = j' ∧ i = i' := by
    rw [h]
    have := RolloutCore.targetAt_modifyTarget c.rollout j i
      (fun _ => { c.rollout.targetAt j i with currentAttempt := .nil }) j' i'
    split at this
    · next hin => exact .inr ⟨this, hin.1⟩
    · exact .inl this
  refine ⟨fun j' i' => ?_, fun hdone => ?_, fun j' i' hold hdone => ?_⟩
  · rcases hat j' i' with hsame | ⟨hnew, rfl, rfl⟩
    · rw [hsame]
    · rw [hnew]
  · rcases hat j i with hsame | ⟨hnew, -, -⟩
    · by_contra hattempt
      rw [hsame] at hdone hattempt
      have hin : j < c.rollout.stages.length ∧ i < (c.rollout.stageAt j).targets.length :=
        RolloutCore.range_of_state fun hp => by simp [hp, TargetState.isTerminal] at hdone
      have := RolloutCore.targetAt_modifyTarget c.rollout j i
        (fun _ => { c.rollout.targetAt j i with currentAttempt := .nil }) j i
      rw [if_pos ⟨⟨rfl, rfl⟩, hin⟩] at this
      refine hattempt ?_
      rw [← hsame, h]
      exact congrArg TargetCore.currentAttempt this
    · rw [hnew]
  · rcases hat j' i' with hsame | ⟨hnew, -, -⟩
    · rw [hsame] at hdone ⊢
      exact hold hdone
    · rw [hnew]

/-- An action that cannot be found again is none that the target runs. -/
theorem settled_of_none {stage : StageRuntime} {state : TargetState} {step : UInt32}
    (h : (if state = .rollingBack then compensationAction stage step else primaryAction stage)
      = none) :
    ∀ action ∈ stage.actions, state = .rollingBack →
      stage.policy.compensationActions[step.toNat]? ≠ some action.id := by
  intro action haction hstate hid
  rw [if_pos hstate, compensationAction, hid] at h
  exact absurd (List.find?_eq_none.1 h action haction) (by simp)

theorem rebuild_performs {attempt : Attempt} (hg : (Act.rebuild j i attempt).Guard env c) :
    Performs env Act.isRestoring e c (do
      Op.log (.rebuilt attempt (c.rollout.targetAt j i).rollbackStep (c.rollout.targetAt j i).state)
      noteAttempt env attempt) fun _ c' => c'.rollout = c.rollout := by
  intro w hw
  obtain ⟨w', hexec, hview⟩ : ∃ w', (do
      Op.log (.rebuilt attempt (c.rollout.targetAt j i).rollbackStep (c.rollout.targetAt j i).state)
      noteAttempt env attempt : Op ρ Unit).exec w = (.ok (), w')
      ∧ w'.view = { (Act.rebuild j i attempt).run w.view with
        attempts := fun id => (trimAttempts (env.limits.maxConcurrentAttempts.toNat * 2 + 1)
          (if attempt.id ∈ w.impl.attempts then w.impl.attemptOrder
            else w.impl.attemptOrder ++ [attempt.id])
          (w.impl.attempts.insert attempt.id attempt)).2.lookup id } := by
    subst hw
    exact ⟨_, rfl, rfl⟩
  rw [hexec]
  refine ⟨?_, fun _ _ => ?_, fun _ he => by cases he⟩
  · rw [hview]
    refine .head (MachineStep.act rfl rfl hw hg rfl) (trimAttempts_reaches (fun _ => rfl) _ _ _ _ ?_)
    funext id
    by_cases hid : id = attempt.id
    · subst hid
      simp [Act.run, View.setAttempt]
    · simp [Act.run, View.setAttempt, Function.update_of_ne hid, AList.lookup_insert_ne hid,
        View.log, World.view]
  · subst hw
    exact (congrArg View.rollout hview :)

theorem restoreTarget_performs {previous : IncarnationId} :
    Performs env Act.isRestoring e c (restoreTarget env previous j i) fun _ c' =>
      Still c c' ∧ c'.rollout.Released j i
        ∧ ∀ j' i', c.rollout.Released j' i' → c'.rollout.Released j' i' := by
  unfold restoreTarget
  refine .read_bind fun w hw => ?_
  have hstage := World.stageAt_core hw j
  have htarget := World.targetAt_core hw j i
  have hstate := World.targetState_core hw j i
  have hforget (hg : Alters c j i { c.rollout.targetAt j i with currentAttempt := .nil }) :
      Performs env Act.isRestoring e c
        (Op.updateTarget j i fun t => { t with currentAttempt := .nil }) fun _ c' =>
        Still c c' ∧ c'.rollout.Released j i
          ∧ ∀ j' i', c.rollout.Released j' i' → c'.rollout.Released j' i' :=
    .weaken (.alterTarget (fun t => { t with currentAttempt := .nil }) (fun _ => rfl)
      (by simp [Act.isRestoring]) hg) fun _ c' h => forget_released h
  dsimp only
  -- nothing in flight, or nothing that was changing: the attempt is forgotten
  refine .ite (fun hnil => .pure ⟨fun _ _ => rfl, fun _ => ?_, fun _ _ h => h⟩) fun hnil => ?_
  · rw [← World.currentAttempt_core hw]
    exact StrongId.isNil_iff.1 hnil
  refine .ite (fun hidle => hforget (.settled (.inl ?_))) fun hchanging => ?_
  · rw [← hstate]
    simpa using hidle
  -- the action of the attempt is looked up again in the stage
  generalize haction : (if (w.rollout.targetAt j i).state = .rollingBack then
    compensationAction (w.rollout.stageAt j) (w.rollout.targetAt j i).rollbackStep
    else primaryAction (w.rollout.stageAt j)) = found
  cases found with
  | none =>
    refine hforget (.settled (.inr ?_))
    have := settled_of_none haction
    rw [← hstage, ← htarget]
    exact this
  | some action =>
  have hcurrent := World.currentAttempt_core hw j i
  -- the rebuilt attempt is the one the target recorded
  have hguard : (Act.rebuild j i (rebuildAttempt w.rollout (w.rollout.stageAt j)
      (w.rollout.targetAt j i) action previous)).Guard env c := by
    have hroll := World.rollout_core hw
    refine ⟨⟨congrArg RolloutCore.id hroll, congrArg RolloutCore.generation hroll,
      congrArg StageCore.id hstage, congrArg TargetCore.target htarget, ?_⟩, ⟨rfl, rfl, rfl, rfl⟩,
      hcurrent.symm, ?_, ?_, fun hrolling => ?_⟩
    · rw [← World.policy_core hw]
      rfl
    · exact mt StrongId.isNil_iff.2 hnil
    · simpa [hstate] using hchanging
    · rw [hstate, if_pos hrolling, compensationAction] at haction
      have hpolicy := World.policy_core hw j
      rw [← hpolicy, ← htarget]
      change (w.rollout.stageAt j).policy.compensationActions[
        (w.rollout.targetAt j i).rollbackStep.toNat]? = some action.id
      split at haction
      · cases haction
      · next id hid =>
        rw [hid, Option.some.injEq]
        have := List.find?_some haction
        exact (by simpa using this : action.id = id).symm
  have hlog : (.rebuilt (rebuildAttempt w.rollout (w.rollout.stageAt j) (w.rollout.targetAt j i)
      action previous) (w.rollout.targetAt j i).rollbackStep (w.rollout.targetAt j i).state : Event)
      = .rebuilt (rebuildAttempt w.rollout (w.rollout.stageAt j) (w.rollout.targetAt j i)
        action previous) (c.rollout.targetAt j i).rollbackStep (c.rollout.targetAt j i).state := by
    rw [← htarget]
    rfl
  dsimp only
  rw [hlog]
  refine .pair (rebuild_performs hguard) fun _ c₁ h₁ => ?_
  refine .skip (.updateImpl (fun s => ?_) (fun s => ?_) fun s => ?_) fun _ => ?_
  iterate 3 split <;> rfl
  refine .weaken (.updateRollout fun _ => rfl) fun _ c₂ h₂ => ?_
  rw [h₂]
  refine ⟨fun _ _ => by rw [h₁], fun hdone => ?_, fun j' i' h => by rwa [RolloutCore.Released, h₁]⟩
  rw [h₁, ← hstate] at hdone
  simp [TargetState.changing_of_terminal hdone] at hchanging

/-! ## The whole rollout -/

/-- The loops of `restore` over the stages and their targets. -/
def restoreTargets (env : Env ρ) (previous : IncarnationId) (r : Rollout) : Op ρ Unit :=
  (List.range r.stages.length).forM fun j =>
    (List.range (r.stageAt j).targets.length).forM fun i => restoreTarget env previous j i

theorem restoreTargets_performs {previous : IncarnationId} {r : Rollout} (hr : r.core = c.rollout) :
    Performs env Act.isRestoring e c (restoreTargets env previous r) fun _ c' =>
      ∀ j i, c'.rollout.Released j i := by
  unfold restoreTargets
  have hrange (j i : Nat) (hdone : (c.rollout.targetAt j i).state.isTerminal = true) :
      j < r.stages.length ∧ i < (r.stageAt j).targets.length := by
    obtain ⟨hj, hi⟩ := RolloutCore.range_of_state (r := c.rollout) (j := j) (i := i)
      fun hp => by simp [hp, TargetState.isTerminal] at hdone
    rw [← hr] at hj hi
    rw [← Rollout.core_stageAt] at hi
    exact ⟨by simpa [Rollout.core] using hj, by simpa [StageRuntime.core] using hi⟩
  refine .weaken (.forM_each (I := Still c) (P := fun j c' => ∀ i, c'.rollout.Released j i)
    (fun _ _ => rfl) fun j _ c₁ h₁ => ?_) fun _ c' hswept j i hdone => ?_
  · refine .weaken (.forM_each (P := fun i c' => c'.rollout.Released j i)
      (I := fun c' => Still c c' ∧ ∀ j i, c₁.rollout.Released j i → c'.rollout.Released j i)
      ⟨h₁, fun _ _ h => h⟩ fun i _ c₂ h₂ => ?_) fun _ c' hswept => ?_
    · refine restoreTarget_performs.weaken fun _ c₃ hrestored => ?_
      obtain ⟨hstill, hnew, hkept⟩ := hrestored
      exact ⟨⟨fun j i => (hstill j i).trans (h₂.1 j i), fun j i h => hkept j i (h₂.2 j i h)⟩, hnew,
        fun i => hkept j i⟩
    · obtain ⟨⟨hstill, hkept⟩, hall, -⟩ := hswept
      refine ⟨hstill, fun i hdone => ?_, fun j hj i => hkept j i (hj i)⟩
      exact hall i (List.mem_range.2 (hrange j i (hstill j i ▸ hdone)).2) hdone
  · obtain ⟨hstill, hall, -⟩ := hswept
    exact hall j (List.mem_range.2 (hrange j i (hstill j i ▸ hdone)).1) i hdone

end RolloutFabric
