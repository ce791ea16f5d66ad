/-
What a tick does to one rollout: attempts are offered and dispatched, deadlines expire, a stage is
run, a rollback compensates.
-/
import RolloutFabric.Orchestrator.Settles
import RolloutFabric.Orchestrator.Gating
import RolloutFabric.Orchestrator.BlastRadius

namespace RolloutFabric

variable {ρ : Type} {env : Env ρ} {e : View → Prop} {c : Core} {j i : Nat} {now : Timestamp}
  {spare : Bool}

instance : Writes (Act.isWork spare now) :=
  ⟨fun a => by cases a <;> simp [Act.isWrite, Act.isWork, Act.isTick, Act.isShared]⟩

instance : Writes (Act.isUndo now) := ⟨fun a => by cases a <;> simp [Act.isWrite, Act.isUndo]⟩

theorem Act.isWork_of_isShared {a : Act} (h : a.isShared = true) : a.isWork spare now = true := by
  cases a with
  | assign j i target record =>
    cases record with
    | none => rfl
    | some record => simp [isShared] at h
  | _ => simp_all [isShared, isWork, isTick]

theorem Act.isTick_of_isWork {a : Act} (h : a.isWork spare now = true) : a.isTick spare = true := by
  cases a with
  | dispatch => rfl
  | finishing => cases h
  | _ => exact h

theorem Act.isTick_of_isUndo {a : Act} (h : a.isUndo now = true) : a.isTick spare = true := by
  cases a with
  | assign j i target record =>
    cases record with
    | none => rfl
    | some record => cases h
  | enter next =>
    obtain rfl : next = .failed := by simpa [isUndo] using h
    rfl
  | _ => first | rfl | cases h

theorem Performs.working {α : Type} {m : Op ρ α} {q : α → Core → Prop}
    (h : Performs env Act.isShared e c m q) : Performs env (Act.isWork spare now) e c m q :=
  h.mono fun _ => Act.isWork_of_isShared

/-! ## Accepting an attempt -/

/-- What the table forgets, it forgets attempt by attempt. -/
theorem trimAttempts_reaches {allowed : Act → Bool} (hl : ∀ id, allowed (.evict id) = true)
    (bound : Nat) (order : List AttemptId) (attempts : Map AttemptId Attempt) (v : View)
    (hv : v.attempts = fun id => attempts.lookup id) :
    Relation.ReflTransGen (MachineStep env allowed) v
      { v with attempts := fun id => (trimAttempts bound order attempts).2.lookup id } := by
  induction order generalizing attempts v with
  | nil =>
    rw [trimAttempts, ← hv]
  | cons oldest order ih =>
    unfold trimAttempts
    split
    · cases hfound : attempts.lookup oldest with
      | none =>
        dsimp only
        rw [← hv]
      | some attempt =>
        cases hfinished : attempt.finished with
        | false =>
          simp only [hfinished, Bool.false_eq_true, if_false]
          rw [← hv]
        | true =>
          have herase : (v.setAttempt oldest none).attempts
              = fun id => (attempts.erase oldest).lookup id := by
            funext id
            by_cases hid : id = oldest
            · subst hid
              simp [View.setAttempt]
            · simp [View.setAttempt, Function.update_of_ne hid, AList.lookup_erase_ne hid, hv]
          simp only [hfinished, if_true]
          refine .head ⟨.evict oldest, hl oldest, ⟨attempt, ?_, hfinished⟩, trivial, rfl⟩
            (ih (attempts.erase oldest) (v.setAttempt oldest none) herase)
          exact (congrFun hv oldest).trans hfound
    · dsimp only
      rw [← hv]

theorem accept_performs {allowed : Act → Bool} {attempt : Attempt} {step : UInt32}
    (hl : allowed (.dispatch j i attempt step) = true) (hevict : ∀ id, allowed (.evict id) = true)
    (hg : (Act.dispatch j i attempt step).Guard env c) :
    Performs env allowed e c (Op.accept env j i attempt step)
      fun _ c' => Touched c c' j i ∧ c'.failing = none := by
  intro w hw
  obtain ⟨w', hexec, hview⟩ : ∃ w', (Op.accept env j i attempt step).exec w = (.ok (), w')
      ∧ w'.view = { (Act.dispatch j i attempt step).run w.view with
        attempts := fun id => (trimAttempts (env.limits.maxConcurrentAttempts.toNat * 2 + 1)
          (if attempt.id ∈ w.impl.attempts then w.impl.attemptOrder
            else w.impl.attemptOrder ++ [attempt.id])
          (w.impl.attempts.insert attempt.id attempt)).2.lookup id } := by
    refine ⟨_, rfl, ?_⟩
    have htarget : (w.rollout.modifyTarget j i fun t => { t with
        epoch := attempt.epoch
        attemptsCreated := t.attemptsCreated + 1
        currentAttempt := attempt.id
        state := if step = 0 then TargetState.dispatched else .rollingBack }).core
        = w.rollout.core.modifyTarget j i fun t => { t with
            state := if step = 0 then .dispatched else .rollingBack
            epoch := attempt.epoch
            currentAttempt := attempt.id } := Rollout.core_modifyTarget (fun _ => rfl) ..
    have hstate : (if step = 0 then TargetState.dispatched else .rollingBack) ≠ .failed := by
      split <;> simp
    simp only [World.view, Act.run, View.log, View.setRollout, View.setAttempt, View.setFailing,
      View.mk.injEq, ← htarget, ← Rollout.core_place]
    refine ⟨?_, rfl, rfl, rfl, if_neg hstate⟩
    refine core_modifyStage_same (f := ?_) (h := ?_) ..
    exact fun _ => rfl
  rw [hexec]
  refine ⟨?_, fun _ _ => ?_, fun _ he => by cases he⟩
  · rw [hview]
    refine .head (MachineStep.act hl rfl hw hg rfl) (trimAttempts_reaches hevict _ _ _ _ ?_)
    funext id
    by_cases hid : id = attempt.id
    · subst hid
      simp [Act.run, View.setAttempt, View.setFailing]
    · simp [Act.run, View.setAttempt, View.setFailing, Function.update_of_ne hid,
        AList.lookup_insert_ne hid, View.log, View.setRollout, World.view]
  · subst hw
    have hroll : w'.core.rollout = ((Act.dispatch j i attempt step).run w.view).rollout :=
      (congrArg View.rollout hview :)
    refine ⟨⟨_, ?_, hroll⟩, (congrArg View.failing hview :)⟩
    exact fun _ => rfl

/-! ## Dispatching -/

/-- What an attempt of the target is allowed by: room for forward work, or a compensation step
that is due. -/
def Permits (c : Core) (j i : Nat) (action : ActionId) (step : UInt32) : Prop :=
  step = 0 ∧ Room c j i
    ∨ c.rollout.state = .rollingBack ∧ (c.rollout.targetAt j i).state = .rollingBack
      ∧ (∀ a, c.attempts (c.rollout.targetAt j i).currentAttempt = some a →
        (c.rollout.targetAt j i).currentAttempt ≠ .nil → a.finished = true)
      ∧ step = (c.rollout.targetAt j i).rollbackStep + 1
      ∧ (c.rollout.stageAt j).policy.compensationActions[
        (c.rollout.targetAt j i).rollbackStep.toNat]? = some action

theorem countP_modify_same {α : Type} {p : α → Bool} {f : α → α} (h : ∀ a, p (f a) = p a)
    (l : List α) (n : Nat) : (l.modify n f).countP p = l.countP p := by
  have hmap := congrArg (List.countP id) (map_modify_same h l n)
  simpa [List.countP_map, Function.comp_def] using hmap

/-- The offer of an attempt changes nothing that permits it. -/
theorem Permits.offered {action : ActionId} {step : UInt32} (h : Permits c j i action step)
    (id : AttemptId) : Permits ((Act.offer j i id).after c) j i action step := by
  have hroll : ((Act.offer j i id).after c).rollout
      = c.rollout.modifyTarget j i fun t => { t with lastAttempt := id } := rfl
  have hcount (s : StageCore) : StageCore.changing { s with
      targets := s.targets.modify i fun t => { t with lastAttempt := id } } = s.changing :=
    countP_modify_same (f := fun t : TargetCore => { t with lastAttempt := id }) (fun _ => rfl) ..
  have hstage : ((Act.offer j i id).after c).rollout.stageAt j = { c.rollout.stageAt j with
      targets := (((Act.offer j i id).after c).rollout.stageAt j).targets } := by
    rw [hroll, RolloutCore.modifyTarget, RolloutCore.stageAt_modifyStage]
    split <;> rfl
  have hchanging : (((Act.offer j i id).after c).rollout.stageAt j).changing
      = (c.rollout.stageAt j).changing := by
    rw [hroll, RolloutCore.modifyTarget, RolloutCore.stageAt_modifyStage]
    split
    · exact hcount _
    · rfl
  have hoverall : ((Act.offer j i id).after c).rollout.changing = c.rollout.changing :=
    congrArg List.sum (map_modify_same hcount c.rollout.stages j)
  have htarget : ((Act.offer j i id).after c).rollout.targetAt j i
      = { c.rollout.targetAt j i with
          lastAttempt := (((Act.offer j i id).after c).rollout.targetAt j i).lastAttempt } := by
    rw [hroll, RolloutCore.targetAt_modifyTarget]
    split <;> rfl
  rcases h with ⟨hstep, h⟩ | h
  · refine .inl ⟨hstep, h.current, h.working, ?_, ?_, ?_, ?_, ?_, ?_⟩
    · rw [hstage]
      exact h.stage
    · rw [hstage]
      exact h.noGate
    · rw [htarget]
      exact h.idle
    · rw [hchanging, hstage]
      exact h.concurrency
    · rw [hchanging, hstage]
      exact h.perStage
    · rw [hoverall, hstage]
      exact h.overall
  · right
    rw [hstage, htarget]
    exact h

/-- What may dispatch attempts of this step. -/
structure Dispatches (allowed : Act → Bool) (step : UInt32) (now : Timestamp) : Prop where
  offer : ∀ j i id, allowed (.offer j i id) = true
  dispatch : ∀ j i attempt, attempt.createdAt = now → allowed (.dispatch j i attempt step) = true
  evict : ∀ id, allowed (.evict id) = true

theorem createAndDispatch_performs {allowed : Act → Bool} [Writes allowed] [Tolerates e]
    {id : TargetId} {action : ActionSpec} {step : UInt32} {epoch : UInt64}
    (hl : Dispatches allowed step now) (hfind : (c.rollout.stageAt j).findTarget id = some i)
    (h : Permits c j i action.id step) :
    Performs env allowed e c (createAndDispatch env j id action step epoch now)
      fun _ c' => Touched c c' j i ∧ (c.failing = none → c'.failing = none) := by
  unfold createAndDispatch
  refine .get_bind fun w hw => ?_
  dsimp only
  rw [World.findTarget_core hw, hfind]
  cases env.execution with
  | none => exact .weaken .updateCounters fun _ _ hc => hc ▸ ⟨.refl .., fun h => h⟩
  | some execution =>
    dsimp only
    refine .skip (.updateImpl (fun _ => rfl) (fun _ => rfl) fun _ => rfl) fun _ => ?_
    refine .pair (.act (.offer j i (w.impl.ids.next .attempt .attempt).1) (hl.offer ..) rfl
      (fun w' hw' => ⟨_, rfl, ?_⟩) trivial) fun _ c₁ h₁ => ?_
    -- the offer writes the attempt to the target before the executor is asked
    · have hplace : w.rollout.place j i = w'.rollout.core.place j i := by
        rw [Rollout.core_place, World.rollout_core hw, World.rollout_core hw']
      simp only [World.view, Act.run, View.log, View.setRollout, View.mk.injEq, hplace, and_true]
      refine ⟨Rollout.core_modifyTarget (h := ?_) .., trivial, rfl⟩
      exact fun _ => rfl
    have htouched : Touched c c₁ j i := by
      refine ⟨_, ?_, congrArg Core.rollout h₁⟩
      exact fun _ => rfl
    refine .skip .ask fun result => ?_
    -- a refused attempt is only counted
    refine .ite (fun _ => ?_) fun _ => ?_
    · refine .weaken .updateCounters fun _ c' hc => ?_
      subst hc
      exact ⟨htouched, fun h => by rw [h₁]; exact h⟩
    refine .bind (accept_performs (hl.dispatch _ _ _ rfl) hl.evict ?_) fun _ c₂ haccepted => ?_
    -- what the accepted attempt carries is what the target and its stage hold
    · have hrange := StageCore.findTarget_lt hfind
      have htarget : (w.rollout.targetAt j i).target = id := by
        refine (congrArg TargetCore.target (World.targetAt_core hw j i)).trans hrange.2
      have hid : (w.rollout.stageAt j).id = (c.rollout.stageAt j).id :=
        congrArg StageCore.id (World.stageAt_core hw j)
      have hpermits := h.offered (w.impl.ids.next .attempt .attempt).1
      rw [← h₁] at hpermits
      have hlast : (c₁.rollout.targetAt j i).lastAttempt
          = (w.impl.ids.next .attempt .attempt).1 := by
        subst h₁
        change (RolloutCore.targetAt (c.rollout.modifyTarget j i _) j i).lastAttempt = _
        rw [RolloutCore.targetAt_modifyTarget, if_pos]
        exact ⟨⟨rfl, rfl⟩, RolloutCore.lt_of_findTarget hfind, hrange.1⟩
      have hid₁ : (c₁.rollout.stageAt j).id = (c.rollout.stageAt j).id :=
        htouched.stageAt StageCore.id (fun _ _ => rfl) j
      have htarget₁ : (c₁.rollout.targetAt j i).target = id :=
        (StageCore.findTarget_lt ((htouched.findTarget j id).trans hfind)).2
      have hpolicy : (w.rollout.stageAt j).policy = (c₁.rollout.stageAt j).policy :=
        (congrArg StageCore.policy (World.stageAt_core hw j)).trans
          (htouched.stageAt StageCore.policy (fun _ _ => rfl) j).symm
      refine ⟨⟨?_, ?_, hid.trans hid₁.symm, htarget.trans htarget₁.symm, ?_⟩,
        ⟨rfl, rfl, rfl, rfl⟩, ?_, hlast, ⟨c.history, ?_⟩, ?_⟩
      · subst h₁
        exact congrArg RolloutCore.id (World.rollout_core hw)
      · subst h₁
        exact congrArg RolloutCore.generation (World.rollout_core hw)
      · rw [← hpolicy]
        rfl
      · change (c₁.rollout.stageAt j).findTarget (w.rollout.targetAt j i).target = some i
        rw [htarget, htouched.findTarget, hfind]
      · have hplace : c₁.rollout.place j i = c.rollout.place j i := by
          have ht : (c.rollout.targetAt j i).target = id := hrange.2
          simp only [RolloutCore.place, hid₁, htarget₁, ht]
          subst h₁
          rfl
        rw [hplace, h₁]
        rfl
      · rcases hpermits with hpermits | ⟨hr, ht, hidle, hstep, haction⟩
        · exact .inl hpermits
        · exact .inr ⟨hr, ht, hidle, hstep, haction⟩
    obtain ⟨h₂, hidle⟩ := haccepted
    refine .skip (noteIdempotencyKey_performs.wrote) fun _ => ?_
    refine .skip (.updateRollout fun _ => rfl) fun _ => .skip .updateReport fun _ => ?_
    refine .skip commit_performs.wrote fun _ => countDecision_performs.wrote.weaken fun _ c' hc => ?_
    subst hc
    exact ⟨htouched.trans h₂, fun _ => hidle⟩

/-! ## Working on a stage -/

/-- The stage is current and worked on, and nothing on it is being settled. -/
structure Working (c : Core) (j : Nat) : Prop where
  inRange : j < c.rollout.stages.length
  current : c.rollout.cursor.toNat = j
  working : c.rollout.state.working = true
  stage : (c.rollout.stageAt j).state.active = true
  idle : c.failing = none
  sorted : (c.rollout.stageAt j).Sorted
  /-- A gate is pending on it only once its targets are done. -/
  gate : (c.rollout.stageAt j).pendingGate = .nil ∨ (c.rollout.stageAt j).Terminal

theorem Working.touched {c' : Core} (h : Working c j)
    (hgate : (c.rollout.stageAt j).pendingGate = .nil) (ht : Touched c c' j i)
    (hidle : c'.failing = none) : Working c' j where
  inRange := ht.length ▸ h.inRange
  current := ht.cursor ▸ h.current
  working := ht.state ▸ h.working
  stage := (ht.stageAt StageCore.state (fun _ _ => rfl) j).symm ▸ h.stage
  idle := hidle
  sorted := ht.sorted h.sorted
  gate := .inl ((ht.stageAt StageCore.pendingGate (fun _ _ => rfl) j).trans hgate)

/-! ## A batch -/

/-- The rest of a batch can be dispatched: every entry names a pending target of its own, and
there is room for all of them. -/
structure Batch (c : Core) (j : Nat) (entries : List DispatchPlanEntry) : Prop where
  working : Working c j
  noGate : (c.rollout.stageAt j).pendingGate = .nil
  forward : ∀ entry ∈ entries, entry.rollbackStep = 0
  distinct : (entries.map DispatchPlanEntry.target).Nodup
  pending : ∀ entry ∈ entries, ∀ i, (c.rollout.stageAt j).findTarget entry.target = some i →
    (c.rollout.targetAt j i).state = .pending
  concurrency : (c.rollout.stageAt j).changing + entries.length
    ≤ (c.rollout.stageAt j).policy.maxConcurrency.toNat
  perStage : (c.rollout.stageAt j).changing + entries.length
    ≤ (c.rollout.stageAt j).policy.blastRadius.maxTargetsChangingPerStage.toNat
  overall : c.rollout.changing + entries.length
    ≤ (c.rollout.stageAt j).policy.blastRadius.maxTargetsChangingGlobal.toNat

variable {entry : DispatchPlanEntry} {rest : List DispatchPlanEntry}

theorem Batch.room (h : Batch c j (entry :: rest))
    (hfind : (c.rollout.stageAt j).findTarget entry.target = some i) : Room c j i where
  current := h.working.current
  working := h.working.working
  stage := h.working.stage
  noGate := h.noGate
  idle := h.pending entry (List.mem_cons_self ..) i hfind
  concurrency := Nat.lt_of_lt_of_le (by simp) h.concurrency
  perStage := Nat.lt_of_lt_of_le (by simp) h.perStage
  overall := Nat.lt_of_lt_of_le (by simp) h.overall

/-- One entry takes the room of one target, and touches no other. -/
theorem Batch.next {c' : Core} (h : Batch c j (entry :: rest))
    (hfind : (c.rollout.stageAt j).findTarget entry.target = some i) (ht : Touched c c' j i)
    (hidle : c'.failing = none) : Batch c' j rest := by
  have hpolicy := ht.stageAt StageCore.policy (fun _ _ => rfl) j
  have hdistinct := List.nodup_cons.1 h.distinct
  have hconcurrency := h.concurrency
  have hperStage := h.perStage
  have hoverall := h.overall
  rw [List.length_cons] at hconcurrency hperStage hoverall
  refine ⟨h.working.touched h.noGate ht hidle,
    (ht.stageAt StageCore.pendingGate (fun _ _ => rfl) j).trans h.noGate,
    fun next hnext => h.forward next (List.mem_cons_of_mem _ hnext), hdistinct.2, ?_, ?_, ?_, ?_⟩
  · intro next hnext k hk
    rw [ht.findTarget] at hk
    have hne : k ≠ i := by
      rintro rfl
      have hsame := (StageCore.findTarget_lt hk).2.symm.trans (StageCore.findTarget_lt hfind).2
      exact hdistinct.1 (hsame ▸ List.mem_map_of_mem hnext)
    rw [ht.targetAt_of_ne hne]
    exact h.pending next (List.mem_cons_of_mem _ hnext) k hk
  · rw [hpolicy]
    have := ht.stage_changing j
    omega
  · rw [hpolicy]
    have := ht.stage_changing j
    omega
  · rw [hpolicy]
    have := ht.changing
    omega

theorem Batch.skip (h : Batch c j (entry :: rest)) : Batch c j rest where
  working := h.working
  noGate := h.noGate
  forward := fun next hnext => h.forward next (List.mem_cons_of_mem _ hnext)
  distinct := (List.nodup_cons.1 h.distinct).2
  pending := fun next hnext => h.pending next (List.mem_cons_of_mem _ hnext)
  concurrency := Nat.le_trans (by simp) h.concurrency
  perStage := Nat.le_trans (by simp) h.perStage
  overall := Nat.le_trans (by simp) h.overall

variable [Tolerates e]

theorem dispatchEntry_performs (h : Batch c j (entry :: rest)) :
    Performs env (Act.isWork spare now) e c (dispatchEntry env j now entry)
      fun _ c' => Batch c' j rest := by
  unfold dispatchEntry
  refine .read_bind fun w hw => ?_
  dsimp only
  rw [World.findTarget_core hw]
  split
  · next action i _ hfind =>
    have hforward := h.forward entry (List.mem_cons_self ..)
    have hl : Dispatches (Act.isWork spare now) entry.rollbackStep now :=
      ⟨fun _ _ _ => rfl, fun _ _ _ hat => by simp [Act.isWork, hforward, hat], fun _ => rfl⟩
    refine .weaken (createAndDispatch_performs hl hfind (.inl ⟨hforward, h.room hfind⟩))
      fun _ c' ⟨ht, hidle⟩ => h.next hfind ht (hidle h.working.idle)
  · exact .pure h.skip

theorem dispatchEntries_performs {entries : List DispatchPlanEntry} (h : Batch c j entries) :
    Performs env (Act.isWork spare now) e c (entries.forM (dispatchEntry env j now))
      fun _ c' => Batch c' j [] := by
  induction entries generalizing c with
  | nil => exact .pure h
  | cons entry rest ih => exact .bind (dispatchEntry_performs h) fun _ _ => ih

/-- A batch of the planner fits. -/
theorem planDispatch_batch {w : World ρ} (hw : w.core = c) (h : Working c j)
    (hgate : (c.rollout.stageAt j).pendingGate = .nil)
    (hsome : (planDispatch w.rollout (w.rollout.stageAt j) w.impl.inventory
      env.limits).admitted ≠ []) :
    Batch c j (planDispatch w.rollout (w.rollout.stageAt j) w.impl.inventory
      env.limits).admitted := by
  have hstage := World.stageAt_core hw j
  have htargets := planDispatch_targets w.rollout (w.rollout.stageAt j) w.impl.inventory env.limits
  have hlength := congrArg List.length htargets
  rw [List.length_map, List.length_map] at hlength
  have hcapacity := batch_length_le w.rollout (w.rollout.stageAt j) w.impl.inventory env.limits
  have hpositive := List.length_pos_iff.2 hsome
  have hids : ((w.rollout.stageAt j).targets.map TargetRuntime.target).Nodup := by
    rw [← StageRuntime.ids_core, hstage]
    exact h.sorted.nodup
  have hsub := (batch_sublist w.rollout (w.rollout.stageAt j) w.impl.inventory env.limits).trans
    (List.filter_sublist ..)
  have hpolicy : (w.rollout.stageAt j).policy = (c.rollout.stageAt j).policy :=
    World.policy_core hw j
  have hchanging : (w.rollout.stageAt j).changingCount = (c.rollout.stageAt j).changing := by
    rw [← hstage, StageRuntime.changing_core]
  have hoverall : w.rollout.changingCount = c.rollout.changing := by
    rw [← World.rollout_core hw, Rollout.changing_core]
  simp only [dispatchCapacity, hpolicy, hchanging, hoverall] at hcapacity
  refine ⟨h, hgate, fun entry => planDispatch_forward, ?_, ?_, by omega, by omega, by omega⟩
  · rw [htargets]
    exact (hsub.map _).nodup hids
  · intro entry hentry k hk
    have hmem := List.mem_map_of_mem (f := DispatchPlanEntry.target) hentry
    rw [htargets, List.mem_map] at hmem
    obtain ⟨t, ht, hid⟩ := hmem
    obtain ⟨hk, hkid⟩ := StageCore.findTarget_lt hk
    have hlen : (c.rollout.stageAt j).targets.length = (w.rollout.stageAt j).targets.length := by
      rw [← hstage]
      exact List.length_map ..
    have hmem : w.rollout.targetAt j k ∈ (w.rollout.stageAt j).targets := by
      rw [Rollout.targetAt, List.getD_eq_getElem?_getD, List.getElem?_eq_getElem (hlen ▸ hk)]
      exact List.getElem_mem ..
    have hsame : w.rollout.targetAt j k = t := by
      refine List.inj_on_of_nodup_map hids hmem (hsub.subset ht) ?_
      exact ((congrArg TargetCore.target (World.targetAt_core hw j k)).trans hkid).trans hid.symm
    rw [← World.targetState_core hw, hsame]
    exact pending_of_mem_batch ht

theorem dispatchStage_performs (h : Working c j) (hgate : (c.rollout.stageAt j).pendingGate = .nil) :
    Performs env (Act.isWork spare now) e c (dispatchStage env j now) fun _ _ => True := by
  unfold dispatchStage
  refine .get_bind fun w hw => ?_
  dsimp only
  refine .bind (q := fun _ _ => True) ?_ fun _ c₁ _ => ?_
  · by_cases hsome : (planDispatch w.rollout (w.rollout.stageAt j) w.impl.inventory
        env.limits).admitted = []
    · rw [hsome]
      exact .pure trivial
    · exact .weaken (dispatchEntries_performs (planDispatch_batch hw h hgate hsome))
        fun _ _ _ => trivial
  refine .read_bind fun w₁ _ => .skip (.updateStage fun _ => rfl) fun _ => ?_
  refine .skip (.updateRollout fun _ => rfl) fun _ => ?_
  refine .ite (fun _ => .read_bind fun w₂ _ => ?_) fun _ => ?_
  · refine .skip commit_performs.wrote fun _ => .skip countDecision_performs.wrote fun _ => ?_
    exact persistRollout_performs.wrote.weaken fun _ _ _ => trivial
  · exact persistRollout_performs.wrote.weaken fun _ _ _ => trivial

/-! ## Deadlines -/

theorem expireTarget_performs :
    Performs env (Act.isWork spare now) e c (expireTarget env j now i) fun _ c' =>
      c' = c ∨ (c.rollout.targetAt j i).state = .dispatched ∧ Touched c c' j i
        ∧ c'.failing = none := by
  unfold expireTarget
  refine .read_bind fun w hw => .read_bind fun w' hw' => ?_
  rw [World.lookup_core hw', World.targetState_core hw, World.currentAttempt_core hw]
  cases hfound : c.attempts (c.rollout.targetAt j i).currentAttempt with
  | none => exact .pure (.inl rfl)
  | some attempt =>
  refine .ite (fun _ => .pure (.inl rfl)) fun hlive => ?_
  refine .ite (fun _ => .pure (.inl rfl)) fun hdue => ?_
  -- only a dispatched target whose attempt is not over can expire
  have hstate : (c.rollout.targetAt j i).state = .dispatched := by
    by_contra hne
    exact hlive (.inl hne)
  have hunfinished : attempt.finished = false := by
    cases hf : attempt.finished with
    | false => rfl
    | true => exact absurd (.inl hf) hdue
  obtain ⟨hj, hi⟩ := RolloutCore.range_of_state (r := c.rollout) (j := j) (i := i)
    (by rw [hstate]; simp)
  refine .bind (.updateAttempt hfound rfl ⟨rfl, rfl, rfl, rfl, rfl, rfl, rfl, rfl, rfl, rfl⟩
    (.inr hunfinished)) fun _ c₁ h₁ => ?_
  have hroll : c₁.rollout = c.rollout := h₁ ▸ rfl
  rw [← hroll] at hstate
  clear h₁
  refine .skip .releaseOutstanding fun _ => ?_
  refine .ite (fun _ => ?_) fun _ => ?_
  -- a cancelled attempt ends as cancelled
  · refine .bind (.enterTarget (fun t => { t with state := .cancelled, currentAttempt := .nil })
      (fun _ => rfl) rfl (.expire .cancelled hstate (.inl rfl))) fun _ c₂ h₂ => ?_
    refine .weaken (.updateStage fun _ => rfl) fun _ c' hc => ?_
    subst hc h₂
    rw [← hroll]
    refine .inr ⟨hstate, (Touched.of_eq hroll).trans (.modify
      (fun t => { t with state := .cancelled, currentAttempt := .nil }) (fun _ => rfl) rfl), rfl⟩
  -- any other one fails, and is retried or exhausts its budget
  · refine .read_bind fun w _ => ?_
    dsimp only
    refine .bind (.enterTarget (fun t => { t with state := .failed, currentAttempt := .nil })
      (fun _ => rfl) rfl (.expire .failed hstate (.inr rfl))) fun _ c₂ h₂ => ?_
    refine .skip (.updateStage fun _ => rfl) fun _ => .skip commit_performs.wrote fun _ => ?_
    refine .skip countDecision_performs.wrote fun _ => ?_
    have htouched : Touched c c₂ j i := (Touched.of_eq hroll).trans (.modify
      (fun t => { t with state := .failed, currentAttempt := .nil }) (fun _ => rfl) (h₂ ▸ rfl))
    refine .weaken (retryOrExhaust_performs (fun _ => rfl) ?_ (by rw [h₂]; rfl))
      fun _ c' ⟨ht, hidle⟩ => .inr ⟨hroll ▸ hstate, htouched.trans ht, hidle⟩
    rw [← hroll] at hj hi
    subst h₂
    change (RolloutCore.targetAt (RolloutCore.modifyTarget _ j i _) j i).state = .failed
    rw [RolloutCore.targetAt_modifyTarget, if_pos ⟨⟨rfl, rfl⟩, hj, hi⟩]

theorem StageCore.targetAt_mem {s : StageCore} {i : Nat} (h : i < s.targets.length) :
    s.targetAt i ∈ s.targets := by
  rw [targetAt, List.getD_eq_getElem?_getD, List.getElem?_eq_getElem h]
  exact List.getElem_mem h

/-- An index out of range finds the target that is nothing. -/
theorem StageCore.targetAt_mem_or (s : StageCore) (i : Nat) :
    s.targetAt i ∈ s.targets ∨ s.targetAt i = default := by
  by_cases hlt : i < s.targets.length
  · exact .inl (targetAt_mem hlt)
  · right
    rw [targetAt, List.getD_eq_getElem?_getD, List.getElem?_eq_none (Nat.le_of_not_lt hlt)]
    rfl

/-- A target in flight keeps the gate from pending. -/
theorem Working.expired {c' : Core} (h : Working c j)
    (hexpired : c' = c ∨ (c.rollout.targetAt j i).state = .dispatched ∧ Touched c c' j i
      ∧ c'.failing = none) : Working c' j := by
  rcases hexpired with rfl | ⟨hstate, ht, hidle⟩
  · exact h
  · refine h.touched (h.gate.resolve_right fun hterminal => ?_) ht hidle
    have hrange := RolloutCore.range_of_state (r := c.rollout) (j := j) (i := i)
      (by rw [hstate]; simp)
    have := hterminal _ (StageCore.targetAt_mem hrange.2)
    rw [show ((c.rollout.stageAt j).targetAt i).state = .dispatched from hstate] at this
    cases this

/-! ## Running a stage -/

theorem StageCore.Terminal.busy {s : StageCore} (h : s.Terminal) : s.busy = 0 := by
  refine List.countP_eq_zero.2 fun t ht => ?_
  have := h t ht
  cases hs : t.state <;> simp_all [TargetState.isTerminal]

omit [Tolerates e] in
/-- A look at the gate changes nothing. -/
theorem weigh_performs (h : Working c j) :
    Performs env (Act.isWork spare now) e c (weigh j now) fun _ c' => Working c' j := by
  unfold weigh
  refine .read_bind fun w hw => ?_
  rw [show w.rollout.id = c.rollout.id from congrArg RolloutCore.id (World.rollout_core hw),
    World.generation_core hw]
  refine Performs.weaken (.act (.weigh j (w.rollout.stageAt j) now) rfl rfl
    (fun w' hw' => ⟨_, rfl, ?_⟩) (World.stageAt_core hw j)) fun _ c' hc => ?_
  · subst hw'
    rfl
  · subst hc
    exact ⟨h.inRange, h.current, h.working, h.stage, h.idle, h.sorted, h.gate⟩

theorem clearCanary_performs (h : Working c j) :
    Performs env (Act.isWork spare now) e c (clearCanary env j now)
      fun failed c' => failed = true ∨ Working c' j := by
  unfold clearCanary
  refine .bind (weigh_performs h) fun _ c₁ h₁ => .read_bind fun w _ => ?_
  refine .ite (fun _ => .pure (.inr h₁)) fun _ => ?_
  refine .ite (fun _ => ?_) fun _ => ?_
  · refine .skip (.updateStage fun _ => rfl) fun _ => .skip commit_performs.wrote fun _ => ?_
    exact .skip countDecision_performs.wrote fun _ => .pure (.inr h₁)
  refine .ite (fun _ => ?_) fun _ => .pure (.inr h₁)
  refine .skip commit_performs.wrote fun _ => .skip countDecision_performs.wrote fun _ => ?_
  refine .bind (failStage_performs (.inl ⟨(StageState.active_leaves h₁.stage).2, h₁.working⟩)).working
    fun _ _ _ => .pure (.inl rfl)

theorem settleStage_performs (h : Working c j) (hterminal : (c.rollout.stageAt j).Terminal) :
    Performs env (Act.isWork spare now) e c (settleStage env j now) fun _ _ => True := by
  unfold settleStage
  refine .read_bind fun w _ => ?_
  dsimp only
  refine .ite (fun _ => ?_) fun _ => ?_
  · refine .skip (.updateStage fun _ => rfl) fun _ => ?_
    refine .bind (stageTransition_performs rfl ?_ fun _ => trivial) fun _ c₁ _ => ?_
    · have hactive := h.stage
      revert hactive
      cases (c.rollout.stageAt j).state <;> simp [StageState.active, StageState.legalTransition]
    refine .read_bind fun w₁ hw₁ => ?_
    rw [World.state_core hw₁]
    refine .when (I := fun _ => True) (fun hlegal => ?_) (fun _ => trivial) fun c₂ _ => ?_
    · exact .weaken (transition_performs rfl (.inr (.inl hlegal))) fun _ _ _ => trivial
    · refine .skip commit_performs.wrote fun _ => ?_
      exact countDecision_performs.wrote.weaken fun _ _ _ => trivial
  refine .ite (fun _ => persistRollout_performs.wrote.weaken fun _ _ _ => trivial) fun _ => ?_
  refine (completeStage_performs ⟨h.inRange, fun _ => h.current, fun _ _ => hterminal.busy⟩ (.inl rfl)
    (fun _ => ⟨h.stage, h.current, hterminal, h.idle⟩) (.inl ⟨.inr ?_, h.working⟩)).working
  exact (StageState.active_leaves h.stage).1

theorem holdForHealth_performs :
    Performs env Act.isWrite WriteFault c (holdForHealth env j now) fun _ c' => c' = c := by
  unfold holdForHealth
  refine .read_bind fun w _ => .skip (.updateStage fun _ => rfl) fun _ => ?_
  exact .skip commit_performs fun _ => .skip countDecision_performs fun _ => persistRollout_performs

theorem runStage_performs (h : Working c j) :
    Performs env (Act.isWork spare now) e c (runStage env j now) fun _ _ => True := by
  unfold runStage
  refine .read_bind fun w _ => ?_
  refine .bind (.forM (I := fun c => Working c j) h fun i _ c hc =>
    expireTarget_performs.weaken fun _ _ => hc.expired) fun _ c₁ h₁ => ?_
  refine .skip probeHealth_performs fun _ => .read_bind fun w₁ _ => ?_
  dsimp only
  refine .ite (fun _ => ?_) fun _ => ?_
  · refine .skip commit_performs.wrote fun _ => .skip countDecision_performs.wrote fun _ => ?_
    exact (failStage_performs
      (.inl ⟨(StageState.active_leaves h₁.stage).2, h₁.working⟩)).working
  refine .bind (clearCanary_performs h₁) fun failed c₂ h₂ => ?_
  refine .ite (fun _ => .pure trivial) fun hfailed => ?_
  refine .bind (weigh_performs (h₂.resolve_left hfailed)) fun _ c₃ h₃ => ?_
  refine .read_bind fun w₂ hw₂ => ?_
  have hterminal : (c₃.rollout.stageAt j).Terminal
      ↔ (w₂.rollout.stageAt j).terminalCount = (w₂.rollout.stageAt j).targets.length := by
    rw [← World.stageAt_core hw₂, StageRuntime.terminal_core]
  refine .ite (fun hdone => settleStage_performs h₃ (hterminal.2 hdone)) fun hdone => ?_
  refine .ite (fun _ => holdForHealth_performs.wrote.weaken fun _ _ _ => trivial) fun _ => ?_
  exact dispatchStage_performs h₃ (h₃.gate.resolve_right fun hall => hdone (hterminal.1 hall))

/-! ## Compensation -/

theorem runRollback_performs (hr : c.rollout.state = .rollingBack)
    (ht : (c.rollout.targetAt j i).state = .rollingBack) (hsorted : (c.rollout.stageAt j).Sorted) :
    Performs env (Act.isUndo now) e c (runRollback env j i now) fun _ c' => Touched c c' j i := by
  obtain ⟨hj, hi⟩ := RolloutCore.range_of_state (r := c.rollout) (j := j) (i := i)
    (by rw [ht]; simp)
  unfold runRollback
  refine .get_bind fun w hw => ?_
  have hstage := World.stageAt_core hw j
  have htarget := World.targetAt_core hw j i
  dsimp only
  refine .ite (fun _ => .pure (.refl ..)) fun hidle => ?_
  cases haction : compensationAction (w.rollout.stageAt j) (w.rollout.targetAt j i).rollbackStep with
  | none =>
    refine .bind (.enterTarget (fun t => { t with state := .rollbackFailed, currentAttempt := .nil })
      (fun _ => rfl) rfl (.abandon ht hr)) fun _ c₁ h₁ => ?_
    refine .skip (.updateStage fun _ => rfl) fun _ => ?_
    refine persistRollout_performs.wrote.weaken fun _ c' hc => ?_
    subst hc h₁
    exact .modify (fun t => { t with state := .rollbackFailed, currentAttempt := .nil })
      (fun _ => rfl) rfl
  | some action =>
    have hid : (w.rollout.targetAt j i).target = (c.rollout.targetAt j i).target :=
      congrArg TargetCore.target htarget
    refine .weaken (createAndDispatch_performs (i := i)
      ⟨fun _ _ _ => rfl, fun _ _ _ hat => by simp [Act.isUndo, hat], fun _ => rfl⟩ ?_ (.inr ⟨hr, ht, ?_, ?_, ?_⟩))
      fun _ _ h => h.1
    · rw [hid]
      exact hsorted.findTarget hi
    · intro a ha hne
      rw [World.currentAttempt_core hw, World.lookup_core hw, ha] at hidle
      simpa [StrongId.isNil, hne] using hidle
    · rw [← htarget]
      rfl
    · rw [← htarget, ← hstage]
      unfold compensationAction at haction
      split at haction
      · cases haction
      · next id hid =>
        have := List.find?_some haction
        simp only [beq_iff_eq] at this
        exact this ▸ hid

omit [Tolerates e] in
/-- A refused transition of a stage, where failing is what is expected. -/
theorem stageTransition_throws {allowed : Act → Bool} {next : StageState} {counted : Bool}
    {q : Unit → Core → Prop} (hne : (c.rollout.stageAt j).state ≠ next)
    (hillegal : (c.rollout.stageAt j).state.legalTransition next = false)
    (he : ∀ v : View, v.core = c → e v) :
    Performs env allowed e c (stageTransition env j next now counted) q := by
  unfold stageTransition
  refine .read_bind fun w hw => ?_
  rw [World.stageState_core hw, if_neg hne, hillegal]
  exact .throw he

/-- While `finish_rollback` goes through the stages: each is as it was found, or rolled back. -/
structure Finishing (c c' : Core) : Prop where
  state : c'.rollout.state = .rollingBack
  id : c'.rollout.id = c.rollout.id
  generation : c'.rollout.generation = c.rollout.generation
  stages : ∀ k, (c'.rollout.stageAt k).state = (c.rollout.stageAt k).state
    ∨ (c'.rollout.stageAt k).state = .rolledBack
  logged : .finishing c.rollout.id c.rollout.generation (c.rollout.stages.map StageCore.state)
    ∈ c'.history

theorem Finishing.enterStage {c c' : Core} (h : Finishing c c') (j : Nat) :
    Finishing c (c'.enterStage j .rolledBack) := by
  unfold Core.enterStage
  split
  · exact h
  refine ⟨h.state, h.id, h.generation, fun k => ?_, List.mem_append_left _ h.logged⟩
  have hstage := RolloutCore.stageAt_modifyStage c'.rollout j
    (fun s => { s with state := .rolledBack }) k
  change ((c'.rollout.modifyStage j _).stageAt k).state = _
    ∨ ((c'.rollout.modifyStage j _).stageAt k).state = _
  rw [hstage]
  split
  · exact .inr rfl
  · exact h.stages k

theorem Finishing.fault {c c' : Core} (h : Finishing c c') {j : Nat}
    (hj : j < c.rollout.stages.length) (hran : (c'.rollout.stageAt j).state.neverRan = true)
    {v : View} (hv : v.core = c') : Fault v := by
  subst hv
  have hstate := (h.stages j).resolve_right fun hb => by simp [hb, StageState.neverRan] at hran
  refine .neverRan c.rollout.generation (c.rollout.stages.map StageCore.state) ?_
    (c.rollout.stageAt j).state ?_ (hstate ▸ hran)
  · have hid : v.rollout.id = c.rollout.id := h.id
    rw [hid]
    exact (mem_history.1 h.logged).1
  · simp only [RolloutCore.stageAt, List.getD_eq_getElem?_getD, List.getElem?_eq_getElem hj]
    exact List.mem_map_of_mem (List.getElem_mem hj)

theorem finishRollback_performs (hr : c.rollout.state = .rollingBack) :
    Performs env (Act.isUndo now) Fault c (finishRollback env now) fun _ _ => True := by
  unfold finishRollback
  refine .read_bind fun w hw => ?_
  have hroll := World.rollout_core hw
  have hlength : w.rollout.stages.length = c.rollout.stages.length := by
    rw [← hroll]
    exact (List.length_map ..).symm
  have hstates : w.rollout.stages.map StageRuntime.state = c.rollout.stages.map StageCore.state := by
    rw [← hroll, Rollout.core, List.map_map]
    rfl
  refine .ite (fun _ => persistRollout_performs.wrote.weaken fun _ _ _ => trivial) fun _ => ?_
  rw [hlength, hstates, show w.rollout.id = c.rollout.id from congrArg RolloutCore.id hroll,
    World.generation_core hw]
  refine .bind (.act (.finishing (c.rollout.stages.map StageCore.state)) rfl rfl
    (fun w' hw' => ⟨_, rfl, ?_⟩) ⟨hr, rfl⟩) fun _ c₁ h₁ => ?_
  · subst hw'
    rfl
  have hstart : Finishing c c₁ := by
    subst h₁
    exact ⟨hr, rfl, rfl, fun _ => .inl rfl, List.mem_append_right _ (List.mem_singleton_self _)⟩
  refine .bind (.forM (I := Finishing c) hstart fun j hj c₁ h₁ => ?_) fun _ c₂ h₂ => ?_
  · by_cases hran : (c₁.rollout.stageAt j).state.neverRan = true
    · refine stageTransition_throws ?_ ?_ fun v hv => ?_
      · intro hback
        simp [hback, StageState.neverRan] at hran
      · revert hran
        cases (c₁.rollout.stageAt j).state <;> simp [StageState.neverRan, StageState.legalTransition]
      · exact h₁.fault (List.mem_range.1 hj) hran hv
    · have hlegal := (StageState.legalTransition_rolledBack_iff _).2 (Bool.not_eq_true _ ▸ hran)
      refine .weaken (stageTransition_performs rfl (hlegal.imp_right .inl) fun _ => h₁.state)
        fun _ c' hc => ?_
      rw [hc.1]
      exact h₁.enterStage j
  · refine .read_bind fun w _ => .weaken (failRollout_performs rfl (fun hpaused => ?_) (.inl ?_))
      fun _ _ _ => trivial
    · rw [h₂.state] at hpaused
      cases hpaused
    · rw [h₂.state]
      rfl

theorem advanceRollback_performs (hr : c.rollout.state = .rollingBack)
    (hsorted : ∀ j, (c.rollout.stageAt j).Sorted) :
    Performs env (Act.isUndo now) Fault c (advanceRollback env now) fun _ _ => True := by
  unfold advanceRollback
  refine .read_bind fun w _ => ?_
  refine .bind (.forM (I := fun c' => c'.rollout.state = .rollingBack
    ∧ ∀ j, (c'.rollout.stageAt j).Sorted) ⟨hr, hsorted⟩ fun j _ c₁ h₁ =>
    .forM (I := fun c' => c'.rollout.state = .rollingBack
      ∧ ∀ j, (c'.rollout.stageAt j).Sorted) h₁ fun i _ c₂ h₂ => ?_) fun _ c₁ h₁ =>
    finishRollback_performs h₁.1
  refine .read_bind fun w hw => ?_
  rw [World.targetState_core hw]
  refine .ite (fun ht => ?_) fun _ => .pure h₂
  refine .weaken (runRollback_performs h₂.1 ht (h₂.2 j)) fun _ c' hc => ?_
  exact ⟨hc.state.trans h₂.1, fun k => hc.sorted (h₂.2 k)⟩

/-! ## Advancing a rollout -/

theorem skipStage_performs (hw : c.rollout.state.working = true)
    (h : (c.rollout.stageAt c.rollout.cursor.toNat).state = .succeeded) :
    Performs env (Act.isWork spare now) e c (skipStage env now) fun _ _ => True := by
  unfold skipStage
  refine .bind (.act .skip rfl rfl (fun w hw => ⟨_, rfl, rfl⟩) (.inl h)) fun _ c₁ h₁ => ?_
  have hworking : c₁.rollout.state.working = true := h₁ ▸ hw
  refine .read_bind fun w _ => .ite (fun _ => ?_) fun _ => ?_
  all_goals
    refine .weaken (transition_performs rfl ?_) fun _ _ _ => trivial
    revert hworking
    cases c₁.rollout.state <;> simp [RolloutState.working, RolloutState.legalTransition]

/-- An armed stage is started without a look at its entry gate. -/
theorem pickUp_performs (hstate : (c.rollout.stageAt j).state = .armed)
    (hcurrent : c.rollout.cursor.toNat = j) (hworking : c.rollout.state.working = true)
    (hspare : spare = true → (c.rollout.stageAt j).policy.entryGate = .automatic) :
    Performs env (Act.isWork spare now) e c (stageTransition env j .running now true)
      fun _ _ => True := by
  unfold stageTransition
  refine .read_bind fun w hw => ?_
  rw [World.stageState_core hw, hstate]
  refine .bind (.act (.pickUp j (c.rollout.stageAt j).policy.entryGate) ?_ rfl
    (fun w _ => ⟨_, rfl, enterStage_view j .running w⟩) ⟨hstate, hcurrent, hworking, rfl⟩)
    fun _ _ _ => ?_
  · cases spare with
    | false => rfl
    | true =>
      rw [hspare rfl]
      rfl
  · refine .skip (countTransition_performs.wrote) fun _ => ?_
    exact persistRollout_performs.wrote.weaken fun _ _ _ => trivial

/-- What a tick finds of a rollout. -/
structure Ready (c : Core) : Prop where
  idle : c.failing = none
  sorted : ∀ j, (c.rollout.stageAt j).Sorted
  /-- No gate is pending on a stage that was not started. -/
  early : ∀ j, (c.rollout.stageAt j).state = .pending → (c.rollout.stageAt j).pendingGate = .nil
  advancing : ∀ j, c.rollout.cursor.toNat = j → c.rollout.state.working = true →
    (c.rollout.stageAt j).state = .advancing → (c.rollout.stageAt j).busy = 0
  gate : ∀ j, c.rollout.state.working = true → (c.rollout.stageAt j).state.active = true →
    (c.rollout.stageAt j).pendingGate = .nil ∨ (c.rollout.stageAt j).Terminal

/-- What a tick may spare: it starts no stage past a manual entry gate. -/
def Spares (c : Core) (spare : Bool) : Prop :=
  spare = true → c.rollout.state.working = true →
    (c.rollout.stageAt c.rollout.cursor.toNat).state = .armed →
      (c.rollout.stageAt c.rollout.cursor.toNat).policy.entryGate = .automatic

theorem advanceStage_performs (h : Ready c) (hspare : Spares c spare)
    (hj : j < c.rollout.stages.length) (hcurrent : c.rollout.cursor.toNat = j)
    (hworking : c.rollout.state.working = true) :
    Performs env (Act.isWork spare now) Fault c (advanceStage env j now) fun _ _ => True := by
  unfold advanceStage
  refine .read_bind fun w hw => ?_
  rw [World.stageState_core hw]
  -- a stage that was rolled back or skipped is passed
  have hskip (hdone : (c.rollout.stageAt j).state = .rolledBack
      ∨ (c.rollout.stageAt j).state = .skipped) : Performs env (Act.isWork spare now) Fault c
      (Op.updateRollout fun r => { r with cursor := r.cursor + 1 }) fun _ _ => True := by
    refine .weaken (.act .skip rfl rfl (fun w hw => ⟨_, rfl, rfl⟩) (.inr ⟨hworking, ?_⟩))
      fun _ _ _ => trivial
    rw [hcurrent]
    exact hdone
  -- one that failed or was aborted takes the rollout with it
  have hfail : Performs env (Act.isWork spare now) Fault c
      (if w.rollout.hasCompensation then beginRollback env (text "a stage failed") now
        else failRollout env (text "a stage failed") now) fun _ _ => True := by
    refine .ite (fun _ => .weaken (Performs.working (beginRollback_performs ?_))
      fun _ _ _ => trivial) fun _ => .weaken (failRollout_performs rfl (fun _ => rfl) ?_)
      fun _ _ _ => trivial
    · exact .inr (.inl (RolloutState.working_rollingBack hworking))
    · exact .inl (RolloutState.working_canFail hworking)
  cases hstate : (c.rollout.stageAt j).state with
  | pending =>
    refine (beginStage_performs hj (fun _ => ⟨hcurrent, hworking⟩) h.idle (h.early j hstate) (.inl hstate)
      (fun v hv id hp hm => ?_) (.inl ⟨hstate, hworking⟩)).working
    have hroll : v.rollout = c.rollout := congrArg Core.rollout hv
    exact .missing j (hroll ▸ hworking) (hroll ▸ hj) id (hroll ▸ hp) (hroll ▸ hm)
  | armed =>
    refine pickUp_performs hstate hcurrent hworking fun hs => ?_
    have := hspare hs hworking
    rw [hcurrent] at this
    exact this hstate
  | running => exact runStage_performs ⟨hj, hcurrent, hworking, by rw [hstate]; rfl, h.idle,
      h.sorted j, h.gate j hworking (by rw [hstate]; rfl)⟩
  | soaking => exact runStage_performs ⟨hj, hcurrent, hworking, by rw [hstate]; rfl, h.idle,
      h.sorted j, h.gate j hworking (by rw [hstate]; rfl)⟩
  | gated => exact probeHealth_performs.weaken fun _ _ _ => trivial
  | advancing =>
    exact (completeStage_performs ⟨hj, fun _ => hcurrent, fun _ _ =>
      h.advancing j hcurrent hworking hstate⟩ (.inr (.inl hstate)) (fun h => by cases h)
      (.inl ⟨.inl hstate, hworking⟩)).working
  | succeeded => exact skipStage_performs hworking (by rw [hcurrent, hstate])
  | failed => exact hfail
  | aborted => exact hfail
  | rolledBack => exact hskip (.inl hstate)
  | skipped => exact hskip (.inr hstate)
  | blocked => exact .pure trivial

omit [Tolerates e] in
/-- A tick of a rollout that is not rolled back. -/
theorem advance_works (h : Ready c) (hspare : Spares c spare)
    (hforward : c.rollout.state ≠ .rollingBack) :
    Performs env (Act.isWork spare now) e c (advance env now) fun _ _ => True := by
  unfold advance
  refine .read_bind fun w hw => ?_
  have hcurrent (j : Nat) (hj : w.rollout.currentStage = some j) :
      c.rollout.cursor.toNat = j ∧ j < c.rollout.stages.length := by
    unfold Rollout.currentStage at hj
    split at hj
    · next hlt =>
      cases hj
      rw [← World.rollout_core hw]
      exact ⟨rfl, by rw [Rollout.core, List.length_map]; exact hlt⟩
    · cases hj
  rw [World.state_core hw]
  -- past the last stage the rollout completes
  have hnext (hworking : c.rollout.state.working = true) :
      Performs env (Act.isWork spare now) Fault c
        (transition env .completed (text "every stage in the plan has been processed") now true)
        fun _ _ => True := by
    refine .weaken (transition_performs rfl (.inr (.inl ?_))) fun _ _ _ => trivial
    revert hworking
    cases c.rollout.state <;> simp [RolloutState.working, RolloutState.legalTransition]
  -- the current stage is worked on
  have hstage (hworking : c.rollout.state.working = true) (j : Nat)
      (hj : w.rollout.currentStage = some j) :
      Performs env (Act.isWork spare now) Fault c (advanceStage env j now) fun _ _ => True :=
    advanceStage_performs h hspare (hcurrent j hj).2 (hcurrent j hj).1 hworking
  cases hstate : c.rollout.state with
  | gated =>
    dsimp only
    cases w.rollout.currentStage with
    | none => exact .pure trivial
    | some j =>
      exact .ite (fun _ => .pure trivial) fun _ => probeHealth_performs.weaken fun _ _ _ => trivial
  | rollingBack => exact absurd hstate hforward
  | running | soaking | advancing =>
    have hworking : c.rollout.state.working = true := by
      rw [hstate]
      rfl
    dsimp only
    refine .latch_any (q := fun _ _ => True) ?_ rfl
    cases hj : w.rollout.currentStage with
    | none => exact hnext hworking
    | some j => exact hstage hworking j hj
  | _ => exact .pure trivial

omit [Tolerates e] in
/-- A tick of a rollout that is rolled back. -/
theorem advance_undoes (h : Ready c) (hback : c.rollout.state = .rollingBack) :
    Performs env (Act.isUndo now) e c (advance env now) fun _ _ => True := by
  unfold advance
  refine .read_bind fun w hw => ?_
  rw [World.state_core hw, hback]
  exact .latch_any (advanceRollback_performs hback h.sorted) rfl

omit [Tolerates e] in
theorem advance_performs (h : Ready c) (hspare : Spares c spare) :
    Performs env (Act.isTick spare) e c (advance env now) fun _ _ => True := by
  by_cases hback : c.rollout.state = .rollingBack
  · exact (advance_undoes h hback).mono fun _ => Act.isTick_of_isUndo
  · exact (advance_works h hspare hback).mono fun _ => Act.isTick_of_isWork

end RolloutFabric
