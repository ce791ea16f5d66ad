/-
The accounts while attempts are dispatched: a batch of the planner, the sweep of a rollback, and
what one advance of a rollout does to them.
-/
import RolloutFabric.Safety.Accounts

namespace RolloutFabric

open Program TargetTally

variable {ρ : Type} {env : Env ρ} {strict : Prop} {P : StageLaw} {D : StageTally → Prop}
  {E : Event → Prop} {rest : List RolloutTally} {j i : Nat} {now : Timestamp}

/-! ## New targets -/

/-- A target that was never attempted. -/
def TargetTally.fresh (t : TargetTally) : Bool := t.attemptsCreated == 0

theorem fresh_withinCanary_le (slots : Nat) (ts : List TargetRuntime) :
    ((withinCanary slots ts).map TargetRuntime.tally).countP TargetTally.fresh ≤ slots := by
  induction ts generalizing slots with
  | nil => exact Nat.zero_le _
  | cons t ts ih =>
    unfold withinCanary
    split
    · next hold =>
      rw [List.map_cons, List.countP_cons_of_neg (by simpa [TargetTally.fresh, TargetRuntime.tally] using hold)]
      exact ih slots
    · split
      · exact ih 0
      · have := ih ‹_›
        rw [List.map_cons, List.countP_cons]
        split <;> omega

/-- The new targets of a batch fit in what the canary leaves. -/
theorem fresh_batch_le {r : Rollout} {stage : StageRuntime} {inventory : TargetInventory}
    {limits : RuntimeLimits} (h : canaryActive stage = true) :
    ((batch r stage inventory limits).map TargetRuntime.tally).countP TargetTally.fresh
      ≤ stage.policy.canarySize.toNat - canaryAdmitted stage := by
  unfold batch
  split
  · exact Nat.zero_le _
  · refine Nat.le_trans ?_ (fresh_withinCanary_le _
      (stage.targets.filter (eligible r stage inventory)))
    have hslots : canarySlots stage = stage.policy.canarySize.toNat - canaryAdmitted stage := by
      rw [canarySlots, if_pos h]
    rw [hslots]
    exact ((List.take_sublist ..).map _).countP_le

theorem canaryAdmitted_eq (stage : StageRuntime) : canaryAdmitted stage = stage.tally.attempted := by
  rw [canaryAdmitted, StageTally.attempted, StageRuntime.tally, List.countP_map]
  rfl

namespace StageTally

variable {s : StageTally} {t : TargetTally} {id : AttemptId} {step : UInt32}

/-- A dispatch adds one attempted target at most, and none where the target was attempted. -/
theorem attempted_dispatch_le (h : s.targets[i]? = some t) :
    (s.dispatch i t id step).attempted ≤ s.attempted + if t.fresh then 1 else 0 := by
  obtain ⟨hi, rfl⟩ := List.getElem?_eq_some_iff.1 h
  have hset := List.countP_set (p := fun t => decide (0 < t.attemptsCreated)) (l := s.targets)
    (a := s.targets[i].dispatch id step) hi
  have hmem : 0 < s.targets[i].attemptsCreated → 0 < s.attempted := fun h0 =>
    List.countP_pos_iff.2 ⟨_, List.getElem_mem hi, by simpa using h0⟩
  simp only [attempted, dispatch, hset, TargetTally.fresh] at hmem ⊢
  by_cases h0 : s.targets[i].attemptsCreated = 0
  · simp only [h0, beq_self_eq_true, if_true]
    split <;> split <;> omega
  · have hpos : 0 < s.targets[i].attemptsCreated := UInt32.pos_iff_ne_zero.2 h0
    have := hmem hpos
    simp only [hpos, decide_true, if_true, beq_iff_eq, h0, if_false]
    split <;> omega

end StageTally

/-! ## A batch -/

/-- What a stage is while a batch of it is dispatched: the targets that were not taken yet are as
they were. -/
structure Underway (s₀ : StageTally) (taken : List TargetTally) (s : StageTally) : Prop where
  id : s.id = s₀.id
  policy : s.policy = s₀.policy
  cleared : s.canaryCleared = s₀.canaryCleared
  ids : s.targets.map TargetTally.target = s₀.targets.map TargetTally.target
  untouched : ∀ {i : Nat} {t}, s₀.targets[i]? = some t → t ∉ taken → s.targets[i]? = some t
  attempted : s.attempted ≤ s₀.attempted + taken.countP TargetTally.fresh

namespace Underway

variable {s₀ s : StageTally} {taken : List TargetTally} {t : TargetTally} {id : AttemptId}
  {step : UInt32}

theorem refl (s : StageTally) : Underway s [] s :=
  ⟨rfl, rfl, rfl, rfl, fun h _ => h, Nat.le_refl _⟩

/-- An entry for which nothing was dispatched. -/
theorem skip (h : Underway s₀ taken s) (t : TargetTally) : Underway s₀ (taken ++ [t]) s where
  id := h.id
  policy := h.policy
  cleared := h.cleared
  ids := h.ids
  untouched := fun hx hnew => h.untouched hx fun hmem => hnew (List.mem_append_left _ hmem)
  attempted := by
    have := h.attempted
    rw [List.countP_append]
    omega

theorem next (h : Underway s₀ taken s) (ht : s₀.targets[i]? = some t) (hnew : t ∉ taken) :
    Underway s₀ (taken ++ [t]) (s.dispatch i t id step) where
  id := h.id
  policy := h.policy
  cleared := h.cleared
  ids := by
    rw [← h.ids, StageTally.dispatch, List.map_set]
    have hat := h.untouched ht hnew
    obtain ⟨hi, heq⟩ := List.getElem?_eq_some_iff.1 hat
    have hlt : i < (s.targets.map TargetTally.target).length := by simpa using hi
    have hself : (t.dispatch id step).target = (s.targets.map TargetTally.target)[i] := by
      rw [List.getElem_map, heq]
      rfl
    rw [hself, List.set_getElem_self]
  untouched := by
    intro k x hx hout
    rw [List.mem_append, not_or, List.mem_singleton] at hout
    have hne : i ≠ k := by
      rintro rfl
      rw [hx] at ht
      exact hout.2 (Option.some.inj ht)
    rw [StageTally.dispatch, List.getElem?_set_ne hne]
    exact h.untouched hx hout.1
  attempted := by
    have hle := @StageTally.attempted_dispatch_le _ _ _ id step (h.untouched ht hnew)
    have := h.attempted
    rw [List.countP_append, List.countP_singleton]
    omega

/-- The target an entry names is the one that was planned for. -/
theorem found (h : Underway s₀ taken s) (hsorted : s₀.Sorted) (ht : t ∈ s₀.targets) {x : TargetTally}
    (hx : s.targets[i]? = some x) (hid : x.target = t.target) : s₀.targets[i]? = some t := by
  have hids := congrArg (fun l => l[i]?) h.ids
  simp only [List.getElem?_map, hx, Option.map_some] at hids
  obtain ⟨y, hy, hyid⟩ := Option.map_eq_some_iff.1 hids.symm
  have hnodup : (s₀.targets.map TargetTally.target).Nodup := hsorted.imp ne_of_lt
  have hsame : y = t :=
    List.inj_on_of_nodup_map hnodup (List.mem_of_getElem? hy) ht (hyid.trans hid)
  exact hsame ▸ hy

theorem affords (h : Underway s₀ taken s) (hD : D s₀) (ht : s₀.targets[i]? = some t)
    (hnew : t ∉ taken) (hpending : t.state = .pending)
    (hroom : t.fresh = true → s₀.Watched →
      s₀.attempted + taken.countP TargetTally.fresh < s₀.policy.canarySize.toNat) :
    Affords D s i t 0 where
  found := h.untouched ht hnew
  origin := ⟨s₀, hD, h.policy.symm, h.cleared.symm, List.mem_of_getElem? ht⟩
  kind := by
    refine .inl ⟨rfl, hpending, fun hfresh hwatched => ?_⟩
    have hwatched₀ : s₀.Watched := by
      unfold StageTally.Watched at hwatched ⊢
      rwa [← h.policy, ← h.cleared]
    have := hroom (by simpa [TargetTally.fresh] using hfresh) hwatched₀
    have := h.attempted
    rw [h.policy]
    omega

end Underway

section

variable {s₀ : StageTally} {taken : List TargetTally} {t : TargetTally} {entry : DispatchPlanEntry}

/-- The stage at `j` is under way. -/
def StageUnderway (j : Nat) (s₀ : StageTally) (taken : List TargetTally) (r : RolloutTally) : Prop :=
  ∃ s, r.stages[j]? = some s ∧ Underway s₀ taken s

theorem StageUnderway.skip {r : RolloutTally} (h : StageUnderway j s₀ taken r) (t : TargetTally) :
    StageUnderway j s₀ (taken ++ [t]) r := by
  obtain ⟨s, hs, hu⟩ := h
  exact ⟨s, hs, hu.skip t⟩

theorem dispatchEntry_books {w : World ρ} (hK : Lawful env strict P D E)
    (hw : Books strict P E rest w.tally) (h : StageUnderway j s₀ taken w.rollout.tally)
    (hsorted : s₀.Sorted) (hD : D s₀) (ht : t ∈ s₀.targets) (hnew : t ∉ taken)
    (hpending : t.state = .pending)
    (hroom : t.fresh = true → s₀.Watched →
      s₀.attempted + taken.countP TargetTally.fresh < s₀.policy.canarySize.toNat)
    (hforward : entry.rollbackStep = 0) (htarget : entry.target = t.target) :
    Triple (fun s => s = w) (dispatchEntry env j now entry)
      (fun _ w' => Books strict P E rest w'.tally
        ∧ StageUnderway j s₀ (taken ++ [t]) w'.rollout.tally)
      fun _ w' => Books strict P E rest w'.tally := by
  obtain ⟨s, hs, hu⟩ := h
  unfold dispatchEntry
  refine triple_read_bind fun w' hw' => ?_
  subst hw'
  -- the target the entry names is the one the batch stands at, untouched so far
  have hat (i : Nat) (hfind : (w'.rollout.stageAt j).findTarget entry.target = some i) :
      s₀.targets[i]? = some t ∧ (w'.rollout.stageAt j).tally = s
        ∧ (w'.rollout.targetAt j i).tally = t := by
    obtain ⟨hj, hi⟩ := Rollout.lt_of_findTarget hfind
    have hstage : (w'.rollout.stageAt j).tally = s := by
      rw [Rollout.tally_stageAt hj] at hs
      exact Option.some.inj hs
    have hx := Rollout.tally_targetAt hi
    rw [hstage] at hx
    have hfound := hu.found hsorted ht hx (htarget ▸ Rollout.target_of_findTarget hfind)
    refine ⟨hfound, hstage, ?_⟩
    have hsame := hu.untouched hfound hnew
    rw [hx] at hsame
    exact Option.some.inj hsame
  dsimp only
  split
  · refine Triple.weaken (createAndDispatch_books hK hw fun i hfind => ?_) (fun _ h => h)
      (fun _ w'' hdispatched => ⟨hdispatched.1, ?_⟩) fun _ _ h => h
    · obtain ⟨hfound, hstage, htally⟩ := hat i hfind
      rw [hforward, hstage, htally]
      exact hu.affords hD hfound hnew hpending hroom
    · rcases hdispatched.2 with hsame | ⟨i, a, hfind, hspent⟩
      · rw [hsame]
        exact ⟨s, hs, hu.skip t⟩
      · obtain ⟨hfound, -, htally⟩ := hat i hfind
        rw [hspent, htally]
        refine ⟨s.dispatch i t a entry.rollbackStep, ?_, hu.next hfound hnew⟩
        simp [RolloutTally.modifyStage, hs]
  · exact .pure fun w'' h'' => (by subst h''; exact ⟨hw, s, hs, hu.skip t⟩)

end

/-- The loop of `dispatch_stage`. -/
theorem dispatchEntries_books {w : World ρ} (hK : Lawful env strict P D E)
    (hw : Early D (Books strict P E rest) w.tally) :
    Triple (fun s => s = w)
      ((planDispatch w.rollout (w.rollout.stageAt j) w.impl.inventory env.limits).admitted.forM
        (dispatchEntry env j now))
      (fun _ w => Books strict P E rest w.tally) fun _ w => Books strict P E rest w.tally := by
  obtain ⟨action, hadmitted⟩ := planDispatch_admitted w.rollout (w.rollout.stageAt j)
    w.impl.inventory env.limits
  have hsub := (batch_sublist w.rollout (w.rollout.stageAt j) w.impl.inventory env.limits).trans
    (List.filter_sublist ..)
  rw [hadmitted]
  by_cases hj : j < w.rollout.stages.length
  · have hs₀ := Rollout.tally_stageAt hj
    have hmem := List.mem_of_getElem? hs₀
    have hsorted : (w.rollout.stageAt j).tally.Sorted := hK.sorted (hw.1.own.stages _ hmem)
    have hplanned := hsub.map TargetRuntime.tally
    have hnodup : (w.rollout.stageAt j).tally.targets.Nodup :=
      List.Nodup.of_map TargetTally.target (hsorted.imp ne_of_lt)
    have hfresh := @fresh_batch_le w.rollout (w.rollout.stageAt j) w.impl.inventory env.limits
    have hpending := fun t => @pending_of_mem_batch w.rollout (w.rollout.stageAt j)
      w.impl.inventory env.limits t
    generalize batch w.rollout (w.rollout.stageAt j) w.impl.inventory env.limits = taken
      at hplanned hfresh hpending
    -- the loop has taken a first part of the batch, and the stage is under way with it
    have hloop := Triple.forM_upTo (l := taken.map (planEntry action))
      (g := dispatchEntry env j now) (E := fun _ w => Books strict P E rest w.tally)
      (I := fun done w' => Books strict P E rest w'.tally ∧ StageUnderway j
        (w.rollout.stageAt j).tally ((taken.map TargetRuntime.tally).take done.length)
        w'.rollout.tally) fun done entry hdone => ?_
    · exact hloop.weaken (fun s hs => (by subst hs; exact ⟨hw.1, _, hs₀, .refl _⟩))
        (fun _ _ h => h.1) fun _ _ h => h
    obtain ⟨t, ht, rfl⟩ : ∃ t, taken[done.length]? = some t ∧ planEntry action t = entry := by
      obtain ⟨rest, hrest⟩ := hdone
      have hat : (taken.map (planEntry action))[done.length]? = some entry := by
        rw [← hrest]
        simp
      simpa using hat
    have hnext : (taken.map TargetRuntime.tally).take (done ++ [planEntry action t]).length
        = (taken.map TargetRuntime.tally).take done.length ++ [t.tally] := by
      rw [List.length_append, List.length_singleton, List.take_add_one]
      simp [ht]
    have hpart : ((taken.map TargetRuntime.tally).take done.length ++ [t.tally]).Sublist
        (taken.map TargetRuntime.tally) := hnext ▸ List.take_sublist ..
    have hmemt : t ∈ taken := List.mem_of_getElem? ht
    rw [hnext]
    refine Triple.of_each fun w' ⟨hbooks, hunder⟩ => ?_
    refine dispatchEntry_books (t := t.tally) hK hbooks hunder hsorted (hw.2 _ hmem)
      (hplanned.subset (List.mem_map_of_mem hmemt)) ?_ (hpending t hmemt) (fun hnew hwatched => ?_)
      rfl rfl
    -- no target stands twice in the batch
    · have := (hpart.trans hplanned).nodup hnodup
      rw [List.nodup_append] at this
      exact fun hin => this.2.2 _ hin _ (List.mem_singleton_self _) rfl
    -- the canary was counted when the batch was planned
    · have hactive : canaryActive (w.rollout.stageAt j) = true := by
        simp only [canaryActive, Bool.and_eq_true, Bool.not_eq_true', decide_eq_true_eq]
        exact hwatched
      have hcount := hpart.countP_le (p := TargetTally.fresh)
      rw [List.countP_append, List.countP_singleton, if_pos hnew] at hcount
      have := hfresh hactive
      rw [canaryAdmitted_eq] at this
      show _ < (w.rollout.stageAt j).policy.canarySize.toNat
      omega
  -- past the last stage there is no batch
  · have hempty : batch w.rollout (w.rollout.stageAt j) w.impl.inventory env.limits = [] := by
      have hnone : w.rollout.stageAt j = default := by
        simp [Rollout.stageAt, Nat.le_of_not_lt hj]
      rw [hnone] at hsub ⊢
      exact List.sublist_nil.1 hsub
    rw [hempty]
    exact .pure fun s hs => hs ▸ hw.1

theorem dispatchStage_books (hK : Lawful env strict P D E) :
    Triple (fun w => Early D (Books strict P E rest) w.tally) (dispatchStage env j now)
      (fun _ w => Books strict P E rest w.tally) fun _ w => Books strict P E rest w.tally := by
  have hI := (@books_settled _ _ _ _ _ _ rest hK).toLogged
  unfold dispatchStage
  refine Triple.of_each fun w₀ hw => triple_get_bind fun w h => ?_
  subst h
  refine Triple.bind (dispatchEntries_books hK hw) fun _ => Upholds.read_bind fun changing => ?_
  refine .bind (.updateStage fun _ => rfl) fun _ => .bind (.updateRollout fun _ => rfl) fun _ => ?_
  dsimp only
  split
  · refine .read_bind fun stage => .bind (commit_upholds hI) fun _ => ?_
    exact .bind countDecision_upholds fun _ => persistRollout_upholds hI
  · exact persistRollout_upholds hI

/-! ## The sweep of a rollback -/

/-- Every target from the place the sweep has come to is as it was at its start. -/
def Awaiting (r₀ : RolloutTally) (j i : Nat) (r : RolloutTally) : Prop :=
  ∀ k n s₀ t, j < k ∨ k = j ∧ i ≤ n → r₀.stages[k]? = some s₀ → s₀.targets[n]? = some t →
    ∃ s, r.stages[k]? = some s ∧ s.policy = s₀.policy ∧ s.canaryCleared = s₀.canaryCleared
      ∧ s.targets[n]? = some t

namespace Awaiting

variable {r₀ r : RolloutTally}

theorem refl (r : RolloutTally) : Awaiting r 0 0 r := fun _ _ s₀ _ _ hs ht => ⟨s₀, hs, rfl, rfl, ht⟩

theorem next_stage {n : Nat} (h : Awaiting r₀ j n r) : Awaiting r₀ (j + 1) 0 r :=
  fun k m s₀ t hlater => h k m s₀ t (by omega)

theorem skip (h : Awaiting r₀ j i r) : Awaiting r₀ j (i + 1) r :=
  fun k n s₀ t hlater => h k n s₀ t (by omega)

/-- Only the target the sweep has come to was changed. -/
theorem next {f : StageTally → StageTally} (h : Awaiting r₀ j i r)
    (hpolicy : ∀ s, (f s).policy = s.policy) (hcleared : ∀ s, (f s).canaryCleared = s.canaryCleared)
    (hrest : ∀ s n, n ≠ i → (f s).targets[n]? = s.targets[n]?) :
    Awaiting r₀ j (i + 1) (r.modifyStage j f) := by
  intro k n s₀ t hlater hs₀ ht
  obtain ⟨s, hs, hp, hc, hx⟩ := h k n s₀ t (by omega) hs₀ ht
  by_cases hk : j = k
  · subst hk
    refine ⟨f s, by simp [RolloutTally.modifyStage, hs], (hpolicy s).trans hp, (hcleared s).trans hc, ?_⟩
    rw [hrest s n (by omega)]
    exact hx
  · exact ⟨s, by simp [RolloutTally.modifyStage, hk, hs], hp, hc, hx⟩

end Awaiting

/-- The step after the last one that can be counted is zero again. -/
theorem compensationAction_wraps {stage : StageRuntime} {step : UInt32} {action : ActionSpec}
    (h : compensationAction stage step = some action) (hzero : step + 1 = 0) :
    2 ^ 32 ≤ stage.policy.compensationActions.length := by
  unfold compensationAction at h
  split at h
  · cases h
  next id hid =>
  have hlt := (List.getElem?_eq_some_iff.1 hid).1
  have hlast : step.toNat + 1 = 2 ^ 32 := by
    have hsum := congrArg UInt32.toNat hzero
    have := step.toNat_lt
    simp only [UInt32.toNat_add, UInt32.toNat_one, UInt32.toNat_zero] at hsum
    omega
  omega

theorem Rollout.findTarget_targetAt {r : Rollout} (h : (r.stageAt j).tally.Sorted)
    (hi : i < (r.stageAt j).targets.length) :
    (r.stageAt j).findTarget (r.targetAt j i).target = some i := by
  have hsorted : (r.stageAt j).core.Sorted := by
    unfold StageTally.Sorted StageRuntime.tally at h
    unfold StageCore.Sorted StageRuntime.core
    rw [List.map_map] at h ⊢
    exact h
  have hfind := hsorted.findTarget (i := i) (by simpa [StageRuntime.core] using hi)
  rw [StageRuntime.findTarget_core]
  rwa [Rollout.core_stageAt, ← RolloutCore.targetAt, ← Rollout.core_targetAt,
    ← Rollout.core_stageAt] at hfind

theorem runRollback_books {w : World ρ} {r₀ : RolloutTally} (hK : Lawful env strict P D E)
    (hw : Books strict P E rest w.tally) (h : Awaiting r₀ j i w.rollout.tally)
    (hD : ∀ s ∈ r₀.stages, D s) (hj : ∃ s₀, r₀.stages[j]? = some s₀ ∧ i < s₀.targets.length)
    (hstate : (w.rollout.targetAt j i).state = .rollingBack) :
    Triple (fun s => s = w) (runRollback env j i now)
      (fun _ w' => Books strict P E rest w'.tally ∧ Awaiting r₀ j (i + 1) w'.rollout.tally)
      fun _ w' => Books strict P E rest w'.tally := by
  obtain ⟨s₀, hs₀, hi⟩ := hj
  have ht₀ := List.getElem?_eq_getElem hi
  obtain ⟨s, hs, hpolicy, hcleared, hx⟩ := h j i s₀ _ (.inr ⟨rfl, Nat.le_refl _⟩) hs₀ ht₀
  generalize s₀.targets[i] = t at ht₀ hx
  have hj : j < w.rollout.stages.length := by
    simpa [Rollout.tally] using (List.getElem?_eq_some_iff.1 hs).1
  obtain rfl : (w.rollout.stageAt j).tally = s := by
    rw [Rollout.tally_stageAt hj] at hs
    exact Option.some.inj hs
  have hi : i < (w.rollout.stageAt j).targets.length := by
    simpa [StageRuntime.tally] using (List.getElem?_eq_some_iff.1 hx).1
  obtain rfl : (w.rollout.targetAt j i).tally = t := by
    rw [Rollout.tally_targetAt hi] at hx
    exact Option.some.inj hx
  unfold runRollback
  refine triple_get_bind fun w' hw' => ?_
  subst hw'
  dsimp only
  split
  · exact .pure fun w'' h'' => (by subst h''; exact ⟨hw, h.skip⟩)
  have hI := @books_settled _ _ _ _ _ _ rest hK
  have hsorted := hK.sorted (hw.own.stages _ (List.mem_of_getElem? hs))
  split
  -- no compensation action is left, and the target is settled as not rolled back
  · let Swept (l : Tally) : Prop := Books strict P E rest l ∧ Awaiting r₀ j (i + 1) l.rollout
    have hswept : Logged Swept := hI.toLogged.with fun r => Awaiting r₀ j (i + 1) r
    refine Triple.bind (Q := fun _ (w : World ρ) => Swept w.tally) (fun s hs => ?_) fun _ => ?_
    · subst hs
      obtain ⟨hok, htally⟩ := @enterTarget_exec _ j i s .rollbackFailed none (fun t => { t with
          currentAttempt := .nil
          lastReason := text "the plan declares no compensation action at step "
            ++ toStringNat (s.rollout.targetAt j i).rollbackStep.toNat })
      refine ⟨.refl, fun _ _ => ?_, fun e he => by rw [hok] at he; cases he⟩
      show Swept _
      rw [htally]
      have hshows := Rollout.shows_tally hj hi
      refine hswept.log _ _ trivial ⟨hI.settle _ j i _ _ _ hshows (.cleared (fun h => by cases h)
        (fun h => by cases h) fun h => absurd h (not_aloft (by simp) (by simp)))
        (fun _ h => by cases h) hw, h.next (fun _ => rfl) (fun _ => rfl) fun x n hn => ?_⟩
      exact List.getElem?_set_ne (Ne.symm hn)
    · refine Upholds.before (.updateStage fun _ => rfl) (fun _ h => h.1) fun _ => ?_
      exact (persistRollout_upholds hswept).weaken (fun _ h => h) (fun _ _ h => h) fun _ _ h => h.1
  -- the action at the step is one that the policy compensates with
  next action haction =>
  refine Triple.weaken (createAndDispatch_books hK hw fun n hfind => ?_) (fun _ h => h)
    (fun _ w'' hdispatched => ⟨hdispatched.1, ?_⟩) fun _ _ h => h
  · rw [Rollout.findTarget_targetAt hsorted hi, Option.some.injEq] at hfind
    subst hfind
    refine ⟨hx, ⟨s₀, hD s₀ (List.mem_of_getElem? hs₀), hpolicy.symm, hcleared.symm,
      List.mem_of_getElem? ht₀⟩, .inr ⟨hstate, compensationAction_wraps haction⟩⟩
  · rcases hdispatched.2 with hsame | ⟨n, a, hfind, hspent⟩
    · rw [hsame]
      exact h.skip
    · rw [Rollout.findTarget_targetAt hsorted hi, Option.some.injEq] at hfind
      subst hfind
      rw [hspent]
      exact h.next (fun _ => rfl) (fun _ => rfl) fun x n hn => List.getElem?_set_ne (Ne.symm hn)

theorem advanceRollback_books (hK : Lawful env strict P D E) :
    Triple (fun w => Early D (Books strict P E rest) w.tally) (advanceRollback env now)
      (fun _ w => Books strict P E rest w.tally) fun _ w => Books strict P E rest w.tally := by
  unfold advanceRollback
  refine Triple.of_each fun w₀ hw => triple_read_bind fun w₁ h₁ => ?_
  subst h₁
  let Swept (j i : Nat) (w : World ρ) : Prop :=
    Books strict P E rest w.tally ∧ Awaiting w₁.rollout.tally j i w.rollout.tally
  suffices hsweep : Triple (Swept 0 0) (_ : Op ρ Unit) (fun _ w => Books strict P E rest w.tally)
      fun _ w => Books strict P E rest w.tally from
    Triple.bind (hsweep.weaken (fun s hs => hs ▸ ⟨hw.1, .refl _⟩) (fun _ _ h => h) fun _ _ h => h)
      fun _ => finishRollback_upholds (books_settled hK).toLogged
  refine Triple.weaken (Triple.forM_range (I := fun j => Swept j 0) fun j hj => ?_)
    (fun _ h => h) (fun _ _ h => h.1) fun _ _ h => h
  refine Triple.weaken (Triple.forM_range (I := Swept j) fun i hi => ?_)
    (fun _ h => h) (fun _ _ h => ⟨h.1, h.2.next_stage⟩) fun _ _ h => h
  refine Triple.of_each fun w₂ ⟨hbooks, hawait⟩ => triple_read_bind fun w₃ h₃ => ?_
  subst h₃
  split
  · next hstate =>
    have hlt : i < (w₁.rollout.stageAt j).tally.targets.length := by
      simpa [StageRuntime.tally] using hi
    exact runRollback_books hK hbooks hawait hw.2 ⟨_, Rollout.tally_stageAt hj, hlt⟩ hstate
  · exact .pure fun w hw => (by subst hw; exact ⟨hbooks, hawait.skip⟩)

/-! ## An advance -/

theorem weigh_upholds (hK : Lawful env strict P D E) :
    Upholds (Early D (Books strict P E rest)) (weigh (ρ := ρ) j now) :=
  Triple.of_each fun _ hw => Triple.weaken (weigh_early hK hw) (fun _ h => h) (fun _ _ h => h.1)
    fun _ _ h => h

theorem Upholds.books {α : Type} {m : Op ρ α} (hm : Upholds (Early D (Books strict P E rest)) m) :
    Triple (fun w => Early D (Books strict P E rest) w.tally) m
      (fun _ w => Books strict P E rest w.tally) fun _ w => Books strict P E rest w.tally :=
  Triple.weaken hm (fun _ h => h) (fun _ _ h => h.1) fun _ _ h => h.1

theorem runStage_books (hK : Lawful env strict P D E) :
    Triple (fun w => Early D (Books strict P E rest) w.tally) (runStage env j now)
      (fun _ w => Books strict P E rest w.tally) fun _ w => Books strict P E rest w.tally := by
  have hI := @early_settled _ _ _ _ _ _ rest hK
  have hbooks (l : Tally) (h : Early D (Books strict P E rest) l) : Books strict P E rest l := h.1
  unfold runStage
  refine triple_read_bind fun w _ => ?_
  refine Upholds.before (.forM fun i _ => expireTarget_upholds hI) hbooks fun _ => ?_
  refine Upholds.before probeHealth_upholds hbooks fun _ => triple_read_bind fun w _ => ?_
  dsimp only
  split
  · refine Upholds.books (.bind (commit_upholds hI.toLogged) fun _ => ?_)
    exact .bind countDecision_upholds fun _ => failStage_upholds hI
  refine Upholds.before (clearCanary_early hK) hbooks fun failed => ?_
  split
  · exact .pure fun w hw => hbooks _ hw
  refine Upholds.before (weigh_upholds hK) hbooks fun _ => triple_read_bind fun w _ => ?_
  split
  · exact (settleStage_upholds hI).books
  split
  · exact (holdForHealth_upholds hI.toLogged).books
  · exact dispatchStage_books hK

theorem advanceStage_books (hK : Lawful env strict P D E) :
    Triple (fun w => Early D (Books strict P E rest) w.tally) (advanceStage env j now)
      (fun _ w => Books strict P E rest w.tally) fun _ w => Books strict P E rest w.tally := by
  have hI := @early_settled _ _ _ _ _ _ rest hK
  unfold advanceStage
  refine triple_read_bind fun w _ => ?_
  split
  · exact (beginStage_upholds hI.toLogged).books
  · exact (stageTransition_upholds hI.toLogged).books
  · exact runStage_books hK
  · exact runStage_books hK
  · exact probeHealth_upholds.books
  · exact (completeStage_upholds hI).books
  · exact (skipStage_upholds hI.toLogged).books
  · split
    · exact (beginRollback_upholds hI).books
    · exact (failRollout_upholds hI.toLogged).books
  · split
    · exact (beginRollback_upholds hI).books
    · exact (failRollout_upholds hI.toLogged).books
  · exact Upholds.books (.updateRollout fun _ => rfl)
  · exact Upholds.books (.updateRollout fun _ => rfl)
  · exact Upholds.books (.pure _)

theorem latch_books {m : Op ρ Unit}
    (hm : Triple (fun w => Early D (Books strict P E rest) w.tally) m
      (fun _ w => Books strict P E rest w.tally) fun _ w => Books strict P E rest w.tally) :
    Triple (fun w => Early D (Books strict P E rest) w.tally) (Op.latch m)
      (fun _ w => Books strict P E rest w.tally) fun _ w => Books strict P E rest w.tally :=
  Triple.tryCatch hm fun _ => .modify fun _ h => h

/-- One advance of a rollout, from where nothing was dispatched. -/
theorem advance_books (hK : Lawful env strict P D E) :
    Triple (fun w => Early D (Books strict P E rest) w.tally) (advance env now)
      (fun _ w => Books strict P E rest w.tally) fun _ w => Books strict P E rest w.tally := by
  have hI := @early_settled _ _ _ _ _ _ rest hK
  have hpure : Triple (fun w => Early D (Books strict P E rest) w.tally) (pure () : Op ρ Unit)
      (fun _ w => Books strict P E rest w.tally) fun _ w => Books strict P E rest w.tally :=
    Upholds.books (.pure _)
  unfold advance
  refine triple_read_bind fun w _ => ?_
  split
  any_goals exact hpure
  · split
    · exact hpure
    · split
      · exact hpure
      · exact probeHealth_upholds.books
  · exact latch_books (advanceRollback_books hK)
  all_goals
    refine latch_books ?_
    split
    · exact (transition_upholds hI.toLogged).books
    · exact advanceStage_books hK

end RolloutFabric
