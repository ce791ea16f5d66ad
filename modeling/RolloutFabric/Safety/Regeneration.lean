/-
A new generation of a rollout: the old one is cleared before its stages are built against the
inventory, so a refusal leaves neither, and a stage that matches nothing is only met by arming.
-/
import RolloutFabric.Safety.Cohorts
import RolloutFabric.Safety.Concurrency

namespace RolloutFabric

open Program

variable {ρ : Type}

/-! ## Building the generation -/

/-- The rollout with nothing of its last generation left. -/
def Rollout.renew (r : Rollout) (generation : GenerationId) : Rollout :=
  { r with
    generationCounter := r.generationCounter + 1
    generation
    cursor := 0
    outstandingAttempts := 0
    stages := [] }

section

variable {env : Env ρ} {r : Rollout} {context : CommandContext} {plan : ChangePlan}
  {inventory : TargetInventory}

/-- The cohorts of the plan over the inventory, in its order. -/
def ChangePlan.cohorts (plan : ChangePlan) (inventory : TargetInventory) : List CohortMembership :=
  (plan.drafts inventory plan.order).map StageRuntime.cohort

/-- A new generation is there: every stage has a cohort, possibly an empty one. -/
structure Regenerated (env : Env ρ) (plan : ChangePlan) (inventory : TargetInventory)
    (w : World ρ) : Prop where
  state : w.rollout.state = .validated
  cohorts : (w.rollout.stages.map fun s => s.blank.cohort) = plan.cohorts inventory
  supplied : ∀ id ∈ plan.order, plan.Supplies env.limits inventory false id

/-- The old generation is gone, and a stage of the new one has no cohort. -/
structure HalfRegenerated (env : Env ρ) (plan : ChangePlan) (inventory : TargetInventory)
    (r : Rollout) (w : World ρ) : Prop where
  counter : w.rollout.generationCounter = r.generationCounter + 1
  unsupplied : ∃ id ∈ plan.order, ¬ plan.Supplies env.limits inventory false id

theorem regenerateRollout_spec (hstate : r.state = .failed ∨ r.state = .completed) :
    Triple (fun w => w.rollout = r ∧ w.impl.inventory = inventory)
      (regenerateRollout env context plan) (fun _ => Regenerated env plan inventory)
      fun s w => StorageFailure env.limits w.impl s ∨ HalfRegenerated env plan inventory r w := by
  unfold regenerateRollout requireState
  refine .skip (triple_read_bind fun w hw => ?_) fun _ => ?_
  · rw [hw.1, if_neg]
    · exact .pure fun _ h => h
    · rcases hstate with h | h <;> simp [h]
  refine triple_ask_bind (fun _ _ h => h) fun now => triple_read_bind fun w _ => ?_
  refine .skip (.modify fun _ h => h) fun _ => ?_
  refine .bind (Q := fun _ w' => w'.rollout = r.renew (w.impl.ids.next .generation .generation).1
    ∧ w'.impl.inventory = inventory) (.modify fun w' hw' => ⟨?_, hw'.2⟩) fun _ => ?_
  · rw [← hw'.1]
    rfl
  refine .of_each fun w' hw' => ?_
  obtain ⟨hrenew, rfl⟩ := hw'
  refine .bind (Q := fun _ => Drafted env plan false w'.impl w'.rollout plan.order)
    (.weaken addStages_spec ?_ (fun _ _ h => h) fun _ w h => .inr ⟨?_, h.unsupplied⟩) fun _ => ?_
  · rintro w rfl
    exact ⟨⟨rfl, rfl⟩, by rw [hrenew]; rfl, nofun⟩
  · rw [h.rollout, hrenew]
    rfl
  refine .bind (Q := fun _ w => (w.rollout.course.2.2.map fun s => s.blank.cohort)
      = plan.cohorts w'.impl.inventory
      ∧ ∀ id ∈ plan.order, plan.Supplies env.limits w'.impl.inventory false id)
    (.modify fun w hw => ⟨?_, hw.supplied⟩) fun _ => ?_
  · show (w.rollout.linkSuccessors.stages.map fun s => s.blank.cohort) = _
    rw [Rollout.linkSuccessors_stages (fun _ _ => rfl), ChangePlan.cohorts, ← hw.stages,
      List.map_map]
    rfl
  refine .skip (commit_spec (p := fun c => (c.2.2.map fun s => s.blank.cohort)
      = plan.cohorts w'.impl.inventory
      ∧ ∀ id ∈ plan.order, plan.Supplies env.limits w'.impl.inventory false id) _) fun _ => ?_
  refine .bind (Q := fun _ w => w.rollout.course.1 = .validated
      ∧ (w.rollout.course.2.2.map fun s => s.blank.cohort) = plan.cohorts w'.impl.inventory
      ∧ ∀ id ∈ plan.order, plan.Supplies env.limits w'.impl.inventory false id)
    (.modify fun w hw => ⟨rfl, hw⟩) fun _ => ?_
  refine .bind (.weaken (persistRollout_spec (p := fun c => c.1 = .validated
      ∧ (c.2.2.map fun s => s.blank.cohort) = plan.cohorts w'.impl.inventory
      ∧ ∀ id ∈ plan.order, plan.Supplies env.limits w'.impl.inventory false id))
    (fun _ h => h) (fun _ _ h => h) fun _ _ h => .inl h.1) fun _ => ?_
  exact triple_read_bind fun _ _ => .pure fun _ h => ⟨h.1, h.2.1, h.2.2⟩

/-- The stages of a new generation can be armed exactly when the inventory populates the plan. -/
theorem Regenerated.populates_iff {w : World ρ} (h : Regenerated env plan inventory w) :
    (∀ stage ∈ w.rollout.stages, stage.cohort.members ≠ []) ↔ plan.Populates env.limits inventory := by
  have hmembers : (∀ stage ∈ w.rollout.stages, stage.cohort.members ≠ [])
      ↔ ∀ cohort ∈ plan.cohorts inventory, cohort.members ≠ [] := by
    rw [← h.cohorts]
    simp [StageRuntime.blank]
  rw [hmembers]
  constructor
  · intro hsome id hid
    obtain ⟨spec, hfind, hvalid, hfits, -⟩ := h.supplied id hid
    refine ⟨spec, hfind, hvalid, hfits, fun _ => ?_⟩
    refine hsome (spec.draft inventory).cohort (List.mem_map.2 ⟨spec.draft inventory, ?_, rfl⟩)
    exact List.mem_filterMap.2 ⟨id, hid, by rw [hfind]; rfl⟩
  · intro hpopulates cohort hcohort
    obtain ⟨stage, hstage, rfl⟩ := List.mem_map.1 hcohort
    exact ChangePlan.members_of_drafts hpopulates stage hstage

theorem Regenerated.unfrozen {w : World ρ} (h : Regenerated env plan inventory w) :
    ∀ stage ∈ w.rollout.stages, stage.cohort.frozen = false := by
  intro stage hstage
  have hcohort : stage.blank.cohort ∈ plan.cohorts inventory := by
    rw [← h.cohorts]
    exact List.mem_map.2 ⟨stage, hstage, rfl⟩
  obtain ⟨draft, hdraft, heq⟩ := List.mem_map.1 hcohort
  obtain ⟨id, -, hid⟩ := List.mem_filterMap.1 hdraft
  obtain ⟨spec, -, rfl⟩ := Option.map_eq_some_iff.1 hid
  show stage.blank.cohort.frozen = false
  rw [← heq]
  rfl

end

/-! ## A whole generation or none -/

/-- The generation, its counter, the stages, the cursor and the state are as they were. -/
structure Rollout.SameGeneration (r r' : Rollout) : Prop where
  generation : r'.generation = r.generation
  generationCounter : r'.generationCounter = r.generationCounter
  stages : r'.stages = r.stages
  cursor : r'.cursor = r.cursor
  state : r'.state = r.state

namespace Orchestrator

variable {env : Env ρ} {o : Orchestrator ρ} {id : RolloutId} {context : CommandContext} {k : Nat}

/-- Arming the rollout goes through, storage failures apart, whenever the command gets to it. -/
def Armable (env : Env ρ) (o : Orchestrator ρ) (id : RolloutId) (k : Nat) : Prop :=
  ∀ context, o.Passes id context k → ∀ s, (arm env o id context).1 = .error s →
    StorageFailure env.limits (arm env o id context).2.impl s

/-- A regenerate that is refused changes nothing, and one that is not leaves a rollout that can be
armed: no cohort is empty. -/
def RegeneratesWhole (env : Env ρ) (o : Orchestrator ρ) (id : RolloutId) (context : CommandContext)
    (k : Nat) : Prop :=
  match regenerate env o id context with
  | (.error _, o') => (o.heldAt k).rollout.SameGeneration (o'.heldAt k).rollout
  | (.ok _, o') =>
    (∀ stage ∈ (o'.heldAt k).rollout.stages, stage.cohort.members ≠ []) ∧ o'.Armable env id k

theorem RegeneratesWhole.same (h : o.RegeneratesWhole env id context k) {s : Status}
    (hs : (regenerate env o id context).1 = .error s) :
    (o.heldAt k).rollout.SameGeneration ((regenerate env o id context).2.heldAt k).rollout := by
  unfold RegeneratesWhole at h
  generalize regenerate env o id context = answer at h hs
  obtain ⟨result, o'⟩ := answer
  cases hs
  exact h

/-- A refusal that cost stages is one that changed something. -/
theorem not_regeneratesWhole {code : StatusCode}
    (hcode : refusedWith code (regenerate env o id context).1 = true)
    (hstages : ((regenerate env o id context).2.heldAt k).rollout.stages.length
      ≠ (o.heldAt k).rollout.stages.length) : ¬ o.RegeneratesWhole env id context k := by
  intro hwhole
  cases hresult : (regenerate env o id context).1 with
  | ok answer =>
    rw [hresult] at hcode
    cases hcode
  | error s => exact hstages (congrArg List.length (hwhole.same hresult).stages)

theorem armable_of_regenerated {inventory : TargetInventory} {plan : ChangePlan}
    (h : Regenerated env plan inventory (o.world k {}))
    (hsome : ∀ stage ∈ (o.heldAt k).rollout.stages, stage.cohort.members ≠ []) :
    o.Armable env id k := by
  intro context hpasses s herror
  unfold arm at herror ⊢
  rw [command_of_passes hpasses] at herror ⊢
  have hfail : ArmFailure env (o.heldAt k).rollout s
      ((armRollout env context).exec (o.world k {})).2 :=
    armRollout_spec.of_error (s := o.world k {}) rfl (Prod.ext herror rfl)
  have hfreezable : ∀ j < (o.heldAt k).rollout.stages.length,
      ((o.heldAt k).rollout.stageAt j).Freezable := by
    intro j hj
    have hmem : (o.heldAt k).rollout.stageAt j ∈ (o.heldAt k).rollout.stages := by
      simp [Rollout.stageAt, hj]
    exact ⟨h.unfrozen _ hmem, hsome _ hmem⟩
  have hvalidated : (o.heldAt k).rollout.state = .validated := h.state
  cases hfail with
  | storage h => exact h
  | state h => exact absurd hvalidated h.1
  | stage now h =>
    obtain ⟨j, hj, hnot, -⟩ := h.stopped
    exact absurd (hfreezable j hj) hnot
  | illegal now h state =>
    rw [hvalidated] at state
    cases state

/-- Regenerating a failed or completed rollout is all or nothing, storage failures apart, exactly
when the command does not get to it or every stage has a target and none has too many. -/
theorem regenerates_whole_iff (hk : o.index id = some k)
    (hstate : (o.heldAt k).rollout.state = .failed ∨ (o.heldAt k).rollout.state = .completed)
    (hstorage : ∀ s, (regenerate env o id context).1 = .error s →
      ¬ StorageFailure env.limits (regenerate env o id context).2.impl s) :
    o.RegeneratesWhole env id context k
      ↔ ¬ o.Passes id context k ∨ (o.heldAt k).plan.Populates env.limits o.impl.inventory := by
  unfold RegeneratesWhole
  by_cases hpasses : o.Passes id context k
  · rw [or_iff_right (not_not.2 hpasses)]
    unfold regenerate at hstorage ⊢
    rw [command_of_passes hpasses] at hstorage ⊢
    have hspec := @regenerateRollout_spec _ env _ context (o.heldAt k).plan
      o.impl.inventory hstate
    obtain ⟨result, w, hrun⟩ : ∃ result w, (regenerateRollout env context (o.heldAt k).plan).exec
        (o.world k {}) = (result, w) := ⟨_, _, rfl⟩
    rw [hrun] at hstorage ⊢
    have hheld : (o.put k w).heldAt k = { o.heldAt k with rollout := w.rollout } :=
      heldAt_put_self (index_lt hk) w
    cases result with
    -- the generation was counted before the first stage failed to be drawn
    | error s =>
      have hhalf := (hspec.of_error ⟨rfl, rfl⟩ hrun).resolve_left (hstorage s rfl)
      refine iff_of_false (fun hsame => ?_) fun hpopulates => ?_
      · have hcounter := hsame.generationCounter
        rw [hheld, hhalf.counter] at hcounter
        exact absurd hcounter (by simp)
      · obtain ⟨id, hid, hnot⟩ := hhalf.unsupplied
        obtain ⟨spec, hfind, hvalid, hfits, -⟩ := hpopulates id hid
        exact hnot ⟨spec, hfind, hvalid, hfits, nofun⟩
    -- every cohort was drawn, so the rollout can be armed
    | ok answer =>
      have hnew := hspec.of_ok ⟨rfl, rfl⟩ hrun
      show (_ ∧ _) ↔ _
      rw [hheld, hnew.populates_iff]
      refine and_iff_left_of_imp fun hpopulates => ?_
      refine @armable_of_regenerated _ _ _ _ _ o.impl.inventory (o.heldAt k).plan
        ?_ ?_
      · refine ⟨?_, ?_, hnew.supplied⟩
        · rw [world, hheld]
          exact hnew.state
        · rw [world, hheld]
          exact hnew.cohorts
      · rw [hheld]
        exact hnew.populates_iff.2 hpopulates
  · obtain ⟨s, hrefused⟩ := @command_of_not_passes _ _ _ _ _ (fun plan =>
      regenerateRollout env context plan) hk hpasses
    unfold regenerate
    rw [hrefused]
    exact iff_of_true ⟨rfl, rfl, rfl, rfl, rfl⟩ (.inl hpasses)

end Orchestrator

/-! ### An inventory that outgrew the cohort -/

/-- A cohort has one target at most. -/
def crowdedEnv : Env Unit :=
  { volatileEnv with limits := { volatileEnv.limits with maxTargetsPerCohort := 1 } }

/-- The rollout was armed over one target and aborted; there are two now. -/
def crowded : Orchestrator Unit :=
  loneOrchestrator.after crowdedEnv [.create rerunPlan {}, .arm twinRollout {},
    .abort twinRollout {} [], .setInventory twinInventory]

theorem crowded_facts :
    crowded.index twinRollout = some 0 ∧ (crowded.heldAt 0).rollout.state = .failed
      ∧ (crowded.heldAt 0).rollout.stages.length = 1 := by decide +kernel

theorem crowded_refused :
    refusedWith .limitExceeded (regenerate crowdedEnv crowded twinRollout {}).1 = true
      ∧ (regenerate crowdedEnv crowded twinRollout {}).2.impl.storageFailed = false
      ∧ ((regenerate crowdedEnv crowded twinRollout {}).2.heldAt 0).rollout.stages.length = 0 := by
  decide +kernel

/-- The refusal is not one of the storage. -/
theorem crowded_not_storage (s : Status)
    (h : (regenerate crowdedEnv crowded twinRollout {}).1 = .error s) :
    ¬ StorageFailure crowdedEnv.limits (regenerate crowdedEnv crowded twinRollout {}).2.impl s :=
  not_storageFailure_of_refusedWith crowded_refused.1 (by decide) crowded_refused.2.1 s h

theorem regenerates_whole_iff_crowded :
    crowded.RegeneratesWhole crowdedEnv twinRollout {} 0
      ↔ ¬ crowded.Passes twinRollout {} 0
        ∨ (crowded.heldAt 0).plan.Populates crowdedEnv.limits crowded.impl.inventory :=
  Orchestrator.regenerates_whole_iff crowded_facts.1 (.inl crowded_facts.2.1) crowded_not_storage

/-- The refused regenerate took the stages of the failed rollout with it. -/
theorem refused_regenerate_clears_stages :
    (crowded.heldAt 0).rollout.state = .failed
      ∧ (∀ s, (regenerate crowdedEnv crowded twinRollout {}).1 = .error s →
        ¬ StorageFailure crowdedEnv.limits (regenerate crowdedEnv crowded twinRollout {}).2.impl s)
      ∧ ¬ crowded.RegeneratesWhole crowdedEnv twinRollout {} 0 := by
  obtain ⟨hcode, -, hcleared⟩ := crowded_refused
  refine ⟨crowded_facts.2.1, crowded_not_storage, Orchestrator.not_regeneratesWhole hcode ?_⟩
  rw [hcleared, crowded_facts.2.2]
  exact Nat.zero_ne_one

end RolloutFabric
