/-
The cohorts of a rollout: what the loop over a plan's order builds out of an inventory, and what
arming freezes of it.
-/
import RolloutFabric.Safety.Approvals

namespace RolloutFabric

open Program

variable {ρ : Type}

/-! ## The stages of a plan over an inventory -/

namespace StageSpec

/-- The targets the selector matches, in the order of their identifiers. -/
def matched (spec : StageSpec) (inventory : TargetInventory) : List TargetId :=
  ((inventory.targets.filter fun d => selectorMatches d spec.selector).map
    TargetDescriptor.id).insertionSort (· ≤ ·)

/-- The cohort of all of them. -/
def membership (spec : StageSpec) (inventory : TargetInventory) (generation : GenerationId)
    (now : Timestamp) : CohortMembership where
  stage := spec.id
  generation := generation
  selector := spec.selector
  selectorDigest := spec.selector.selectorDigest
  members := spec.matched inventory
  membershipDigest := computeMembershipDigest spec.selector (spec.matched inventory)
    inventory.inventoryDigest
  inventoryDigest := inventory.inventoryDigest
  inventoryEpoch := inventory.epoch
  frozenAt := now

/-- The selector is valid and matches no more targets than a cohort may have; `nonempty` asks for
one at least. -/
def Supplied (spec : StageSpec) (limits : RuntimeLimits) (inventory : TargetInventory)
    (nonempty : Bool) : Prop :=
  (spec.selector.validate limits).isOk = true
    ∧ (spec.matched inventory).length ≤ limits.maxTargetsPerCohort.toNat
    ∧ (nonempty = true → spec.matched inventory ≠ [])

/-- The stage before it has an identifier, a generation and a time. -/
def draft (spec : StageSpec) (inventory : TargetInventory) : StageRuntime :=
  spec.begin (spec.membership inventory .nil {})

end StageSpec

/-- The identifier of the cohort, its generation and its time left out. -/
def StageRuntime.blank (s : StageRuntime) : StageRuntime :=
  { s with cohort := { s.cohort with id := .nil, generation := .nil, frozenAt := {} } }

namespace ChangePlan

/-- The plan declares the stage, and the inventory supplies it. -/
def Supplies (plan : ChangePlan) (limits : RuntimeLimits) (inventory : TargetInventory)
    (nonempty : Bool) (id : StageId) : Prop :=
  ∃ spec, plan.findStage id = some spec ∧ spec.Supplied limits inventory nonempty

/-- Every stage of the plan has a cohort, and none is empty. -/
def Populates (plan : ChangePlan) (limits : RuntimeLimits) (inventory : TargetInventory) : Prop :=
  ∀ id ∈ plan.order, plan.Supplies limits inventory true id

def drafts (plan : ChangePlan) (inventory : TargetInventory) (ids : List StageId) :
    List StageRuntime :=
  ids.filterMap fun id => (plan.findStage id).map fun spec => spec.draft inventory

theorem drafts_concat {plan : ChangePlan} {inventory : TargetInventory} {ids : List StageId}
    {id : StageId} {spec : StageSpec} (h : plan.findStage id = some spec) :
    plan.drafts inventory (ids ++ [id]) = plan.drafts inventory ids ++ [spec.draft inventory] := by
  simp [drafts, h]

/-- A cohort the inventory supplies with a target has one. -/
theorem members_of_drafts {plan : ChangePlan} {limits : RuntimeLimits}
    {inventory : TargetInventory} (h : plan.Populates limits inventory) :
    ∀ s ∈ plan.drafts inventory plan.order, s.cohort.members ≠ [] := by
  intro s hs
  obtain ⟨id, hid, hdraft⟩ := List.mem_filterMap.1 hs
  obtain ⟨spec, hfind, -, -, hsome⟩ := h id hid
  rw [hfind] at hdraft
  cases hdraft
  exact hsome rfl

end ChangePlan

/-! ## Materialising a cohort -/

section

variable {limits : RuntimeLimits} {inventory : TargetInventory} {spec : StageSpec}
  {generation : GenerationId} {now : Timestamp}

theorem materializeCohort_supplied (hvalid : (spec.selector.validate limits).isOk = true)
    (hfits : (spec.matched inventory).length ≤ limits.maxTargetsPerCohort.toNat) :
    materializeCohort spec.selector inventory spec.id generation limits now
      = .ok { membership := spec.membership inventory generation now } := by
  have htake := List.take_of_length_le hfits
  have hdrop := List.drop_of_length_le hfits
  unfold StageSpec.matched at htake hdrop
  unfold materializeCohort
  rw [Status.toResult, if_pos hvalid]
  simp only [htake, hdrop]
  rfl

theorem materializeCohort_invalid (h : ¬ (spec.selector.validate limits).isOk = true) :
    materializeCohort spec.selector inventory spec.id generation limits now
      = .error (spec.selector.validate limits) := by
  unfold materializeCohort
  rw [Status.toResult, if_neg h]
  rfl

theorem materializeCohort_truncated (hvalid : (spec.selector.validate limits).isOk = true)
    (hfits : ¬ (spec.matched inventory).length ≤ limits.maxTargetsPerCohort.toNat) :
    ∃ cohort, materializeCohort spec.selector inventory spec.id generation limits now = .ok cohort
      ∧ cohort.truncated ≠ [] := by
  unfold materializeCohort
  rw [Status.toResult, if_pos hvalid]
  refine ⟨_, rfl, fun hnone => hfits ?_⟩
  exact List.drop_eq_nil_iff.1 hnone

end

/-! ## The loop over the plan's order -/

section

variable {env : Env ρ} {plan : ChangePlan} {now : Timestamp}
  {failed : StageSpec → Status → Status} {truncated : StageSpec → CohortMaterialization → Status}
  {refuseEmpty : Bool} {s : Impl ρ} {r : Rollout} {done : List StageId} {id : StageId}

/-- Nothing but the stages of the rollout and the minted identifiers is new. -/
structure Drafting (s : Impl ρ) (r : Rollout) (w : World ρ) : Prop where
  impl : w.impl = { s with ids := w.impl.ids }
  rollout : w.rollout = { r with stages := w.rollout.stages }

/-- The loop is through with the stages `done`. -/
structure Drafted (env : Env ρ) (plan : ChangePlan) (refuseEmpty : Bool) (s : Impl ρ) (r : Rollout)
    (done : List StageId) (w : World ρ) : Prop extends Drafting s r w where
  stages : w.rollout.stages.map StageRuntime.blank = plan.drafts s.inventory done
  supplied : ∀ id ∈ done, plan.Supplies env.limits s.inventory refuseEmpty id

/-- The loop stopped at a stage the inventory does not supply. -/
structure Undrafted (env : Env ρ) (plan : ChangePlan) (refuseEmpty : Bool) (s : Impl ρ)
    (r : Rollout) (w : World ρ) : Prop extends Drafting s r w where
  unsupplied : ∃ id ∈ plan.order, ¬ plan.Supplies env.limits s.inventory refuseEmpty id

theorem addStage_spec (hid : id ∈ plan.order) :
    Triple (Drafted env plan refuseEmpty s r done)
      (addStage env plan now failed truncated refuseEmpty id)
      (fun _ => Drafted env plan refuseEmpty s r (done ++ [id]))
      fun _ => Undrafted env plan refuseEmpty s r := by
  have hrefused : ∀ w, Drafted env plan refuseEmpty s r done w →
      ¬ plan.Supplies env.limits s.inventory refuseEmpty id →
      Undrafted env plan refuseEmpty s r w :=
    fun w hw hnot => ⟨hw.toDrafting, id, hid, hnot⟩
  unfold addStage
  cases hfind : plan.findStage id with
  | none =>
    refine .throw fun w hw => hrefused w hw ?_
    rintro ⟨spec, hspec, -⟩
    rw [hfind] at hspec
    cases hspec
  | some spec =>
  have hsupplies : plan.Supplies env.limits s.inventory refuseEmpty id
      ↔ spec.Supplied env.limits s.inventory refuseEmpty := by
    constructor
    · rintro ⟨_, hspec, hsupplied⟩
      rw [hfind] at hspec
      cases hspec
      exact hsupplied
    · exact fun h => ⟨spec, hfind, h⟩
  refine triple_get_bind fun w hw => ?_
  have hinventory : w.impl.inventory = s.inventory := by rw [hw.impl]
  rw [hinventory]
  -- the selector may be invalid, the cohort too large, or the cohort empty
  by_cases hvalid : (spec.selector.validate env.limits).isOk = true
  · by_cases hfits : (spec.matched s.inventory).length ≤ env.limits.maxTargetsPerCohort.toNat
    · rw [materializeCohort_supplied hvalid hfits]
      dsimp only
      rw [if_neg (by simp)]
      refine triple_read_bind fun w' _ => .skip (.modify fun w hw => ?_) fun _ => ?_
      · exact ⟨⟨by rw [hw.impl], hw.rollout⟩, hw.stages, hw.supplied⟩
      split
      · next hempty =>
        refine .throw_bind fun w hw => hrefused w hw fun h => ?_
        exact (hsupplies.1 h).2.2 hempty.1 (List.isEmpty_iff.1 hempty.2)
      · next hsome =>
        refine .modify fun w hw => ⟨⟨hw.impl, ?_⟩, ?_, ?_⟩
        · rw [hw.rollout]
        · rw [ChangePlan.drafts_concat hfind, ← hw.stages]
          show List.map _ (w.rollout.stages ++ [_]) = _
          rw [List.map_append]
          rfl
        -- the stages before were supplied, and this one is now
        · intro other hother
          rcases List.mem_append.1 hother with hother | hother
          · exact hw.supplied other hother
          · cases List.mem_singleton.1 hother
            refine hsupplies.2 ⟨hvalid, hfits, fun hrefuse hnone => hsome ⟨hrefuse, ?_⟩⟩
            exact List.isEmpty_iff.2 hnone
    · obtain ⟨cohort, hcohort, htruncated⟩ := @materializeCohort_truncated _ _ _
        w.rollout.generation now hvalid hfits
      rw [hcohort]
      dsimp only
      rw [if_pos (by simpa using htruncated)]
      exact .throw_bind fun w hw => hrefused w hw fun h => hfits (hsupplies.1 h).2.1
  · rw [materializeCohort_invalid hvalid]
    exact .throw fun w hw => hrefused w hw fun h => hvalid (hsupplies.1 h).1

/-- The loop supplies every stage of the plan, or stops at one it cannot. -/
theorem addStages_spec :
    Triple (Drafted env plan refuseEmpty s r [])
      (plan.order.forM (addStage env plan now failed truncated refuseEmpty))
      (fun _ => Drafted env plan refuseEmpty s r plan.order)
      fun _ => Undrafted env plan refuseEmpty s r := by
  refine .forM_upTo fun done id hprefix => addStage_spec ?_
  exact hprefix.subset (by simp)

end

/-! ## Linking the stages -/

namespace Rollout

/-- The pairs of a predecessor and a stage after it. -/
def links (r : Rollout) : List (StageId × StageId) :=
  (r.stages.map fun stage => stage.predecessors.map fun p => (p, stage.id)).flatten

/-- One turn of the loop. -/
def link (r : Rollout) (l : StageId × StageId) : Rollout :=
  match r.findStage l.1 with
  | none => r
  | some p => r.modifyStage p fun stage => { stage with successors := stage.successors ++ [l.2] }

theorem linkSuccessors_eq (r : Rollout) : r.linkSuccessors = r.links.foldl link r := rfl

/-- The successors are all that is written. -/
theorem linkSuccessors_stages {β : Type} {g : StageRuntime → β}
    (h : ∀ s ids, g { s with successors := ids } = g s) (r : Rollout) :
    r.linkSuccessors.stages.map g = r.stages.map g := by
  rw [linkSuccessors_eq]
  generalize r.links = links
  induction links generalizing r with
  | nil => rfl
  | cons l links ih =>
    rw [List.foldl_cons, ih, link]
    split
    · rfl
    · exact map_modify_same (fun s => h s _) ..

theorem linkSuccessors_rest (r : Rollout) :
    r.linkSuccessors = { r with stages := r.linkSuccessors.stages } := by
  rw [linkSuccessors_eq]
  generalize r.links = links
  induction links generalizing r with
  | nil => rfl
  | cons l links ih =>
    rw [List.foldl_cons, ih, link]
    split <;> rfl

end Rollout

/-! ## Freezing the cohorts -/

namespace StageRuntime

/-- `freeze_cohort` accepts the stage. -/
def Freezable (s : StageRuntime) : Prop := s.cohort.frozen = false ∧ s.cohort.members ≠ []

def freeze (now : Timestamp) (s : StageRuntime) : StageRuntime :=
  { s with cohort := { s.cohort with frozen := true, frozenAt := now } }

end StageRuntime

theorem freezeCohort_ok {stage : StageRuntime} {now : Timestamp} (h : stage.Freezable) :
    freezeCohort stage now = .ok (stage.freeze now) := by
  unfold freezeCohort
  rw [if_neg (by simp [h.1]), if_neg (by simp [h.2])]
  rfl

theorem freezeCohort_error {stage : StageRuntime} {now : Timestamp} (h : ¬ stage.Freezable) :
    ∃ s, freezeCohort stage now = .error s := by
  unfold freezeCohort
  split
  · exact ⟨_, rfl⟩
  next hfrozen =>
  split
  · exact ⟨_, rfl⟩
  next hempty => exact absurd ⟨by simpa using hfrozen, by simpa using hempty⟩ h

namespace Rollout

/-- The rollout whose first `n` cohorts were frozen. -/
def freezeFirst (r : Rollout) (n : Nat) (now : Timestamp) : Rollout :=
  { r with stages := (r.stages.take n).map (StageRuntime.freeze now) ++ r.stages.drop n }

variable {r : Rollout} {n : Nat} {now : Timestamp}

@[simp] theorem freezeFirst_zero : r.freezeFirst 0 now = r := by simp [freezeFirst]

theorem stageAt_freezeFirst_self (hn : n < r.stages.length) :
    (r.freezeFirst n now).stageAt n = r.stageAt n := by
  have hmin : min n r.stages.length = n := Nat.min_eq_left (Nat.le_of_lt hn)
  simp [stageAt, freezeFirst, List.getElem?_append_right, hmin]

theorem stageAt_freezeFirst_lt {j : Nat} (hj : j < n) (hlt : j < r.stages.length) :
    (r.freezeFirst n now).stageAt j = (r.stageAt j).freeze now := by
  have hlength : j < ((r.stages.take n).map (StageRuntime.freeze now)).length := by
    simp only [List.length_map, List.length_take]
    omega
  rw [stageAt, freezeFirst, List.getD_eq_getElem?_getD, List.getElem?_append_left hlength]
  simp [stageAt, hj, hlt]

theorem freezeFirst_succ (hn : n < r.stages.length) :
    (r.freezeFirst n now).modifyStage n (fun _ => (r.stageAt n).freeze now)
      = r.freezeFirst (n + 1) now := by
  have hlength : ((r.stages.take n).map (StageRuntime.freeze now)).length = n := by
    simpa using Nat.le_of_lt hn
  have hat : r.stageAt n = r.stages[n] := by simp [stageAt, hn]
  unfold modifyStage freezeFirst
  congr 1
  dsimp only
  rw [List.drop_eq_getElem_cons hn, List.modify_eq_take_drop, List.take_left' hlength,
    List.drop_left' hlength, List.take_add_one, List.getElem?_eq_getElem hn, hat]
  simp only [List.modifyHead_cons, Option.toList_some, List.map_append, List.map_cons,
    List.map_nil, List.append_assoc, List.singleton_append]

end Rollout

section

variable {env : Env ρ} {r : Rollout} {now : Timestamp}

/-- The loop froze what is before the first stage it cannot freeze. -/
structure Unfrozen (r : Rollout) (now : Timestamp) (w : World ρ) : Prop where
  stopped : ∃ j < r.stages.length, ¬ (r.stageAt j).Freezable
    ∧ (∀ i < j, (r.stageAt i).Freezable) ∧ w.rollout = r.freezeFirst j now

theorem freezeStages_spec :
    Triple (fun w : World ρ => w.rollout = r)
      ((List.range r.stages.length).forM (freezeStage now))
      (fun _ w => (∀ j < r.stages.length, (r.stageAt j).Freezable)
        ∧ w.rollout = r.freezeFirst r.stages.length now)
      fun _ => Unfrozen r now := by
  refine .weaken (Triple.forM_range (I := fun n w => (∀ j < n, (r.stageAt j).Freezable)
      ∧ w.rollout = r.freezeFirst n now) fun j hj => ?_)
    (fun w hw => ⟨nofun, by rw [hw, Rollout.freezeFirst_zero]⟩) (fun _ _ h => h) fun _ _ h => h
  unfold freezeStage Op.stage
  refine triple_read_bind fun w hw => ?_
  rw [hw.2, Rollout.stageAt_freezeFirst_self hj]
  by_cases hstage : (r.stageAt j).Freezable
  · rw [freezeCohort_ok hstage]
    refine .modify fun w hw => ⟨fun i hi => ?_, ?_⟩
    · rcases Nat.lt_succ_iff_lt_or_eq.1 hi with hlt | rfl
      · exact hw.1 i hlt
      · exact hstage
    · show w.rollout.modifyStage j _ = _
      rw [hw.2, Rollout.freezeFirst_succ hj]
  · obtain ⟨s, hs⟩ := @freezeCohort_error _ now hstage
    rw [hs]
    exact .throw fun w hw => ⟨j, hj, hstage, hw⟩

end

/-! ## Arming -/

section

variable {env : Env ρ} {r : Rollout} {now : Timestamp} {context : CommandContext}

theorem transition_illegal {P : World ρ → Prop} {E : Status → World ρ → Prop} {next : RolloutState}
    {reason : Bytes} {counted : Bool} {Q : Unit → World ρ → Prop}
    (h : ∀ w, P w → w.rollout.state.mayEnter next = false) (hE : ∀ s w, P w → E s w) :
    Triple P (transition env next reason now counted) Q E := by
  unfold transition
  refine triple_read_bind fun w hw => ?_
  have hnot := h w hw
  rw [RolloutState.mayEnter, Bool.or_eq_false_iff] at hnot
  rw [if_neg (by simpa using hnot.1), if_neg (by simp [hnot.2])]
  exact .throw fun w hw => hE _ w hw

/-- How arming fails: the storage failed, the state does not allow it, a cohort cannot be frozen
after those before it were, or all are frozen and the rollout cannot be armed from its state. -/
inductive ArmFailure (env : Env ρ) (r : Rollout) (s : Status) (w : World ρ) : Prop
  | storage (h : StorageFailure env.limits w.impl s)
  | state (h : r.state ≠ .validated ∧ r.state ≠ .created) (same : w.rollout = r)
  | stage (now : Timestamp) (h : Unfrozen r now w)
      (state : r.state = .validated ∨ r.state = .created)
  | illegal (now : Timestamp) (h : ∀ j < r.stages.length, (r.stageAt j).Freezable)
      (state : r.state = .created)
      (frozen : w.rollout.stages = (r.freezeFirst r.stages.length now).stages)

theorem armRollout_spec :
    Triple (fun w : World ρ => w.rollout = r) (armRollout env context)
      (fun _ _ => (∀ j < r.stages.length, (r.stageAt j).Freezable) ∧ r.state = .validated)
      (ArmFailure env r) := by
  unfold armRollout requireState
  refine .bind (Q := fun _ w => w.rollout = r ∧ (r.state = .validated ∨ r.state = .created))
    (triple_read_bind fun w hw => ?_) fun _ => ?_
  · rw [hw]
    split
    · next hstate => exact .throw fun w hw => .state (by simpa using hstate) hw
    · next hstate =>
      refine .pure fun w hw => ⟨hw, ?_⟩
      cases hr : r.state <;> simp [hr] at hstate ⊢
  refine triple_ask_bind (fun _ _ h => h) fun now => triple_read_bind fun w hw => ?_
  obtain ⟨hw, hstate⟩ := hw
  rw [hw]
  refine .bind (Q := fun _ w => (∀ j < r.stages.length, (r.stageAt j).Freezable)
      ∧ w.rollout.course = (r.freezeFirst r.stages.length now).course)
    (.weaken (@freezeStages_spec _ _ now) (fun _ h => h.1)
      (fun _ _ h => ⟨h.1, congrArg Rollout.course h.2⟩) fun _ _ h => .stage now h hstate)
    fun _ => ?_
  refine .extract fun hall => ?_
  refine .skip (commit_spec (p := fun c => c = (r.freezeFirst r.stages.length now).course) _)
    fun _ => ?_
  rcases hstate with hvalidated | hcreated
  · have hmay : (r.freezeFirst r.stages.length now).state.mayEnter .armed = true := by
      show r.state.mayEnter .armed = true
      rw [hvalidated]
      rfl
    refine .bind (Q := fun _ _ => True) (.weaken (transition_spec .armed _) (fun _ h => h)
      (fun _ _ _ => trivial) fun _ _ h => ?_) fun _ => ?_
    · exact .storage (h.1.resolve_right fun hnot => hnot hmay)
    · exact triple_read_bind fun _ _ => .pure fun _ _ => ⟨hall, hvalidated⟩
  · refine .bind (Q := fun _ _ => False) (transition_illegal (fun w hw => ?_) fun s w hw => ?_)
      fun _ => fun _ hw => hw.elim
    · rw [Rollout.state_of_course hw]
      show r.state.mayEnter .armed = false
      rw [hcreated]
      rfl
    · exact .illegal now hall hcreated (Rollout.stages_of_course hw)

end

/-! ## Commands that pass -/

namespace Orchestrator

variable {o : Orchestrator ρ} {id : RolloutId} {context : CommandContext} {k : Nat}
  {body : ChangePlan → Op ρ Bytes}

theorem command_of_passes (h : o.Passes id context k) :
    o.command id context body = (((body (o.heldAt k).plan).exec (o.world k {})).1,
      o.put k ((body (o.heldAt k).plan).exec (o.world k {})).2) := by
  unfold command
  simp only [h.authority, h.index, h.fences, Bool.not_true, Bool.false_eq_true, if_false]

/-- A command that does not get to its rollout changes nothing. -/
theorem command_of_not_passes (hk : o.index id = some k) (h : ¬ o.Passes id context k) :
    ∃ s, o.command id context body = (.error s, o) := by
  unfold command
  dsimp only
  split
  · exact ⟨_, rfl⟩
  next hauthority =>
  rw [hk]
  dsimp only
  split
  · exact ⟨_, rfl⟩
  next hfences => exact absurd ⟨hk, by simpa using hauthority, by simpa using hfences⟩ h

end Orchestrator

end RolloutFabric
