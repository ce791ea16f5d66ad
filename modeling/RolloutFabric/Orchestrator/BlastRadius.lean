/-
What a batch of the planner does to the correlated populations. The planner judges every
candidate against the rollout as it was before the batch, so the batch respects a limit exactly
when the targets it takes fit, together, in the room the limit leaves.
-/
import RolloutFabric.Orchestrator.Dispatch

namespace RolloutFabric

/-! ## Populations -/

/-- A correlated population: a failure domain, or a non-empty rack, pod or site. -/
inductive Population
  | failureDomain (id : FailureDomainId)
  | rack (name : Bytes)
  | pod (name : Bytes)
  | site (name : Bytes)
deriving DecidableEq

namespace Population

def holds : Population → TargetDescriptor → Bool
  | .failureDomain id, d => d.placement.failureDomain == id
  | .rack name, d => !name.isEmpty && d.placement.rack == name
  | .pod name, d => !name.isEmpty && d.placement.pod == name
  | .site name, d => !name.isEmpty && d.placement.site == name

def limit (policy : BlastRadiusPolicy) : Population → Nat
  | .failureDomain _ => policy.maxTargetsChangingPerFailureDomain.toNat
  | .rack _ => policy.maxTargetsChangingPerRack.toNat
  | .pod _ => policy.maxTargetsChangingPerPod.toNat
  | .site _ => policy.maxTargetsChangingPerSite.toNat

end Population

/-- The members of a population that are changing. -/
def changingIn (r : Rollout) (inventory : TargetInventory) (p : Population) : Nat :=
  (changingDescriptors r inventory).countP p.holds

/-- The failure domains with a changing target. -/
def changingDomains (r : Rollout) (inventory : TargetInventory) : Finset FailureDomainId :=
  ((changingDescriptors r inventory).map fun d => d.placement.failureDomain).toFinset

/-- The usage the planner computes is the count of each population around the candidate. -/
theorem usageAround_eq (r : Rollout) (inventory : TargetInventory) (d : TargetDescriptor) :
    (usageAround r inventory d).perFailureDomain
        = changingIn r inventory (.failureDomain d.placement.failureDomain)
      ∧ (usageAround r inventory d).perRack = changingIn r inventory (.rack d.placement.rack)
      ∧ (usageAround r inventory d).perPod = changingIn r inventory (.pod d.placement.pod)
      ∧ (usageAround r inventory d).perSite = changingIn r inventory (.site d.placement.site)
      ∧ (usageAround r inventory d).distinctDomains = (changingDomains r inventory).card :=
  ⟨rfl, rfl, rfl, rfl, (List.card_toFinset _).symm⟩

/-! ## The batch -/

/-- A pending target that `blast_radius_admits` accepts on its own. -/
def eligible (r : Rollout) (stage : StageRuntime) (inventory : TargetInventory)
    (t : TargetRuntime) : Bool :=
  t.state == .pending && (blastRadiusAdmits r stage inventory t.target).isOk

/-- Keeps at most `slots` targets that were never attempted. -/
def withinCanary : Nat → List TargetRuntime → List TargetRuntime
  | _, [] => []
  | slots, t :: rest =>
    if t.attemptsCreated ≠ 0 then t :: withinCanary slots rest
    else match slots with
      | 0 => withinCanary 0 rest
      | slots + 1 => t :: withinCanary slots rest

def canaryActive (stage : StageRuntime) : Bool :=
  !stage.canaryCleared && decide (0 < stage.policy.canarySize)

/-- The targets of the stage that were attempted at least once. -/
def canaryAdmitted (stage : StageRuntime) : Nat :=
  stage.targets.countP fun t => decide (0 < t.attemptsCreated)

/-- The new targets the canary still admits; every one of them once it has cleared. -/
def canarySlots (stage : StageRuntime) : Nat :=
  if canaryActive stage then stage.policy.canarySize.toNat - canaryAdmitted stage
  else stage.targets.length

/-- The targets one tick takes, in canonical order. -/
def batch (r : Rollout) (stage : StageRuntime) (inventory : TargetInventory)
    (limits : RuntimeLimits) : List TargetRuntime :=
  if stage.actions.isEmpty then []
  else (withinCanary (canarySlots stage) (stage.targets.filter (eligible r stage inventory))).take
    (dispatchCapacity r stage limits)

theorem withinCanary_sublist (slots : Nat) (ts : List TargetRuntime) :
    (withinCanary slots ts).Sublist ts := by
  induction ts generalizing slots with
  | nil => exact List.Sublist.refl _
  | cons t rest ih =>
    unfold withinCanary
    split
    · exact (ih slots).cons_cons t
    · split
      · exact (ih 0).cons t
      · exact (ih _).cons_cons t

/-- `slots` is what the canary leaves after `admissions` new targets of the current walk; with
the canary inactive it is at least the number of targets still to come. -/
def SlotsLeft (stage : StageRuntime) (admissions slots : Nat) (ts : List TargetRuntime) : Prop :=
  (canaryActive stage = true →
    slots = stage.policy.canarySize.toNat - (canaryAdmitted stage + admissions))
  ∧ (canaryActive stage = false → ts.length ≤ slots)

theorem SlotsLeft.tail {stage : StageRuntime} {admissions slots : Nat} {t : TargetRuntime}
    {rest : List TargetRuntime} (h : SlotsLeft stage admissions slots (t :: rest)) :
    SlotsLeft stage admissions slots rest :=
  ⟨h.1, fun hactive => (Nat.le_succ _).trans (h.2 hactive)⟩

/-- Taking a new target uses one slot. -/
theorem SlotsLeft.take {stage : StageRuntime} {admissions slots : Nat} {t : TargetRuntime}
    {rest : List TargetRuntime} (h : SlotsLeft stage admissions (slots + 1) (t :: rest)) :
    SlotsLeft stage (admissions + 1) slots rest :=
  ⟨fun hactive => by have := h.1 hactive; omega,
    fun hactive => Nat.le_of_succ_le_succ (h.2 hactive)⟩

/-- The canary refuses a new target exactly when no slot is left. -/
theorem SlotsLeft.full_iff {stage : StageRuntime} {admissions slots : Nat} {t : TargetRuntime}
    {rest : List TargetRuntime} (h : SlotsLeft stage admissions slots (t :: rest)) :
    (canaryActive stage = true
      ∧ stage.policy.canarySize.toNat ≤ canaryAdmitted stage + admissions) ↔ slots = 0 := by
  cases hactive : canaryActive stage with
  | true =>
    have := h.1 hactive
    simp only [true_and]
    omega
  | false =>
    have := h.2 hactive
    simp only [List.length_cons] at this
    simp
    omega

section Walk

variable (r : Rollout) (stage : StageRuntime) (inventory : TargetInventory) (action : ActionSpec)
  (capacity : Nat)

/-- One step of the planner on a target it cannot take leaves the admissions as they are. -/
theorem planTarget_skip (acc : DispatchPlan × Nat) {t : TargetRuntime}
    (h : eligible r stage inventory t = false) :
    (planTarget r stage inventory action capacity acc t).1.admitted = acc.1.admitted
      ∧ (planTarget r stage inventory action capacity acc t).2 = acc.2 := by
  obtain ⟨plan, admissions⟩ := acc
  unfold planTarget
  dsimp only
  split
  · exact ⟨rfl, rfl⟩
  · split
    · exact ⟨rfl, rfl⟩
    · next hstate =>
      split
      · exact ⟨rfl, rfl⟩
      · cases hadmits : blastRadiusAdmits r stage inventory t.target with
        | error _ => exact ⟨rfl, rfl⟩
        | ok _ =>
          have hpending : t.state = .pending := not_not.1 hstate
          simp [eligible, hpending, hadmits, Except.isOk, Except.toBool] at h

/-- One step of the planner on a target it judges eligible. -/
theorem planTarget_eligible {acc : DispatchPlan × Nat} {slots : Nat}
    {t : TargetRuntime} {rest : List TargetRuntime}
    (h : eligible r stage inventory t = true) (hroom : acc.1.admitted.length < capacity)
    (hslots : SlotsLeft stage acc.2 slots (t :: rest)) :
    (planTarget r stage inventory action capacity acc t).1.admitted
        = (if t.attemptsCreated = 0 ∧ slots = 0 then acc.1.admitted
          else acc.1.admitted ++ [planEntry action t])
      ∧ (planTarget r stage inventory action capacity acc t).2
        = (if t.attemptsCreated = 0 ∧ slots ≠ 0 then acc.2 + 1 else acc.2) := by
  have hfull := hslots.full_iff
  simp only [eligible, Bool.and_eq_true, beq_iff_eq] at h
  obtain ⟨hstate, hok⟩ := h
  unfold planTarget
  dsimp only
  rw [if_neg (Nat.not_le.2 hroom), if_neg (by simp [hstate])]
  cases hadmits : blastRadiusAdmits r stage inventory t.target with
  | error _ => simp [hadmits, Except.isOk, Except.toBool] at hok
  | ok _ =>
    by_cases hnew : t.attemptsCreated = 0
    · by_cases hslot : slots = 0
      · have hrefused := hfull.2 hslot
        rw [if_pos ⟨hrefused.1, hrefused.2, hnew⟩]
        simp [hnew, hslot, DispatchPlan.reject]
      · rw [if_neg fun hc => hslot (hfull.1 ⟨hc.1, hc.2.1⟩)]
        simp [hnew, hslot, DispatchPlan.take]
    · rw [if_neg fun hc => hnew hc.2.2]
      simp [hnew, DispatchPlan.take]

/-- With the batch full the walk only records refusals. -/
theorem foldl_planTarget_full (ts : List TargetRuntime) (acc : DispatchPlan × Nat)
    (h : capacity ≤ acc.1.admitted.length) :
    (ts.foldl (planTarget r stage inventory action capacity) acc).1.admitted
      = acc.1.admitted := by
  induction ts generalizing acc with
  | nil => rfl
  | cons t rest ih =>
    have hsame : (planTarget r stage inventory action capacity acc t).1.admitted
        = acc.1.admitted := by
      unfold planTarget
      dsimp only
      rw [if_pos h]
      rfl
    rw [List.foldl_cons, ih _ (by rw [hsame]; exact h), hsame]

/-- The walk takes, in order, the eligible targets that still fit in the canary and the
capacity. -/
theorem foldl_planTarget (ts : List TargetRuntime) (acc : DispatchPlan × Nat) (slots : Nat)
    (hslots : SlotsLeft stage acc.2 slots ts) :
    (ts.foldl (planTarget r stage inventory action capacity) acc).1.admitted
      = acc.1.admitted ++ ((withinCanary slots (ts.filter (eligible r stage inventory))).take
          (capacity - acc.1.admitted.length)).map (planEntry action) := by
  induction ts generalizing acc slots with
  | nil => simp [withinCanary]
  | cons t rest ih =>
    rcases Nat.lt_or_ge acc.1.admitted.length capacity with hroom | hfull
    · rw [List.foldl_cons]
      cases heligible : eligible r stage inventory t with
      | false =>
        obtain ⟨hadmitted, hadmissions⟩ := planTarget_skip r stage inventory action capacity acc
          heligible
        rw [ih _ slots (by rw [hadmissions]; exact hslots.tail), hadmitted,
          List.filter_cons_of_neg (by simp [heligible])]
      | true =>
        obtain ⟨hadmitted, hadmissions⟩ := planTarget_eligible r stage inventory action capacity
          heligible hroom hslots
        have hleft : capacity - acc.1.admitted.length
            = (capacity - (acc.1.admitted.length + 1)) + 1 := by omega
        rw [List.filter_cons_of_pos heligible, hleft]
        by_cases hnew : t.attemptsCreated = 0
        · cases slots with
          | zero =>
            rw [ih _ 0 (by rw [hadmissions]; simpa [hnew] using hslots.tail), hadmitted]
            simp [hnew, withinCanary, ← hleft]
          | succ slots =>
            rw [ih _ slots (by rw [hadmissions]; simpa [hnew] using hslots.take), hadmitted]
            simp [hnew, withinCanary]
        · rw [ih _ slots (by rw [hadmissions]; simpa [hnew] using hslots.tail), hadmitted]
          simp [hnew, withinCanary]
    · rw [foldl_planTarget_full r stage inventory action capacity _ _ hfull]
      simp [Nat.sub_eq_zero_of_le hfull]

end Walk

theorem primaryAction_eq_none_iff (stage : StageRuntime) :
    primaryAction stage = none ↔ stage.actions = [] := by
  unfold primaryAction
  cases hactions : stage.actions with
  | nil => simp
  | cons action rest =>
    cases hfind : (action :: rest).find? fun action => action.kind.isPrimary <;> simp

/-- The planner admits exactly the batch. -/
theorem planDispatch_admitted (r : Rollout) (stage : StageRuntime) (inventory : TargetInventory)
    (limits : RuntimeLimits) : ∃ action, (planDispatch r stage inventory limits).admitted
      = (batch r stage inventory limits).map (planEntry action) := by
  have hslots : SlotsLeft stage 0 (canarySlots stage) stage.targets := by
    unfold SlotsLeft canarySlots
    cases canaryActive stage <;> simp
  cases haction : primaryAction stage with
  | none =>
    have hnil := (primaryAction_eq_none_iff stage).1 haction
    refine ⟨default, ?_⟩
    simp only [planDispatch, haction, batch, hnil]
    split <;> [rfl; split <;> [rfl; split <;> rfl]]
  | some action =>
    have hne : stage.actions.isEmpty = false := by
      cases hactions : stage.actions with
      | nil => simp [(primaryAction_eq_none_iff stage).2 hactions] at haction
      | cons _ _ => rfl
    refine ⟨action, ?_⟩
    simp only [planDispatch, haction, batch, hne]
    split
    · next hglobal =>
      have hzero : dispatchCapacity r stage limits = 0 := by simp only [dispatchCapacity]; omega
      simp [hzero, DispatchPlan.reject]
    · split
      · next hstage =>
        have hzero : dispatchCapacity r stage limits = 0 := by simp only [dispatchCapacity]; omega
        simp [hzero, DispatchPlan.reject]
      · split
        · next hzero => simp [hzero, DispatchPlan.reject]
        · rw [foldl_planTarget r stage inventory action _ _ _ _ hslots]
          simp

theorem planDispatch_targets (r : Rollout) (stage : StageRuntime) (inventory : TargetInventory)
    (limits : RuntimeLimits) :
    (planDispatch r stage inventory limits).admitted.map DispatchPlanEntry.target
      = (batch r stage inventory limits).map TargetRuntime.target := by
  obtain ⟨action, hadmitted⟩ := planDispatch_admitted r stage inventory limits
  rw [hadmitted, List.map_map]
  rfl

/-- What the planner admits is forward work. -/
theorem planDispatch_forward {r : Rollout} {stage : StageRuntime} {inventory : TargetInventory}
    {limits : RuntimeLimits} {entry : DispatchPlanEntry}
    (h : entry ∈ (planDispatch r stage inventory limits).admitted) : entry.rollbackStep = 0 := by
  obtain ⟨action, hadmitted⟩ := planDispatch_admitted r stage inventory limits
  rw [hadmitted, List.mem_map] at h
  obtain ⟨t, -, rfl⟩ := h
  rfl

theorem batch_length_le (r : Rollout) (stage : StageRuntime) (inventory : TargetInventory)
    (limits : RuntimeLimits) :
    (batch r stage inventory limits).length ≤ dispatchCapacity r stage limits := by
  unfold batch
  split
  · exact Nat.zero_le _
  · exact List.length_take_le ..

/-! ## The rollout after the batch -/

/-- The stage with every target of `ids` put in `kDispatched`. -/
def StageRuntime.putDispatched (stage : StageRuntime) (ids : List TargetId) : StageRuntime :=
  { stage with targets := stage.targets.map fun t =>
      if ids.contains t.target then { t with state := .dispatched } else t }

def Rollout.putDispatched (r : Rollout) (index : Nat) (ids : List TargetId) : Rollout :=
  { r with stages := r.stages.modify index fun stage => stage.putDispatched ids }

theorem batch_sublist (r : Rollout) (stage : StageRuntime) (inventory : TargetInventory)
    (limits : RuntimeLimits) :
    (batch r stage inventory limits).Sublist
      (stage.targets.filter (eligible r stage inventory)) := by
  unfold batch
  split
  · exact List.nil_sublist _
  · exact (List.take_sublist _ _).trans (withinCanary_sublist _ _)

theorem pending_of_mem_batch {r : Rollout} {stage : StageRuntime} {inventory : TargetInventory}
    {limits : RuntimeLimits} {t : TargetRuntime} (h : t ∈ batch r stage inventory limits) :
    t.state = .pending := by
  have hmem := (batch_sublist r stage inventory limits).subset h
  have heligible := (List.mem_filter.1 hmem).2
  simp only [eligible, Bool.and_eq_true, beq_iff_eq] at heligible
  exact heligible.1

/-- In a list without repeated keys, a sublist is what its keys select. -/
theorem filter_key_of_sublist {α β : Type} [DecidableEq β] (key : α → β) {xs ys : List α}
    (hsub : xs.Sublist ys) (hkeys : (ys.map key).Nodup) :
    (ys.filter fun y => (xs.map key).contains (key y)) = xs := by
  induction hsub with
  | slnil => rfl
  | @cons xs ys y hsub ih =>
    rw [List.map_cons, List.nodup_cons] at hkeys
    have hout : (xs.map key).contains (key y) = false := by
      have hnot : key y ∉ xs.map key := fun hmem => hkeys.1 ((hsub.map key).subset hmem)
      simpa using hnot
    rw [List.filter_cons_of_neg (by simpa using hout), ih hkeys.2]
  | @cons_cons xs ys y hsub ih =>
    rw [List.map_cons, List.nodup_cons] at hkeys
    have hrest : (ys.filter fun z => ((y :: xs).map key).contains (key z))
        = ys.filter fun z => (xs.map key).contains (key z) := by
      refine List.filter_congr fun z hz => ?_
      have hne : key z ≠ key y := fun heq => hkeys.1 (heq ▸ List.mem_map_of_mem hz)
      simp [hne]
    rw [List.filter_cons_of_pos (by simp), hrest, ih hkeys.2]

/-- The identifiers of the changing targets of a stage. -/
def StageRuntime.changingIds (stage : StageRuntime) : List TargetId :=
  (stage.targets.filter TargetRuntime.countsAsChanging).map TargetRuntime.target

/-- The changing targets of the stage after the batch: those before it, and the batch. -/
theorem changingIds_putDispatched {stage : StageRuntime} {taken : List TargetRuntime}
    (hsub : taken.Sublist stage.targets) (hids : (stage.targets.map TargetRuntime.target).Nodup)
    (hpending : ∀ t ∈ taken, t.state = .pending) :
    (stage.putDispatched (taken.map TargetRuntime.target)).changingIds.Perm
      (stage.changingIds ++ taken.map TargetRuntime.target) := by
  set ids := taken.map TargetRuntime.target with hidsdef
  have htaken : stage.targets.filter (fun t => ids.contains t.target) = taken :=
    filter_key_of_sublist TargetRuntime.target hsub hids
  have hafter : (stage.putDispatched ids).changingIds
      = (stage.targets.filter fun t => ids.contains t.target || t.countsAsChanging).map
          TargetRuntime.target := by
    simp only [StageRuntime.changingIds, StageRuntime.putDispatched, List.filter_map,
      List.map_map]
    congr 1
    · funext t
      simp only [Function.comp_apply]
      split <;> rfl
    · refine List.filter_congr fun t _ => ?_
      simp only [Function.comp_apply]
      split
      · next h => rw [h]; rfl
      · next h => rw [Bool.not_eq_true] at h; rw [h]; rfl
  have hdisjoint : ∀ t ∈ stage.targets, ids.contains t.target = true →
      t.countsAsChanging = false := by
    intro t ht hin
    have hmem : t ∈ taken := htaken ▸ List.mem_filter.2 ⟨ht, hin⟩
    simp [TargetRuntime.countsAsChanging, hpending t hmem, TargetState.countsAsChanging]
  -- the changing ones of the union are those of before, the others are the batch
  have hsplit := List.filter_append_perm TargetRuntime.countsAsChanging
    (stage.targets.filter fun t => ids.contains t.target || t.countsAsChanging)
  have hold : ((stage.targets.filter fun t => ids.contains t.target || t.countsAsChanging).filter
      TargetRuntime.countsAsChanging) = stage.targets.filter TargetRuntime.countsAsChanging := by
    rw [List.filter_filter]
    exact List.filter_congr fun t _ => by cases t.countsAsChanging <;> simp
  have hnew : ((stage.targets.filter fun t => ids.contains t.target || t.countsAsChanging).filter
      fun t => !t.countsAsChanging) = taken := by
    rw [List.filter_filter, ← htaken]
    refine List.filter_congr fun t ht => ?_
    cases hin : ids.contains t.target with
    | true => simp [hdisjoint t ht hin]
    | false => cases t.countsAsChanging <;> rfl
  rw [hold, hnew] at hsplit
  rw [hafter, StageRuntime.changingIds, hidsdef, ← List.map_append]
  exact (hsplit.map _).symm

theorem changing_eq_flatten (r : Rollout) :
    r.changing.map TargetRuntime.target = (r.stages.map StageRuntime.changingIds).flatten := by
  rw [Rollout.changing, List.map_flatten, List.map_map]
  rfl

/-- Changing one stage adds to the whole rollout what it adds to the stage. -/
theorem flatten_modify_perm {stages : List StageRuntime} {index : Nat} {stage : StageRuntime}
    {f : StageRuntime → StageRuntime} {extra : List TargetId}
    (hstage : stages[index]? = some stage)
    (hf : (f stage).changingIds.Perm (stage.changingIds ++ extra)) :
    (((stages.modify index f).map StageRuntime.changingIds).flatten).Perm
      ((stages.map StageRuntime.changingIds).flatten ++ extra) := by
  induction stages generalizing index with
  | nil => simp at hstage
  | cons first rest ih =>
    cases index with
    | zero =>
      cases hstage
      simp only [List.modify_zero_cons, List.map_cons, List.flatten_cons, List.append_assoc]
      refine (hf.append_right _).trans ?_
      rw [List.append_assoc]
      exact List.Perm.append_left _ List.perm_append_comm
    | succ index =>
      simp only [List.modify_succ_cons, List.map_cons, List.flatten_cons, List.append_assoc]
      exact List.Perm.append_left _ (ih (by simpa using hstage))

theorem changingDescriptors_eq (r : Rollout) (inventory : TargetInventory) :
    changingDescriptors r inventory
      = (r.changing.map TargetRuntime.target).filterMap inventory.find := by
  simp [changingDescriptors, List.filterMap_map]

/-- The descriptors of the targets a batch takes. -/
def batchDescriptors (r : Rollout) (stage : StageRuntime) (inventory : TargetInventory)
    (limits : RuntimeLimits) : List TargetDescriptor :=
  ((batch r stage inventory limits).map TargetRuntime.target).filterMap inventory.find

/-- After the batch the changing descriptors are those of before and those of the batch. -/
theorem changingDescriptors_putDispatched {r : Rollout} {index : Nat} {stage : StageRuntime}
    (inventory : TargetInventory) (limits : RuntimeLimits)
    (hstage : r.stages[index]? = some stage)
    (hids : (stage.targets.map TargetRuntime.target).Nodup) :
    (changingDescriptors (r.putDispatched index ((planDispatch r stage inventory
        limits).admitted.map DispatchPlanEntry.target)) inventory).Perm
      (changingDescriptors r inventory ++ batchDescriptors r stage inventory limits) := by
  rw [planDispatch_targets]
  have hsub : (batch r stage inventory limits).Sublist stage.targets :=
    (batch_sublist r stage inventory limits).trans List.filter_sublist
  have hperm := flatten_modify_perm
    (f := fun s => s.putDispatched ((batch r stage inventory limits).map TargetRuntime.target))
    hstage (changingIds_putDispatched hsub hids fun _ => pending_of_mem_batch)
  rw [changingDescriptors_eq, changingDescriptors_eq, changing_eq_flatten, changing_eq_flatten,
    batchDescriptors, ← List.filterMap_append]
  exact hperm.filterMap _

/-! ## When a batch respects the blast radius -/

/-- No population and no count of failure domains is above the larger of its limit and what it
was before. -/
structure WithinRadius (before after : Rollout) (inventory : TargetInventory)
    (policy : BlastRadiusPolicy) : Prop where
  population : ∀ p : Population,
    changingIn after inventory p ≤ max (p.limit policy) (changingIn before inventory p)
  domains : (changingDomains after inventory).card
    ≤ max policy.maxFailureDomainsChanging.toNat (changingDomains before inventory).card

/-- The batch takes from no population more than its limit leaves, and no more new failure
domains than the count limit leaves. -/
structure BatchFits (r : Rollout) (stage : StageRuntime) (inventory : TargetInventory)
    (limits : RuntimeLimits) : Prop where
  population : ∀ p : Population, (batchDescriptors r stage inventory limits).countP p.holds
    ≤ p.limit stage.policy.blastRadius - changingIn r inventory p
  domains : (((batchDescriptors r stage inventory limits).map fun d =>
      d.placement.failureDomain).toFinset \ changingDomains r inventory).card
    ≤ stage.policy.blastRadius.maxFailureDomainsChanging.toNat
      - (changingDomains r inventory).card

/-- A dispatched batch respects every blast-radius dimension exactly when its targets fit
together, although the planner admitted each of them on its own. -/
theorem planDispatch_withinRadius_iff {r : Rollout} {index : Nat} {stage : StageRuntime}
    {inventory : TargetInventory} {limits : RuntimeLimits}
    (hstage : r.stages[index]? = some stage)
    (hids : (stage.targets.map TargetRuntime.target).Nodup) :
    WithinRadius r (r.putDispatched index ((planDispatch r stage inventory
        limits).admitted.map DispatchPlanEntry.target)) inventory stage.policy.blastRadius
      ↔ BatchFits r stage inventory limits := by
  have hperm := changingDescriptors_putDispatched inventory limits hstage hids
  set after := r.putDispatched index
    ((planDispatch r stage inventory limits).admitted.map DispatchPlanEntry.target)
  have hcount : ∀ p : Population, changingIn after inventory p
      = changingIn r inventory p + (batchDescriptors r stage inventory limits).countP p.holds :=
    fun p => by rw [changingIn, hperm.countP_eq, List.countP_append]; rfl
  have hcard : (changingDomains after inventory).card = (changingDomains r inventory).card
      + (((batchDescriptors r stage inventory limits).map fun d =>
          d.placement.failureDomain).toFinset \ changingDomains r inventory).card := by
    rw [changingDomains, List.toFinset_eq_of_perm _ _ (hperm.map _), List.map_append,
      List.toFinset_append, ← Finset.union_sdiff_self_eq_union,
      Finset.card_union_of_disjoint Finset.disjoint_sdiff]
    rfl
  constructor
  · rintro ⟨hpopulation, hdomains⟩
    refine ⟨fun p => ?_, ?_⟩
    · have := hpopulation p
      rw [hcount] at this
      omega
    · rw [hcard] at hdomains
      omega
  · rintro ⟨hpopulation, hdomains⟩
    refine ⟨fun p => ?_, ?_⟩
    · have := hpopulation p
      rw [hcount]
      omega
    · rw [hcard]
      omega

/-! ## Two targets of one failure domain -/

/-- An identifier told apart by its first byte. -/
def idOf {tag : IdTag} (byte : UInt8) : StrongId tag := ⟨.ofBytes 16 [byte]⟩

/-- Two targets of one failure domain. -/
def pairInventory : TargetInventory where
  targets := [{ id := idOf 1, placement := { failureDomain := idOf 9 } },
    { id := idOf 2, placement := { failureDomain := idOf 9 } }]
  sorted := by decide +kernel

/-- A running stage over both, with room for two attempts and no canary. -/
def pairStage : StageRuntime where
  state := .running
  policy := { maxConcurrency := 2, canarySize := 0 }
  actions := [{}]
  targets := [{ target := idOf 1 }, { target := idOf 2 }]

def pairRollout : Rollout := { state := .running, stages := [pairStage] }

theorem pairRollout_withinRadius_iff :
    WithinRadius pairRollout (pairRollout.putDispatched 0 ((planDispatch pairRollout pairStage
        pairInventory {}).admitted.map DispatchPlanEntry.target)) pairInventory
        pairStage.policy.blastRadius
      ↔ BatchFits pairRollout pairStage pairInventory {} :=
  planDispatch_withinRadius_iff rfl (by decide +kernel)

/-- The limit of the failure domain is one, and one batch takes both of its targets. -/
theorem pairRollout_exceeds_radius :
    ¬ WithinRadius pairRollout (pairRollout.putDispatched 0 ((planDispatch pairRollout pairStage
        pairInventory {}).admitted.map DispatchPlanEntry.target)) pairInventory
        pairStage.policy.blastRadius := by
  intro h
  exact absurd (h.population (.failureDomain (idOf 9))) (by decide +kernel)

end RolloutFabric
