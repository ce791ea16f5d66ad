/-
Idempotency keys: which pieces of work of an accepted plan share one, where the hash does not
collide on what they are derived from.
-/
import RolloutFabric.Domain.Order
import RolloutFabric.Domain.PlanRoundTrip
import RolloutFabric.Safety.Concurrency

namespace RolloutFabric

/-! ## Work -/

/-- What may be done to one target of a stage: the change, or the compensation step it is at. -/
inductive Work
  | forward
  | compensation (step : UInt32)
deriving DecidableEq

/-- The action that `dispatch_stage` and `run_rollback` hand to a worker. -/
def Work.action (stage : StageRuntime) : Work → Option ActionSpec
  | .forward => primaryAction stage
  | .compensation step => compensationAction stage step

/-- The work on a target in a generation of a rollout. -/
structure Job where
  rollout : RolloutId
  generation : GenerationId
  target : TargetId
  stage : StageId
  work : Work
deriving DecidableEq

namespace Job

/-- What is hashed to the key of the job when this action is run. -/
def keyInput (job : Job) (action : ActionId) : Bytes :=
  ByteWriter.string (text "rollout-fabric/idempotency-key/v1") ++ ByteWriter.id job.rollout
    ++ ByteWriter.id job.generation ++ ByteWriter.id job.stage ++ ByteWriter.id job.target
    ++ ByteWriter.id action

def key (job : Job) (action : ActionId) : Digest256 :=
  deriveIdempotencyKey job.rollout job.generation job.stage job.target action

variable {x y : Job} {a b : ActionId}

theorem key_eq : x.key a = sha256 (x.keyInput a) := rfl

theorem id_append_inj {tag : IdTag} {v v' : StrongId tag} {l l' : Bytes}
    (h : l ++ ByteWriter.id v = l' ++ ByteWriter.id v') : l = l' ∧ v = v' := by
  have hsize : (ByteWriter.id v).length = (ByteWriter.id v').length :=
    v.bytes.size_eq.trans v'.bytes.size_eq.symm
  obtain ⟨hl, hv⟩ := List.append_inj' h hsize
  exact ⟨hl, congrArg StrongId.mk (FixedBytes.ext hv)⟩

/-- The input covers all of the job but its work, and the action. -/
theorem keyInput_inj (h : x.keyInput a = y.keyInput b) :
    x.rollout = y.rollout ∧ x.generation = y.generation ∧ x.stage = y.stage
      ∧ x.target = y.target ∧ a = b := by
  obtain ⟨h, haction⟩ := id_append_inj h
  obtain ⟨h, htarget⟩ := id_append_inj h
  obtain ⟨h, hstage⟩ := id_append_inj h
  obtain ⟨h, hgeneration⟩ := id_append_inj h
  obtain ⟨-, hrollout⟩ := id_append_inj h
  exact ⟨hrollout, hgeneration, hstage, htarget, haction⟩

end Job

/-! ## The work of a plan -/

/-- The stage of a rollout as the plan declares it. -/
structure ChangePlan.Declares (plan : ChangePlan) (spec : StageSpec) (stage : StageRuntime) :
    Prop where
  mem : spec ∈ plan.stages
  id : stage.id = spec.id
  actions : stage.actions = spec.actions
  policy : stage.policy = spec.policy

/-- A rollout of the plan may run this action as the job. -/
def ChangePlan.Runs (plan : ChangePlan) (job : Job) (action : ActionSpec) : Prop :=
  ∃ spec stage, plan.Declares spec stage ∧ stage.id = job.stage ∧ job.work.action stage = some action

/-- The rollout, the generation and the target of a job are among those in use. -/
def Job.Among (job : Job) (used : List (RolloutId × GenerationId × TargetId)) : Prop :=
  (job.rollout, job.generation, job.target) ∈ used

/-- The hash does not collide on what the keys in use are derived from. -/
def CollisionFree (plan : ChangePlan) (used : List (RolloutId × GenerationId × TargetId)) : Prop :=
  ∀ x y a b, x.Among used → y.Among used → plan.Runs x a → plan.Runs y b →
    sha256 (x.keyInput a.id) = sha256 (y.keyInput b.id) → x.keyInput a.id = y.keyInput b.id

/-- Different work has different keys. -/
def KeysDistinct (plan : ChangePlan) (used : List (RolloutId × GenerationId × TargetId)) : Prop :=
  ∀ x y a b, x.Among used → y.Among used → plan.Runs x a → plan.Runs y b →
    x.key a.id = y.key b.id → x = y

/-- The actions of a stage in the order they would be run: the change, then the compensation. A step
is a 32-bit count. -/
def StageSpec.sequence (spec : StageSpec) : List ActionId :=
  ((primaryAction (spec.begin {})).map ActionSpec.id).toList
    ++ spec.policy.compensationActions.take (2 ^ 32)

/-! ## What validation ensures -/

section

variable {plan : ChangePlan} {spec spec' : StageSpec} {stage stage' : StageRuntime} {work : Work}
  {a : ActionSpec} {limits : RuntimeLimits}

theorem ChangePlan.Declares.unique (h : plan.Declares spec stage) (h' : plan.Declares spec' stage')
    (hnodup : (plan.stages.map StageSpec.id).Nodup) (hid : stage.id = stage'.id) : spec = spec' :=
  List.inj_on_of_nodup_map hnodup h.mem h'.mem (h.id.symm.trans (hid.trans h'.id))

/-- The work on a stage is what its declaration says. -/
theorem ChangePlan.Declares.action (h : plan.Declares spec stage) :
    work.action stage = work.action (spec.begin {}) := by
  cases work with
  | forward =>
    unfold Work.action primaryAction
    rw [h.actions]
    rfl
  | compensation step =>
    unfold Work.action compensationAction
    rw [h.actions, h.policy]
    rfl

theorem primary_mem (ha : Work.forward.action (spec.begin {}) = some a) :
    ((primaryAction (spec.begin {})).map ActionSpec.id).toList = [a.id] := by
  rw [show primaryAction (spec.begin {}) = some a from ha]
  rfl

theorem take_getElem? {α : Type} (l : List α) (step : UInt32) :
    (l.take (2 ^ 32))[step.toNat]? = l[step.toNat]? :=
  List.getElem?_take_of_lt step.toNat_lt

/-- A compensation step runs the action that the policy names at it. -/
theorem compensation_id {step : UInt32}
    (ha : (Work.compensation step).action (spec.begin {}) = some a) :
    spec.policy.compensationActions[step.toNat]? = some a.id := by
  unfold Work.action compensationAction at ha
  dsimp only at ha
  split at ha
  · cases ha
  · next id hid =>
    have hfound := List.find?_some ha
    rw [eq_of_beq hfound]
    exact hid

/-- In a valid stage there is an action for every step. -/
theorem exists_compensation (hvalid : (spec.validate limits).isOk = true) {step : UInt32}
    {id : ActionId} (hid : spec.policy.compensationActions[step.toNat]? = some id) :
    ∃ a, (Work.compensation step).action (spec.begin {}) = some a ∧ a.id = id := by
  have hdeclared : spec.actions.any (fun action => action.id == id) = true := by
    simp only [StageSpec.validate, firstFailure_isOk, List.forall_mem_cons,
      List.forall_mem_map] at hvalid
    obtain ⟨-, -, -, -, -, -, -, -, hcompensation, -⟩ := hvalid
    have hid' := hcompensation id (List.mem_of_getElem? hid)
    simpa using hid'
  obtain ⟨b, hb, heq⟩ := List.any_eq_true.1 hdeclared
  have hsome : ((spec.begin {}).actions.find? fun action => action.id == id).isSome = true :=
    List.find?_isSome.2 ⟨b, hb, heq⟩
  obtain ⟨a, ha⟩ := Option.isSome_iff_exists.1 hsome
  have hfound := List.find?_some ha
  refine ⟨a, ?_, eq_of_beq hfound⟩
  unfold Work.action compensationAction
  dsimp only
  rw [show (spec.begin {}).policy.compensationActions[step.toNat]? = some id from hid]
  exact ha

/-- The actions of a stage differ exactly when its pieces of work do. -/
theorem sequence_nodup_iff (hvalid : (spec.validate limits).isOk = true) :
    spec.sequence.Nodup ↔ ∀ work work' a b, Work.action (spec.begin {}) work = some a →
      Work.action (spec.begin {}) work' = some b → a.id = b.id → work = work' := by
  unfold StageSpec.sequence
  rw [List.nodup_append]
  constructor
  · rintro ⟨-, hsteps, happart⟩ work work' a b ha hb hid
    -- the primary action stands before the compensations, so no name is shared across
    have hclash {step : UInt32} {a b : ActionSpec}
        (ha : Work.forward.action (spec.begin {}) = some a)
        (hb : (Work.compensation step).action (spec.begin {}) = some b) : a.id ≠ b.id := by
      refine happart a.id (by rw [primary_mem ha]; exact List.mem_singleton_self _) b.id ?_
      refine List.mem_of_getElem? (i := step.toNat) ?_
      rw [take_getElem?]
      exact compensation_id hb
    cases work with
    | forward =>
      cases work' with
      | forward => rfl
      | compensation step => exact absurd hid (hclash ha hb)
    | compensation step =>
      cases work' with
      | forward => exact absurd hid.symm (hclash hb ha)
      | compensation step' =>
        have hat := compensation_id ha
        have hat' := compensation_id hb
        rw [← take_getElem?] at hat hat'
        have hsame : step.toNat = step'.toNat :=
          (List.getElem?_inj (List.getElem?_eq_some_iff.1 hat).1 hsteps).1 (by rw [hat, hat', hid])
        rw [UInt32.toNat_inj.1 hsame]
  · intro hdiffer
    -- every step below the width of the counter has an action of its own
    have hstep {n : Nat} {id : ActionId}
        (hn : (spec.policy.compensationActions.take (2 ^ 32))[n]? = some id) :
        ∃ a, Work.action (spec.begin {}) (.compensation (UInt32.ofNat n)) = some a ∧ a.id = id
          ∧ (UInt32.ofNat n).toNat = n := by
      have hlt : n < 2 ^ 32 := by
        have := (List.getElem?_eq_some_iff.1 hn).1
        rw [List.length_take] at this
        omega
      have hnat : (UInt32.ofNat n).toNat = n := UInt32.toNat_ofNat_of_lt' hlt
      obtain ⟨a, ha, hid⟩ := @exists_compensation _ _ hvalid (UInt32.ofNat n) id
        (by rw [← take_getElem?, hnat, hn])
      exact ⟨a, ha, hid, hnat⟩
    refine ⟨?_, ?_, ?_⟩
    · cases primaryAction (spec.begin {}) <;> simp
    · rw [List.nodup_iff_getElem?_ne_getElem?]
      intro i j hij hj heq
      have hi : i < (spec.policy.compensationActions.take (2 ^ 32)).length := hij.trans hj
      obtain ⟨a, ha, hid, hnat⟩ := hstep (List.getElem?_eq_getElem hi)
      obtain ⟨b, hb, hid', hnat'⟩ := hstep (List.getElem?_eq_getElem hj)
      rw [List.getElem?_eq_getElem hi, List.getElem?_eq_getElem hj] at heq
      have hsame := hdiffer _ _ a b ha hb (by rw [hid, hid', Option.some.inj heq])
      rw [Work.compensation.injEq] at hsame
      rw [hsame] at hnat
      omega
    · intro id hid id' hid' heq
      obtain ⟨n, hn⟩ := List.mem_iff_getElem?.1 hid'
      obtain ⟨b, hb, hbid, -⟩ := hstep hn
      obtain ⟨a, ha, haid⟩ := Option.map_eq_some_iff.1 (Option.mem_toList.1 hid)
      have hsame := hdiffer .forward _ a b ha hb (by rw [haid, hbid, heq])
      cases hsame

end

/-! ## Keys -/

section

variable {p q : ChangePlan} {limits : RuntimeLimits}
  {used : List (RolloutId × GenerationId × TargetId)}

/-- Jobs of different rollouts, generations, stages or targets have different keys. -/
theorem place_of_key (hfree : CollisionFree q used) {x y : Job} {a b : ActionSpec}
    (hx : x.Among used) (hy : y.Among used) (ha : q.Runs x a) (hb : q.Runs y b)
    (h : x.key a.id = y.key b.id) :
    x.rollout = y.rollout ∧ x.generation = y.generation ∧ x.stage = y.stage
      ∧ x.target = y.target ∧ a.id = b.id :=
  Job.keyInput_inj (hfree x y a b hx hy ha hb h)

/-- The keys of an accepted plan are distinct exactly when no stage runs one action as two pieces of
work. -/
theorem keys_distinct_iff (hplan : p.validate limits = .ok q) (hused : used ≠ [])
    (hfree : CollisionFree q used) :
    KeysDistinct q used ↔ ∀ spec ∈ q.stages, spec.sequence.Nodup := by
  obtain ⟨-, -, -, hvalid⟩ := ChangePlan.of_validate hplan
  have hnodup := ChangePlan.ids_nodup hplan
  constructor
  · intro hdistinct spec hspec
    obtain ⟨⟨rollout, generation, target⟩, hmem⟩ := List.exists_mem_of_ne_nil used hused
    rw [sequence_nodup_iff (hvalid spec hspec)]
    intro work work' a b ha hb hid
    let job (work : Work) : Job := ⟨rollout, generation, target, spec.id, work⟩
    have hruns {work : Work} {a : ActionSpec} (ha : work.action (spec.begin {}) = some a) :
        q.Runs (job work) a :=
      ⟨spec, spec.begin {}, ⟨hspec, rfl, rfl, rfl⟩, rfl, ha⟩
    have hsame := hdistinct (job work) (job work') a b hmem hmem (hruns ha) (hruns hb)
      (by rw [Job.key, Job.key, hid])
    exact congrArg Job.work hsame
  · intro hdiffer x y a b hx hy ha hb hkey
    obtain ⟨hrollout, hgeneration, hstage, htarget, hid⟩ := place_of_key hfree hx hy ha hb hkey
    obtain ⟨spec, stage, hdeclares, hat, haction⟩ := ha
    obtain ⟨spec', stage', hdeclares', hat', haction'⟩ := hb
    have hspec : spec = spec' := hdeclares.unique hdeclares' hnodup (by rw [hat, hat', hstage])
    subst hspec
    rw [hdeclares.action] at haction
    rw [hdeclares'.action] at haction'
    have hwork : x.work = y.work := (sequence_nodup_iff (hvalid spec hdeclares.mem)).1
      (hdiffer spec hdeclares.mem) _ _ a b haction haction' hid
    cases x
    cases y
    simp_all

end

/-! ### Undoing with the change itself -/

/-- What a rollout of the plan runs is one of the actions of the stage. -/
theorem ChangePlan.Runs.mem {q : ChangePlan} {x : Job} {a : ActionSpec} (h : q.Runs x a) :
    ∃ spec ∈ q.stages, spec.id = x.stage ∧ a.id ∈ spec.sequence := by
  obtain ⟨spec, stage, hdeclares, hstage, haction⟩ := h
  refine ⟨spec, hdeclares.mem, hdeclares.id.symm.trans hstage, ?_⟩
  rw [hdeclares.action] at haction
  unfold StageSpec.sequence
  cases hwork : x.work with
  | forward =>
    rw [hwork] at haction
    rw [primary_mem haction]
    exact List.mem_append_left _ (List.mem_singleton_self _)
  | compensation step =>
    rw [hwork] at haction
    refine List.mem_append_right _ (List.mem_of_getElem? (i := step.toNat) ?_)
    rw [take_getElem?]
    exact compensation_id haction

/-- One stage that undoes its change by an action of its own. -/
def undoablePlan : ChangePlan := { twinPlan with
  stages := [{
    id := idOf 5
    name := text "s"
    actions := [{ id := idOf 3, name := text "a", artifactDigest := .ofBytes 32 [1] },
      { id := idOf 2, name := text "b", kind := .compensate, artifactDigest := .ofBytes 32 [1] }]
    policy := { twinPolicy with compensationActions := [idOf 2] } }]
  order := [idOf 5] }

/-- One target in one generation of one rollout. -/
def loneJob : Job := ⟨idOf 1, idOf 1, idOf 1, idOf 5, .forward⟩

def loneSite : List (RolloutId × GenerationId × TargetId) := [(idOf 1, idOf 1, idOf 1)]

theorem undoablePlan_collisionFree : CollisionFree undoablePlan loneSite := by
  intro x y a b hx hy ha hb hhash
  have hinput {x : Job} {a : ActionSpec} (hx : x.Among loneSite) (ha : undoablePlan.Runs x a) :
      x.keyInput a.id = loneJob.keyInput a.id ∧ (a.id = idOf 3 ∨ a.id = idOf 2) := by
    obtain ⟨spec, hspec, hid, hmem⟩ := ha.mem
    obtain ⟨rollout, generation, target, stage, work⟩ := x
    obtain ⟨rfl, rfl, rfl⟩ : rollout = idOf 1 ∧ generation = idOf 1 ∧ target = idOf 1 := by
      simpa [Job.Among, loneSite] using hx
    obtain rfl := List.mem_singleton.1 hspec
    obtain rfl : idOf 5 = stage := hid
    exact ⟨rfl, List.mem_pair.1 hmem⟩
  obtain ⟨hx, ha⟩ := hinput hx ha
  obtain ⟨hy, hb⟩ := hinput hy hb
  have hdiffer : sha256 (loneJob.keyInput (idOf 3)) ≠ sha256 (loneJob.keyInput (idOf 2)) := by
    decide +kernel
  rw [hx, hy] at hhash ⊢
  rcases ha with ha | ha <;> rcases hb with hb | hb <;> rw [ha, hb] at hhash ⊢
  · exact absurd hhash hdiffer
  · exact absurd hhash.symm hdiffer

theorem keys_distinct_iff_undoable :
    KeysDistinct undoablePlan loneSite ↔ ∀ spec ∈ undoablePlan.stages, spec.sequence.Nodup :=
  @keys_distinct_iff undoablePlan _ {} _ rfl (by simp [loneSite])
    undoablePlan_collisionFree

/-- A plan is accepted whose compensation step has the key of the change it is to undo. -/
theorem compensation_reuses_key :
    (∃ q, twinPlan.validate {} = .ok q ∧ q.stages = twinPlan.stages)
      ∧ ¬ KeysDistinct twinPlan loneSite := by
  refine ⟨⟨{ twinPlan with order := [idOf 5] }, rfl, rfl⟩, fun hdistinct => ?_⟩
  let undo : Job := { loneJob with work := .compensation 0 }
  let spec := twinPlan.stages.headD default
  let action := spec.actions.headD default
  have hdeclares : twinPlan.Declares spec (spec.begin {}) := ⟨List.mem_singleton_self _, rfl, rfl, rfl⟩
  have hforward : twinPlan.Runs loneJob action := ⟨spec, spec.begin {}, hdeclares, rfl, by rfl⟩
  have hundo : twinPlan.Runs undo action :=
    ⟨spec, spec.begin {}, hdeclares, rfl, by decide +kernel⟩
  have hsame : loneJob = undo := hdistinct loneJob undo action action (List.mem_singleton_self _)
    (List.mem_singleton_self _) hforward hundo rfl
  cases congrArg Job.work hsame

end RolloutFabric
