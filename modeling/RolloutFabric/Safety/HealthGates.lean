/-
What a health gate is satisfied on, along every run: the sample that was last applied to each target
of its stage, where it came from and how old it is.
-/
import RolloutFabric.Safety.Concurrency

namespace RolloutFabric

variable {ρ : Type} {env : Env ρ} {spare : Bool}

/-! ## What the targets last reported -/

/-- What the targets of a stage last reported, if anything, has the property. -/
def StageCore.Reports (s : StageCore) (P : StageId → TargetId → HealthGatePolicy → Health → Prop) :
    Prop :=
  ∀ i, (s.targetAt i).health = {}
    ∨ P s.id (s.targetAt i).target s.policy.healthGate (s.targetAt i).health

section Reports

variable {s : StageCore} {P : StageId → TargetId → HealthGatePolicy → Health → Prop}

theorem StageCore.Reports.modify (h : s.Reports P) {i : Nat} {f : TargetCore → TargetCore}
    (htarget : (f (s.targetAt i)).target = (s.targetAt i).target)
    (hf : (f (s.targetAt i)).health = {}
      ∨ P s.id (s.targetAt i).target s.policy.healthGate (f (s.targetAt i)).health) :
    StageCore.Reports { s with targets := s.targets.modify i f } P := by
  intro k
  rw [targetAt_modify]
  split
  · next hk =>
    obtain ⟨rfl, -⟩ := hk
    rw [htarget]
    exact hf
  · exact h k

theorem StageCore.Fresh.reports (h : s.Fresh) : s.Reports P := by
  intro i
  left
  rcases s.targetAt_mem_or i with hmem | hnone
  · exact (h.targets _ hmem).2.2.2
  · rw [hnone]
    rfl

theorem StageCore.Reports.default : StageCore.Reports default P :=
  StageCore.Fresh.reports ⟨rfl, rfl, rfl, .default, fun _ ht => by cases ht⟩

theorem RolloutCore.reports_modifyStage {r : RolloutCore} {j : Nat} {f : StageCore → StageCore}
    (h : ∀ k, (r.stageAt k).Reports P) (hf : (f (r.stageAt j)).Reports P) (k : Nat) :
    ((r.modifyStage j f).stageAt k).Reports P :=
  forall_modifyStage (P := fun _ s => s.Reports P) h (fun _ => hf) k

end Reports

theorem Assigns.health {c : Core} {j i : Nat} {t : TargetCore} {record : Option EvidenceRecord}
    (h : Assigns c j i t record) : t.health = (c.rollout.targetAt j i).health := by
  cases h <;> rfl

theorem Alters.health {c : Core} {j i : Nat} {t : TargetCore} (h : Alters c j i t) :
    t.health = (c.rollout.targetAt j i).health := by
  cases h <;> rfl

section Acts

variable {v : View} {a : Act} {P : StageId → TargetId → HealthGatePolicy → Health → Prop}

/-- Only a sample changes what a target last reported. -/
theorem reports_run (hg : a.Guard env v.core)
    (hobserve : ∀ record now j i, a = .observe record now j i →
      P (v.rollout.stageAt j).id (v.rollout.targetAt j i).target
        (v.rollout.stageAt j).policy.healthGate record.health)
    (h : ∀ k, (v.rollout.stageAt k).Reports P) (k : Nat) :
    ((a.run v).rollout.stageAt k).Reports P := by
  cases a with
  | stage j next => exact RolloutCore.reports_modifyStage h (h j) k
  | pickUp j entryGate => exact RolloutCore.reports_modifyStage h (h j) k
  | gate j id kind =>
    rw [Act.run]
    split
    · exact RolloutCore.reports_modifyStage h (h j) k
    · exact RolloutCore.reports_modifyStage h (h j) k
  | approve j => exact RolloutCore.reports_modifyStage h (h j) k
  | offer j i id => exact RolloutCore.reports_modifyStage h ((h j).modify rfl (h j i)) k
  | dispatch j i attempt step =>
    exact RolloutCore.reports_modifyStage h ((h j).modify rfl (h j i)) k
  | observe record now j i =>
    refine RolloutCore.reports_modifyStage h ((h j).modify rfl (.inr ?_)) k
    exact hobserve record now j i rfl
  | assign j i t record =>
    refine RolloutCore.reports_modifyStage h ((h j).modify hg.target_eq ?_) k
    rw [hg.health]
    exact h j i
  | alter j i t =>
    refine RolloutCore.reports_modifyStage h ((h j).modify hg.target_eq ?_) k
    rw [hg.health]
    exact h j i
  | regenerate generation => exact .default
  | grow s =>
    exact forall_grow (P := fun _ s => s.Reports P) (fun _ => .default) h (fun _ => hg.1.reports) k
  | _ => exact h k

/-- A rollout keeps its names, until it loses its stages with its generation. -/
theorem Act.names_run (a : Act) (v : View) :
    ((a.run v).rollout.id = v.rollout.id ∧ (a.run v).rollout.generation = v.rollout.generation)
      ∨ (a.run v).rollout.stages = [] := by
  cases a with
  | regenerate generation => exact .inr rfl
  | gate j id kind =>
    rw [run]
    split <;> exact .inl ⟨rfl, rfl⟩
  | _ => exact .inl ⟨rfl, rfl⟩

theorem RolloutCore.reports_of_nil {r : RolloutCore} (h : r.stages = []) (j : Nat) :
    (r.stageAt j).Reports P := by
  have hstage : r.stageAt j = default := by simp [stageAt, h]
  rw [hstage]
  exact .default

end Acts

/-! ## Evaluations of a gate -/

/-- The health gate of the stage is evaluated. -/
structure Weighing where
  rollout : RolloutId
  generation : GenerationId
  stage : StageRuntime
  now : Timestamp

/-- `complete_stage`, the canary check and the health hold evaluate it. -/
def Event.weighing : Event → Option Weighing
  | .completing rollout generation stage now _ => some { rollout, generation, stage, now }
  | .weighed rollout generation stage now => some { rollout, generation, stage, now }
  | _ => none

namespace Weighing

def place (w : Weighing) (t : TargetRuntime) : Place := ⟨w.rollout, w.generation, w.stage.id, t.target⟩

/-- The enabled gate is satisfied. -/
def Satisfied (env : Env ρ) (w : Weighing) : Prop :=
  w.stage.policy.healthGate.enabled = true ∧ (healthEvaluation env w.stage w.now).satisfied = true

end Weighing

/-- The stage that is evaluated is a stage of the rollout. -/
theorem Act.of_weighing {v : View} {a : Act} {w : Weighing} {e : Event} (hg : a.Guard env v.core)
    (hmem : e ∈ a.events v) (hw : e.weighing = some w) :
    w.rollout = v.rollout.id ∧ w.generation = v.rollout.generation
      ∧ ∃ j, w.stage.core = v.rollout.stageAt j := by
  cases a with
  | completing j s now approved =>
    obtain rfl := List.mem_singleton.1 hmem
    obtain rfl := Option.some.inj hw
    exact ⟨rfl, rfl, j, hg.1⟩
  | weigh j s now =>
    obtain rfl := List.mem_singleton.1 hmem
    obtain rfl := Option.some.inj hw
    exact ⟨rfl, rfl, j, hg⟩
  | gate j id kind =>
    simp only [events] at hmem
    split at hmem
    · obtain rfl := List.mem_singleton.1 hmem
      cases hw
    · cases hmem
  | dispatch j i attempt step =>
    rcases List.mem_pair.1 hmem with rfl | rfl <;> cases hw
  | _ => simp_all [events, Event.weighing]

theorem Rollout.core_stageAt_of_mem {r : Rollout} {stage : StageRuntime} (h : stage ∈ r.stages) :
    ∃ j, stage.core = r.core.stageAt j := by
  obtain ⟨j, hj, rfl⟩ := List.mem_iff_getElem.1 h
  refine ⟨j, ?_⟩
  rw [← core_stageAt]
  simp [stageAt, hj]

theorem StageCore.Reports.target {s : StageCore}
    {P : StageId → TargetId → HealthGatePolicy → Health → Prop} (h : s.Reports P)
    {stage : StageRuntime} (hstage : stage.core = s) {t : TargetRuntime} (ht : t ∈ stage.targets) :
    t.core.health = {} ∨ P stage.id t.target stage.policy.healthGate t.core.health := by
  subst hstage
  have hmem : t.core ∈ stage.core.targets := List.mem_map_of_mem ht
  obtain ⟨i, hi⟩ := StageCore.exists_targetAt hmem
  have := h i
  rw [hi] at this
  exact this

/-! ## Where a report comes from -/

/-- A sample with this health was fresh when it arrived, and was applied to the target. -/
def Sampled (env : Env ρ) (t : List Event) (place : Place) (gate : HealthGatePolicy)
    (health : Health) : Prop :=
  ∃ record now, .observed place gate record now ∈ t ∧ record.health = health
    ∧ (admissionFreshness env.limits record now).fresh = true

/-- The targets of the rollout report what was sampled. -/
def SampledIn (env : Env ρ) (t : List Event) (r : RolloutCore) : Prop :=
  ∀ j, (r.stageAt j).Reports fun stage target => Sampled env t ⟨r.id, r.generation, stage, target⟩

/-- Where the gate of a stage is evaluated, its targets report what was sampled. -/
def WeighsSamples (env : Env ρ) (t : List Event) (e : Event) : Prop :=
  ∀ w, e.weighing = some w → ∀ target ∈ w.stage.targets, target.core.health = {}
    ∨ Sampled env t (w.place target) w.stage.policy.healthGate target.core.health

theorem Sampled.mono {t l : List Event} {place : Place} {gate : HealthGatePolicy} {health : Health}
    (h : Sampled env t place gate health) : Sampled env (t ++ l) place gate health := by
  obtain ⟨record, now, hmem, hhealth, hfresh⟩ := h
  exact ⟨record, now, List.mem_append_left _ hmem, hhealth, hfresh⟩

theorem SampledIn.mono {t l : List Event} {r : RolloutCore} (h : SampledIn env t r) :
    SampledIn env (t ++ l) r := fun j i => (h j i).imp_right Sampled.mono

theorem sampled_kept : Kept env (Act.spares spare true) (SampledIn env) (WeighsSamples env) where
  grows _ _ _ h := h.mono
  blank t r hr j := RolloutCore.reports_of_nil hr.stages j
  act v a _ hg _ _ h := by
    have hgrown : SampledIn env (a.run v).trace v.rollout := by
      rw [Act.trace_run]
      exact h.mono
    rcases Act.names_run a v with ⟨hid, hgeneration⟩ | hnone
    · unfold SampledIn
      rw [hid, hgeneration]
      refine reports_run hg (fun record now j i ha => ?_) hgrown
      subst ha
      exact ⟨record, now, List.mem_append_right _ (List.mem_singleton_self _), rfl, hg.2⟩
    · exact fun j => RolloutCore.reports_of_nil hnone j
  events v a _ hg _ _ h e hmem w hw target ht := by
    obtain ⟨hid, hgeneration, j, hstage⟩ := Act.of_weighing hg hmem hw
    rw [Weighing.place, hid, hgeneration]
    exact (h j).target hstage ht
  second t attempt step place state h w hw := by cases hw
  rewritten _ _ _ _ _ w hw := by cases hw
  opened _ _ w hw := by cases hw
  recovered _ _ w hw := by cases hw

/-! ## The required source -/

/-- The source of the health adapter. -/
def Env.healthSource (env : Env ρ) : HealthSourceId :=
  (env.health.map HealthAdapter.sourceId).getD .nil

/-- The sample that was applied, and the gate of the stage of its target. -/
def Event.sample : Event → Option (HealthGatePolicy × EvidenceRecord)
  | .observed _ gate record _ => some (gate, record)
  | _ => none

/-- A healthy sample comes from the source the gate requires, or the adapter is of another source,
which keeps the gate shut. -/
def Event.Vouched (env : Env ρ) (e : Event) : Prop :=
  ∀ s ∈ e.sample, s.2.outcome = .succeeded → s.1.requiredSource ≠ .nil →
    s.2.healthSource = s.1.requiredSource
      ∨ s.1.enabled = true ∧ env.healthSource ≠ s.1.requiredSource

/-- Where the gate is satisfied, every target counted healthy was last seen by its source. -/
def Weighing.Attested (env : Env ρ) (w : Weighing) : Prop :=
  w.stage.policy.healthGate.requiredSource ≠ .nil →
    (healthEvaluation env w.stage w.now).satisfied = true →
      ∀ target ∈ w.stage.targets, target.healthy = true →
        target.lastHealthSource = w.stage.policy.healthGate.requiredSource

/-- The times that were read off the clock. -/
def Event.readings : Event → List Timestamp
  | .observed _ _ _ now | .completing _ _ _ now _ | .weighed _ _ _ now => [now]
  | _ => []

/-- The times that are compared. -/
def Event.times : Event → List Timestamp
  | .observed _ _ record now => [record.observedAt, now]
  | e => e.readings

theorem Event.reading_of_weighing {e : Event} {w : Weighing} (hw : e.weighing = some w) :
    w.now ∈ e.readings ∧ w.now ∈ e.times := by
  cases e with
  | completing | weighed =>
    obtain rfl := Option.some.inj hw
    exact ⟨List.mem_singleton_self _, List.mem_singleton_self _⟩
  | _ => cases hw

/-- The clock did not move backwards. -/
def ClockAdvances (t : List Event) (e : Event) : Prop :=
  ∀ now ∈ e.readings, ∀ e' ∈ t, ∀ earlier ∈ e'.readings, earlier.nanos ≤ now.nanos

/-- The last observation of the target is live, was fresh when it arrived, and is neither too old
for the gate nor too far ahead. -/
structure Weighing.LiveAndFresh (env : Env ρ) (t : List Event) (w : Weighing)
    (target : TargetRuntime) : Prop where
  live : target.lastHealthOriginLive = true
  sampled : Sampled env t (w.place target) w.stage.policy.healthGate target.core.health
  usable : target.lastHealthyAt.Usable w.now
    (gateMaxAge w.stage.policy.healthGate.maxAge env.limits) (skewOf env.limits)

/-- Where the enabled gate is satisfied, all that was observed is live and fresh. -/
def Weighing.Sound (env : Env ρ) (t : List Event) (w : Weighing) : Prop :=
  w.Satisfied env → ∀ target ∈ w.stage.targets, target.lastHealthyAt.isNil = false →
    w.LiveAndFresh env t target

theorem Weighing.sound_of_sampled {t : List Event} {w : Weighing} {a b : Int}
    (hrange : b - a < 2 ^ 63)
    (htimes : ∀ e ∈ t, ∀ u ∈ e.times, a ≤ u.nanos.toInt ∧ u.nanos.toInt ≤ b)
    (hnow : a ≤ w.now.nanos.toInt ∧ w.now.nanos.toInt ≤ b)
    (hclock : ∀ e ∈ t, ∀ u ∈ e.readings, u.nanos ≤ w.now.nanos)
    (hsampled : ∀ target ∈ w.stage.targets, target.core.health = {}
      ∨ Sampled env t (w.place target) w.stage.policy.healthGate target.core.health) :
    w.Sound env t := by
  rintro ⟨henabled, hsatisfied⟩ target htarget hobserved
  have hfrom (target : TargetRuntime) (htarget : target ∈ w.stage.targets)
      (hobserved : target.lastHealthyAt.isNil = false) :
      Sampled env t (w.place target) w.stage.policy.healthGate target.core.health := by
    refine (hsampled target htarget).resolve_left fun hnone => ?_
    have : target.lastHealthyAt = {} := congrArg Health.lastHealthyAt hnone
    rw [this] at hobserved
    cases hobserved
  have hbounds (target : TargetRuntime) (htarget : target ∈ w.stage.targets)
      (hobserved : target.lastHealthyAt.isNil = false) :
      a ≤ target.lastHealthyAt.nanos.toInt ∧ target.lastHealthyAt.nanos.toInt ≤ b := by
    obtain ⟨record, now, hmem, hhealth, -⟩ := hfrom target htarget hobserved
    have hat : record.observedAt = target.lastHealthyAt := congrArg Health.lastHealthyAt hhealth
    rw [← hat]
    exact htimes _ hmem _ (List.mem_cons_self ..)
  obtain ⟨hlive, hfresh, -⟩ := evaluateHealthGate_satisfied henabled hsatisfied
  -- the oldest observation is fresh, and no target of the stage was seen before it
  obtain ⟨⟨u, hu, huobserved, holdest⟩, hle⟩ := oldestObservation_spec htarget hobserved
  have hsampledTarget := hfrom target htarget hobserved
  refine ⟨snapshotFor_live hlive htarget hobserved, hsampledTarget, ?_⟩
  have holdest_bounds := hbounds u hu huobserved
  rw [← holdest] at holdest_bounds
  change (evaluateFreshness (oldestObservation w.stage.targets) _ _ _).fresh = true at hfresh
  obtain ⟨-, holdest_usable⟩ := usable_of_fresh (by omega) (by omega) hfresh
  rw [Int64.le_iff_toInt_le] at hle
  constructor
  -- an observation before now is at most as old as the oldest
  · intro hbefore
    rw [Int64.le_iff_toInt_le] at hbefore
    have := holdest_usable.age (by rw [Int64.le_iff_toInt_le]; exact hle.trans hbefore)
    exact le_trans (by omega) this
  -- one after now was admitted while it was no further ahead
  · intro hafter
    obtain ⟨record, now, hmem, hhealth, hadmitted⟩ := hsampledTarget
    have hat : record.observedAt = target.lastHealthyAt := congrArg Health.lastHealthyAt hhealth
    have hnow_bounds := htimes _ hmem now (List.mem_cons_of_mem _ (List.mem_singleton_self _))
    have hobs_bounds := htimes _ hmem _ (List.mem_cons_self ..)
    have hearlier := hclock _ hmem now (List.mem_singleton_self _)
    obtain ⟨-, hadmitted_usable⟩ := usable_of_fresh (by omega) (by omega) hadmitted
    rw [hat] at hadmitted_usable
    rw [Int64.lt_iff_toInt_lt] at hafter
    rw [Int64.le_iff_toInt_le] at hearlier
    have := hadmitted_usable.ahead (by rw [Int64.lt_iff_toInt_lt]; omega)
    omega

/-- Wherever an enabled health gate is satisfied, in the course of a run or in the state it leaves,
all that was observed of the stage is live and fresh. -/
theorem satisfied_on_live_fresh {n : Node ρ} (hn : n.Initial) (steps : List (Step ρ))
    {a b : Int} (hrange : b - a < 2 ^ 63)
    (htimes : ∀ e ∈ (n.run env steps).trace, ∀ u ∈ e.times,
      a ≤ u.nanos.toInt ∧ u.nanos.toInt ≤ b)
    (hclock : Each ClockAdvances (n.run env steps).trace) :
    Each (fun t e => ∀ w ∈ e.weighing, w.Sound env t) (n.run env steps).trace
      ∧ ∀ h ∈ (n.run env steps).held, ∀ stage ∈ h.rollout.stages, ∀ now,
        a ≤ now.nanos.toInt ∧ now.nanos.toInt ≤ b →
        (∀ e ∈ (n.run env steps).trace, ∀ u ∈ e.readings, u.nanos ≤ now.nanos) →
        Weighing.Sound env (n.run env steps).trace
          ⟨h.rollout.id, h.rollout.generation, stage, now⟩ := by
  have hsampled : Kept env (Act.spares false true) (SampledIn env) (WeighsSamples env) := sampled_kept
  obtain ⟨hheld, hevents⟩ := hsampled.holds hn (sparesRun_false n steps)
  constructor
  · intro t e t' ht w hw
    have hin : e ∈ (n.run env steps).trace := ht ▸ List.mem_append_right _ (List.mem_cons_self ..)
    have hsub : t ⊆ (n.run env steps).trace := ht ▸ List.subset_append_left ..
    have hreading := Event.reading_of_weighing hw
    exact Weighing.sound_of_sampled hrange (fun e he => htimes e (hsub he))
      (htimes e hin _ hreading.2) (hclock t e t' ht _ hreading.1) (hevents t e t' ht w hw)
  · intro h hh stage hstage now hnow hpast
    refine Weighing.sound_of_sampled hrange htimes hnow hpast fun target htarget => ?_
    obtain ⟨j, hcore⟩ := Rollout.core_stageAt_of_mem hstage
    exact (hheld h hh j).target hcore htarget

/-! ## A rollout that is watched -/

/-- A probe is never answered. -/
def silentProbe : HealthAdapter Unit where
  sourceId := idOf 11
  requestProbe _ s := (.success, s)

def watchedEnv : Env Unit := { volatileEnv with health := some silentProbe }

/-- Only the source of the adapter is accepted. -/
def watchedPlan : ChangePlan := { twinPlan with
  stages := twinPlan.stages.map fun stage => { stage with
    policy := { twinPolicy with
      entryGate := .automatic
      healthGate := { requiredSource := idOf 11, minConsecutiveHealthy := 1 } } } }

def dispatchWatched : List (Step Unit) :=
  [.input (.create watchedPlan {}), .input (.arm twinRollout {}), .input (.start twinRollout {}),
    .input .tick, .input .tick]

def watchedDispatched : Node Unit := twinNode.run watchedEnv dispatchWatched

/-- A live healthy sample of a target of the first stage. -/
def Node.sample (n : Node ρ) (i : Nat) (source : HealthSourceId) : EvidenceRecord :=
  { n.report i .healthSample .succeeded with healthSource := source, origin := .live }

/-- Both targets are seen healthy by the source and complete, and the tick after evaluates the
gate. -/
def watchTwin (source : HealthSourceId) : List (Step Unit) :=
  dispatchWatched ++ [.input (.onEvidence (watchedDispatched.sample 0 source)),
    .input (.onEvidence (watchedDispatched.sample 1 source)),
    .input (.onEvidence (watchedDispatched.report 0 .executionCompleted .succeeded)),
    .input (.onEvidence (watchedDispatched.report 1 .executionCompleted .succeeded)), .input .tick]

instance (e : Event) : Decidable (e.Vouched env) := inferInstanceAs (Decidable (∀ s ∈ e.sample, _))

instance (w : Weighing) : Decidable (w.Attested env) :=
  inferInstanceAs (Decidable (_ → _ → ∀ target ∈ w.stage.targets, _))

/-- Watched by the source that is required, at one time. -/
theorem watchTwin_vouched :
    let trace := (twinNode.run watchedEnv (watchTwin (idOf 11))).trace
    (∀ e ∈ trace, e.Vouched watchedEnv) ∧ ∀ e ∈ trace, ∀ u ∈ e.times, u = ⟨1000⟩ := by
  decide +kernel

theorem Event.readings_subset (e : Event) : e.readings ⊆ e.times := by
  cases e with
  | observed => exact List.subset_cons_self ..
  | _ => exact fun _ h => h

theorem watchTwin_sound : Each (fun t e => ∀ w ∈ e.weighing, w.Sound watchedEnv t)
    (twinNode.run watchedEnv (watchTwin (idOf 11))).trace := by
  have htimes := watchTwin_vouched.2
  refine (satisfied_on_live_fresh (a := 1000) (b := 1000) twinNode_initial _ (by decide)
    (fun e he u hu => ?_) fun t e t' ht now hnow e' he' earlier hearlier => ?_).1
  · rw [htimes e he u hu]
    decide
  · rw [htimes e (ht ▸ List.mem_append_right _ (List.mem_cons_self ..)) now (e.readings_subset hnow),
      htimes e' (ht ▸ List.mem_append_left _ he') earlier (e'.readings_subset hearlier)]
    decide

end RolloutFabric
