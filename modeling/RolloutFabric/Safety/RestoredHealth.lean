/-
Health across a restart: what a restore takes out of the journal is counted again only once a
sample was applied under the new controller, in the runs whose snapshots hold nothing to count.
-/
import RolloutFabric.Safety.HealthGates

namespace RolloutFabric

variable {ρ : Type} {env : Env ρ} {spare restarts : Bool}

/-! ## Since the controller opened -/

/-- The target was sampled since the controller opened. -/
def SampledSince (t : List Event) (place : Place) : Prop :=
  ∃ t₁ gate record now t₂, t = t₁ ++ .observed place gate record now :: t₂
    ∧ ∀ incarnation, .opened incarnation ∉ t₂

theorem SampledSince.mono {t l : List Event} {place : Place} (h : SampledSince t place)
    (hl : ∀ incarnation, .opened incarnation ∉ l) : SampledSince (t ++ l) place := by
  obtain ⟨t₁, gate, record, now, t₂, rfl, hnone⟩ := h
  refine ⟨t₁, gate, record, now, t₂ ++ l, by simp, fun incarnation hmem => ?_⟩
  rcases List.mem_append.1 hmem with hmem | hmem
  · exact hnone incarnation hmem
  · exact hl incarnation hmem

/-- What makes the health of a target count. -/
def Health.counts (health : Health) : Prop := health.originLive = true ∨ health.healthy = true

theorem Health.not_counts_default : ¬ Health.counts {} := by rintro (h | h) <;> cases h

/-- Whatever counts was sampled since the controller opened. -/
def ResampledIn (t : List Event) (r : RolloutCore) : Prop :=
  ∀ j, (r.stageAt j).Reports fun stage target _ health =>
    health.counts → SampledSince t ⟨r.id, r.generation, stage, target⟩

/-- A restored rollout holds no target that was last seen live, or healthy. -/
def Event.RestoresUnseen (e : Event) : Prop :=
  match e with
  | .restored r => ∀ stage ∈ r.stages, ∀ target ∈ stage.targets, ¬ target.core.health.counts
  | _ => True

/-- Every restore of the trace was of such a rollout. -/
def Unseen (t : List Event) : Prop := ∀ e ∈ t, e.RestoresUnseen

theorem Unseen.of_append {t l : List Event} (h : Unseen (t ++ l)) : Unseen t :=
  fun e he => h e (List.mem_append_left _ he)

/-- Where the gates of a stage are evaluated, whatever counts was sampled since. -/
def WeighsResampled (t : List Event) (e : Event) : Prop :=
  Unseen t → ∀ w ∈ e.weighing, ∀ target ∈ w.stage.targets, target.core.health.counts →
    SampledSince t (w.place target)

theorem Act.not_opened {a : Act} {v : View} (incarnation : IncarnationId) :
    .opened incarnation ∉ a.events v := by
  intro hmem
  cases a with
  | gate j id kind =>
    simp only [events] at hmem
    split at hmem <;> simp at hmem
  | _ => simp [events] at hmem

theorem ResampledIn.mono {t l : List Event} {r : RolloutCore} (h : ResampledIn t r)
    (hl : ∀ incarnation, .opened incarnation ∉ l) : ResampledIn (t ++ l) r :=
  fun j i => (h j i).imp_right fun hsince hcounts => (hsince hcounts).mono hl

theorem resampledIn_run {v : View} {a : Act} (hg : a.Guard env v.core)
    (h : ResampledIn v.trace v.rollout) : ResampledIn (a.run v).trace (a.run v).rollout := by
  have hgrown : ResampledIn (a.run v).trace v.rollout := by
    rw [Act.trace_run]
    exact h.mono Act.not_opened
  rcases Act.names_run a v with ⟨hid, hgeneration⟩ | hnone
  · unfold ResampledIn
    rw [hid, hgeneration]
    refine reports_run hg (fun record now j i ha _ => ?_) hgrown
    subst ha
    exact ⟨v.trace, _, record, now, [], rfl, fun _ h => by cases h⟩
  · exact fun j => RolloutCore.reports_of_nil hnone j

theorem StageCore.Reports.of_not {s : StageCore} {Q : StageId → TargetId → Prop}
    (h : ∀ t ∈ s.targets, ¬ t.health.counts) :
    s.Reports fun stage target _ health => health.counts → Q stage target := by
  intro i
  rcases s.targetAt_mem_or i with hmem | hnone
  · exact .inr fun hcounts => absurd hcounts (h _ hmem)
  · exact .inl (by rw [hnone]; rfl)

theorem RolloutCore.stageAt_mem_or (r : RolloutCore) (j : Nat) :
    r.stageAt j ∈ r.stages ∨ r.stageAt j = default := by
  by_cases hlt : j < r.stages.length
  · left
    rw [stageAt, List.getD_eq_getElem?_getD, List.getElem?_eq_getElem hlt]
    exact List.getElem_mem hlt
  · right
    rw [stageAt, List.getD_eq_getElem?_getD, List.getElem?_eq_none (Nat.le_of_not_lt hlt)]
    rfl

/-- What was restored without anything that counts. -/
theorem ResampledIn.of_restored {t : List Event} {r : Rollout}
    (h : Event.RestoresUnseen (.restored r)) : ResampledIn t r.core := by
  intro j
  rcases r.core.stageAt_mem_or j with hmem | hnone
  · obtain ⟨stage, hstage, heq⟩ := List.mem_map.1 hmem
    rw [← heq]
    refine .of_not fun t ht => ?_
    obtain ⟨target, htarget, rfl⟩ := List.mem_map.1 ht
    exact h stage hstage target htarget
  · rw [hnone]
    exact .default

/-! ## Every run -/

/-- What is known of a rollout and the trace, as long as nothing that counts was restored. -/
structure View.Resampled (v : View) : Prop where
  rollout : Unseen v.trace → ResampledIn v.trace v.rollout
  weighed : Each WeighsResampled v.trace

theorem weighsResampled_run {v : View} {a : Act} (hg : a.Guard env v.core) (h : v.Resampled) :
    Each WeighsResampled (a.run v).trace := by
  rw [Act.trace_run]
  refine h.weighed.append fun l₁ e l₂ heq hunseen w hw target htarget hcounts => ?_
  have hmem : e ∈ a.events v := heq ▸ List.mem_append_right _ (List.mem_cons_self ..)
  obtain ⟨hid, hgeneration, j, hstage⟩ := Act.of_weighing hg hmem hw
  rw [Weighing.place, hid, hgeneration]
  have hsince := (h.rollout hunseen.of_append j).target hstage htarget
  refine SampledSince.mono ((hsince.resolve_left fun hnone => ?_) hcounts) fun incarnation hin => ?_
  · exact Health.not_counts_default (hnone ▸ hcounts)
  · exact Act.not_opened (a := a) (v := v) incarnation (heq ▸ List.mem_append_left _ hin)

theorem View.Resampled.note {v : View} (h : v.Resampled) {e : Event}
    (hopened : ∀ incarnation, e ≠ .opened incarnation) (hweighing : e.weighing = none) :
    View.Resampled { v with trace := v.trace ++ [e] } where
  rollout hunseen := (h.rollout hunseen.of_append).mono fun incarnation hmem =>
    hopened incarnation (List.mem_singleton.1 hmem).symm
  weighed := h.weighed.note fun _ w hw => by rw [hweighing] at hw; cases hw

theorem resampled_blank {v : View} (hr : v.rollout.Blank) (h : Each WeighsResampled v.trace) :
    v.Resampled :=
  ⟨fun _ j => RolloutCore.reports_of_nil hr.stages j, h⟩

theorem resampled_carried : Carried env (Act.spares spare restarts) View.Resampled where
  act v a _ hg _ _ h :=
    ⟨fun hunseen => resampledIn_run hg (h.rollout (Act.trace_run a v ▸ hunseen).of_append),
      weighsResampled_run hg h⟩
  others v a r _ hg _ _ _ h h' := by
    refine ⟨fun hunseen => ?_, weighsResampled_run hg h⟩
    change Unseen (a.run v).trace at hunseen
    change ResampledIn (a.run v).trace r
    rw [Act.trace_run] at hunseen ⊢
    exact (h'.rollout hunseen.of_append).mono Act.not_opened
  idle _ h := ⟨h.rollout, h.weighed⟩
  compact s entries epoch ok landed _ _ h r hr := by
    have := (h r hr).note (e := .rewritten entries epoch ok landed) (fun _ h => by cases h) rfl
    exact ⟨this.rollout, this.weighed⟩
  opened s incarnation hnone h := by
    rintro r (hr | hr)
    · exact resampled_blank hr (h.blank.weighed.note fun _ w hw => by cases hw)
    · rw [hnone] at hr
      cases hr
  recovered s r h r' hr := (h r' hr).note (fun _ h => by cases h) rfl
  crash s trace ht _ h := by
    rintro r (hr | hr)
    · exact resampled_blank hr (h.blank.weighed.initial ht)
    · cases hr
  adopt _ s r t₁ t₂ e _ _ t r' hr hcore _ _ h := by
    refine ⟨fun hunseen => ?_, h.blank.weighed⟩
    change ResampledIn s.trace r.core
    rw [← hcore]
    refine .of_restored (hunseen _ ?_)
    change _ ∈ s.trace
    rw [hr]
    exact List.mem_append_right _ (List.mem_singleton_self _)

/-- An evaluation rests on nothing that was only read back. -/
structure Weighing.Resampled (env : Env ρ) (t : List Event) (w : Weighing) : Prop where
  live : ∀ target ∈ w.stage.targets, target.lastHealthOriginLive = true →
    SampledSince t (w.place target)
  satisfied : w.Satisfied env → ∀ target ∈ w.stage.targets, target.lastHealthyAt.isNil = false →
    SampledSince t (w.place target)
  advance : (evaluateAdvanceGate w.stage w.now env.limits).satisfied = true →
    ∀ target ∈ w.stage.targets, target.healthy = true → SampledSince t (w.place target)

theorem Weighing.resampled_of_counts {t : List Event} (w : Weighing)
    (h : ∀ target ∈ w.stage.targets, target.core.health.counts → SampledSince t (w.place target)) :
    w.Resampled env t where
  live target htarget hlive := h target htarget (.inl hlive)
  satisfied := by
    rintro ⟨henabled, hsatisfied⟩ target htarget hobserved
    obtain ⟨hlive, -⟩ := evaluateHealthGate_satisfied henabled hsatisfied
    exact h target htarget (.inl (snapshotFor_live hlive htarget hobserved))
  advance _ target htarget hhealthy := h target htarget (.inr hhealthy)

def Event.isRestored : Event → Bool
  | .restored _ => true
  | _ => false

theorem Unseen.of_none {t : List Event} (h : ∀ e ∈ t, e.isRestored = false) : Unseen t := by
  intro e he
  cases e with
  | restored r => cases h _ he
  | _ => trivial

/-- What a snapshot keeps of the rollout once both its targets were seen healthy. -/
def watchedSnapshot : Rollout := (twinNode.run watchedEnv (watchTwin (idOf 11))).first.persisted

end RolloutFabric
