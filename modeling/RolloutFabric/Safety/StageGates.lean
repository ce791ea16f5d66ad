/-
Why a stage succeeds, along every run with its crashes and restarts: what `complete_stage` consults
and what it only records.
-/
import RolloutFabric.Safety.Concurrency

namespace RolloutFabric

variable {ρ : Type} {env : Env ρ} {spare : Bool}

/-! ## Completed stages -/

/-- The evidence gate and the advance gate of the stage are both satisfied. -/
def gatesHold (env : Env ρ) (stage : StageRuntime) (now : Timestamp) : Prop :=
  (evaluateEvidenceGate stage stage.policy.evidenceGate stage.evidenceRule now
      env.limits).satisfied = true
    ∧ (evaluateAdvanceGate stage now env.limits).satisfied = true

/-- An operator approved the stage at a gate of `complete_stage`. -/
def OperatorApproved (t : List Event) (rollout : RolloutId) (generation : GenerationId)
    (stage : StageId) : Prop :=
  .approved rollout generation stage .evidence ∈ t ∨ .approved rollout generation stage .advance ∈ t

/-- `complete_stage` was entered on the stage, let it pass and did nothing else since. -/
structure Passed (env : Env ρ) (t : List Event) (rollout : RolloutId) (generation : GenerationId)
    (stage : StageRuntime) (now : Timestamp) (approved : Bool) : Prop where
  passes : approved = true ∨ gatesHold env stage now
  entered : ∃ t₁ t₂, t = t₁ ++ .completing rollout generation stage now approved :: t₂
    ∧ ∀ e ∈ t₂, e.isJournal = true
      ∨ e = .stageEntered rollout generation stage.id stage.policy .advancing

/-- What the trace says of `complete_stage` and of the stages that succeed. -/
def Completed (env : Env ρ) (t : List Event) : Event → Prop
  | .completing rollout generation stage _ approved => approved = true →
      stage.state = .advancing ∨ OperatorApproved t rollout generation stage.id
  | .stageEntered rollout generation id policy .succeeded =>
      ∃ stage now approved, stage.id = id ∧ stage.policy = policy
        ∧ Passed env t rollout generation stage now approved
  | _ => True

/-- A suffix of the history, in the trace. -/
theorem of_history_eq {t h l : List Event} {e : Event} (he : history t = h ++ e :: l) :
    ∃ t₁ t₂, t = t₁ ++ e :: t₂ ∧ history t₁ = h ∧ history t₂ = l := by
  obtain ⟨t₁, t₂, rfl, h₁, h₂⟩ := List.filter_eq_append_iff.1 he
  obtain ⟨l₁, l₂, rfl, hnone, -, h₂⟩ := List.filter_eq_cons_iff.1 h₂
  refine ⟨t₁ ++ l₁, l₂, by simp, ?_, h₂⟩
  rw [history_append, history, h₁, history, List.filter_eq_nil_iff.2 hnone, List.append_nil]

theorem Completes.passed {v : View} {j : Nat} {stage : StageRuntime} {now : Timestamp}
    {approved : Bool} (h : Completes env v.core j stage now approved) :
    Passed env v.trace v.rollout.id v.rollout.generation stage now approved where
  passes := h.passes
  entered := by
    obtain ⟨before, hrecent | hrecent⟩ := h.recent
    · obtain ⟨t₁, t₂, ht, -, hnone⟩ := of_history_eq hrecent
      refine ⟨t₁, t₂, ht, fun e he => .inl ?_⟩
      simpa using List.filter_eq_nil_iff.1 hnone e he
    · obtain ⟨t₁, t₂, ht, -, hone⟩ := of_history_eq hrecent
      refine ⟨t₁, t₂, ht, fun e he => ?_⟩
      cases hj : e.isJournal with
      | true => exact .inl rfl
      | false =>
        have hmem : e ∈ history t₂ := mem_history.2 ⟨he, hj⟩
        rw [hone] at hmem
        exact .inr (List.mem_singleton.1 hmem)

theorem completed_kept : Kept env (Act.spares spare true) (fun _ _ => True) (Completed env) where
  grows _ _ _ h := h
  blank _ _ _ := trivial
  act _ _ _ _ _ _ h := h
  events v a _ hg _ _ _ e hmem := by
    cases e with
    | completing rollout generation stage now approved =>
      obtain ⟨rfl, rfl, j, rfl⟩ := Act.of_completing hmem
      intro happroved
      obtain ⟨-, hnot | hstate | ⟨hkind, h, hh⟩⟩ := hg
      · rw [happroved] at hnot
        cases hnot
      · exact .inl hstate
      · have hin : .approved v.rollout.id v.rollout.generation stage.id stage.pendingGateKind
            ∈ v.trace := by
          refine (mem_history.1 ?_).1
          change _ ∈ v.core.history
          rw [hh]
          exact List.mem_append_right _ (List.mem_singleton_self _)
        rcases hkind with hk | hk <;> rw [hk] at hin
        · exact .inr (.inl hin)
        · exact .inr (.inr hin)
    | stageEntered rollout generation id policy state =>
      obtain ⟨rfl, rfl, j, rfl, rfl, rfl | ⟨-, rfl⟩ | ⟨-, rfl⟩⟩ := Act.of_stageEntered hmem
      · cases state with
        | succeeded =>
          obtain ⟨-, -, stage, now, approved, hc⟩ := hg
          exact ⟨stage, now, approved, hc.id_eq, hc.policy_eq, hc.passed⟩
        | _ => trivial
      · trivial
      · trivial
    | _ => trivial
  second _ _ _ _ _ _ := trivial
  rewritten _ _ _ _ _ := trivial
  opened _ _ := trivial
  recovered _ _ := trivial

theorem completed_of_run {n : Node ρ} (hn : n.Initial) (steps : List (Step ρ)) :
    Each (Completed env) (n.run env steps).trace :=
  (completed_kept.holds hn (sparesRun_false n steps)).2

/-- Every stage that succeeds was let pass by `complete_stage`, which was told of an approval only
where there was one or the stage was found advancing. -/
theorem succeeded_of_run {n : Node ρ} (hn : n.Initial) (steps : List (Step ρ)) {t t' : List Event}
    {rollout : RolloutId} {generation : GenerationId} {id : StageId} {policy : StagePolicy}
    (ht : (n.run env steps).trace
      = t ++ .stageEntered rollout generation id policy .succeeded :: t') :
    ∃ stage now approved t₁ t₂, stage.id = id ∧ stage.policy = policy
      ∧ t = t₁ ++ .completing rollout generation stage now approved :: t₂
      ∧ Passed env t rollout generation stage now approved
      ∧ (approved = true → stage.state = .advancing ∨ OperatorApproved t₁ rollout generation id) := by
  have hall : Each (Completed env) (n.run env steps).trace := completed_of_run hn steps
  obtain ⟨stage, now, approved, rfl, hpolicy, hpassed⟩ := hall _ _ _ ht
  obtain ⟨t₁, t₂, hsplit, -⟩ := hpassed.entered
  refine ⟨stage, now, approved, t₁, t₂, rfl, hpolicy, hsplit, hpassed, ?_⟩
  refine hall t₁ (.completing rollout generation stage now approved)
    (t₂ ++ .stageEntered rollout generation stage.id policy .succeeded :: t') ?_
  rw [ht, hsplit]
  simp

theorem OperatorApproved.mono {t t' : List Event} {rollout : RolloutId}
    {generation : GenerationId} {stage : StageId} (ht : t ⊆ t')
    (h : OperatorApproved t rollout generation stage) :
    OperatorApproved t' rollout generation stage :=
  h.imp (fun h => ht h) fun h => ht h

/-! ## The health gate -/

/-- `complete_stage` runs without an operator: no approval was passed, or it was passed for a stage
found advancing that nobody approved. -/
def Unattended (t : List Event) (rollout : RolloutId) (generation : GenerationId)
    (stage : StageRuntime) (approved : Bool) : Prop :=
  approved = false
    ∨ stage.state = .advancing ∧ ¬ OperatorApproved t rollout generation stage.id

/-- Where the other two gates let a stage pass without an operator, its health gate holds too. -/
def HealthFollows (env : Env ρ) (t : List Event) : Event → Prop
  | .completing rollout generation stage now approved =>
      stage.policy.healthGate.enabled = true → Unattended t rollout generation stage approved →
        approved = true ∨ gatesHold env stage now →
        (healthEvaluation env stage now).satisfied = true
  | _ => True

/-- A stage succeeds under its health gate, or under an approval. -/
def HealthGuarded (env : Env ρ) (t : List Event) : Event → Prop
  | .stageEntered rollout generation id policy .succeeded => policy.healthGate.enabled = true →
      OperatorApproved t rollout generation id
        ∨ ∃ stage now approved, stage.id = id ∧ stage.policy = policy
          ∧ Passed env t rollout generation stage now approved
          ∧ (healthEvaluation env stage now).satisfied = true
  | _ => True

/-- `complete_stage` lets a stage with a manual advance gate pass only once that gate was
approved. -/
def AdvanceAwaits (env : Env ρ) (t : List Event) : Event → Prop
  | .completing rollout generation stage now approved => stage.policy.advanceGate = .manual →
      .approved rollout generation stage.id .advance ∈ t
        ∨ approved = false ∧ ¬ gatesHold env stage now
  | _ => True

/-- A stage with a manual advance gate succeeds after an operator approved that gate. -/
def AdvanceApproved (t : List Event) : Event → Prop
  | .stageEntered rollout generation id policy .succeeded => policy.advanceGate = .manual →
      .approved rollout generation id .advance ∈ t
  | _ => True

/-- The event is a stage with this policy that succeeds. -/
def Event.succeedsUnder (holds : StagePolicy → Bool) : Event → Bool
  | .stageEntered _ _ _ policy .succeeded => holds policy
  | _ => false

/-- The event is an approval at a gate of `complete_stage`. -/
def Event.approvesStage : Event → Bool
  | .approved _ _ _ .evidence | .approved _ _ _ .advance => true
  | _ => false

/-- The event is a stage `complete_stage` lets pass. -/
def Event.letsPass (env : Env ρ) : Event → Bool
  | .completing _ _ stage now operator => operator
      || (evaluateEvidenceGate stage stage.policy.evidenceGate stage.evidenceRule now
        env.limits).satisfied && (evaluateAdvanceGate stage now env.limits).satisfied
  | _ => false

/-- The event is a stage that `complete_stage` finds healthy. -/
def Event.foundHealthy (env : Env ρ) : Event → Bool
  | .completing _ _ stage now _ => (healthEvaluation env stage now).satisfied
  | _ => false

/-- Both targets succeed, and so does the stage: nobody approved it and nobody saw it healthy. -/
theorem twinCompleted_unguarded :
    let trace := (twinNode.run volatileEnv (reportTwin .succeeded .succeeded)).trace
    (∃ e ∈ trace, e.succeedsUnder (fun policy =>
        policy.healthGate.enabled && policy.advanceGate == .manual) = true)
      ∧ ∀ e ∈ trace, e.approvesStage = false ∧ e.foundHealthy volatileEnv = false := by
  decide +kernel

/-- One target fails, and the stage is stopped at its evidence gate. -/
theorem twinFailed_stopped :
    let trace := (twinNode.run volatileEnv (reportTwin .failed .succeeded)).trace
    (∃ e ∈ trace, e matches .completing ..)
      ∧ ∀ e ∈ trace, e.letsPass volatileEnv = false := by
  decide +kernel

theorem not_letsPass {e : Event} (h : e.letsPass env = false) {rollout : RolloutId}
    {generation : GenerationId} {stage : StageRuntime} {now : Timestamp} {approved : Bool}
    (he : e = .completing rollout generation stage now approved) :
    approved = false ∧ ¬ gatesHold env stage now := by
  subst he
  rw [Event.letsPass, Bool.or_eq_false_iff] at h
  refine ⟨h.1, ?_⟩
  rintro ⟨hevidence, hadvance⟩
  rw [hevidence, hadvance] at h
  cases h.2

theorem Event.eq_of_succeedsUnder {holds : StagePolicy → Bool} {e : Event}
    (h : e.succeedsUnder holds = true) : ∃ rollout generation stage policy,
      e = .stageEntered rollout generation stage policy .succeeded ∧ holds policy = true := by
  unfold succeedsUnder at h
  split at h
  · next rollout generation stage policy => exact ⟨rollout, generation, stage, policy, rfl, h⟩
  · cases h

end RolloutFabric
