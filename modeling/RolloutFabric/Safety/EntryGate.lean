/-
The entry gate: along every run in which no tick picks up an armed stage past a manual gate, a
stage is started and worked on only after an operator approved it.
-/
import RolloutFabric.Orchestrator.Turns
import RolloutFabric.Safety.Concurrency

namespace RolloutFabric

variable {ρ : Type} {env : Env ρ}

/-! ## Opened stages -/

/-- The stage was started, and before that an operator approved its entry gate if it is manual. -/
structure Opened (t : List Event) (rollout : RolloutId) (generation : GenerationId)
    (stage : StageId) (policy : StagePolicy) : Prop where
  entered : .stageEntered rollout generation stage policy .running ∈ t
  approved : policy.entryGate = .manual → .approved rollout generation stage .stageEntry ∈ t

theorem Opened.mono {t l : List Event} {rollout : RolloutId} {generation : GenerationId}
    {stage : StageId} {policy : StagePolicy} (h : Opened t rollout generation stage policy) :
    Opened (t ++ l) rollout generation stage policy :=
  ⟨List.mem_append_left _ h.entered, fun hm => List.mem_append_left _ (h.approved hm)⟩

/-- The states of a target that was dispatched. -/
def TargetState.worked : TargetState → Bool
  | .dispatched | .unknown | .succeeded | .failed | .rollingBack => true
  | _ => false

/-- Targets of the stage are worked on, or were. -/
def StageCore.Worked (s : StageCore) : Prop :=
  s.state.active = true
    ∨ ∃ i, (s.targetAt i).currentAttempt ≠ .nil ∨ (s.targetAt i).state.worked = true

/-- The stages that are worked on were opened. -/
def EntriesApproved (t : List Event) (r : RolloutCore) : Prop :=
  ∀ j, (r.stageAt j).Worked → Opened t r.id r.generation (r.stageAt j).id (r.stageAt j).policy

/-- A stage with a manual entry gate is started, and its targets are dispatched, after an operator
approved that gate. -/
def EntryApproved (t : List Event) : Event → Prop
  | .stageEntered rollout generation stage policy .running => policy.entryGate = .manual →
      .approved rollout generation stage .stageEntry ∈ t
  | .dispatched attempt _ =>
      ∃ policy, Opened t attempt.rollout attempt.generation attempt.stage policy
  | _ => True

section Worked

variable {s : StageCore}

theorem StageCore.Fresh.not_worked (h : s.Fresh) : ¬ s.Worked := by
  have hin (i : Nat) : (s.targetAt i).currentAttempt = .nil ∧ (s.targetAt i).state = .pending := by
    by_cases hi : i < s.targets.length
    · obtain ⟨hstate, hattempt, -⟩ := h.targets _ (targetAt_mem hi)
      exact ⟨hattempt, hstate⟩
    · rw [targetAt, List.getD_eq_getElem?_getD, List.getElem?_eq_none (Nat.le_of_not_lt hi)]
      exact ⟨rfl, rfl⟩
  rintro (hactive | ⟨i, hattempt | hstate⟩)
  · rw [h.state] at hactive
    cases hactive
  · exact hattempt (hin i).1
  · rw [(hin i).2] at hstate
    cases hstate

theorem StageCore.not_worked_default : ¬ StageCore.Worked default :=
  StageCore.Fresh.not_worked ⟨rfl, rfl, rfl, .default, fun _ ht => by cases ht⟩

/-- A change of a target that was worked on before. -/
theorem StageCore.Worked.of_modify {i : Nat} {f : TargetCore → TargetCore}
    (hf : (f (s.targetAt i)).currentAttempt ≠ .nil ∨ (f (s.targetAt i)).state.worked = true →
      s.Worked) (h : StageCore.Worked { s with targets := s.targets.modify i f }) : s.Worked := by
  rcases h with hactive | ⟨k, hk⟩
  · exact .inl hactive
  · rw [targetAt_modify] at hk
    split at hk
    · next hik =>
      obtain ⟨rfl, -⟩ := hik
      exact hf hk
    · exact .inr ⟨k, hk⟩

end Worked

section Acts

variable {v : View} {a : Act}

theorem worked_of_state {c : Core} {j i : Nat} {state : TargetState}
    (h : (c.rollout.targetAt j i).state = state) (hs : state.worked = true) :
    (c.rollout.stageAt j).Worked := by
  refine .inr ⟨i, .inr ?_⟩
  show (c.rollout.targetAt j i).state.worked = true
  rw [h, hs]

/-- A target that is worked on after an assignment was worked on before. -/
theorem Assigns.worked {c : Core} {j i : Nat} {t : TargetCore} {record : Option EvidenceRecord}
    (h : Assigns c j i t record) (hn : ∀ record attempt generation current,
      .applied record attempt generation current ∈ c.history → record.attempt ≠ .nil)
    (ht : t.currentAttempt ≠ .nil ∨ t.state.worked = true) : (c.rollout.stageAt j).Worked := by
  have hcurrent {record : EvidenceRecord} {attempt : Attempt} (h : Applies c record j i attempt)
      (hcur : (c.rollout.targetAt j i).currentAttempt = record.attempt) :
      (c.rollout.stageAt j).Worked := by
    obtain ⟨-, -, before, current, hh, -⟩ := h
    refine .inr ⟨i, .inl ?_⟩
    show (c.rollout.targetAt j i).currentAttempt ≠ .nil
    rw [hcur]
    refine hn record attempt c.rollout.generation current ?_
    rw [hh]
    exact List.mem_append_right _ (List.mem_singleton_self _)
  cases h with
  | retry h => exact worked_of_state h rfl
  | exhaust h => exact worked_of_state h rfl
  | expire state h => exact worked_of_state h rfl
  | succeed record attempt h _ hcur => exact hcurrent h hcur
  | fail record attempt h _ hcur => exact hcurrent h hcur
  | mark h =>
    rcases h with h | h
    · exact worked_of_state h rfl
    · exact worked_of_state h rfl
  | abandon h => exact worked_of_state h rfl
  | release id attempt _ h =>
    rcases h with h | h
    · exact worked_of_state h rfl
    · exact worked_of_state h rfl
  | lose h => exact worked_of_state h rfl
  | cancelled record attempt h =>
    exact .inr ⟨i, .inl (ht.resolve_right fun h => by cases h)⟩
  | acknowledged record attempt h =>
    exact .inr ⟨i, .inl (ht.resolve_right fun h => by cases h)⟩
  | rolledBack | rollbackFailed =>
    rcases ht with ht | ht
    · exact absurd rfl ht
    · cases ht

theorem Alters.worked {c : Core} {j i : Nat} {t : TargetCore} (h : Alters c j i t)
    (ht : t.currentAttempt ≠ .nil ∨ t.state.worked = true) : (c.rollout.stageAt j).Worked := by
  cases h with
  | step => exact .inr ⟨i, ht⟩
  | _ => exact .inr ⟨i, .inr (ht.resolve_left fun h => h rfl)⟩

theorem EntriesApproved.modifyStage {t : List Event} {r : RolloutCore} {j : Nat}
    {f : StageCore → StageCore} (h : EntriesApproved t r)
    (hf : (f (r.stageAt j)).Worked → (r.stageAt j).Worked
      ∨ Opened t r.id r.generation (r.stageAt j).id (r.stageAt j).policy)
    (hkeep : ∀ s, (f s).id = s.id ∧ (f s).policy = s.policy := by exact fun _ => ⟨rfl, rfl⟩) :
    EntriesApproved t (r.modifyStage j f) := by
  refine forall_modifyStage
    (P := fun _ s => s.Worked → Opened t r.id r.generation s.id s.policy) h fun _ hworked => ?_
  rw [(hkeep _).1, (hkeep _).2]
  exact (hf hworked).elim (h j) id

theorem entriesApproved_run (ha : a.spares true true = true) (hg : a.Guard env v.core)
    (hs : v.Steady env) (h : EntriesApproved v.trace v.rollout) :
    EntriesApproved (a.run v).trace (a.run v).rollout := by
  have hgrown : EntriesApproved (a.run v).trace v.rollout := by
    intro j hj
    rw [Act.trace_run]
    exact (h j hj).mono
  have hevent {e : Event} (he : e ∈ a.events v) : e ∈ (a.run v).trace := by
    rw [Act.trace_run]
    exact List.mem_append_right _ he
  cases a with
  | stage j next =>
    refine hgrown.modifyStage fun hworked => ?_
    obtain ⟨hlegal, hentry⟩ := hg
    rcases hworked with hactive | htargets
    · cases next with
      | running =>
        obtain ⟨-, hwhy⟩ := hentry
        refine .inr ⟨hevent (List.mem_singleton_self _), fun hmanual => ?_⟩
        rcases hwhy with hauto | happroved
        · exact absurd (hauto.symm.trans hmanual) (by decide)
        · rw [Act.trace_run]
          exact List.mem_append_left _ (mem_history.1 happroved).1
      | soaking =>
        -- only a running stage starts to soak
        have hstate : (v.rollout.stageAt j).state = .running := by
          revert hlegal
          change (v.rollout.stageAt j).state.legalTransition .soaking = true → _
          cases (v.rollout.stageAt j).state <;> simp [StageState.legalTransition]
        exact .inl (.inl (by rw [hstate]; rfl))
      | _ => cases hactive
    · exact .inl (.inr htargets)
  | pickUp j entryGate =>
    refine hgrown.modifyStage fun _ => ?_
    obtain ⟨-, -, -, hpolicy⟩ := hg
    refine .inr ⟨hevent (List.mem_singleton_self _), fun hmanual => ?_⟩
    have hauto : entryGate = .automatic := by simpa [Act.spares] using ha
    exact absurd ((hpolicy.trans hauto).symm.trans hmanual) (by decide)
  | gate j id kind =>
    rw [Act.run] at hgrown ⊢
    split
    · next hlegal =>
      rw [if_pos hlegal] at hgrown
      refine hgrown.modifyStage fun hworked => ?_
      rcases hworked with hactive | htargets
      · cases hactive
      · exact .inl (.inr htargets)
    · next hillegal =>
      rw [if_neg hillegal] at hgrown
      exact hgrown.modifyStage .inl
  | approve j => exact hgrown.modifyStage .inl
  | offer j i id =>
    exact hgrown.modifyStage fun hworked => .inl (hworked.of_modify fun ht => .inr ⟨i, ht⟩)
  | observe record now j i =>
    exact hgrown.modifyStage fun hworked => .inl (hworked.of_modify fun ht => .inr ⟨i, ht⟩)
  | dispatch j i attempt step =>
    refine hgrown.modifyStage fun hworked => .inl (hworked.of_modify fun _ => ?_)
    obtain ⟨-, -, -, -, -, ⟨-, hroom⟩ | hdue⟩ := hg
    · exact .inl hroom.stage
    · exact worked_of_state (c := v.core) (i := i) hdue.target rfl
  | assign j i t record =>
    exact hgrown.modifyStage fun hworked =>
      .inl (hworked.of_modify (Assigns.worked hg hs.tidy.named))
  | alter j i t =>
    exact hgrown.modifyStage fun hworked => .inl (hworked.of_modify (Alters.worked hg))
  | regenerate generation => exact fun k hworked => absurd hworked StageCore.not_worked_default
  | grow s =>
    exact forall_grow (P := fun _ s => s.Worked → Opened _ _ _ s.id s.policy)
      (fun _ hworked => absurd hworked StageCore.not_worked_default) hgrown
      fun _ hworked => absurd hworked hg.1.not_worked
  | _ => exact hgrown

theorem entryApproved_events (ha : a.spares true true = true) (hg : a.Guard env v.core)
    (h : EntriesApproved v.trace v.rollout) {e : Event} (hmem : e ∈ a.events v) :
    EntryApproved v.trace e := by
  cases e with
  | stageEntered rollout generation id policy state =>
    obtain ⟨rfl, rfl, j, rfl, rfl, rfl | ⟨⟨g, rfl⟩, rfl⟩ | ⟨-, rfl⟩⟩ := Act.of_stageEntered hmem
    · cases state with
      | running =>
        intro hmanual
        obtain ⟨-, -, hauto | happroved⟩ := hg
        · exact absurd (hauto.symm.trans hmanual) (by decide)
        · exact (mem_history.1 happroved).1
      | _ => trivial
    · intro hmanual
      obtain ⟨-, -, -, hpolicy⟩ := hg
      have hauto : g = .automatic := by simpa [Act.spares] using ha
      rw [show (v.rollout.stageAt j).policy.entryGate = _ from hpolicy.trans hauto] at hmanual
      cases hmanual
    · trivial
  | dispatched attempt step =>
    obtain ⟨j, i, rfl⟩ := Act.of_dispatched hmem
    obtain ⟨hfor, -, -, -, -, hwhy⟩ := hg
    have hworked : (v.rollout.stageAt j).Worked := by
      rcases hwhy with ⟨-, hroom⟩ | hdue
      · exact .inl hroom.stage
      · exact worked_of_state (c := v.core) (i := i) hdue.target rfl
    refine ⟨(v.rollout.stageAt j).policy, ?_⟩
    rw [hfor.rollout, hfor.generation, hfor.stage]
    exact h j hworked
  | _ => trivial

end Acts

theorem entryApproved_kept : Kept env (Act.spares true true) EntriesApproved EntryApproved where
  grows _ _ _ h j hj := (h j hj).mono
  blank t r hr j hj := by
    have hstage : r.stageAt j = default := by simp [RolloutCore.stageAt, hr.stages]
    rw [hstage] at hj
    exact absurd hj StageCore.not_worked_default
  act _ _ ha hg _ hs h := entriesApproved_run ha hg hs h
  events _ _ ha hg _ _ h _ hmem := entryApproved_events ha hg h hmem
  second _ _ _ _ _ _ := trivial
  rewritten _ _ _ _ _ := trivial
  opened _ _ := trivial
  recovered _ _ := trivial

/-- The first write of the tick that meets the gate: the stage is armed, and the gate not open yet. -/
def armedWorld : World Unit :=
  ((stageTransition volatileEnv 0 .armed ⟨1000⟩ true).exec
    ((twinOrchestrator.after volatileEnv
      [.create twinPlan {}, .arm twinRollout {}, .start twinRollout {}]).world 0 {})).2

/-- What a snapshot keeps of it. -/
def armedSnapshot : Rollout := armedWorld.rollout.persisted

/-- The controller that restored it. -/
def armedRestored : Status × Orchestrator Unit :=
  restore volatileEnv twinOrchestrator armedSnapshot twinPlan

def Event.startsStage : Event → Bool
  | .stageEntered _ _ _ policy .running => policy.entryGate == .manual
  | _ => false

def Event.isApproved : Event → Bool
  | .approved .. => true
  | _ => false

end RolloutFabric
