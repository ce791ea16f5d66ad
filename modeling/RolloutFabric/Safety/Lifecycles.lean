/-
The lifecycle of a rollout, as a machine of its own: the tables of legal transitions, and what the
state of a rollout allows beyond them. Whatever an orchestrator is told, each of its rollouts runs
this machine, and one that is undone starts no work again.
-/
import RolloutFabric.Safety.StageOrder

namespace RolloutFabric

variable {ρ : Type} {env : Env ρ}

/-! ## The machine -/

/-- Where a stage stands, with the number of compensation steps it declares. -/
structure StageStanding where
  state : StageState := .pending
  steps : Nat := 0
  targets : List TargetState := []

/-- Nothing was done in the stage. -/
def StageStanding.Untouched (s : StageStanding) : Prop :=
  s.state = .pending ∧ ∀ t ∈ s.targets, t = .pending

/-- Where a rollout stands: its state, the stage it is at, and where its stages stand. -/
structure Lifecycle where
  state : RolloutState
  cursor : UInt32
  stages : List StageStanding

namespace Lifecycle

def standing (l : Lifecycle) (j : Nat) : StageStanding := l.stages.getD j {}

def stageAt (l : Lifecycle) (j : Nat) : StageState := (l.standing j).state

def targetAt (l : Lifecycle) (j i : Nat) : TargetState := (l.standing j).targets.getD i .pending

def setStage (l : Lifecycle) (j : Nat) (next : StageState) : Lifecycle :=
  { l with stages := l.stages.modify j fun s => { s with state := next } }

def setTarget (l : Lifecycle) (j i : Nat) (next : TargetState) : Lifecycle :=
  { l with stages := l.stages.modify j fun s => { s with targets := s.targets.modify i fun _ => next } }

/-- No stage declares so many compensation steps that their count wraps. -/
def Short (l : Lifecycle) : Prop := ∀ j, (l.standing j).steps < 2 ^ 32

/-- What a stage's next state asks of the rollout. -/
def Allows (l : Lifecycle) (j : Nat) : StageState → Prop
  | .armed => l.cursor.toNat = j ∧ l.state.working = true
  | .rolledBack => l.state = .rollingBack
  | .aborted | .skipped => l.state = .aborting
  | _ => True

/-- The changes of a target's state other than the start of forward work. -/
inductive Settles (state : RolloutState) : TargetState → TargetState → Prop
  | retried : Settles state .failed .pending
  | exhausted : Settles state .failed .exhausted
  | released (t : TargetState) (h : t = .dispatched ∨ t = .unknown) : Settles state t .pending
  | lost : Settles state .dispatched .unknown
  | ended (t next : TargetState) (h : t ≠ .rollingBack) (h' : next = .succeeded ∨ next = .failed) :
    Settles state t next
  | cancelled (t : TargetState) : Settles state t .cancelled
  | undoing (t : TargetState) (h : t = .succeeded ∨ t = .failed) (h' : state = .rollingBack) :
    Settles state t .rollingBack
  | undone (t next : TargetState) (h : next = .rolledBack ∨ next = .rollbackFailed) :
    Settles state t next

/-- A step within a generation. -/
inductive Work (l : Lifecycle) : Lifecycle → Prop
  | enter (next : RolloutState) (h : l.state.legalTransition next = true) :
    Work l { l with state := next }
  | stage (j : Nat) (next : StageState) (h : (l.stageAt j).legalTransition next = true)
    (h' : l.Allows j next) : Work l (l.setStage j next)
  | skip (h : l.stageAt l.cursor.toNat = .succeeded ∨ l.state.working = true
      ∧ (l.stageAt l.cursor.toNat = .rolledBack ∨ l.stageAt l.cursor.toNat = .skipped)) :
    Work l { l with cursor := l.cursor + 1 }
  /-- Forward work starts in the current stage of a rollout that is worked on, and nowhere else. -/
  | dispatch (i : Nat) (h : l.state.working = true) (h' : (l.stageAt l.cursor.toNat).active = true)
    (ht : l.targetAt l.cursor.toNat i = .pending) :
    Work l (l.setTarget l.cursor.toNat i .dispatched)
  /-- The count of the compensation steps wraps to that of forward work. -/
  | wrap (j i : Nat) (h : l.state = .rollingBack) (h' : 2 ^ 32 ≤ (l.standing j).steps) :
    Work l (l.setTarget j i .dispatched)
  | settle (j i : Nat) (next : TargetState) (h : Settles l.state (l.targetAt j i) next) :
    Work l (l.setTarget j i next)

/-- A step to a new generation: the stages are built anew, and only then the rollout is validated. -/
inductive Renew (l : Lifecycle) : Lifecycle → Prop
  | clear (h : l.state.over = true) : Renew l { l with cursor := 0, stages := [] }
  | grow (s : StageStanding) (h : l.state = .created ∨ l.state.over = true)
    (h' : ∀ s' ∈ s :: l.stages, s'.Untouched) : Renew l { l with stages := l.stages ++ [s] }
  | validated (h : l.state.over = true) (h' : ∀ s ∈ l.stages, s.Untouched) :
    Renew l { l with state := .validated }

def Step (l l' : Lifecycle) : Prop := Work l l' ∨ Renew l l'

/-! ## What the machine keeps -/

variable {l l' : Lifecycle}

theorem undone_of_legal {s next : RolloutState} (hs : s.undone = true)
    (h : s.legalTransition next = true) : next.undone = true := by
  cases s <;> cases next <;> simp_all [RolloutState.undone, RolloutState.legalTransition]

theorem not_working_of_undone {s : RolloutState} (hs : s.undone = true) : s.working = false := by
  cases s <;> first | rfl | cases hs

theorem standing_modify (l : Lifecycle) (j j' : Nat) (f : StageStanding → StageStanding) :
    standing { l with stages := l.stages.modify j f } j'
      = if j = j' ∧ j < l.stages.length then f (l.standing j) else l.standing j' := by
  simp only [standing, List.getD_eq_getElem?_getD, List.getElem?_modify]
  by_cases hj : j = j'
  · subst hj
    by_cases hlt : j < l.stages.length <;> simp [hlt]
  · simp [hj]

theorem targetAt_setStage (l : Lifecycle) (j : Nat) (next : StageState) (j' i : Nat) :
    (l.setStage j next).targetAt j' i = l.targetAt j' i := by
  unfold targetAt setStage
  rw [standing_modify]
  split
  · next h => rw [h.1]
  · rfl

/-- A target's state is only changed where it is set. -/
theorem targetAt_setTarget (l : Lifecycle) (j i : Nat) (next : TargetState) (j' i' : Nat) :
    (l.setTarget j i next).targetAt j' i' = l.targetAt j' i'
      ∨ (l.setTarget j i next).targetAt j' i' = next := by
  unfold targetAt setTarget
  rw [standing_modify]
  split
  · next h =>
    rw [h.1]
    simp only [List.getD_eq_getElem?_getD, List.getElem?_modify]
    by_cases hi : i = i'
    · cases (l.standing j').targets[i']? <;> simp [hi]
    · simp [hi]
  · exact .inl rfl

theorem setTarget_same {l : Lifecycle} {j i : Nat} {next : TargetState}
    (h : l.targetAt j i = next) : l.setTarget j i next = l := by
  have htargets (s : StageStanding) (hs : l.stages[j]? = some s) :
      (s.targets.modify i fun _ => next) = s.targets := by
    apply List.ext_getElem?
    intro m
    rw [List.getElem?_modify]
    by_cases hm : i = m
    · subst hm
      simp only [targetAt, standing, List.getD_eq_getElem?_getD, hs, Option.getD_some] at h
      cases ht : s.targets[i]? with
      | none => rfl
      | some t =>
        rw [ht, Option.getD_some] at h
        simp [h]
    · simp [hm]
  have hstages : (l.stages.modify j fun s =>
      { s with targets := s.targets.modify i fun _ => next }) = l.stages := by
    apply List.ext_getElem?
    intro n
    rw [List.getElem?_modify]
    by_cases hn : j = n
    · subst hn
      cases hs : l.stages[j]? with
      | none => rfl
      | some s => simp [htargets s hs]
    · simp [hn]
  unfold setTarget
  rw [hstages]

/-- A step within a generation leaves the declarations of the stages alone. -/
theorem Work.steps (h : Work l l') (j : Nat) : (l'.standing j).steps = (l.standing j).steps := by
  have hmodify (j' : Nat) {f : StageStanding → StageStanding} (hf : ∀ s, (f s).steps = s.steps) :
      (standing { l with stages := l.stages.modify j' f } j).steps = (l.standing j).steps := by
    rw [standing_modify]
    split
    · next h => rw [hf, h.1]
    · rfl
  cases h with
  | stage j' next => exact hmodify j' fun _ => rfl
  | dispatch i => exact hmodify _ fun _ => rfl
  | wrap j' i => exact hmodify j' fun _ => rfl
  | settle j' i next => exact hmodify j' fun _ => rfl
  | _ => rfl

/-- Nothing but a dispatch leads a target to `dispatched`. -/
theorem Settles.not_dispatched {state : RolloutState} {t next : TargetState}
    (h : Settles state t next) : next ≠ .dispatched := by
  rintro rfl
  cases h with
  | ended t next ht hnext => rcases hnext with h | h <;> cases h
  | undone t next hnext => rcases hnext with h | h <;> cases h

/-- A rollout that is undone stays undone, and starts no work. -/
theorem Work.undone (h : Work l l') (hl : l.state.undone = true) (hshort : l.Short) :
    l'.state.undone = true ∧ ∀ j i, l'.targetAt j i = .dispatched → l.targetAt j i = .dispatched := by
  cases h with
  | enter next hlegal => exact ⟨undone_of_legal hl hlegal, fun j i h => h⟩
  | stage j next => exact ⟨hl, fun j' i h => (l.targetAt_setStage j next j' i).symm.trans h⟩
  | skip => exact ⟨hl, fun j i h => h⟩
  | dispatch i hworking =>
    rw [not_working_of_undone hl] at hworking
    cases hworking
  | wrap j i _ hlong => exact absurd (hshort j) (Nat.not_lt.2 hlong)
  | settle j i next hsettles =>
    refine ⟨hl, fun j' i' hdispatched => ?_⟩
    rcases l.targetAt_setTarget j i next j' i' with heq | heq
    · exact heq.symm.trans hdispatched
    · exact absurd (heq.symm.trans hdispatched) hsettles.not_dispatched

/-- From retired nothing but retired is reached. -/
theorem Step.retired (h : Step l l') (hl : l.state = .retired) : l'.state = .retired := by
  rcases h with h | h
  · cases h with
    | enter next hlegal =>
      rw [hl] at hlegal
      cases hlegal
    | _ => exact hl
  · cases h with
    | clear h => exact hl
    | grow => exact hl
    | validated h =>
      rw [hl] at h
      cases h

end Lifecycle

/-! ## Rollouts run the machine -/

namespace RolloutCore

def lifecycle (r : RolloutCore) : Lifecycle where
  state := r.state
  cursor := r.cursor
  stages := r.stages.map fun s => {
    state := s.state
    steps := s.policy.compensationActions.length
    targets := s.targets.map TargetCore.state }

variable (r : RolloutCore)

theorem lifecycle_standing (j : Nat) : r.lifecycle.standing j = {
    state := (r.stageAt j).state
    steps := (r.stageAt j).policy.compensationActions.length
    targets := (r.stageAt j).targets.map TargetCore.state } := by
  simp only [Lifecycle.standing, lifecycle, stageAt, List.getD_eq_getElem?_getD, List.getElem?_map]
  cases r.stages[j]? <;> rfl

theorem lifecycle_stageAt (j : Nat) : r.lifecycle.stageAt j = (r.stageAt j).state := by
  rw [Lifecycle.stageAt, lifecycle_standing]

theorem lifecycle_targetAt (j i : Nat) : r.lifecycle.targetAt j i = (r.targetAt j i).state := by
  rw [Lifecycle.targetAt, lifecycle_standing]
  simp only [targetAt, StageCore.targetAt, List.getD_eq_getElem?_getD, List.getElem?_map]
  cases (r.stageAt j).targets[i]? <;> rfl

theorem map_modify {α β : Type} {g : α → β} {f : α → α} {f' : β → β} (h : ∀ a, g (f a) = f' (g a))
    (l : List α) (i : Nat) : (l.modify i f).map g = (l.map g).modify i f' := by
  apply List.ext_getElem?
  intro n
  simp only [List.getElem?_map, List.getElem?_modify]
  by_cases hn : i = n <;> cases l[n]? <;> simp [hn, h]

theorem lifecycle_stage (j : Nat) {f : StageCore → StageCore} {next : StageState}
    (hf : ∀ s, (f s).state = next ∧ (f s).policy = s.policy ∧ (f s).targets = s.targets) :
    (r.modifyStage j f).lifecycle = r.lifecycle.setStage j next := by
  simp only [lifecycle, modifyStage, Lifecycle.setStage, Lifecycle.mk.injEq, true_and]
  exact map_modify (fun s => by rw [(hf s).1, (hf s).2.1, (hf s).2.2]) _ _

theorem lifecycle_stage_same (j : Nat) {f : StageCore → StageCore}
    (hf : ∀ s, (f s).state = s.state ∧ (f s).policy = s.policy ∧ (f s).targets = s.targets) :
    (r.modifyStage j f).lifecycle = r.lifecycle := by
  simp only [lifecycle, modifyStage, Lifecycle.mk.injEq, true_and]
  exact map_modify_same (fun s => by rw [(hf s).1, (hf s).2.1, (hf s).2.2]) _ _

theorem lifecycle_target (j i : Nat) {f : TargetCore → TargetCore} {next : TargetState}
    (hstate : ∀ t, (f t).state = next) :
    (r.modifyTarget j i f).lifecycle = r.lifecycle.setTarget j i next := by
  simp only [lifecycle, modifyTarget, modifyStage, Lifecycle.setTarget, Lifecycle.mk.injEq, true_and]
  have htargets (s : StageCore) : (s.targets.modify i f).map TargetCore.state
      = (s.targets.map TargetCore.state).modify i fun _ => next := map_modify hstate _ _
  exact map_modify (fun s => by rw [htargets]) _ _

theorem lifecycle_target_same (j i : Nat) {f : TargetCore → TargetCore}
    (hstate : ∀ t, (f t).state = t.state) : (r.modifyTarget j i f).lifecycle = r.lifecycle := by
  simp only [lifecycle, modifyTarget, modifyStage, Lifecycle.mk.injEq, true_and]
  refine map_modify_same (fun s => ?_) _ _
  rw [map_modify_same hstate]

end RolloutCore

section Acts

variable {a : Act} {v : View}

theorem assigns_settles {c : Core} {j i : Nat} {t : TargetCore} {record : Option EvidenceRecord}
    (h : Assigns c j i t record) :
    Lifecycle.Settles c.rollout.state (c.rollout.targetAt j i).state t.state := by
  cases h with
  | retry h => rw [h]; exact .retried
  | exhaust h => rw [h]; exact .exhausted
  | expire state h hs =>
    rw [h]
    rcases hs with rfl | rfl
    · exact .cancelled _
    · exact .ended _ _ (by decide) (.inr rfl)
  | cancelled => exact .cancelled _
  | acknowledged => exact .cancelled _
  | succeed _ _ _ _ _ _ _ hs => exact .ended _ _ hs (.inl rfl)
  | fail _ _ _ _ _ hs => exact .ended _ _ hs (.inr rfl)
  | rolledBack => exact .undone _ _ (.inl rfl)
  | rollbackFailed => exact .undone _ _ (.inr rfl)
  | mark h hr => exact .undoing _ h hr
  | abandon => exact .undone _ _ (.inr rfl)
  | release _ _ _ h => exact .released _ h
  | lose h => rw [h]; exact .lost

theorem stageEntry_allows {c : Core} {j : Nat} {next : StageState} (h : StageEntry env c j next) :
    c.rollout.lifecycle.Allows j next := by
  cases next <;> first | trivial | exact h | exact ⟨h.1, h.2.1⟩

theorem wraps_of_due {c : Core} {j i : Nat} {attempt : Attempt} {step : UInt32}
    (h : Due c j i attempt step) (hstep : step = 0) :
    2 ^ 32 ≤ (c.rollout.lifecycle.standing j).steps := by
  rw [RolloutCore.lifecycle_standing]
  have hwrap := h.step_eq
  obtain ⟨hlt, -⟩ := List.getElem?_eq_some_iff.1 h.action
  generalize (c.rollout.targetAt j i).rollbackStep = n at hwrap hlt
  have hn : (n + 1).toNat = 0 := by
    rw [← hwrap, hstep]
    rfl
  rw [UInt32.toNat_add] at hn
  have hbound := n.toNat_lt
  change (n.toNat + 1) % 2 ^ 32 = 0 at hn
  show 2 ^ 32 ≤ (c.rollout.stageAt j).policy.compensationActions.length
  omega

/-- An act on a rollout that builds nothing is a step of its lifecycle, or none. -/
theorem Act.works (hg : a.Guard env v.core) (ha : a.renews = false) :
    (a.run v).rollout.lifecycle = v.rollout.lifecycle
      ∨ Lifecycle.Work v.rollout.lifecycle (a.run v).rollout.lifecycle := by
  have hstage (j : Nat) : v.rollout.lifecycle.stageAt j = (v.rollout.stageAt j).state :=
    v.rollout.lifecycle_stageAt j
  have htarget (j i : Nat) : v.rollout.lifecycle.targetAt j i = (v.rollout.targetAt j i).state :=
    v.rollout.lifecycle_targetAt j i
  cases a with
  | enter next => exact .inr (.enter next hg.1)
  | stage j next =>
    refine .inr ?_
    rw [show ((Act.stage j next).run v).rollout.lifecycle = v.rollout.lifecycle.setStage j next from
      v.rollout.lifecycle_stage j fun _ => ⟨rfl, rfl, rfl⟩]
    exact .stage j next (hstage j ▸ hg.1) (stageEntry_allows hg.2)
  | pickUp j entryGate =>
    obtain ⟨harmed, -, -, -⟩ := hg
    refine .inr ?_
    rw [show ((Act.pickUp j entryGate).run v).rollout.lifecycle
      = v.rollout.lifecycle.setStage j .running from
        v.rollout.lifecycle_stage j fun _ => ⟨rfl, rfl, rfl⟩]
    refine .stage j .running ?_ trivial
    rw [hstage j, show (v.rollout.stageAt j).state = .armed from harmed]
    rfl
  -- a gate that the stage may not move to changes no state
  | gate j id kind =>
    dsimp only [run]
    split
    · next hlegal =>
      refine .inr ?_
      have hgated := v.rollout.lifecycle_stage j
        (f := fun s => { s with state := .gated, pendingGate := id, pendingGateKind := kind })
        fun _ => ⟨rfl, rfl, rfl⟩
      exact hgated ▸ .stage j .gated (hstage j ▸ hlegal) trivial
    · exact .inl (v.rollout.lifecycle_stage_same j fun _ => ⟨rfl, rfl, rfl⟩)
  | approve j => exact .inl (v.rollout.lifecycle_stage_same j fun _ => ⟨rfl, rfl, rfl⟩)
  | skip =>
    refine .inr (.skip ?_)
    rw [hstage]
    exact hg
  | offer j i id => exact .inl (v.rollout.lifecycle_target_same j i fun _ => rfl)
  -- a first step forward dispatches; a compensation may wrap to the first step
  | dispatch j i attempt step =>
    obtain ⟨-, -, -, -, -, hwhen⟩ := hg
    have hrun : ((Act.dispatch j i attempt step).run v).rollout.lifecycle
        = v.rollout.lifecycle.setTarget j i (if step = 0 then .dispatched else .rollingBack) :=
      v.rollout.lifecycle_target j i fun _ => rfl
    rw [hrun]
    rcases hwhen with ⟨rfl, hroom⟩ | hdue
    · refine .inr ?_
      rw [if_pos rfl, ← hroom.current]
      refine .dispatch i hroom.working ?_ ?_
      · rw [hstage]
        exact hroom.current ▸ hroom.stage
      · rw [htarget]
        exact hroom.current ▸ hroom.idle
    · by_cases hstep : step = 0
      · rw [if_pos hstep]
        exact .inr (.wrap j i hdue.rolling (wraps_of_due hdue hstep))
      · -- a compensation step leaves its target rolling back
        rw [if_neg hstep]
        exact .inl (Lifecycle.setTarget_same ((htarget j i).trans hdue.target))
  | observe record now j i => exact .inl (v.rollout.lifecycle_target_same j i fun _ => rfl)
  | assign j i t record =>
    refine .inr ?_
    rw [show ((Act.assign j i t record).run v).rollout.lifecycle
      = v.rollout.lifecycle.setTarget j i t.state from v.rollout.lifecycle_target j i fun _ => rfl]
    refine .settle j i t.state ?_
    rw [htarget]
    exact assigns_settles hg
  | alter j i t =>
    refine .inl ?_
    rw [show ((Act.alter j i t).run v).rollout.lifecycle
      = v.rollout.lifecycle.setTarget j i t.state from v.rollout.lifecycle_target j i fun _ => rfl]
    refine Lifecycle.setTarget_same ?_
    rw [htarget]
    cases hg <;> rfl
  | regenerate | grow | revalidate => cases ha
  | _ => exact .inl rfl

theorem fresh_untouched {s : StageCore} (h : s.Fresh) : StageStanding.Untouched {
    state := s.state
    steps := s.policy.compensationActions.length
    targets := s.targets.map TargetCore.state } := by
  refine ⟨h.state, fun t ht => ?_⟩
  obtain ⟨target, htarget, rfl⟩ := List.mem_map.1 ht
  exact (h.targets target htarget).1

/-- The acts that build a generation are steps to one. -/
theorem Act.renew (hg : a.Guard env v.core) (ha : a.renews = true) :
    Lifecycle.Renew v.rollout.lifecycle (a.run v).rollout.lifecycle := by
  have huntouched (hfresh : ∀ s ∈ v.rollout.stages, s.Fresh) :
      ∀ s ∈ v.rollout.lifecycle.stages, s.Untouched := by
    intro s hs
    obtain ⟨stage, hstage, rfl⟩ := List.mem_map.1 hs
    exact fresh_untouched (hfresh stage hstage)
  cases a with
  | regenerate generation => exact .clear hg
  | grow s =>
    obtain ⟨hfresh, -, hstate, hstages⟩ := hg
    have hgrow : ((Act.grow s).run v).rollout.lifecycle = { v.rollout.lifecycle with
        stages := v.rollout.lifecycle.stages ++ [{
          state := s.state
          steps := s.policy.compensationActions.length
          targets := s.targets.map TargetCore.state }] } := by
      simp [Act.run, RolloutCore.lifecycle, View.setRollout]
    rw [hgrow]
    refine .grow _ hstate fun s' hs' => ?_
    rcases List.mem_cons.1 hs' with rfl | hs'
    · exact fresh_untouched hfresh
    · exact huntouched hstages s' hs'
  | revalidate =>
    obtain ⟨hover, -, hstages⟩ := hg
    exact .validated hover (huntouched hstages)
  | _ => cases ha

end Acts

/-! ## Runs -/

variable {allowed : Act → Bool} {r r' : RolloutCore}

theorem Follows.lifecycle (h : Follows env allowed r r') :
    Relation.ReflTransGen Lifecycle.Step r.lifecycle r'.lifecycle := by
  induction h with
  | refl => exact .refl
  | tail _ hstep ih =>
    obtain ⟨v, a, -, hg, rfl, rfl⟩ := hstep
    cases ha : a.renews with
    | true => exact ih.tail (.inr (Act.renew hg ha))
    | false =>
      rcases Act.works hg ha with hsame | hwork
      · rw [hsame]
        exact ih
      · exact ih.tail (.inl hwork)

/-- Acts that build nothing keep an undone rollout undone. -/
theorem Follows.undone (h : Follows env allowed r r')
    (hl : ∀ a, allowed a = true → a.renews = false) (hundone : r.state.undone = true)
    (hshort : r.lifecycle.Short) :
    r'.state.undone = true ∧ r'.lifecycle.Short
      ∧ ∀ j i, (r'.targetAt j i).state = .dispatched → (r.targetAt j i).state = .dispatched := by
  induction h with
  | refl => exact ⟨hundone, hshort, fun _ _ h => h⟩
  | tail _ hstep ih =>
    obtain ⟨v, a, ha, hg, rfl, rfl⟩ := hstep
    obtain ⟨hbefore, hlong, hdispatched⟩ := ih
    rcases Act.works hg (hl a ha) with hsame | hwork
    · refine ⟨?_, hsame ▸ hlong, fun j i hji => hdispatched j i ?_⟩
      · rw [show (a.run v).rollout.state = v.rollout.state from congrArg Lifecycle.state hsame]
        exact hbefore
      · rw [← RolloutCore.lifecycle_targetAt, ← hsame, RolloutCore.lifecycle_targetAt]
        exact hji
    · obtain ⟨hafter, hstarted⟩ := hwork.undone hbefore hlong
      refine ⟨hafter, fun j => (hwork.steps j).trans_lt (hlong j), fun j i hji => ?_⟩
      refine hdispatched j i ?_
      rw [← RolloutCore.lifecycle_targetAt]
      refine hstarted j i ?_
      rw [RolloutCore.lifecycle_targetAt]
      exact hji

namespace Orchestrator

variable {o : Orchestrator ρ} {k : Nat}

theorem step_sound (hs : o.sys.Holds (View.Sound env)) (i : Input) :
    (o.step env i).sys.Holds (View.Sound env) := by
  have hreaches : Reaches env false false o.sys (o.step env i).sys :=
    step_reaches hs fun _ => spares_false o
  exact sound_steps hreaches hs

theorem after_lifecycle (hs : o.sys.Holds (View.Sound env)) (hk : k < o.held.length)
    (inputs : List Input) : Relation.ReflTransGen Lifecycle.Step (o.coreAt k).lifecycle
      ((o.after env inputs).coreAt k).lifecycle := by
  induction inputs generalizing o with
  | nil => exact .refl
  | cons i inputs ih =>
    have hmoved := step_moved hs i
    exact (hmoved.follows k hk).lifecycle.trans
      (ih (step_sound hs i) (Nat.lt_of_lt_of_le hk hmoved.length))

/-- A command on one rollout leaves the others as they are. -/
theorem command_coreAt {id : RolloutId} {context : CommandContext}
    {body : ChangePlan → Op ρ Bytes} (hk : k < o.held.length) (hid : (o.coreAt k).id ≠ id) :
    (o.command id context body).2.coreAt k = o.coreAt k := by
  unfold command
  dsimp only
  split
  · rfl
  cases hindex : o.index id with
  | none => rfl
  | some n =>
    dsimp only
    split
    · rfl
    · have hne : n ≠ k := by
        rintro rfl
        exact hid (index_iff.1 hindex).2.1
      rw [coreAt, heldAt_put hne]
      rfl

/-- An input that does not regenerate an undone rollout keeps it undone. -/
theorem step_undone (hs : o.sys.Holds (View.Sound env)) (hk : k < o.held.length) (i : Input)
    (hi : ∀ context, i ≠ .regenerate (o.coreAt k).id context)
    (hundone : (o.coreAt k).state.undone = true) (hshort : (o.coreAt k).lifecycle.Short) :
    ((o.step env i).coreAt k).state.undone = true ∧ ((o.step env i).coreAt k).lifecycle.Short
      ∧ ∀ j x, (((o.step env i).coreAt k).targetAt j x).state = .dispatched →
        ((o.coreAt k).targetAt j x).state = .dispatched := by
  have hfollows := (step_moved hs i).follows k hk
  cases i with
  | regenerate id context =>
    have hne : (o.coreAt k).id ≠ id := by
      rintro rfl
      exact hi context rfl
    have hsame : (o.step env (.regenerate id context)).coreAt k = o.coreAt k :=
      command_coreAt hk hne
    rw [hsame]
    exact ⟨hundone, hshort, fun _ _ h => h⟩
  | _ =>
    refine hfollows.undone (fun a ha => ?_) hundone hshort
    cases a <;> first | rfl | cases ha

theorem after_undone (hs : o.sys.Holds (View.Sound env)) (hk : k < o.held.length)
    (hundone : (o.coreAt k).state.undone = true) (hshort : (o.coreAt k).lifecycle.Short)
    (inputs : List Input) (hinputs : ∀ context, .regenerate (o.coreAt k).id context ∉ inputs) :
    ((o.after env inputs).coreAt k).state.undone = true
      ∧ ∀ j x, (((o.after env inputs).coreAt k).targetAt j x).state = .dispatched →
        ((o.coreAt k).targetAt j x).state = .dispatched := by
  induction inputs generalizing o with
  | nil => exact ⟨hundone, fun _ _ h => h⟩
  | cons i inputs ih =>
    have hmoved := step_moved hs i
    have hid : ((o.step env i).coreAt k).id = (o.coreAt k).id :=
      (hmoved.follows k hk).same fun v a _ _ => a.id_run v
    obtain ⟨hafter, hshort', hstarted⟩ := step_undone hs hk i
      (fun context h => hinputs context (h ▸ List.mem_cons_self ..)) hundone hshort
    obtain ⟨hstays, hlater⟩ := ih (step_sound hs i) (Nat.lt_of_lt_of_le hk hmoved.length)
      hafter hshort' fun context h =>
        hinputs context (List.mem_cons_of_mem _ (hid ▸ h))
    exact ⟨hstays, fun j x h => hstarted j x (hlater j x h)⟩

end Orchestrator

/-! ## A rollout whose targets failed -/

/-- Both targets are dispatched, and fail. -/
def failTwin : List Input :=
  [.create twinPlan {}, .arm twinRollout {}, .start twinRollout {}, .tick,
    .approveGate twinRollout twinGated.pendingGate {}, .tick,
    .onEvidence (twinDispatched.report 0 .executionCompleted .failed),
    .onEvidence (twinDispatched.report 1 .executionCompleted .failed), .tick]

def twinFailed : Orchestrator Unit := twinOrchestrator.after volatileEnv failTwin

theorem twinFailed_run : twinNode.run volatileEnv (failTwin.map .input) = .running twinFailed :=
  Node.run_inputs twinOrchestrator failTwin

theorem twinFailed_undone : 0 < twinFailed.held.length
    ∧ (twinFailed.coreAt 0).state = .rollingBack
    ∧ ∀ s ∈ (twinFailed.coreAt 0).stages, s.policy.compensationActions.length < 2 ^ 32 := by
  decide +kernel

/-! ## Main results -/

section

variable {n : Node ρ} {o : Orchestrator ρ} {k : Nat}

/-- Whatever a controller is told, each of its rollouts runs the lifecycle. -/
theorem runs_lifecycle (hn : n.Initial) (steps : List (Step ρ))
    (ho : n.run env steps = .running o) (hk : k < o.held.length) (inputs : List Input) :
    Relation.ReflTransGen Lifecycle.Step (o.coreAt k).lifecycle
      ((o.after env inputs).coreAt k).lifecycle := by
  have hs : (n.run env steps).sys.Holds (View.Sound env) := sound_of_run hn steps
  rw [ho] at hs
  exact Orchestrator.after_lifecycle hs hk inputs

/-- The failed rollout is retried until it can be given a new generation. -/
theorem twinFailed_lifecycle : Relation.ReflTransGen Lifecycle.Step
    (twinFailed.coreAt 0).lifecycle
    ((twinFailed.after volatileEnv [.tick, .regenerate twinRollout {}]).coreAt 0).lifecycle :=
  runs_lifecycle twinNode_initial _ twinFailed_run twinFailed_undone.1 _

/-- A rollout that is undone stays so until it is regenerated, and starts no forward work: nothing
is dispatched in it that was not. -/
theorem undone_starts_nothing (hn : n.Initial) (steps : List (Step ρ))
    (ho : n.run env steps = .running o) (hk : k < o.held.length)
    (hundone : (o.coreAt k).state.undone = true)
    (hshort : ∀ s ∈ (o.coreAt k).stages, s.policy.compensationActions.length < 2 ^ 32)
    (inputs : List Input) (hinputs : ∀ context, .regenerate (o.coreAt k).id context ∉ inputs) :
    ((o.after env inputs).coreAt k).state.undone = true
      ∧ ∀ j x, (((o.after env inputs).coreAt k).targetAt j x).state = .dispatched →
        ((o.coreAt k).targetAt j x).state = .dispatched := by
  have hs : (n.run env steps).sys.Holds (View.Sound env) := sound_of_run hn steps
  rw [ho] at hs
  refine Orchestrator.after_undone hs hk hundone (fun j => ?_) inputs hinputs
  rw [RolloutCore.lifecycle_standing, RolloutCore.stageAt, List.getD_eq_getElem?_getD]
  cases hstage : (o.coreAt k).stages[j]? with
  | none => decide
  | some s => exact hshort s (List.mem_of_getElem? hstage)

theorem twinFailed_starts_nothing :
    ((twinFailed.after volatileEnv [.resume twinRollout {}, .tick, .tick]).coreAt 0).state.undone = true
      ∧ ∀ j x, (((twinFailed.after volatileEnv
          [.resume twinRollout {}, .tick, .tick]).coreAt 0).targetAt j x).state = .dispatched →
        ((twinFailed.coreAt 0).targetAt j x).state = .dispatched := by
  obtain ⟨hheld, hstate, hshort⟩ := twinFailed_undone
  refine undone_starts_nothing twinNode_initial _ twinFailed_run hheld ?_ hshort _ fun context => ?_
  · rw [hstate]
    rfl
  · simp

end

end RolloutFabric
