/-
What every act keeps: the stages are worked on one at a time and stay tidy, forward work stays on the current stage and within its
limits while no rollback has begun, and a gate that is pending on a soaking stage finds it done.
-/
import RolloutFabric.Orchestrator.Advances

namespace RolloutFabric

variable {ρ : Type} {env : Env ρ}

/-! ## Tidy stages -/

/-- A stage that no gate of the runtime was opened on. -/
def StageState.early : StageState → Bool
  | .pending | .blocked | .armed | .running => true
  | _ => false

structure StageCore.Tidy (s : StageCore) : Prop where
  sorted : s.Sorted
  early : s.state.early = true → s.pendingGate = .nil
  kind : s.pendingGateKind.opened = true

/-- A stage that is being worked on. -/
def StageState.underway : StageState → Bool
  | .armed | .running | .gated | .soaking | .advancing => true
  | _ => false

/-- A stage that was left to an abort or undone. -/
def StageState.givenUp : StageState → Bool
  | .aborted | .rolledBack | .skipped => true
  | _ => false

/-- The place of a stage in a rollout in this state, whose cursor is here. -/
structure StageCore.Ordered (s : StageCore) (state : RolloutState) (cursor j : Nat) : Prop where
  current : s.state.underway = true ∨ s.state = .failed → cursor = j
  past : j < cursor → s.state = .succeeded ∨ s.state = .rolledBack
  intact : state ≠ .aborting → state.undone = false → s.state.givenUp = false

/-- The stages are gone through one at a time, in their order. -/
def RolloutCore.Ordered (r : RolloutCore) : Prop :=
  ∀ j, (r.stageAt j).Ordered r.state r.cursor.toNat j

structure Core.Tidy (c : Core) : Prop where
  stages : ∀ j, (c.rollout.stageAt j).Tidy
  ordered : c.rollout.Ordered
  /-- A pause can be resumed into the state it was made in. -/
  resumes : c.rollout.state = .paused → c.rollout.resumeState.canPause = true
  /-- A rollback that is going on has begun. -/
  begun : c.rollout.state = .rollingBack →
    .rolloutEntered c.rollout.id c.rollout.generation .rollingBack ∈ c.history
  /-- What was applied names an attempt. -/
  named : ∀ record attempt generation current,
    .applied record attempt generation current ∈ c.history → record.attempt ≠ .nil

theorem StageCore.Sorted.default : StageCore.Sorted default := List.Pairwise.nil

theorem StageCore.Tidy.default : StageCore.Tidy default where
  sorted := .default
  early _ := rfl
  kind := rfl

theorem StageCore.Fresh.tidy {s : StageCore} (h : s.Fresh) : s.Tidy where
  sorted := h.sorted
  early _ := h.noGate
  kind := h.kind

theorem StageCore.Ordered.of_pending {s : StageCore} (h : s.state = .pending)
    (state : RolloutState) {cursor : Nat} (hcursor : cursor = 0) (j : Nat) :
    s.Ordered state cursor j := by
  constructor
  · rintro (hs | hs)
    · rw [h] at hs
      cases hs
    · rw [h] at hs
      cases hs
  · omega
  · rw [h]
    exact fun _ _ => rfl

theorem RolloutCore.pending_of_fresh {r : RolloutCore} (h : ∀ s ∈ r.stages, s.Fresh) (k : Nat) :
    (r.stageAt k).state = .pending := by
  by_cases hk : k < r.stages.length
  · refine (h _ ?_).state
    simp only [stageAt, List.getD_eq_getElem?_getD, List.getElem?_eq_getElem hk]
    exact List.getElem_mem hk
  · rw [stageAt_of_le (Nat.le_of_not_lt hk)]
    rfl

/-- Stages that nothing happened to are in order. -/
theorem RolloutCore.ordered_of_fresh {r : RolloutCore} (h : ∀ s ∈ r.stages, s.Fresh)
    (hcursor : r.cursor = 0) : r.Ordered :=
  fun k => .of_pending (pending_of_fresh h k) r.state (by rw [hcursor]; rfl) k

/-- The stages that are there once one was added. -/
theorem Act.fresh_grow {s : StageCore} {c : Core} (hg : (Act.grow s).Guard env c) :
    ∀ s' ∈ c.rollout.stages ++ [s], s'.Fresh := by
  rintro s' hs
  rcases List.mem_append.1 hs with hs | hs
  · exact hg.2.2.2 s' hs
  · rw [List.mem_singleton.1 hs]
    exact hg.1

/-! ## Forward work -/

/-- A stage that forward work may be left on. -/
def StageState.holdsWork : StageState → Bool
  | .running | .soaking | .failed | .aborted => true
  | _ => false

/-- A stage that waits to advance. -/
def StageState.halted : StageState → Bool
  | .gated | .soaking | .advancing => true
  | _ => false

/-- A stage, given that it is the current one or not, on which no rollback has begun. -/
structure StageCore.Placed (s : StageCore) (current : Prop) : Prop where
  busy : s.busy ≠ 0 → current ∧ s.state.holdsWork = true
  forward : ∀ t ∈ s.targets, t.state ≠ .rollingBack
  ahead : s.state ≠ .rolledBack
  pending : s.pendingGate ≠ .nil → s.busy = 0 ∧ (s.state.halted = true → current)
  concurrency : s.busy ≤ s.policy.maxConcurrency.toNat
  perStage : s.busy ≤ s.policy.blastRadius.maxTargetsChangingPerStage.toNat
  overall : s.busy ≤ s.policy.blastRadius.maxTargetsChangingGlobal.toNat

def RolloutCore.Placed (r : RolloutCore) : Prop :=
  ∀ j, (r.stageAt j).Placed (r.cursor.toNat = j)

theorem StageCore.Fresh.placed {s : StageCore} (h : s.Fresh) (current : Prop) :
    s.Placed current := by
  have hbusy : s.busy = 0 := List.countP_eq_zero.2 fun t ht => by simp [(h.targets t ht).1]
  refine ⟨fun hb => absurd hbusy hb, fun t ht => by simp [(h.targets t ht).1], by simp [h.state],
    fun hg => absurd h.noGate hg, ?_, ?_, ?_⟩ <;> omega

theorem StageCore.Placed.default (current : Prop) : StageCore.Placed default current :=
  StageCore.Fresh.placed ⟨rfl, rfl, rfl, .default, fun _ ht => by cases ht⟩ current

namespace StageCore.Placed

variable {s s' : StageCore} {current current' : Prop}

/-- A stage nothing is in flight on keeps its place when the cursor moves. -/
theorem idle (h : s.Placed current) (hbusy : s.busy = 0)
    (hhalted : s.pendingGate ≠ .nil → s.state.halted = true → current') : s.Placed current' where
  busy := fun hb => absurd hbusy hb
  forward := h.forward
  ahead := h.ahead
  pending := fun hg => ⟨hbusy, hhalted hg⟩
  concurrency := h.concurrency
  perStage := h.perStage
  overall := h.overall

/-- The targets may change as long as no more of them are in flight. -/
theorem settle (h : s.Placed current) {targets : List TargetCore}
    (hbusy : StageCore.busy { s with targets } ≤ s.busy)
    (hforward : ∀ t ∈ targets, t.state ≠ .rollingBack) :
    StageCore.Placed { s with targets } current where
  busy := fun hb => h.busy (by omega)
  forward := hforward
  ahead := h.ahead
  pending := fun hg => ⟨Nat.le_zero.1 ((h.pending hg).1 ▸ hbusy), (h.pending hg).2⟩
  concurrency := hbusy.trans h.concurrency
  perStage := hbusy.trans h.perStage
  overall := hbusy.trans h.overall

/-- A stage may leave its state where that strands no work and no gate. -/
theorem enter (h : s.Placed current) {next : StageState} (hahead : next ≠ .rolledBack)
    (hbusy : s.busy ≠ 0 → next.holdsWork = true)
    (hhalted : s.pendingGate ≠ .nil → next.halted = true → current) :
    StageCore.Placed { s with state := next } current where
  busy := fun hb => ⟨(h.busy hb).1, hbusy hb⟩
  forward := h.forward
  ahead := hahead
  pending := fun hg => ⟨(h.pending hg).1, hhalted hg⟩
  concurrency := h.concurrency
  perStage := h.perStage
  overall := h.overall

theorem targetAt (h : s.Placed current) (i : Nat) : (s.targetAt i).state ≠ .rollingBack := by
  by_cases hi : i < s.targets.length
  · exact h.forward _ (targetAt_mem hi)
  · rw [StageCore.targetAt, List.getD_eq_getElem?_getD,
      List.getElem?_eq_none (Nat.le_of_not_lt hi)]
    change TargetState.pending ≠ .rollingBack
    simp

end StageCore.Placed

/-! ## What the acts do to the stages -/

section Stages

variable {r : RolloutCore} {P : Nat → StageCore → Prop} {j i : Nat}

/-- A property of every stage survives the change of one that has it afterwards. -/
theorem forall_modifyStage {f : StageCore → StageCore} (h : ∀ k, P k (r.stageAt k))
    (hf : j < r.stages.length → P j (f (r.stageAt j))) (k : Nat) :
    P k ((r.modifyStage j f).stageAt k) := by
  rw [RolloutCore.stageAt_modifyStage]
  split
  · next hk =>
    obtain ⟨rfl, hj⟩ := hk
    exact hf hj
  · exact h k

theorem forall_modifyTarget {f : TargetCore → TargetCore} (h : ∀ k, P k (r.stageAt k))
    (hf : j < r.stages.length →
      P j { r.stageAt j with targets := (r.stageAt j).targets.modify i f }) (k : Nat) :
    P k ((r.modifyTarget j i f).stageAt k) :=
  forall_modifyStage h hf k

theorem forall_grow {s : StageCore} (hd : ∀ k, P k default) (h : ∀ k, P k (r.stageAt k))
    (hs : ∀ k, P k s) (k : Nat) :
    P k (RolloutCore.stageAt { r with stages := r.stages ++ [s] } k) := by
  simp only [RolloutCore.stageAt, List.getD_eq_getElem?_getD]
  rcases Nat.lt_trichotomy k r.stages.length with hk | rfl | hk
  · rw [List.getElem?_append_left hk]
    simpa [RolloutCore.stageAt, hk] using h k
  · simpa using hs r.stages.length
  · rw [List.getElem?_eq_none (by simp; omega)]
    exact hd k

end Stages

theorem StageCore.Tidy.targets {s : StageCore} (h : s.Tidy) {targets : List TargetCore}
    (hids : targets.map TargetCore.target = s.targets.map TargetCore.target) :
    StageCore.Tidy { s with targets } := by
  refine ⟨?_, h.early, h.kind⟩
  rw [Sorted, hids]
  exact h.sorted

theorem StageCore.Tidy.enter {s : StageCore} (h : s.Tidy) {next : StageState}
    (hn : next.early = true → s.pendingGate = .nil) : StageCore.Tidy { s with state := next } :=
  ⟨h.sorted, hn, h.kind⟩

/-- What was logged stays logged. -/
theorem Act.history_after (a : Act) (c : Core) : ∃ l, (a.after c).history = c.history ++ l := by
  cases a with
  | gate j id kind =>
    rw [after_gate]
    split
    · exact ⟨_, rfl⟩
    · exact ⟨[], (List.append_nil _).symm⟩
  | dispatch j i attempt step =>
    exact ⟨_, List.append_assoc ..⟩
  | _ => first | exact ⟨_, rfl⟩ | exact ⟨[], (List.append_nil _).symm⟩

theorem Act.mem_history_after {a : Act} {c : Core} {e : Event} (h : e ∈ c.history) :
    e ∈ (a.after c).history := by
  obtain ⟨l, hl⟩ := a.history_after c
  rw [hl]
  exact List.mem_append_left _ h

/-! ## Tidiness is kept -/

section Kept

variable {c : Core} {j i : Nat} {t : TargetCore}

theorem StageCore.ids_modify {s : StageCore} (h : t.target = (s.targetAt i).target) :
    (s.targets.modify i fun _ => t).map TargetCore.target
      = s.targets.map TargetCore.target := by
  apply List.ext_getElem?
  intro n
  simp only [List.getElem?_map, List.getElem?_modify]
  by_cases hn : i = n
  · subst hn
    cases hx : s.targets[i]? with
    | none => rfl
    | some x => simp [h, StageCore.targetAt, hx]
  · simp [hn]

theorem Assigns.target_eq {record : Option EvidenceRecord} (h : Assigns c j i t record) :
    t.target = (c.rollout.targetAt j i).target := by
  cases h <;> rfl

theorem Alters.target_eq (h : Alters c j i t) : t.target = (c.rollout.targetAt j i).target := by
  cases h <;> rfl

theorem Alters.state_eq (h : Alters c j i t) : t.state = (c.rollout.targetAt j i).state := by
  cases h <;> rfl

theorem StopsAt.opened {kind : GateKind} {stage : StageRuntime} {now : Timestamp}
    (h : StopsAt env c j kind stage now) : kind.opened = true := by
  rcases h.manual with ⟨rfl, -⟩ | ⟨rfl, -⟩ <;> rfl

/-- The legal ways to an early state start at one, but for the start of a stage. -/
theorem StageState.early_of_legal {s next : StageState} (h : s.legalTransition next = true)
    (hn : next.early = true) : s.early = true ∨ next = .running := by
  cases s <;> cases next <;> simp_all [legalTransition, early]

theorem Alters.currentAttempt (h : Alters c j i t) : t.currentAttempt = .nil
    ∨ t.currentAttempt = (c.rollout.targetAt j i).currentAttempt := by
  cases h with
  | step => exact .inr rfl
  | _ => exact .inl rfl

theorem tidyStages_after {a : Act} (hw : a.isWrite = false) (hg : a.Guard env c)
    (h : ∀ k, (c.rollout.stageAt k).Tidy) : ∀ k, ((a.after c).rollout.stageAt k).Tidy := by
  cases a with
  | append => cases hw
  | latch => cases hw
  | stage j next =>
    refine forall_modifyStage h fun _ => (h j).enter fun hn => ?_
    -- an early stage was early before, or is pending again
    rcases StageState.early_of_legal hg.1 hn with hearly | rfl
    · exact (h j).early hearly
    · exact hg.2.1
  | pickUp j entryGate =>
    exact forall_modifyStage h fun _ => (h j).enter fun _ => (h j).early (by rw [hg.1]; rfl)
  | gate j id kind =>
    obtain ⟨-, -, hkind⟩ := hg
    have hopened : kind.opened = true := by
      rcases hkind with ⟨rfl, -⟩ | ⟨-, -, stage, now, hstops⟩
      · rfl
      · exact hstops.opened
    rw [Act.after_gate]
    split
    · exact forall_modifyStage h fun _ => ⟨(h j).sorted, fun he => (by cases he), hopened⟩
    -- a gate that is only noted belongs to a stage that is not early
    · next hillegal =>
      refine forall_modifyStage h fun _ => ⟨(h j).sorted, fun he => ?_, hopened⟩
      rcases hkind with ⟨-, hstate⟩ | ⟨hactive, -⟩
      · exact absurd (by rw [hstate]; rfl) hillegal
      · change (c.rollout.stageAt j).state.early = true at he
        revert hactive hillegal he
        cases (c.rollout.stageAt j).state <;>
          simp [StageState.active, StageState.early, StageState.legalTransition]
  | approve j => exact forall_modifyStage h fun _ => ⟨(h j).sorted, fun _ => rfl, (h j).kind⟩
  | offer j i id =>
    refine forall_modifyTarget h fun _ => (h j).targets (map_modify_same (h := ?_) ..)
    exact fun _ => rfl
  | observe record now j i =>
    refine forall_modifyTarget h fun _ => (h j).targets (map_modify_same (h := ?_) ..)
    exact fun _ => rfl
  | dispatch j i attempt step =>
    refine forall_modifyTarget h fun _ => (h j).targets (map_modify_same (h := ?_) ..)
    exact fun _ => rfl
  | assign j i t record =>
    exact forall_modifyTarget h fun _ => (h j).targets (StageCore.ids_modify hg.target_eq)
  | alter j i t =>
    exact forall_modifyTarget h fun _ => (h j).targets (StageCore.ids_modify hg.target_eq)
  | regenerate generation => exact fun _ => .default
  | grow s => exact forall_grow (fun _ => .default) h fun _ => hg.1.tidy
  | _ => exact h

theorem begun_after {a : Act} (hg : a.Guard env c)
    (h : c.rollout.state = .rollingBack →
      .rolloutEntered c.rollout.id c.rollout.generation .rollingBack ∈ c.history)
    (hr : (a.after c).rollout.state = .rollingBack) :
    .rolloutEntered (a.after c).rollout.id (a.after c).rollout.generation .rollingBack
      ∈ (a.after c).history := by
  have hold := fun hr => Act.mem_history_after (a := a) (h hr)
  cases a with
  | enter next =>
    change next = .rollingBack at hr
    subst hr
    exact List.mem_append_right _ (List.mem_singleton_self _)
  | gate j id kind =>
    rw [Act.after_gate] at hr hold ⊢
    split at hr <;> split <;> simp_all [RolloutCore.modifyStage]
  | regenerate generation =>
    change c.rollout.state = .rollingBack at hr
    simp [Act.Guard, hr, RolloutState.over] at hg
  | revalidate => cases hr
  | _ => exact hold hr

theorem named_after {a : Act} (hg : a.Guard env c)
    (h : ∀ record attempt generation current,
      .applied record attempt generation current ∈ c.history → record.attempt ≠ .nil)
    (record : EvidenceRecord) (attempt : Attempt) (generation : GenerationId)
    (current : AttemptId) (hmem : .applied record attempt generation current ∈ (a.after c).history) :
    record.attempt ≠ .nil := by
  cases a with
  | apply record' j i attempt' =>
    rcases List.mem_append.1 hmem with hold | hnew
    · exact h _ _ _ _ hold
    · simp only [List.mem_singleton, Event.applied.injEq] at hnew
      rw [hnew.1]
      exact hg.named
  | gate j id kind =>
    rw [Act.after_gate] at hmem
    split at hmem
    · exact h _ _ _ _ (by simpa using hmem)
    · exact h _ _ _ _ hmem
  | _ => exact h _ _ _ _ (by simpa [Act.after, Act.run, View.log, View.setRollout,
      View.setAttempt, View.setFailing] using hmem)

theorem RolloutState.undone_of_legal {s next : RolloutState} (h : s.legalTransition next = true)
    (hn : next.undone = false) : s.undone = false := by
  cases s <;> cases next <;> simp_all [legalTransition, undone]

/-- Only an undone rollout comes out of an abort. -/
theorem RolloutState.undone_of_aborting {next : RolloutState}
    (h : RolloutState.aborting.legalTransition next = true) : next.undone = true := by
  cases next <;> simp_all [legalTransition, undone]

/-- The legal ways into work, but for its start, start at work. -/
theorem StageState.underway_of_legal {s next : StageState} (h : s.legalTransition next = true)
    (hn : next.underway = true ∨ next = .failed) :
    s.underway = true ∨ next = .armed ∨ next = .gated := by
  revert h hn
  cases s <;> cases next <;> simp [legalTransition, underway]

/-- What is over leaves its state only to be rolled back. -/
theorem StageState.rolledBack_of_legal {s next : StageState} (h : s.legalTransition next = true)
    (hs : s = .succeeded ∨ s = .rolledBack) : next = .rolledBack := by
  revert h
  rcases hs with rfl | rfl <;> cases next <;> simp [legalTransition]

theorem StageCore.Ordered.enter {next : StageState}
    (h : (c.rollout.stageAt j).Ordered c.rollout.state c.rollout.cursor.toNat j)
    (hlegal : (c.rollout.stageAt j).state.legalTransition next = true)
    (hentry : StageEntry env c j next) :
    StageCore.Ordered { c.rollout.stageAt j with state := next } c.rollout.state
      c.rollout.cursor.toNat j where
  current := fun hn => by
    rcases StageState.underway_of_legal hlegal hn with hs | rfl | rfl
    · exact h.current (.inl hs)
    · exact hentry.1
    · exact False.elim hentry
  past := fun hpast => .inr (StageState.rolledBack_of_legal hlegal (h.past hpast))
  intact := fun haborting hundone => by
    cases next with
    | aborted => exact absurd hentry haborting
    | skipped => exact absurd hentry haborting
    | rolledBack =>
      rw [show c.rollout.state = .rollingBack from hentry] at hundone
      cases hundone
    | _ => rfl

/-- The stage a cursor leaves behind succeeded. -/
theorem RolloutCore.Ordered.skipped (h : c.rollout.Ordered) (hg : Act.skip.Guard env c) :
    (c.rollout.stageAt c.rollout.cursor.toNat).state = .succeeded := by
  rcases hg with hdone | ⟨hworking, hgiven⟩
  · exact hdone
  · have hintact := (h c.rollout.cursor.toNat).intact
    revert hworking hgiven hintact
    cases c.rollout.state <;>
      simp [RolloutState.working, RolloutState.undone] <;>
      rintro (h | h) <;> rw [h] <;> simp [StageState.givenUp]

theorem ordered_after {a : Act} (hw : a.isWrite = false) (hg : a.Guard env c)
    (h : c.rollout.Ordered) : (a.after c).rollout.Ordered := by
  have hmodify {j : Nat} {f : StageCore → StageCore} := forall_modifyStage
    (P := fun k (s : StageCore) => s.Ordered c.rollout.state c.rollout.cursor.toNat k)
    (j := j) (f := f) h
  cases a with
  | append => cases hw
  | latch => cases hw
  | enter next =>
    refine fun k => ⟨(h k).current, (h k).past, fun _ hn => (h k).intact ?_ ?_⟩
    · intro haborting
      have hundone := RolloutState.undone_of_aborting (haborting ▸ hg.1)
      rw [show next.undone = false from hn] at hundone
      cases hundone
    · exact RolloutState.undone_of_legal hg.1 hn
  | stage j next => exact hmodify fun _ => (h j).enter hg.1 hg.2
  | pickUp j entryGate =>
    refine hmodify fun _ => ⟨fun _ => hg.2.1, fun hpast => ?_, fun _ _ => rfl⟩
    exact absurd hg.2.1 (by omega)
  | gate j id kind =>
    rw [Act.after_gate]
    split
    · refine hmodify fun _ => ⟨fun _ => hg.1, fun hpast => ?_, fun _ _ => rfl⟩
      exact absurd hg.1 (by omega)
    · exact hmodify fun _ => ⟨(h j).current, (h j).past, (h j).intact⟩
  | approve j => exact hmodify fun _ => ⟨(h j).current, (h j).past, (h j).intact⟩
  -- the cursor wraps like its counter, so it moves on by one or back to the start
  | skip =>
    have hdone := h.skipped hg
    have hnext : (c.rollout.cursor + 1).toNat = (c.rollout.cursor.toNat + 1) % 2 ^ 32 :=
      UInt32.toNat_add ..
    refine fun k => ⟨fun hk => ?_, fun hk => ?_, (h k).intact⟩
    · have hat := (h k).current hk
      subst hat
      change (c.rollout.stageAt _).state.underway = true ∨ (c.rollout.stageAt _).state = _ at hk
      rw [hdone] at hk
      rcases hk with hk | hk <;> cases hk
    · change k < (c.rollout.cursor + 1).toNat at hk
      have hle := Nat.mod_le (c.rollout.cursor.toNat + 1) (2 ^ 32)
      rcases Nat.lt_or_eq_of_le (show k ≤ c.rollout.cursor.toNat by omega) with hlt | rfl
      · exact (h k).past hlt
      · exact .inl hdone
  | offer j i id => exact hmodify fun _ => ⟨(h j).current, (h j).past, (h j).intact⟩
  | observe record now j i => exact hmodify fun _ => ⟨(h j).current, (h j).past, (h j).intact⟩
  | dispatch j i attempt step => exact hmodify fun _ => ⟨(h j).current, (h j).past, (h j).intact⟩
  | assign j i t record => exact hmodify fun _ => ⟨(h j).current, (h j).past, (h j).intact⟩
  | alter j i t => exact hmodify fun _ => ⟨(h j).current, (h j).past, (h j).intact⟩
  | regenerate generation => exact fun k => .of_pending rfl _ rfl k
  | grow s => exact RolloutCore.ordered_of_fresh (Act.fresh_grow hg) hg.2.1
  | revalidate => exact RolloutCore.ordered_of_fresh hg.2.2 hg.2.1
  | _ => exact h

theorem resumes_after {a : Act} (hg : a.Guard env c)
    (h : c.rollout.state = .paused → c.rollout.resumeState.canPause = true)
    (hp : (a.after c).rollout.state = .paused) :
    (a.after c).rollout.resumeState.canPause = true := by
  cases a with
  | enter next => exact hg.2 hp
  | park previous => exact hg
  | gate j id kind =>
    rw [Act.after_gate] at hp ⊢
    split at hp
    · next hlegal =>
      rw [if_pos hlegal]
      exact h hp
    · next hillegal =>
      rw [if_neg hillegal]
      exact h hp
  | revalidate => cases hp
  | _ => exact h hp

theorem tidy_after (a : Act) (c : Core) (hw : a.isWrite = false) (hg : a.Guard env c)
    (h : c.Tidy) : (a.after c).Tidy where
  stages := tidyStages_after hw hg h.stages
  ordered := ordered_after hw hg h.ordered
  resumes := resumes_after hg h.resumes
  begun := begun_after hg h.begun
  named := named_after hg h.named

end Kept

/-! ## Forward work is kept in place -/

section Placed

variable {c : Core} {j i : Nat} {t : TargetCore}

theorem Core.Tidy.not_calm (h : c.Tidy) (hr : c.rollout.state = .rollingBack) : ¬ c.Calm := by
  rintro (hu | hn)
  · rw [hr] at hu
    cases hu
  · exact hn (h.begun hr)

/-- The acts a new generation is made of. -/
def Act.renews : Act → Bool
  | .regenerate .. | .grow .. | .revalidate => true
  | _ => false

/-- Only a new generation calms a rollout. -/
theorem calm_before {a : Act} (ha : a.renews = false) (hg : a.Guard env c)
    (h : (a.after c).Calm) : c.Calm := by
  have hkeep (hid : (a.after c).rollout.id = c.rollout.id)
      (hgen : (a.after c).rollout.generation = c.rollout.generation)
      (hs : (a.after c).rollout.state.undone = false → c.rollout.state.undone = false) : c.Calm := by
    refine h.imp hs fun hn hmem => hn ?_
    rw [hid, hgen]
    exact Act.mem_history_after hmem
  cases a with
  | enter next => exact hkeep rfl rfl (RolloutState.undone_of_legal hg.1)
  | gate j id kind =>
    have hroll : ((Act.gate j id kind).after c).rollout.state = c.rollout.state
        ∧ ((Act.gate j id kind).after c).rollout.id = c.rollout.id
        ∧ ((Act.gate j id kind).after c).rollout.generation = c.rollout.generation := by
      rw [Act.after_gate]
      split <;> exact ⟨rfl, rfl, rfl⟩
    exact hkeep hroll.2.1 hroll.2.2 (hroll.1 ▸ fun h => h)
  | regenerate => cases ha
  | grow => cases ha
  | revalidate => cases ha
  | _ => exact hkeep rfl rfl fun h => h

theorem countP_modify_const_le {α : Type} {p : α → Bool} {a : α} {l : List α} {n : Nat}
    (h : p a = true → ∀ b, l[n]? = some b → p b = true) :
    (l.modify n fun _ => a).countP p ≤ l.countP p := by
  induction l generalizing n with
  | nil => simp
  | cons b l ih =>
    cases n with
    | zero =>
      have := fun hp => h hp b rfl
      simp only [List.modify_zero_cons, List.countP_cons]
      split <;> split <;> simp_all
    | succ n =>
      have := ih (n := n) fun hp b hb => h hp b hb
      simp only [List.modify_succ_cons, List.countP_cons]
      omega

theorem StageCore.busy_modify_le {s : StageCore}
    (h : t.state = .dispatched ∨ t.state = .unknown →
      (s.targetAt i).state = .dispatched ∨ (s.targetAt i).state = .unknown) :
    StageCore.busy { s with targets := s.targets.modify i fun _ => t } ≤ s.busy := by
  refine countP_modify_const_le fun hp b hb => ?_
  have hat : s.targetAt i = b := by simp [StageCore.targetAt, hb]
  simp only [Bool.or_eq_true, beq_iff_eq] at hp ⊢
  exact hat ▸ h hp

theorem mem_of_mem_modify {α : Type} {f : α → α} {x : α} {l : List α} {n : Nat}
    (h : x ∈ l.modify n f) : x ∈ l ∨ ∃ y ∈ l, l[n]? = some y ∧ x = f y := by
  obtain ⟨m, hm⟩ := List.mem_iff_getElem?.1 h
  rw [List.getElem?_modify, Option.map_eq_map, Option.map_eq_some_iff] at hm
  obtain ⟨b, hb, hx⟩ := hm
  have hmem := List.mem_of_getElem? hb
  split at hx
  · next hn => exact .inr ⟨b, hmem, hn ▸ hb, hx.symm⟩
  · exact .inl (hx ▸ hmem)

/-- A stage keeps its place when a target of it settles. -/
theorem StageCore.Placed.assign {s : StageCore} {current : Prop} (h : s.Placed current)
    (hbusy : t.state = .dispatched ∨ t.state = .unknown →
      (s.targetAt i).state = .dispatched ∨ (s.targetAt i).state = .unknown)
    (hforward : t.state ≠ .rollingBack) :
    StageCore.Placed { s with targets := s.targets.modify i fun _ => t } current := by
  refine h.settle (StageCore.busy_modify_le hbusy) fun x hx => ?_
  rcases mem_of_mem_modify hx with hmem | ⟨_, -, -, rfl⟩
  · exact h.forward x hmem
  · exact hforward

/-- Only compensation marks a target for a rollback, and nothing is dispatched by assignment. -/
theorem Assigns.forward {record : Option EvidenceRecord} (h : Assigns c j i t record)
    (hr : c.rollout.state ≠ .rollingBack) : t.state ≠ .rollingBack
      ∧ (t.state = .dispatched ∨ t.state = .unknown →
        (c.rollout.targetAt j i).state = .dispatched
          ∨ (c.rollout.targetAt j i).state = .unknown) := by
  cases h with
  | expire state h hs => rcases hs with rfl | rfl <;> simp
  | mark _ hrolling => exact absurd hrolling hr
  | lose h => simp [h]
  | _ => simp

theorem StageCore.busy_le_changing (s : StageCore) : s.busy ≤ s.changing := by
  refine List.countP_mono_left fun t _ h => ?_
  simp only [Bool.or_eq_true, beq_iff_eq] at h
  rcases h with h | h <;> simp [h, TargetState.countsAsChanging]

theorem RolloutCore.stage_changing_le (r : RolloutCore) (j : Nat) :
    (r.stageAt j).changing ≤ r.changing := by
  by_cases hj : j < r.stages.length
  · refine List.le_sum_of_mem (List.mem_map_of_mem ?_)
    simp only [stageAt, List.getD_eq_getElem?_getD, List.getElem?_eq_getElem hj]
    exact List.getElem_mem hj
  · rw [stageAt_of_le (Nat.le_of_not_lt hj)]
    exact Nat.zero_le _

theorem placed_after {a : Act} (hw : a.isWrite = false) (hg : a.Guard env c) (ht : c.Tidy)
    (h : c.Calm → c.rollout.Placed) (hcalm : (a.after c).Calm) : (a.after c).rollout.Placed := by
  cases ha : a.renews with
  -- what replaces the stages leaves fresh ones, and those are placed wherever the cursor is
  | true =>
    have hfresh (hs : ∀ s ∈ c.rollout.stages, s.Fresh) : c.rollout.Placed := by
      intro k
      by_cases hk : k < c.rollout.stages.length
      · refine (hs _ ?_).placed _
        simp only [RolloutCore.stageAt, List.getD_eq_getElem?_getD, List.getElem?_eq_getElem hk]
        exact List.getElem_mem hk
      · rw [RolloutCore.stageAt_of_le (Nat.le_of_not_lt hk)]
        exact .default _
    cases a with
    | regenerate generation => exact fun k => .default _
    | grow s =>
      exact forall_grow (P := fun k (s : StageCore) => s.Placed (c.rollout.cursor.toNat = k))
        (fun k => .default _) (hfresh hg.2.2.2) fun k => hg.1.placed _
    | revalidate => exact hfresh hg.2.2
    | _ => cases ha
  | false =>
  -- the act leaves the rollout calm, so it was calm before and the invariant held
  have hbefore := calm_before ha hg hcalm
  have hp := h hbefore
  have hnot := fun hr => ht.not_calm hr hbefore
  have hmodify {j : Nat} {f : StageCore → StageCore} := forall_modifyStage
    (P := fun k (s : StageCore) => s.Placed (c.rollout.cursor.toNat = k)) (j := j) (f := f) hp
  cases a with
  | append => cases hw
  | latch => cases hw
  -- the guard keeps a busy stage from leaving the states that hold work
  | stage j next =>
    obtain ⟨hlegal, hentry⟩ := hg
    refine hmodify fun _ => (hp j).enter ?_ (fun hb => ?_) fun hgate hh => ?_
    · rintro rfl
      exact hnot hentry
    · have hstate := ((hp j).busy hb).2
      cases next with
      | advancing => exact absurd (hentry.1 hbefore).1 hb
      | succeeded => exact absurd (hentry.1 hbefore).1 hb
      | gated => exact absurd hentry id
      | rolledBack => exact absurd hentry hnot
      | _ =>
        revert hstate hlegal
        cases (c.rollout.stageAt j).state <;>
          simp [StageState.holdsWork, StageState.legalTransition]
    · cases next with
      | gated => exact absurd hentry id
      | advancing => exact (hentry.1 hbefore).2
      | soaking =>
        refine absurd ((ht.stages j).early ?_) hgate
        revert hlegal
        cases (c.rollout.stageAt j).state <;> simp [StageState.early, StageState.legalTransition]
      | _ => cases hh
  | pickUp j entryGate =>
    exact hmodify fun _ => (hp j).enter (by simp) (fun _ => rfl) fun _ hh => by cases hh
  -- a gate opens on a stage with no work: an armed one, or one whose targets all ended
  | gate j id kind =>
    have hbusy : (c.rollout.stageAt j).busy = 0 := by
      rcases hg.2.2 with ⟨-, harmed⟩ | ⟨-, hterminal, -⟩
      · by_contra hb
        have := ((hp j).busy hb).2
        rw [harmed] at this
        cases this
      · exact hterminal.busy
    have hj := hp j
    rw [Act.after_gate]
    split
    · refine hmodify fun _ => ?_
      exact ⟨fun hb => absurd hbusy hb, hj.forward, by simp, fun _ => ⟨hbusy, fun _ => hg.1⟩,
        hj.concurrency, hj.perStage, hj.overall⟩
    · refine hmodify fun _ => ?_
      exact ⟨hj.busy, hj.forward, hj.ahead, fun _ => ⟨hbusy, fun _ => hg.1⟩,
        hj.concurrency, hj.perStage, hj.overall⟩
  | approve j =>
    have hj := hp j
    exact hmodify fun _ => ⟨hj.busy, hj.forward, hj.ahead, fun hn => absurd rfl hn,
        hj.concurrency, hj.perStage, hj.overall⟩
  | skip =>
    have hdone := ht.ordered.skipped hg
    intro k
    refine (hp k).idle ?_ fun hgate hh => ?_
    · by_contra hb
      obtain ⟨rfl, hstate⟩ := (hp k).busy hb
      rw [hdone] at hstate
      cases hstate
    · obtain rfl := ((hp k).pending hgate).2 hh
      rw [hdone] at hh
      cases hh
  | offer j i id =>
    refine hmodify fun _ => (hp j).settle (Nat.le_of_eq ?_) fun x hx => ?_
    · refine countP_modify_same (h := ?_) ..
      exact fun _ => rfl
    · rcases mem_of_mem_modify hx with hmem | ⟨y, hy, -, rfl⟩
      · exact (hp j).forward x hmem
      · exact (hp j).forward y hy
  | observe record now j i =>
    refine hmodify fun _ => (hp j).settle (Nat.le_of_eq ?_) fun x hx => ?_
    · refine countP_modify_same (h := ?_) ..
      exact fun _ => rfl
    · rcases mem_of_mem_modify hx with hmem | ⟨y, hy, -, rfl⟩
      · exact (hp j).forward x hmem
      · exact (hp j).forward y hy
  -- a calm rollout dispatches forward, so the room it was given bounds what changes
  | dispatch j i attempt step =>
    obtain ⟨-, -, -, -, -, hpermits⟩ := hg
    obtain ⟨rfl, hroom⟩ := hpermits.resolve_right fun hdue => hnot hdue.rolling
    have hj := hp j
    refine hmodify fun _ => ?_
    have hbusy {f : TargetCore → TargetCore} : StageCore.busy { c.rollout.stageAt j with
        targets := (c.rollout.stageAt j).targets.modify i f } ≤ (c.rollout.stageAt j).changing + 1 :=
      (countP_modify_le ..).trans (Nat.succ_le_succ (StageCore.busy_le_changing _))
    have hoverall := c.rollout.stage_changing_le j
    refine ⟨fun _ => ⟨hroom.current, ?_⟩, fun x hx => ?_, hj.ahead,
      fun hgate => absurd hroom.noGate hgate, hbusy.trans hroom.concurrency,
      hbusy.trans hroom.perStage, hbusy.trans ?_⟩
    · have hactive := hroom.stage
      change (c.rollout.stageAt j).state.holdsWork = true
      revert hactive
      cases (c.rollout.stageAt j).state <;> simp [StageState.active, StageState.holdsWork]
    · rcases mem_of_mem_modify hx with hmem | ⟨y, hy, -, rfl⟩
      · exact hj.forward x hmem
      · simp
    · exact Nat.lt_of_le_of_lt hoverall hroom.overall
  -- a target that is assigned a state goes forward and takes no new slot
  | assign j i t record =>
    obtain ⟨hforward, hbusy⟩ := Assigns.forward hg hnot
    exact hmodify fun _ => (hp j).assign hbusy hforward
  | alter j i t =>
    have hstate := Alters.state_eq hg
    refine hmodify fun _ => (hp j).assign (fun h => hstate ▸ h) ?_
    rw [hstate]
    exact (hp j).targetAt i
  | regenerate => cases ha
  | grow => cases ha
  | revalidate => cases ha
  | _ => exact hp

end Placed

/-! ## A gate on a soaking stage -/

/-- A gate is pending on the stage, which could not be gated. -/
def StageCore.Stuck (s : StageCore) : Prop := s.state = .soaking ∧ s.pendingGate ≠ .nil

/-- The targets of a stuck stage are done; strictly, no attempt is left that could undo that. -/
def Core.Rests (strict : Bool) (c : Core) : Prop :=
  c.rollout.state.undone = false → ∀ j, (c.rollout.stageAt j).Stuck →
    (c.rollout.stageAt j).Terminal
      ∧ (strict = true → ∀ t ∈ (c.rollout.stageAt j).targets, t.currentAttempt = .nil)
      ∧ ∀ i, c.failing ≠ some (j, i)

theorem Core.Rests.weaken {c : Core} {strict : Bool} (h : c.Rests strict) : c.Rests false :=
  fun hu j hj => ⟨(h hu j hj).1, fun hs => (by cases hs), (h hu j hj).2.2⟩

section Rests

variable {c : Core} {j i : Nat} {t : TargetCore} {strict : Bool}

theorem StageCore.Fresh.not_stuck {s : StageCore} (h : s.Fresh) : ¬ s.Stuck :=
  fun hs => hs.2 h.noGate

theorem StageCore.Terminal.targetAt {s : StageCore} (h : s.Terminal) (i : Nat) :
    (s.targetAt i).state = .pending ∨ (s.targetAt i).state.isTerminal = true := by
  by_cases hi : i < s.targets.length
  · exact .inr (h _ (targetAt_mem hi))
  · rw [StageCore.targetAt, List.getD_eq_getElem?_getD,
      List.getElem?_eq_none (Nat.le_of_not_lt hi)]
    exact .inl rfl

theorem StageCore.currentAttempt_nil {s : StageCore}
    (h : ∀ t ∈ s.targets, t.currentAttempt = .nil) (i : Nat) :
    (s.targetAt i).currentAttempt = .nil := by
  by_cases hi : i < s.targets.length
  · exact h _ (targetAt_mem hi)
  · rw [targetAt, List.getD_eq_getElem?_getD, List.getElem?_eq_none (Nat.le_of_not_lt hi)]
    rfl

/-- What can still be assigned to a target of a stage that is done. -/
theorem Assigns.rests {record : Option EvidenceRecord} (h : Assigns c j i t record) (ht : c.Tidy)
    (hu : c.rollout.state.undone = false) (hterminal : (c.rollout.stageAt j).Terminal)
    (hclosed : record ≠ none → ∀ t ∈ (c.rollout.stageAt j).targets, t.currentAttempt = .nil)
    (hidle : c.failing ≠ some (j, i)) :
    t.state.isTerminal = true ∧ t.state ≠ .failed
      ∧ (t.currentAttempt = .nil ∨ t.currentAttempt = (c.rollout.targetAt j i).currentAttempt) := by
  have hstate := hterminal.targetAt i
  change (c.rollout.targetAt j i).state = _ ∨ (c.rollout.targetAt j i).state.isTerminal = _
    at hstate
  have hnamed {record : EvidenceRecord} {attempt : Attempt} (ha : Applies c record j i attempt)
      (hcur : (c.rollout.targetAt j i).currentAttempt = record.attempt)
      (hclosed : ∀ t ∈ (c.rollout.stageAt j).targets, t.currentAttempt = .nil) : False := by
    obtain ⟨-, -, hist, current, hlog, -⟩ := ha
    refine ht.named record attempt c.rollout.generation current ?_
      (hcur.symm.trans (StageCore.currentAttempt_nil hclosed i))
    rw [hlog]
    exact List.mem_append_right _ (List.mem_singleton_self _)
  cases h with
  | retry _ hf => exact absurd hf hidle
  | exhaust _ hf => exact absurd hf hidle
  | expire _ h => simp [h, TargetState.isTerminal] at hstate
  | acknowledged _ _ _ h => rcases h with h | h <;> simp [h, TargetState.isTerminal] at hstate
  | succeed _ _ ha _ hcur => exact (hnamed ha hcur (hclosed (by simp))).elim
  | fail _ _ ha _ hcur => exact (hnamed ha hcur (hclosed (by simp))).elim
  | mark _ hr => rw [hr] at hu; cases hu
  | abandon _ hr => rw [hr] at hu; cases hu
  | release _ _ _ h => rcases h with h | h <;> simp [h, TargetState.isTerminal] at hstate
  | lose h => simp [h, TargetState.isTerminal] at hstate
  | cancelled => exact ⟨rfl, by simp, .inr rfl⟩
  | rolledBack => exact ⟨rfl, by simp, .inl rfl⟩
  | rollbackFailed => exact ⟨rfl, by simp, .inl rfl⟩

/-- Stages that are stuck and done stay so when one stage changes that is not stuck. -/
theorem Core.Rests.modifyStage {f : StageCore → StageCore} {c' : Core} (h : c.Rests strict)
    (hroll : c'.rollout = c.rollout.modifyStage j f) (hf : ¬ (f (c.rollout.stageAt j)).Stuck)
    (hfailing : c'.failing = c.failing) : c'.Rests strict := by
  intro hu k hk
  rw [hroll, RolloutCore.stageAt_modifyStage] at hk ⊢
  rw [hroll] at hu
  rw [hfailing]
  split at hk
  · next hjk => exact absurd hk (hjk.1 ▸ hf)
  · next hjk =>
    rw [if_neg hjk]
    exact h hu k hk

/-- Stuck stages are not touched, or what is put there is done. -/
theorem Core.Rests.modifyTarget {f : TargetCore → TargetCore} {c' : Core} (h : c.Rests strict)
    (hroll : c'.rollout = c.rollout.modifyTarget j i f)
    (hf : c.rollout.state.undone = false → (c.rollout.stageAt j).Stuck →
      (∀ t ∈ (c.rollout.stageAt j).targets.modify i f, t.state.isTerminal = true
        ∧ (strict = true → t.currentAttempt = .nil)) ∧ ∀ i, c'.failing ≠ some (j, i))
    (hfailing : ∀ k i, c'.failing = some (k, i) → k = j ∨ c.failing = some (k, i)) :
    c'.Rests strict := by
  intro hu k hk
  rw [hroll, RolloutCore.modifyTarget, RolloutCore.stageAt_modifyStage] at hk ⊢
  rw [hroll] at hu
  split at hk
  · next hjk =>
    obtain ⟨rfl, hj⟩ := hjk
    obtain ⟨hall, hidle⟩ := hf hu hk
    rw [if_pos ⟨rfl, hj⟩]
    exact ⟨fun t ht => (hall t ht).1, fun hs t ht => (hall t ht).2 hs, hidle⟩
  · next hjk =>
    rw [if_neg hjk]
    obtain ⟨hterminal, hclosed, hidle⟩ := h hu k hk
    refine ⟨hterminal, hclosed, fun n hn => ?_⟩
    rcases hfailing k n hn with rfl | hold
    · by_cases hlt : k < c.rollout.stages.length
      · exact hjk ⟨rfl, hlt⟩
      · refine hk.2 ?_
        rw [RolloutCore.stageAt_of_le (Nat.le_of_not_lt hlt)]
        rfl
    · exact hidle n hold

theorem rests_after {a : Act} (hw : a.isWrite = false) (hg : a.Guard env c) (ht : c.Tidy)
    (hgate : strict = true → ∀ j id kind, a = .gate j id kind →
      (c.rollout.stageAt j).state.legalTransition .gated = true)
    (hsettle : strict = false → ∀ j i t record, a ≠ .assign j i t (some record))
    (h : c.Rests strict) : (a.after c).Rests strict := by
  have hsame (c' : Core) (hr : c'.rollout.stages = c.rollout.stages)
      (hu : c'.rollout.state.undone = false → c.rollout.state.undone = false)
      (hf : c'.failing = c.failing) : c'.Rests strict := by
    intro hu' k hk
    rw [RolloutCore.stageAt, hr] at hk ⊢
    rw [hf]
    exact h (hu hu') k hk
  have hfresh (hs : ∀ s ∈ c.rollout.stages, s.Fresh) (k : Nat) :
      ¬ (c.rollout.stageAt k).Stuck := by
    by_cases hk : k < c.rollout.stages.length
    · refine (hs _ ?_).not_stuck
      simp only [RolloutCore.stageAt, List.getD_eq_getElem?_getD, List.getElem?_eq_getElem hk]
      exact List.getElem_mem hk
    · rw [RolloutCore.stageAt_of_le (Nat.le_of_not_lt hk)]
      exact fun hs => hs.2 rfl
  cases a with
  | append => cases hw
  | latch => cases hw
  | enter next => exact hsame _ rfl (RolloutState.undone_of_legal hg.1) rfl
  -- only a pending gate makes the stage stuck, and no early stage has one
  | stage j next =>
    refine h.modifyStage rfl (fun hs => ?_) rfl
    obtain ⟨rfl, hgate⟩ := hs
    refine hgate ((ht.stages j).early ?_)
    have hlegal := hg.1
    revert hlegal
    cases (c.rollout.stageAt j).state <;> simp [StageState.early, StageState.legalTransition]
  | pickUp j entryGate => exact h.modifyStage rfl (fun hs => by cases hs.1) rfl
  -- the gate is moved to or only noted; what is only noted had ended before
  | gate j id kind =>
    rw [Act.after_gate]
    split
    · exact h.modifyStage rfl (fun hs => by cases hs.1) rfl
    · next hillegal =>
      cases strict with
      | true => exact absurd (hgate rfl j id kind rfl) hillegal
      | false =>
      intro hu k hk
      change (RolloutCore.stageAt (c.rollout.modifyStage j _) k).Stuck at hk
      change (RolloutCore.stageAt (c.rollout.modifyStage j _) k).Terminal ∧ _
      rw [RolloutCore.stageAt_modifyStage] at hk ⊢
      split at hk
      · next hjk =>
        rw [if_pos hjk]
        obtain ⟨rfl, -⟩ := hjk
        obtain ⟨-, hidle, hkind⟩ := hg
        rcases hkind with ⟨-, harmed⟩ | ⟨-, hterminal, -⟩
        · exact absurd (by rw [harmed]; rfl) hillegal
        · exact ⟨hterminal, fun hs => (by cases hs), fun i hi => by
            rw [show c.failing = some (j, i) from hi] at hidle; cases hidle⟩
      · next hjk =>
        rw [if_neg hjk]
        exact ⟨(h hu k hk).1, fun hs => (by cases hs), (h hu k hk).2.2⟩
  | approve j => exact h.modifyStage rfl (fun hs => hs.2 rfl) rfl
  | offer j i id =>
    refine h.modifyTarget rfl (fun hu hs => ⟨fun x hx => ?_, (h hu j hs).2.2⟩) fun k n hn => .inr hn
    obtain ⟨hterminal, hclosed, -⟩ := h hu j hs
    rcases mem_of_mem_modify hx with hmem | ⟨y, hy, -, rfl⟩
    · exact ⟨hterminal x hmem, fun hs => hclosed hs x hmem⟩
    · exact ⟨hterminal y hy, fun hs => hclosed hs y hy⟩
  | observe record now j i =>
    refine h.modifyTarget rfl (fun hu hs => ⟨fun x hx => ?_, (h hu j hs).2.2⟩) fun k n hn => .inr hn
    obtain ⟨hterminal, hclosed, -⟩ := h hu j hs
    rcases mem_of_mem_modify hx with hmem | ⟨y, hy, -, rfl⟩
    · exact ⟨hterminal x hmem, fun hs => hclosed hs x hmem⟩
    · exact ⟨hterminal y hy, fun hs => hclosed hs y hy⟩
  -- room to dispatch means no gate, and a compensation means the rollout is undone
  | dispatch j i attempt step =>
    obtain ⟨-, -, -, -, -, hpermits⟩ := hg
    refine h.modifyTarget rfl (fun hu hs => ?_) fun k n hn => by cases hn
    rcases hpermits with ⟨-, hroom⟩ | hdue
    · exact absurd hroom.noGate hs.2
    · rw [hdue.rolling] at hu
      cases hu
  -- a stuck stage has ended, so its targets keep their ends and none of them fails
  | assign j i t record =>
    refine h.modifyTarget rfl (fun hu hs => ?_) fun k n hn => ?_
    · obtain ⟨hterminal, hclosed, hidle⟩ := h hu j hs
      have hstrict : record ≠ none → strict = true := by
        intro hsome
        cases hstrict : strict with
        | true => rfl
        | false =>
          obtain ⟨record, rfl⟩ := Option.ne_none_iff_exists'.1 hsome
          exact absurd rfl (hsettle hstrict j i t record)
      obtain ⟨hdone, hfailed, hcurrent⟩ := Assigns.rests hg ht hu hterminal
        (fun hsome => hclosed (hstrict hsome)) (hidle i)
      refine ⟨fun x hx => ?_, fun n hn => ?_⟩
      · rcases mem_of_mem_modify hx with hmem | ⟨_, -, -, rfl⟩
        · exact ⟨hterminal x hmem, fun hs => hclosed hs x hmem⟩
        · refine ⟨hdone, fun hs => ?_⟩
          rcases hcurrent with hnil | hsame
          · exact hnil
          · rw [hsame]
            exact StageCore.currentAttempt_nil (hclosed hs) i
      · change (if t.state = .failed then some (j, i) else none) = some (j, n) at hn
        rw [if_neg hfailed] at hn
        cases hn
    · change (if t.state = .failed then some (j, i) else none) = some (k, n) at hn
      split at hn
      · cases hn
        exact .inl rfl
      · cases hn
  -- an alteration keeps the state, and at most forgets the current attempt
  | alter j i t =>
    refine h.modifyTarget rfl (fun hu hs => ⟨fun x hx => ?_, (h hu j hs).2.2⟩) fun k n hn => .inr hn
    obtain ⟨hterminal, hclosed, -⟩ := h hu j hs
    rcases mem_of_mem_modify hx with hmem | ⟨y, hy, hget, rfl⟩
    · exact ⟨hterminal x hmem, fun hs => hclosed hs x hmem⟩
    · have hat : c.rollout.targetAt j i = y := by
        simp [RolloutCore.targetAt, StageCore.targetAt, hget]
      rw [Alters.state_eq hg, hat]
      refine ⟨hterminal y hy, fun hs => ?_⟩
      rcases Alters.currentAttempt hg with hnil | hsame
      · exact hnil
      · rw [hsame, hat]
        exact hclosed hs y hy
  | regenerate generation => exact fun _ k hk => absurd rfl hk.2
  | grow s =>
    intro _ k hk
    refine absurd hk (forall_grow (P := fun _ (s : StageCore) => ¬ s.Stuck) (fun _ hs => hs.2 rfl)
      (hfresh hg.2.2.2) (fun _ => hg.1.not_stuck) k)
  | revalidate => exact fun _ k hk => absurd hk (hfresh hg.2.2 k)
  | _ => exact hsame _ rfl id rfl

end Rests

/-! ## Order -/

/-- What holds of a rollout at any time. -/
structure View.Orderly (v : View) : Prop where
  tidy : v.core.Tidy
  placed : v.core.Calm → v.rollout.Placed
  rests : v.storageFailed = true ∨ v.core.Rests true

theorem RolloutState.working_calm {s : RolloutState} (h : s.working = true) : s.undone = false := by
  cases s <;> simp_all [working, undone]

theorem ready_of_rests {c : Core} {strict : Bool} (ht : c.Tidy)
    (hp : c.Calm → c.rollout.Placed) (hr : c.Rests strict) (hf : c.failing = none) : Ready c where
  idle := hf
  sorted := fun j => (ht.stages j).sorted
  early := fun j hstate => (ht.stages j).early (by rw [hstate]; rfl)
  advancing := fun j _ hworking hstate => by
    by_contra hb
    have := ((hp (.inl (RolloutState.working_calm hworking)) j).busy hb).2
    rw [hstate] at this
    cases this
  gate := fun j hworking hactive => by
    by_cases hgate : (c.rollout.stageAt j).pendingGate = .nil
    · exact .inl hgate
    · refine .inr (hr (RolloutState.working_calm hworking) j ⟨?_, hgate⟩).1
      have hearly := mt (ht.stages j).early hgate
      revert hactive hearly
      cases (c.rollout.stageAt j).state <;> simp [StageState.active, StageState.early]

/-- The gate that cannot be opened gives up the storage. -/
theorem storageFailed_gate {v : View} {j : Nat} {id : GateId} {kind : GateKind}
    (h : ¬ (v.rollout.stageAt j).state.legalTransition .gated = true) :
    ((Act.gate j id kind).run v).storageFailed = true := by
  rw [Act.run, if_neg h]

theorem storageFailed_run {a : Act} {v : View} (h : v.storageFailed = true) :
    (a.run v).storageFailed = true := by
  cases a with
  | latch => rfl
  | gate j id kind =>
    rw [Act.run]
    split
    · exact h
    · rfl
  | _ => exact h

theorem orderly_run {a : Act} {v : View} (hg : a.Guard env v.core) (h : v.Orderly) :
    (a.run v).Orderly := by
  cases hw : a.isWrite with
  | true =>
    have hcore := Act.core_run_write hw v
    refine ⟨hcore ▸ h.tidy, fun hcalm => ?_, ?_⟩
    · have hroll : (a.run v).rollout = v.rollout := congrArg Core.rollout hcore
      rw [hcore] at hcalm
      exact hroll ▸ h.placed hcalm
    · rw [hcore]
      exact h.rests.imp_left storageFailed_run
  | false =>
    have hcore := Act.core_run hw v
    refine ⟨hcore ▸ tidy_after a v.core hw hg h.tidy, fun hcalm => ?_, ?_⟩
    · have hroll : (a.run v).rollout = (a.after v.core).rollout := congrArg Core.rollout hcore
      rw [hcore] at hcalm
      exact hroll ▸ placed_after hw hg h.tidy h.placed hcalm
    · rcases h.rests with hfailed | hrests
      · exact .inl (storageFailed_run hfailed)
      · by_cases hgate : ∃ j id kind, a = .gate j id kind
            ∧ ¬ (v.rollout.stageAt j).state.legalTransition .gated = true
        · obtain ⟨j, id, kind, rfl, hillegal⟩ := hgate
          exact .inl (storageFailed_gate hillegal)
        · right
          rw [hcore]
          refine rests_after hw hg h.tidy (fun _ j id kind ha => ?_) (fun hs => by cases hs) hrests
          by_contra hillegal
          exact hgate ⟨j, id, kind, ha, hillegal⟩

end RolloutFabric
