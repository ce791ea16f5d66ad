/-
Stages run one at a time, in the order of the plan: in every state that a run reaches, crashes and
restarts included, the cursor is on the only stage that is worked on and behind it everything
succeeded or was rolled back, and a stage is armed only after every stage before it succeeded.
-/
import RolloutFabric.Safety.Concurrency
import RolloutFabric.Orchestrator.Turns

namespace RolloutFabric

variable {ρ : Type} {env : Env ρ} {allowed : Act → Bool} {r r' : RolloutCore} {v : View} {a : Act}

/-! ## One stage at a time -/

/-- The only stage that is worked on is at the cursor, and those before it are done. -/
structure Rollout.OneAtATime (r : Rollout) : Prop where
  current : ∀ j, (r.stageAt j).state.underway = true → r.cursor.toNat = j
  alone : ∀ j k, (r.stageAt j).state.underway = true → (r.stageAt k).state.underway = true → j = k
  past : ∀ j, j < r.cursor.toNat →
    (r.stageAt j).state = .succeeded ∨ (r.stageAt j).state = .rolledBack

theorem Rollout.state_core (r : Rollout) (j : Nat) :
    (r.core.stageAt j).state = (r.stageAt j).state :=
  (congrArg StageCore.state (r.core_stageAt j)).symm

theorem Rollout.oneAtATime_of_ordered {r : Rollout} (h : r.core.Ordered) : r.OneAtATime := by
  have hcurrent (j : Nat) (hj : (r.stageAt j).state.underway = true) : r.cursor.toNat = j :=
    (h j).current (.inl (by rw [r.state_core]; exact hj))
  refine ⟨hcurrent, fun j k hj hk => ?_, fun j hj => ?_⟩
  · rw [← hcurrent j hj, hcurrent k hk]
  · have hpast := (h j).past hj
    rw [r.state_core] at hpast
    exact hpast

/-! ## Arming a stage -/

/-- It is the turn of a stage: every stage before it succeeded, and every predecessor of it. -/
structure RolloutCore.TurnOf (r : RolloutCore) (j : Nat) : Prop where
  earlier : ∀ k, k < j → (r.stageAt k).state = .succeeded
  predecessors : ∀ id ∈ (r.stageAt j).predecessors, ∃ p, r.findStage id = some p
    ∧ (r.stageAt p).state = .succeeded

/-- While the stages are worked on in order, what is over succeeded. -/
theorem RolloutCore.Ordered.succeeded (h : r.Ordered) (hworking : r.state.working = true) {j : Nat}
    (hj : r.cursor.toNat ≠ j) (hover : (r.stageAt j).state.isTerminal = true) :
    (r.stageAt j).state = .succeeded := by
  have hcurrent := mt (h j).current hj
  have hintact : (r.stageAt j).state.givenUp = false := by
    refine (h j).intact ?_ (RolloutState.working_calm hworking)
    rintro haborting
    rw [haborting] at hworking
    cases hworking
  revert hcurrent hintact hover
  cases (r.stageAt j).state <;>
    simp [StageState.underway, StageState.givenUp, StageState.isTerminal]

/-- What arms a pending stage finds that it is its turn. -/
theorem RolloutCore.Ordered.turnOf {c : Core} (h : c.rollout.Ordered) {j : Nat}
    (hpending : (c.rollout.stageAt j).state = .pending) (hentry : StageEntry env c j .armed) :
    c.rollout.TurnOf j := by
  obtain ⟨hcursor, hworking, hover⟩ := hentry
  constructor
  · rintro k hk
    have hpast := (h k).past (by omega)
    refine h.succeeded hworking (by omega) ?_
    rcases hpast with hs | hs
    · rw [hs]
      rfl
    · rw [hs]
      rfl
  · rintro id hid
    obtain ⟨p, hfind, hp⟩ := hover id hid
    refine ⟨p, hfind, h.succeeded hworking ?_ hp⟩
    rintro rfl
    rw [hcursor, hpending] at hp
    cases hp

theorem RolloutCore.state_modifyStage (r : RolloutCore) (j : Nat) {f : StageCore → StageCore}
    (hf : ∀ s, (f s).state = s.state) (k : Nat) :
    ((r.modifyStage j f).stageAt k).state = (r.stageAt k).state := by
  rw [stageAt_modifyStage]
  split
  · exact hf _
  · rfl

/-- Only a transition arms a stage. -/
theorem Act.arms_run (hg : a.Guard env v.core) {j : Nat}
    (hpending : (v.rollout.stageAt j).state = .pending)
    (harmed : ((a.run v).rollout.stageAt j).state = .armed) : StageEntry env v.core j .armed := by
  -- an act that keeps the states of stages arms none
  have hsame {f : StageCore → StageCore} {n : Nat}
      (h : ((v.rollout.modifyStage n f).stageAt j).state = .armed)
      (hf : ∀ s, (f s).state = s.state) : False := by
    rw [v.rollout.state_modifyStage n hf, hpending] at h
    cases h
  -- nor does one that moves a stage to another state
  have hother {f : StageCore → StageCore} {n : Nat} {next : StageState}
      (h : ((v.rollout.modifyStage n f).stageAt j).state = .armed) (hne : next ≠ .armed)
      (hf : ∀ s, (f s).state = next) : False := by
    rw [RolloutCore.stageAt_modifyStage] at h
    split at h
    · exact hne ((hf _).symm.trans h)
    · rw [hpending] at h
      cases h
  cases a with
  | stage n next =>
    change ((v.rollout.modifyStage n _).stageAt j).state = .armed at harmed
    rw [RolloutCore.stageAt_modifyStage] at harmed
    split at harmed
    · next hn =>
      obtain ⟨rfl, -⟩ := hn
      obtain rfl : next = .armed := harmed
      exact hg.2
    · rw [hpending] at harmed
      cases harmed
  | pickUp n g => exact (hother harmed (by simp) fun _ => rfl).elim
  | gate n id kind =>
    dsimp only [run] at harmed
    split at harmed
    · exact (hother harmed (by simp) fun _ => rfl).elim
    · exact (hsame harmed fun _ => rfl).elim
  | approve n => exact (hsame harmed fun _ => rfl).elim
  | offer n i id => exact (hsame harmed fun _ => rfl).elim
  | observe record now n i => exact (hsame harmed fun _ => rfl).elim
  | dispatch n i attempt step => exact (hsame harmed fun _ => rfl).elim
  | assign n i t record => exact (hsame harmed fun _ => rfl).elim
  | alter n i t => exact (hsame harmed fun _ => rfl).elim
  | regenerate generation => cases harmed
  | grow s =>
    have hpending' : ((Act.run v (.grow s)).rollout.stageAt j).state = .pending :=
      RolloutCore.pending_of_fresh (Act.fresh_grow hg) j
    rw [hpending'] at harmed
    cases harmed
  | _ =>
    change (v.rollout.stageAt j).state = .armed at harmed
    rw [hpending] at harmed
    cases harmed

/-- One act on a rollout, which arms a stage only when it is its turn. -/
structure ArmsInTurn (env : Env ρ) (allowed : Act → Bool) (r r' : RolloutCore) : Prop where
  act : ∃ v a, allowed a = true ∧ a.Guard env v.core ∧ v.rollout = r ∧ (a.run v).rollout = r'
  turn : ∀ j, (r.stageAt j).state = .pending → (r'.stageAt j).state = .armed → r.TurnOf j

theorem ordered_run (hg : a.Guard env v.core) (h : v.rollout.Ordered) :
    (a.run v).rollout.Ordered := by
  change (a.run v).core.rollout.Ordered
  cases hw : a.isWrite with
  | true =>
    rw [Act.core_run_write hw]
    exact h
  | false =>
    rw [Act.core_run hw]
    exact ordered_after hw hg h

/-- Acts on a rollout whose stages are in order arm them in turn. -/
theorem Follows.armsInTurn (hf : Follows env allowed r r') (h : r.Ordered) :
    Relation.ReflTransGen (ArmsInTurn env allowed) r r' ∧ r'.Ordered := by
  induction hf with
  | refl => exact ⟨.refl, h⟩
  | tail _ hstep ih =>
    obtain ⟨hruns, hordered⟩ := ih
    obtain ⟨v, a, ha, hg, rfl, rfl⟩ := hstep
    refine ⟨hruns.tail ⟨⟨v, a, ha, hg, rfl, rfl⟩, fun j hpending harmed => ?_⟩,
      ordered_run hg hordered⟩
    exact RolloutCore.Ordered.turnOf (c := v.core) hordered hpending
      (Act.arms_run hg hpending harmed)

/-! ## Every run -/

/-- In every state that a run reaches the stages are gone through one at a time, and whatever
comes next changes a rollout by acts that arm a stage only after every stage before it and every
predecessor of it succeeded. -/
theorem stages_one_at_a_time {n : Node ρ} (hn : n.Initial) (steps : List (Step ρ)) :
    (∀ h ∈ (n.run env steps).held, h.rollout.OneAtATime)
      ∧ ∀ o, n.run env steps = .running o → ∀ i k, k < o.held.length →
        Relation.ReflTransGen (ArmsInTurn env i.acts) (o.coreAt k) ((o.step env i).coreAt k) := by
  have hsound : (n.run env steps).sys.Holds (View.Sound env) := sound_of_run hn steps
  constructor
  · rintro h hh
    exact Rollout.oneAtATime_of_ordered (hsound _ (.inr (Node.mem_held hh))).tidy.ordered
  · rintro o ho i k hk
    rw [ho] at hsound
    have hordered := (hsound _ (.inr (List.mem_of_getElem? (rollouts_getElem? hk)))).tidy.ordered
    exact (((step_moved hsound i).follows k hk).armsInTurn hordered).1

/-- The stage that waits at its entry gate is the one at the cursor, and it is changed by acts that
arm stages in turn. -/
theorem twinGated_oneAtATime :
    (twinGated.first.stageAt 0).state = .gated ∧ (∀ h ∈ twinGated.held, h.rollout.OneAtATime)
      ∧ ∀ o, twinGated = .running o → ∀ i k, k < o.held.length →
        Relation.ReflTransGen (ArmsInTurn volatileEnv i.acts) (o.coreAt k)
          ((o.step volatileEnv i).coreAt k) :=
  ⟨by decide +kernel, stages_one_at_a_time twinNode_initial startTwin⟩

end RolloutFabric
