/-
Compensation goes through the stages in reverse order in every run in which no tick finds a
compensation due while a later stage still has a target to compensate: the loop over the stages
goes forward.
-/
import RolloutFabric.Safety.Concurrency
import RolloutFabric.Orchestrator.Turns

namespace RolloutFabric

variable {ρ : Type} {env : Env ρ} {allowed : Act → Bool} {v v' : View} {a : Act} {now : Timestamp}

/-! ## What is due -/

/-- The next compensation step of the target is due: none of its attempts is in flight. -/
structure Core.Owes (c : Core) (j i : Nat) : Prop where
  target : (c.rollout.targetAt j i).state = .rollingBack
  idle : ∀ a, c.attempts (c.rollout.targetAt j i).currentAttempt = some a →
    (c.rollout.targetAt j i).currentAttempt ≠ .nil → a.finished = true
  action : (c.rollout.stageAt j).policy.compensationActions[
    (c.rollout.targetAt j i).rollbackStep.toNat]?.isSome = true

/-- A compensation is due only where no later stage has a target left to compensate. -/
def Core.InOrder (c : Core) : Prop :=
  ∀ j i, c.Owes j i → ∀ k, j < k → ∀ l, (c.rollout.targetAt k l).state ≠ .rollingBack

/-- No compensation is dispatched while a target of a later stage is still compensated. -/
def Act.InReverse (v : View) : Act → Prop
  | dispatch j _ _ step => step ≠ 0 →
      ∀ k, j < k → ∀ l, (v.rollout.targetAt k l).state ≠ .rollingBack
  | _ => True

/-- One act, in reverse order. -/
def ReverseStep (env : Env ρ) (allowed : Act → Bool) (v v' : View) : Prop :=
  ∃ a : Act, allowed a = true ∧ a.Guard env v.core ∧ a.Writable v ∧ v' = a.run v ∧ a.InReverse v

theorem ReverseStep.mono {more : Act → Bool} (hl : ∀ a, allowed a = true → more a = true)
    (h : Relation.ReflTransGen (ReverseStep env allowed) v v') :
    Relation.ReflTransGen (ReverseStep env more) v v' :=
  Relation.ReflTransGen.mono (fun _ _ ⟨a, ha, hrest⟩ => ⟨a, hl a ha, hrest⟩) _ _ h

/-! ## A rollout that is rolled back -/

/-- A rollout is rolled back, or that is over. -/
def View.Undone (v : View) : Prop := v.rollout.state = .rollingBack ∨ v.rollout.state = .failed

theorem Act.undone_run (ha : a.isUndo now = true) (h : v.Undone) : (a.run v).Undone := by
  cases a with
  | enter next =>
    obtain rfl : next = .failed := by simpa [isUndo] using ha
    exact .inr rfl
  | append | latch | finishing | offer | dispatch | evict | stage | assign => exact h
  | _ => cases ha

theorem RolloutCore.policy_modifyStage (r : RolloutCore) (n : Nat) {f : StageCore → StageCore}
    (h : ∀ s, (f s).policy = s.policy) (j : Nat) :
    ((r.modifyStage n f).stageAt j).policy = (r.stageAt j).policy := by
  rw [stageAt_modifyStage]
  split
  · exact h _
  · rfl

theorem RolloutCore.targetAt_modifyStage (r : RolloutCore) (n : Nat) {f : StageCore → StageCore}
    (h : ∀ s, (f s).targets = s.targets) (j i : Nat) :
    (r.modifyStage n f).targetAt j i = r.targetAt j i := by
  rw [targetAt, stageAt_modifyStage]
  split
  · rw [StageCore.targetAt, h]
    rfl
  · rfl

theorem Act.policy_undo (ha : a.isUndo now = true) (j : Nat) :
    ((a.run v).rollout.stageAt j).policy = (v.rollout.stageAt j).policy := by
  cases a with
  | append | latch | enter | finishing | evict => rfl
  | stage | offer | dispatch | assign =>
    refine RolloutCore.policy_modifyStage (h := ?_) ..
    exact fun _ => rfl
  | _ => cases ha

/-- What happens to a target of a rollout that is rolled back. -/
inductive Undoes (v v' : View) (j i : Nat) : Prop
  | same (state : (v'.rollout.targetAt j i).state = (v.rollout.targetAt j i).state)
    (current : (v'.rollout.targetAt j i).currentAttempt = (v.rollout.targetAt j i).currentAttempt)
    (step : (v'.rollout.targetAt j i).rollbackStep = (v.rollout.targetAt j i).rollbackStep)
  | failed (state : (v'.rollout.targetAt j i).state = .rollbackFailed)
  | dispatched (owed : v.core.Owes j i)

theorem Undoes.of_eq {j i : Nat} (h : v'.rollout.targetAt j i = v.rollout.targetAt j i) :
    Undoes v v' j i := by
  refine .same ?_ ?_ ?_ <;> rw [h]

theorem Act.undoes_run (ha : a.isUndo now = true) (hg : a.Guard env v.core) (hundone : v.Undone)
    (j i : Nat) : Undoes v (a.run v) j i := by
  cases a with
  | append | latch | enter | finishing | evict => exact .of_eq rfl
  | stage n next =>
    refine .of_eq (RolloutCore.targetAt_modifyStage (h := ?_) ..)
    exact fun _ => rfl
  | offer n m id =>
    have htarget : ((Act.offer n m id).run v).rollout.targetAt j i = _ :=
      v.rollout.targetAt_modifyTarget n m _ j i
    refine .same ?_ ?_ ?_
    all_goals
      rw [htarget]
      split <;> rfl
  | dispatch n m attempt step =>
    have htarget : ((Act.dispatch n m attempt step).run v).rollout.targetAt j i = _ :=
      v.rollout.targetAt_modifyTarget n m _ j i
    obtain ⟨-, -, -, -, -, hroom | hdue⟩ := hg
    · have hworking : v.rollout.state.working = true := hroom.2.working
      rcases hundone with hs | hs <;> rw [hs] at hworking <;> cases hworking
    by_cases hsame : n = j ∧ m = i
    · obtain ⟨rfl, rfl⟩ := hsame
      exact .dispatched ⟨hdue.target, hdue.idle, by rw [hdue.action]; rfl⟩
    · rw [if_neg fun h => hsame h.1] at htarget
      exact .of_eq htarget
  | assign n m target record =>
    cases record with
    | some record => cases ha
    | none =>
    have hfailed : target.state = .rollbackFailed := by simpa [isUndo] using ha
    have htarget : ((Act.assign n m target none).run v).rollout.targetAt j i = _ :=
      v.rollout.targetAt_modifyTarget n m _ j i
    split at htarget
    · exact .failed (by rw [htarget]; exact hfailed)
    · exact .of_eq htarget
  | _ => cases ha

/-- An attempt that was in flight still is. -/
theorem Act.inFlight_undo (ha : a.isUndo now = true) (hg : a.Guard env v.core) {id : AttemptId}
    {old : Attempt} (hold : v.attempts id = some old) (hlive : old.finished = false) :
    ∃ new, (a.run v).attempts id = some new ∧ new.finished = false := by
  cases a with
  | append | latch | enter | finishing | stage | offer | assign => exact ⟨old, hold, hlive⟩
  | dispatch n m attempt step =>
    obtain ⟨-, hminted, -⟩ := hg
    change ∃ new, Function.update v.attempts attempt.id (some attempt) id = some new ∧ _
    by_cases hid : id = attempt.id
    · subst hid
      refine ⟨attempt, Function.update_self .., ?_⟩
      rw [Attempt.finished, hminted.state]
      rfl
    · exact ⟨old, by rw [Function.update_of_ne hid, hold], hlive⟩
  | evict other =>
    obtain ⟨found, hfound, hfinished⟩ := hg
    have hid : id ≠ other := by
      rintro rfl
      obtain rfl : found = old := Option.some.inj (hfound.symm.trans hold)
      rw [hlive] at hfinished
      cases hfinished
    refine ⟨old, ?_, hlive⟩
    change Function.update v.attempts other none id = some old
    rw [Function.update_of_ne hid, hold]
  | _ => cases ha

/-- What is due while a rollout is rolled back was due before. -/
theorem Act.owes_run (ha : a.isUndo now = true) (hg : a.Guard env v.core) (hundone : v.Undone)
    {j i : Nat} (h : (a.run v).core.Owes j i) : v.core.Owes j i := by
  cases Act.undoes_run ha hg hundone j i with
  | failed hstate =>
    have htarget : ((a.run v).rollout.targetAt j i).state = .rollingBack := h.target
    rw [hstate] at htarget
    cases htarget
  | dispatched howed => exact howed
  | same hstate hcurrent hstep =>
    refine ⟨hstate.symm.trans h.target, fun old hold hne => ?_, ?_⟩
    · by_contra hlive
      obtain ⟨new, hnew, hunfinished⟩ := Act.inFlight_undo ha hg hold (Bool.not_eq_true _ ▸ hlive)
      have hfinished := h.idle new (hcurrent ▸ hnew) (hcurrent ▸ hne)
      rw [hunfinished] at hfinished
      cases hfinished
    · change (v.rollout.stageAt j).policy.compensationActions[
        (v.rollout.targetAt j i).rollbackStep.toNat]?.isSome = true
      rw [← hstep, ← Act.policy_undo ha j]
      exact h.action

/-- What is compensated was compensated before. -/
theorem Act.rolling_run (ha : a.isUndo now = true) (hg : a.Guard env v.core) (hundone : v.Undone)
    {j i : Nat} (h : ((a.run v).rollout.targetAt j i).state = .rollingBack) :
    (v.rollout.targetAt j i).state = .rollingBack := by
  cases Act.undoes_run ha hg hundone j i with
  | same hstate _ _ => exact hstate.symm.trans h
  | failed hstate => rw [hstate] at h; cases h
  | dispatched howed => exact howed.target

/-- What a tick does to a rollout that is rolled back is done in reverse order, if nothing is due
too early where it starts. -/
theorem undo_inReverse (h : Relation.ReflTransGen (MachineStep env (Act.isUndo now)) v v')
    (hback : v.rollout.state = .rollingBack) (horder : v.core.InOrder) :
    Relation.ReflTransGen (ReverseStep env (Act.isUndo now)) v v' := by
  suffices hall : Relation.ReflTransGen (ReverseStep env (Act.isUndo now)) v v' ∧ v'.Undone
      ∧ (∀ j i, v'.core.Owes j i → v.core.Owes j i)
      ∧ ∀ j i, (v'.rollout.targetAt j i).state = .rollingBack →
        (v.rollout.targetAt j i).state = .rollingBack from hall.1
  induction h with
  | refl => exact ⟨.refl, .inl hback, fun _ _ => id, fun _ _ => id⟩
  | @tail u u' _ hstep ih =>
    obtain ⟨hruns, hundone, howes, hrolling⟩ := ih
    obtain ⟨a, ha, hg, hw, rfl⟩ := hstep
    refine ⟨hruns.tail ⟨a, ha, hg, hw, rfl, ?_⟩, Act.undone_run ha hundone,
      fun j i h => howes j i (Act.owes_run ha hg hundone h),
      fun j i h => hrolling j i (Act.rolling_run ha hg hundone h)⟩
    cases a with
    | dispatch j i attempt step =>
      rintro - k hk l hl
      obtain ⟨-, -, -, -, -, hroom | hdue⟩ := hg
      · have hworking : u.rollout.state.working = true := hroom.2.working
        rcases hundone with hs | hs <;> rw [hs] at hworking <;> cases hworking
      · have howed : u.core.Owes j i := ⟨hdue.target, hdue.idle, by rw [hdue.action]; rfl⟩
        exact horder j i (howes j i howed) k hk l (hrolling k l hl)
    | _ => trivial

/-- What a tick does to any other rollout is no compensation. -/
theorem work_inReverse {spare : Bool}
    (h : Relation.ReflTransGen (MachineStep env (Act.isWork spare now)) v v') :
    Relation.ReflTransGen (ReverseStep env (Act.isWork spare now)) v v' := by
  refine Relation.ReflTransGen.mono (fun u u' hstep => ?_) _ _ h
  obtain ⟨a, ha, hg, hw, rfl⟩ := hstep
  refine ⟨a, ha, hg, hw, rfl, ?_⟩
  cases a with
  | dispatch j i attempt step =>
    obtain ⟨rfl, -⟩ : step = 0 ∧ attempt.createdAt = now := by simpa [Act.isWork] using ha
    exact fun hstep => absurd rfl hstep
  | _ => trivial

/-! ## Every run -/

/-- What the turn of the rollout at `k` in a tick leaves. -/
def Orchestrator.turned (o : Orchestrator ρ) (env : Env ρ) (k : Nat) : World ρ :=
  ((advance env (env.clock o.impl.outside).1).exec (o.turn env k)).2

/-- In a tick the rollout at `k` takes up its evidence, and in its turn it is changed by acts that
compensate in reverse order. -/
structure Orchestrator.TicksInReverse (env : Env ρ) (o : Orchestrator ρ) (k : Nat) : Prop where
  drained : Follows env Act.isSettling (o.coreAt k) (o.turn env k).rollout.core
  turn : Relation.ReflTransGen (ReverseStep env (Act.isTick false)) (o.turn env k).view
    (o.turned env k).view
  after : ((tick env o).2.heldAt k).rollout = (o.turned env k).rollout

/-- No tick finds a compensation due in a stage while a later stage still has a target to
compensate. -/
def Step.UndoesInOrder (env : Env ρ) (n : Node ρ) (step : Step ρ) : Prop :=
  step.ticks = true → ∀ o, n = .running o → ∀ k, k < o.held.length →
    (o.turn env k).rollout.state = .rollingBack → (o.turn env k).core.InOrder

/-- The act asks for an attempt to be run. -/
def Act.dispatches : Act → Bool
  | offer .. | dispatch .. => true
  | _ => false

theorem Input.acts_dispatches {i : Input} (hi : i ≠ .tick) {a : Act} (ha : i.acts a = true) :
    a.dispatches = false := by
  cases a with
  | offer | dispatch => cases i <;> first | exact absurd rfl hi | cases ha
  | _ => rfl

theorem tick_inReverse {o : Orchestrator ρ} {k : Nat} (hs : o.sys.Holds (View.Sound env))
    (hup : o.impl.shuttingDown = false) (hopen : o.impl.storageFailed = false)
    (hk : k < o.held.length)
    (h : (o.turn env k).rollout.state = .rollingBack → (o.turn env k).core.InOrder) :
    o.TicksInReverse env k := by
  have hturn := Orchestrator.tick_turn hs hup hopen hk
  refine ⟨?_, ?_, hturn.after⟩
  · rw [hturn.rollout]
    exact (Orchestrator.draining_tracks hs hopen _).moved.follows k hk
  · by_cases hback : (o.turn env k).core.rollout.state = .rollingBack
    · have hundoes : Performs env (Act.isUndo (env.clock o.impl.outside).1) (fun _ => True) (o.turn env k).core
          (advance env (env.clock o.impl.outside).1) fun _ _ => True :=
        advance_undoes hturn.ready hback
      exact ReverseStep.mono (fun _ => Act.isTick_of_isUndo)
        (undo_inReverse (hundoes _ rfl).1 hback (h hback))
    · have hworks : Performs env (Act.isWork false (env.clock o.impl.outside).1) (fun _ => True) (o.turn env k).core
          (advance env (env.clock o.impl.outside).1) fun _ _ => True :=
        advance_works hturn.ready (fun h => by cases h) hback
      exact ReverseStep.mono (fun _ => Act.isTick_of_isWork) (work_inReverse (hworks _ rfl).1)

/-- Evidence and reconciliation add no stages. -/
theorem Follows.stages_length (h : Follows env Act.isSettling r r') :
    r'.stages.length = r.stages.length := by
  refine h.same (f := fun r => r.stages.length) fun v a ha _ => ?_
  change (a.run v).core.rollout.stages.length = v.core.rollout.stages.length
  by_cases hw : a.isWrite = true
  · rw [Act.core_run_write hw]
  · have hskeleton := congrArg (fun r => r.stages.length) (Act.skeleton_settling (c := v.core) ha)
    rw [Act.core_run (by simpa using hw)]
    simpa [RolloutCore.skeleton] using hskeleton

theorem Orchestrator.turn_stages {o : Orchestrator ρ} {k : Nat} (hs : o.sys.Holds (View.Sound env))
    (hup : o.impl.shuttingDown = false) (hopen : o.impl.storageFailed = false)
    (hk : k < o.held.length) :
    (o.turn env k).rollout.core.stages.length = (o.coreAt k).stages.length := by
  rw [(Orchestrator.tick_turn hs hup hopen hk).rollout]
  exact ((Orchestrator.draining_tracks hs hopen _).moved.follows k hk).stages_length

/-- With one stage there is no later one. -/
theorem Core.inOrder_of_one {c : Core} (h : c.rollout.stages.length ≤ 1) : c.InOrder := by
  rintro j i - k hk l hl
  have hrange := RolloutCore.range_of_state (r := c.rollout) (j := k) (i := l) (by rw [hl]; simp)
  omega

/-- It stops at the advance gate of its stage, and is compensated. -/
def undoPolicy : StagePolicy := { twinPolicy with
  entryGate := .automatic
  evidenceGate := {}
  minHealthyFraction := ratio 1 1 }

def undoPlan : ChangePlan := { twinPlan with
  stages := twinPlan.stages.map fun stage => { stage with policy := undoPolicy } }

/-- A successful report on the current attempt of the target of a stage. -/
def Orchestrator.succeeds (o : Orchestrator ρ) (j : Nat) : EvidenceRecord where
  id := idOf 6
  kind := .executionCompleted
  outcome := .succeeded
  sequence := 1
  rollout := (o.heldAt 0).rollout.id
  generation := (o.heldAt 0).rollout.generation
  stage := ((o.heldAt 0).rollout.stageAt j).id
  target := ((o.heldAt 0).rollout.targetAt j 0).target
  attempt := ((o.heldAt 0).rollout.targetAt j 0).currentAttempt
  attemptEpoch := ((o.heldAt 0).rollout.targetAt j 0).epoch
  incarnation := (o.heldAt 0).rollout.incarnation
  observedAt := ⟨1000⟩
  recordedAt := ⟨1000⟩

/-- The condition holds wherever the inputs lead. -/
def Orchestrator.along (env : Env ρ) (p : Orchestrator ρ → Bool) : List Input → Orchestrator ρ → Bool
  | [], o => p o
  | i :: inputs, o => p o && along env p inputs (o.step env i)

theorem Orchestrator.along_after {p : Orchestrator ρ → Bool} {inputs before after : List Input}
    {o : Orchestrator ρ} (h : o.along env p inputs = true) (heq : inputs = before ++ after) :
    p (o.after env before) = true := by
  induction before generalizing inputs o with
  | nil =>
    cases inputs with
    | nil => exact h
    | cons i inputs =>
      rw [along, Bool.and_eq_true] at h
      exact h.1
  | cons i before ih =>
    subst heq
    rw [List.cons_append, along, Bool.and_eq_true] at h
    exact ih h.2 rfl

def undoRun : List Input := .create undoPlan {} :: startRerun

def undoDispatched : Orchestrator Unit := loneOrchestrator.after volatileEnv undoRun

def undoInputs : List Input :=
  undoRun ++ [.onEvidence (undoDispatched.succeeds 0), .tick, .abort twinRollout {} [], .tick]

/-- Wherever an input of the run arrives, the rollouts have one stage. -/
theorem undone_oneStage : loneOrchestrator.along volatileEnv (fun o =>
    !o.impl.shuttingDown && !o.impl.storageFailed
      && o.held.all fun h => decide (h.rollout.stages.length ≤ 1))
    undoInputs.dropLast = true := by
  decide +kernel

/-- The rollout was aborted with its effect done; the next tick compensates. -/
def undoAborted : Orchestrator Unit := loneOrchestrator.after volatileEnv
  (undoRun ++ [.onEvidence (undoDispatched.succeeds 0), .tick, .abort twinRollout {} []])

/-- The first of its two stages passes its gates. -/
def undoTwicePlan : ChangePlan := { undoPlan with
  stages := undoPlan.stages.flatMap fun stage =>
    [{ stage with policy := { undoPolicy with
        advanceGate := .automatic
        minHealthyFraction := ratio 0 1 } },
      { stage with id := idOf 10, name := text "t" }] }

def undoTwiceDispatched : Orchestrator Unit :=
  loneOrchestrator.after volatileEnv (.create undoTwicePlan {} :: startRerun)

/-- The first stage succeeded, and the second dispatched. -/
def undoTwiceAdvanced : Orchestrator Unit := undoTwiceDispatched.after volatileEnv
  [.onEvidence (undoTwiceDispatched.succeeds 0), .tick, .tick, .tick]

/-- The target of either stage is to be compensated. -/
def undoTwice : Orchestrator Unit := undoTwiceAdvanced.after volatileEnv
  [.onEvidence (undoTwiceAdvanced.succeeds 1), .tick, .abort twinRollout {} []]

/-- The adapter accepted a compensation attempt for a target of the stage. -/
def Event.compensates (stage : StageId) : Event → Bool
  | .dispatched attempt step => attempt.stage == stage && step != 0
  | _ => false

/-- A target of the stage entered a state. -/
def Event.changes (stage : StageId) : Event → Bool
  | .entered place _ _ => place.stage == stage
  | _ => false

/-- What the tick that begins the rollback logs. -/
def undoTwiceEvents : List Event :=
  (tick volatileEnv undoTwice).2.impl.trace.drop undoTwice.impl.trace.length

end RolloutFabric
