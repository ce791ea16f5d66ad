/-
Reconciliation: an answer may put a target back to be dispatched again. Whether the target has
attempts left when the answer is taken in is known before the first answer.
-/
import RolloutFabric.Safety.Tallies

namespace RolloutFabric

open Program

variable {ρ : Type} {env : Env ρ} {I : Tally → Prop} {strict : Prop} {now : Timestamp}

/-! ## Tallies that were settled -/

/-- What identifies a stage. -/
def StageTally.places (s : StageTally) : StageId × StagePolicy × List TargetId :=
  (s.id, s.policy, s.targets.map TargetTally.target)

/-- The same stages, whose targets were settled. -/
structure RolloutTally.Follows (r r' : RolloutTally) : Prop where
  places : r'.stages.map StageTally.places = r.stages.map StageTally.places
  targets : ∀ j i p t', r'.Shows j i p t' → ∃ t, r.Shows j i p t ∧ t.Follows t'

namespace RolloutTally

theorem Follows.refl (r : RolloutTally) : r.Follows r :=
  ⟨rfl, fun _ _ _ t h => ⟨t, h, .refl t⟩⟩

theorem Follows.setTarget {r r' : RolloutTally} {j i : Nat} {p : StagePolicy} {t t' : TargetTally}
    (h : r.Follows r') (hs : r'.Shows j i p t) (ht : t.Follows t') :
    r.Follows (r'.setTarget j i t') where
  places := by
    rw [← h.places]
    obtain ⟨s, hs, -, hx⟩ := hs
    apply List.ext_getElem?
    intro n
    simp only [RolloutTally.setTarget, modifyStage, List.getElem?_map, List.getElem?_modify]
    by_cases hn : j = n
    · subst hn
      obtain ⟨hi, heq⟩ := List.getElem?_eq_some_iff.1 hx
      have hids : (s.targets.set i t').map TargetTally.target = s.targets.map TargetTally.target := by
        have hlt : i < (s.targets.map TargetTally.target).length := by simpa using hi
        have hself : t'.target = (s.targets.map TargetTally.target)[i] := by
          rw [List.getElem_map, heq, ht.target]
        rw [List.map_set, hself, List.set_getElem_self]
      simp [hs, StageTally.setTarget, StageTally.places, hids]
    · simp [hn]
  targets := by
    intro k n q x hx
    -- the target that was set goes on from what it showed
    by_cases hplace : k = j ∧ n = i
    · obtain ⟨rfl, rfl⟩ := hplace
      obtain ⟨s, hs', rfl, hx⟩ := hx
      obtain ⟨s₀, hs₀, rfl, hx₀⟩ := hs
      have hlt := (List.getElem?_eq_some_iff.1 hx₀).1
      simp only [RolloutTally.setTarget, modifyStage, List.getElem?_modify, if_true, hs₀,
        Option.map_eq_map, Option.map_some, Option.some.injEq] at hs'
      subst hs'
      simp only [StageTally.setTarget, List.getElem?_set_self hlt, Option.some.injEq] at hx
      subst hx
      obtain ⟨y, hy, hfollows⟩ := h.targets k n _ t ⟨s₀, hs₀, rfl, hx₀⟩
      exact ⟨y, hy, hfollows.trans ht⟩
    · refine h.targets k n q x ?_
      obtain ⟨s, hs', rfl, hx⟩ := hx
      simp only [RolloutTally.setTarget, modifyStage, List.getElem?_modify] at hs'
      by_cases hk : j = k
      · subst hk
        obtain ⟨s₀, hs₀, -, -⟩ := hs
        simp only [if_true, hs₀, Option.map_eq_map, Option.map_some, Option.some.injEq] at hs'
        subst hs'
        have hn : i ≠ n := fun hn => hplace ⟨rfl, hn.symm⟩
        simp only [StageTally.setTarget, List.getElem?_set_ne hn] at hx
        exact ⟨s₀, hs₀, rfl, hx⟩
      · simp only [hk, if_false, Option.map_eq_map, Option.map_id_fun', id_eq] at hs'
        exact ⟨s, hs', rfl, hx⟩

end RolloutTally

theorem Settled.followed (hI : Settled strict I) (r : RolloutTally) :
    Settled strict fun l => I l ∧ r.Follows l.rollout where
  log := fun l e he h => ⟨hI.log l e he h.1, h.2⟩
  settle := fun l j i p t t' hs ht hr h => ⟨hI.settle l j i p t t' hs ht hr h.1, h.2.setTarget hs ht⟩

/-! ## The same stages and targets -/

namespace Rollout

variable {r r' : Rollout}

theorem findStage_of_follows (h : r.tally.Follows r'.tally) (id : StageId) :
    r'.findStage id = r.findStage id := by
  have hids := congrArg (List.map fun x => x.1) h.places
  simp only [tally, List.map_map] at hids
  have key (r : Rollout) : r.findStage id = (r.stages.map fun s => s.id).findIdx? (· == id) := by
    rw [findStage, List.findIdx?_map]
    rfl
  rw [key, key]
  exact congrArg _ hids

theorem findTarget_of_follows (h : r.tally.Follows r'.tally) (j : Nat) (id : TargetId) :
    (r'.stageAt j).findTarget id = (r.stageAt j).findTarget id := by
  have hids := congrArg (fun l => l[j]?.map fun x => x.2.2) h.places
  simp only [tally, List.getElem?_map, Option.map_map] at hids
  have htargets : (r'.stageAt j).core.targets.map TargetCore.target
      = (r.stageAt j).core.targets.map TargetCore.target := by
    have key (s : StageRuntime) : s.core.targets.map TargetCore.target
        = s.tally.targets.map TargetTally.target := by
      rw [StageRuntime.core, StageRuntime.tally, List.map_map, List.map_map]
      rfl
    rw [key, key, stageAt, stageAt, List.getD_eq_getElem?_getD, List.getD_eq_getElem?_getD]
    cases hr' : r'.stages[j]? <;> cases hr : r.stages[j]? <;> simp_all [StageTally.places]
  rw [StageRuntime.findTarget_core, StageRuntime.findTarget_core]
  exact StageCore.findTarget_congr htargets id

end Rollout

/-! ## Answers -/

/-- No attempt is in another place than it was in this table. -/
def Core.Unmoved (attempts : AttemptId → Option Attempt) (c : Core) : Prop :=
  ∀ id a, c.attempts id = some a → ∃ a₀, attempts id = some a₀ ∧ a₀.stage = a.stage
    ∧ a₀.target = a.target

theorem Core.Unmoved.update {attempts : AttemptId → Option Attempt} {c c' : Core}
    (h : c.Unmoved attempts) (id : AttemptId) {a : Option Attempt}
    (ha : ∀ b, a = some b → ∃ old, c.attempts id = some old ∧ old.stage = b.stage
      ∧ old.target = b.target)
    (hc : c'.attempts = Function.update c.attempts id a) : c'.Unmoved attempts := by
  intro x b hb
  rw [hc, Function.update_apply] at hb
  split at hb
  · next hx =>
    subst hx
    obtain ⟨old, hold, hstage, htarget⟩ := ha b hb
    obtain ⟨a₀, ha₀, hstage₀, htarget₀⟩ := h x old hold
    exact ⟨a₀, ha₀, hstage₀.trans hstage, htarget₀.trans htarget⟩
  · exact h x b hb

theorem unmoved_after {attempts : AttemptId → Option Attempt} (a : Act) (c : Core)
    (ha : a.isSettling = true) (hg : a.Guard env c) (h : c.Unmoved attempts) :
    (a.after c).Unmoved attempts := by
  cases a with
  | report id new =>
    obtain ⟨old, hold, hcontinues, -⟩ := hg
    refine h.update id (a := some new) (fun b hb => ?_) rfl
    cases hb
    exact ⟨old, hold, hcontinues.stage.symm, hcontinues.target.symm⟩
  | lose id =>
    refine h.update id (fun b hb => ?_) rfl
    obtain ⟨old, hold, rfl⟩ := Option.map_eq_some_iff.1 hb
    exact ⟨old, hold, rfl, rfl⟩
  | apply record j i attempt =>
    refine h.update _ (fun b hb => ?_) rfl
    cases hb
    exact ⟨attempt, hg.found, rfl, rfl⟩
  | append | latch | assign | alter | observe => exact h
  | _ => cases ha

/-- What was so of an answer before other answers were taken in. -/
theorem World.Unspent.carried {w w' : World ρ} {answer : ReconcileEntry} (h : w.Unspent answer)
    (hfollows : w.rollout.tally.Follows w'.rollout.tally)
    (hunmoved : w'.core.Unmoved w.core.attempts) : w'.Unspent answer := by
  intro hd attempt j i hlookup hstage htarget hstate
  obtain ⟨attempt₀, hlookup₀, hsameStage, hsameTarget⟩ := hunmoved _ _ hlookup
  rw [← hsameStage, Rollout.findStage_of_follows hfollows] at hstage
  rw [← hsameTarget, Rollout.findTarget_of_follows hfollows] at htarget
  have hne : (w'.rollout.targetAt j i).state ≠ .pending := by
    rcases hstate with h | h <;> simp [h]
  obtain ⟨t, hshows, ht⟩ := hfollows.targets j i _ _ (Rollout.shows_of_state hne)
  obtain ⟨hpolicy, htally⟩ := Rollout.tally_shows hshows
  have hattempts : (w'.rollout.targetAt j i).attemptsCreated
      = (w.rollout.targetAt j i).attemptsCreated :=
    ht.attempts.trans (congrArg TargetTally.attemptsCreated htally).symm
  rw [hattempts, ← hpolicy]
  refine h hd attempt₀ j i hlookup₀ hstage htarget ?_
  have haloft : t.Aloft := ht.aloft hstate
  rwa [← htally] at haloft

/-- The answers of the adapter release no target that has used up its attempts. -/
def World.Reconcilable (w : World ρ) (execution : ExecutionAdapter ρ) : Prop :=
  ∀ answer ∈ (execution.reconcile ((w.impl.outstanding w.rollout.id).map Attempt.fence)
    w.impl.outside).1.entries, w.Unspent answer

theorem reconcileRollout_upholds {find : Rollout → RolloutId → Option Rollout}
    {execution : ExecutionAdapter ρ} {w : World ρ} (hI : Settled strict I) (hw : I w.tally)
    (hkeyed : w.core.Keyed) (hleft : strict → w.Reconcilable execution) :
    Triple (fun s => s = w) (reconcileRollout env find execution) (fun _ w => I w.tally)
      fun _ w => I w.tally := by
  let Known (w' : World ρ) : Prop := w'.core.Keyed ∧ w'.core.Unmoved w.core.attempts
  let Taken (w' : World ρ) : Prop := (I w'.tally ∧ w.rollout.tally.Follows w'.rollout.tally) ∧ Known w'
  -- an answer is about an attempt the rollout still holds, whatever the others before it did
  have hentry {find : Rollout → RolloutId → Option Rollout} {now : Timestamp} {answer : ReconcileEntry}
      (hanswer : strict → w.Unspent answer) : Triple Taken (reconcileEntry env find now answer)
        (fun _ => Taken) fun _ w => I w.tally := by
    refine Triple.of_each fun w' ⟨hsettled, hkeyed', hunmoved⟩ => ?_
    have hknown : Triple (fun s => s = w') (reconcileEntry env find now answer) (fun _ => Known)
        fun _ => Known := Triple.of_after fun s hs => by
      subst hs
      exact invariant_of_acts (I := fun c => c.Keyed ∧ c.Unmoved w.core.attempts)
        (fun a c ha _ hg h => ⟨keyed_after a c hg h.1, unmoved_after a c ha hg h.2⟩)
        ((reconcileEntry_performs (e := fun _ => True) hkeyed') s rfl).1 ⟨hkeyed', hunmoved⟩
    refine ((reconcileEntry_upholds (hI.followed w.rollout.tally) hsettled fun hs => ?_).and
      hknown).weaken (fun _ h => h) (fun _ _ h => h) fun _ _ h => h.1.1
    exact (hanswer hs).carried hsettled.2 hunmoved
  unfold reconcileRollout
  refine triple_get_bind fun w' hw' => ?_
  subst hw'
  dsimp only
  split
  · exact .pure fun s hs => hs ▸ hw
  split
  · exact .throw fun s hs => hs ▸ hw
  -- the question itself changes nothing, and its answer is the one the outside gives
  let Asked (result : ReconcileResult) (s : World ρ) : Prop :=
    result = (execution.reconcile ((w'.impl.outstanding w'.rollout.id).map Attempt.fence)
      w'.impl.outside).1 ∧ s.tally = w'.tally ∧ s.core = w'.core
  refine Triple.bind (Q := Asked) (fun s hs => ?_) fun result => ?_
  · subst hs
    exact ⟨.refl, fun a ha => by cases ha; exact ⟨rfl, rfl, rfl⟩, fun e he => by cases he⟩
  refine Triple.of_each fun s₀ ⟨hresult, htally, hcore⟩ => ?_
  have hstart : Taken s₀ := by
    refine ⟨⟨htally ▸ hw, ?_⟩, hcore ▸ hkeyed, ?_⟩
    · rw [show s₀.rollout.tally = w'.rollout.tally from congrArg Tally.rollout htally]
      exact .refl _
    · rw [hcore]
      exact fun id a ha => ⟨a, ha, rfl, rfl⟩
  refine Triple.weaken (P := Taken) ?_ (fun s hs => hs ▸ hstart) (fun _ _ h => h) fun _ _ h => h
  refine triple_ask_bind (fun _ _ h => h) fun now => ?_
  split
  · exact .throw_bind fun s hs => hs.1.1
  refine Triple.bind (.foldlM fun counts answer hanswer => ?_) fun counts => ?_
  · refine Triple.bind (hentry fun hs => ?_) fun done => .pure fun _ h => h
    rw [hresult] at hanswer
    exact hleft hs answer hanswer
  refine Triple.weaken (P := fun w => I w.tally) ?_ (fun _ h => h.1.1) (fun _ _ h => h)
    fun _ _ h => h
  refine Upholds.bind (commit_upholds hI.toLogged) fun _ => ?_
  exact .bind (persistRollout_upholds hI.toLogged) fun _ => .pure _

end RolloutFabric
