/-
The tally of a rollout: what it counts its attempts by. Writing the journal, a transition and a
decision leave it alone; a target that is settled follows the one it was.
-/
import RolloutFabric.Safety.Approvals

namespace RolloutFabric

open Program

variable {ρ α β : Type}

/-! ## Tallies -/

structure TargetTally where
  target : TargetId := .nil
  state : TargetState := .pending
  currentAttempt : AttemptId := .nil
  attemptsCreated : UInt32 := 0
deriving DecidableEq, Inhabited

structure StageTally where
  id : StageId := .nil
  policy : StagePolicy := {}
  canaryCleared : Bool := false
  dispatchedTotal : UInt32 := 0
  targets : List TargetTally := []
deriving Inhabited

structure RolloutTally where
  id : RolloutId := .nil
  generation : GenerationId := .nil
  stages : List StageTally := []
deriving Inhabited

/-- The tally of a rollout, and the trace it shares with the others. -/
structure Tally where
  rollout : RolloutTally
  trace : List Event

def TargetRuntime.tally (t : TargetRuntime) : TargetTally where
  target := t.target
  state := t.state
  currentAttempt := t.currentAttempt
  attemptsCreated := t.attemptsCreated

def StageRuntime.tally (s : StageRuntime) : StageTally where
  id := s.id
  policy := s.policy
  canaryCleared := s.canaryCleared
  dispatchedTotal := s.dispatchedTotal
  targets := s.targets.map TargetRuntime.tally

def Rollout.tally (r : Rollout) : RolloutTally where
  id := r.id
  generation := r.generation
  stages := r.stages.map StageRuntime.tally

def World.tally (w : World ρ) : Tally := ⟨w.rollout.tally, w.impl.trace⟩

def StageTally.setTarget (s : StageTally) (i : Nat) (t : TargetTally) : StageTally :=
  { s with targets := s.targets.set i t }

/-- The targets are in the order of their identifiers. -/
def StageTally.Sorted (s : StageTally) : Prop := (s.targets.map TargetTally.target).Pairwise (· < ·)

namespace RolloutTally

def modifyStage (r : RolloutTally) (j : Nat) (f : StageTally → StageTally) : RolloutTally :=
  { r with stages := r.stages.modify j f }

def setTarget (r : RolloutTally) (j i : Nat) (t : TargetTally) : RolloutTally :=
  r.modifyStage j fun s => s.setTarget i t

/-- The target at `j`, `i`, in a stage under this policy. -/
def Shows (r : RolloutTally) (j i : Nat) (p : StagePolicy) (t : TargetTally) : Prop :=
  ∃ s, r.stages[j]? = some s ∧ s.policy = p ∧ s.targets[i]? = some t

theorem Shows.setTarget {r : RolloutTally} {j i : Nat} {p : StagePolicy} {t : TargetTally}
    (h : r.Shows j i p t) (t' : TargetTally) : (r.setTarget j i t').Shows j i p t' := by
  obtain ⟨s, hs, hp, ht⟩ := h
  refine ⟨s.setTarget i t', ?_, hp, ?_⟩
  · simp [RolloutTally.setTarget, modifyStage, hs]
  · have hi := (List.getElem?_eq_some_iff.1 ht).1
    simp [StageTally.setTarget, hi]

end RolloutTally

namespace Tally

def log (l : Tally) (e : Event) : Tally := { l with trace := l.trace ++ [e] }

def setTarget (l : Tally) (j i : Nat) (t : TargetTally) : Tally :=
  { l with rollout := l.rollout.setTarget j i t }

/-- What may be logged by anything but a dispatch and a look at a gate: a snapshot is of the
rollout as it is. -/
def Logs (l : Tally) : Event → Prop
  | .appended (.rolloutSnapshot r) .. => r.tally = l.rollout
  | .dispatched .. | .weighed .. | .rewritten .. | .opened .. | .restored .. => False
  | _ => True

end Tally

/-! ## Tallies under updates -/

namespace Rollout

theorem tally_modifyStage {f : StageRuntime → StageRuntime} (h : ∀ s, (f s).tally = s.tally)
    (r : Rollout) (j : Nat) : (r.modifyStage j f).tally = r.tally := by
  simp only [tally, modifyStage, map_modify_same h]

theorem tally_modifyStage_comm {f : StageRuntime → StageRuntime} {g : StageTally → StageTally}
    (h : ∀ s, (f s).tally = g s.tally) (r : Rollout) (j : Nat) :
    (r.modifyStage j f).tally = r.tally.modifyStage j g := by
  simp only [tally, modifyStage, RolloutTally.modifyStage, RolloutTally.mk.injEq, true_and]
  apply List.ext_getElem?
  intro n
  simp only [List.getElem?_map, List.getElem?_modify]
  by_cases hn : j = n
  · subst hn
    cases r.stages[j]? <;> simp [h]
  · simp [hn]

theorem tally_modifyTarget (r : Rollout) (j i : Nat) (f : TargetRuntime → TargetRuntime) :
    (r.modifyTarget j i f).tally = r.tally.setTarget j i (f (r.targetAt j i)).tally := by
  simp only [tally, modifyTarget, modifyStage, RolloutTally.setTarget, RolloutTally.modifyStage,
    RolloutTally.mk.injEq, true_and]
  apply List.ext_getElem?
  intro n
  simp only [List.getElem?_map, List.getElem?_modify]
  by_cases hn : j = n
  · subst hn
    cases hs : r.stages[j]? with
    | none => simp
    | some s =>
      have hat : r.stageAt j = s := by simp [stageAt, hs]
      simp only [if_true, Option.map_eq_map, Option.map_some, Option.some.injEq,
        StageRuntime.tally, StageTally.setTarget, StageTally.mk.injEq, true_and]
      apply List.ext_getElem?
      intro k
      simp only [List.getElem?_map, List.getElem?_modify, List.getElem?_set, List.length_map]
      by_cases hk : i = k
      · subst hk
        cases ht : s.targets[i]? with
        | none => simpa using ht
        | some t =>
          have htarget : r.targetAt j i = t := by simp [targetAt, hat, ht]
          have hi := (List.getElem?_eq_some_iff.1 ht).1
          simp [htarget, hi]
      · simp [hk]
  · simp [hn]

theorem tally_modifyTarget_same {f : TargetRuntime → TargetRuntime} (h : ∀ t, (f t).tally = t.tally)
    (r : Rollout) (j i : Nat) : (r.modifyTarget j i f).tally = r.tally := by
  refine tally_modifyStage (fun s => ?_) r j
  simp only [StageRuntime.tally, map_modify_same h]

/-- What is shown is what is found there. -/
theorem tally_shows {r : Rollout} {j i : Nat} {p : StagePolicy} {t : TargetTally}
    (h : r.tally.Shows j i p t) : (r.stageAt j).policy = p ∧ (r.targetAt j i).tally = t := by
  obtain ⟨s, hs, hp, ht⟩ := h
  simp only [tally, List.getElem?_map, Option.map_eq_some_iff] at hs
  obtain ⟨stage, hstage, rfl⟩ := hs
  have hat : r.stageAt j = stage := by simp [stageAt, hstage]
  simp only [StageRuntime.tally, List.getElem?_map, Option.map_eq_some_iff] at ht
  obtain ⟨target, htarget, rfl⟩ := ht
  refine ⟨hat ▸ hp, ?_⟩
  simp [targetAt, hat, htarget]

theorem tally_stageAt {r : Rollout} {j : Nat} (hj : j < r.stages.length) :
    r.tally.stages[j]? = some (r.stageAt j).tally := by
  simp [tally, stageAt, hj]

theorem tally_targetAt {r : Rollout} {j i : Nat} (hi : i < (r.stageAt j).targets.length) :
    (r.stageAt j).tally.targets[i]? = some (r.targetAt j i).tally := by
  simp [StageRuntime.tally, targetAt, hi]

theorem shows_tally {r : Rollout} {j i : Nat} (hj : j < r.stages.length)
    (hi : i < (r.stageAt j).targets.length) :
    r.tally.Shows j i (r.stageAt j).policy (r.targetAt j i).tally :=
  ⟨(r.stageAt j).tally, tally_stageAt hj, rfl, tally_targetAt hi⟩

/-- A target that is not nothing is there. -/
theorem shows_of_ne_default {r : Rollout} {j i : Nat} (h : r.targetAt j i ≠ default) :
    r.tally.Shows j i (r.stageAt j).policy (r.targetAt j i).tally := by
  have hj : j < r.stages.length := by
    by_contra hj
    refine h ?_
    have hnone : r.stageAt j = default := by simp [stageAt, Nat.le_of_not_lt hj]
    rw [targetAt, hnone]
    rfl
  refine shows_tally hj ?_
  by_contra hi
  refine h ?_
  rw [targetAt, List.getD_eq_getElem?_getD, List.getElem?_eq_none (Nat.le_of_not_lt hi)]
  rfl

theorem shows_of_state {r : Rollout} {j i : Nat} (h : (r.targetAt j i).state ≠ .pending) :
    r.tally.Shows j i (r.stageAt j).policy (r.targetAt j i).tally :=
  shows_of_ne_default fun hd => h (by rw [hd]; rfl)

end Rollout

/-! ## How a target is settled -/

/-- A target an attempt was dispatched for, by its state. -/
def TargetState.touched : TargetState → Bool
  | .dispatched | .unknown | .succeeded | .failed | .rollingBack => true
  | _ => false

/-- A target that is on its way, or may be sent there again. -/
def TargetState.forward : TargetState → Bool
  | .pending | .dispatched | .unknown | .failed => true
  | _ => false

namespace TargetTally

def Tried (t : TargetTally) : Prop := t.state.touched = true ∨ t.currentAttempt ≠ .nil

def Live (t : TargetTally) : Prop :=
  t.state.forward = true ∨ t.currentAttempt ≠ .nil ∧ t.state ≠ .rollingBack

def Aloft (t : TargetTally) : Prop := t.state = .dispatched ∨ t.state = .unknown

/-- The target after it was settled: nothing was dispatched for it. -/
structure Follows (t t' : TargetTally) : Prop where
  target : t'.target = t.target
  attempts : t'.attemptsCreated = t.attemptsCreated
  tried : t'.Tried → t.Tried
  live : t'.Live → t.Live
  aloft : t'.Aloft → t.Aloft

theorem Follows.refl (t : TargetTally) : t.Follows t := ⟨rfl, rfl, id, id, id⟩

theorem Follows.trans {t t' t'' : TargetTally} (h : t.Follows t') (h' : t'.Follows t'') :
    t.Follows t'' :=
  ⟨h'.target.trans h.target, h'.attempts.trans h.attempts, fun hs => h.tried (h'.tried hs),
    fun hs => h.live (h'.live hs), fun hs => h.aloft (h'.aloft hs)⟩

/-- A target that becomes pending again has attempts left. -/
def Retries (p : StagePolicy) (t t' : TargetTally) : Prop :=
  t'.state = .pending → t.state = .pending ∨ t.attemptsCreated < p.maxAttemptsPerTarget

end TargetTally

/-! ## Rules -/

/-- What holds of the tally before the program holds of it afterwards, however it ends. -/
def Upholds (I : Tally → Prop) (m : Op ρ α) : Prop :=
  Triple (fun w => I w.tally) m (fun _ w => I w.tally) (fun _ w => I w.tally)

/-- Nothing that is logged breaks it. -/
structure Logged (I : Tally → Prop) : Prop where
  log : ∀ l e, l.Logs e → I l → I (l.log e)

/-- Nothing that is logged breaks it, and no target that is settled. -/
structure Settled (strict : Prop) (I : Tally → Prop) : Prop extends Logged I where
  settle : ∀ l j i p t t', l.rollout.Shows j i p t → t.Follows t' → (strict → t.Retries p t') →
    I l → I (l.setTarget j i t')

section

variable {I : Tally → Prop} {strict : Prop} {env : Env ρ} {now : Timestamp} {j i : Nat}
  {p : StagePolicy} {t : TargetTally}

theorem Logged.with (hI : Logged I) (p : RolloutTally → Prop) :
    Logged fun l => I l ∧ p l.rollout :=
  ⟨fun l e he h => ⟨hI.log l e he h.1, h.2⟩⟩

namespace Upholds

theorem pure (a : α) : Upholds I (pure a : Op ρ α) := Triple.pure fun _ h => h

theorem throw (e : Status) : Upholds I (throw e : Op ρ α) := Triple.throw fun _ h => h

theorem bind {m : Op ρ α} {f : α → Op ρ β} (hm : Upholds I m) (hf : ∀ a, Upholds I (f a)) :
    Upholds I (m >>= f) := Triple.bind hm hf

theorem throw_bind {e : Status} {f : α → Op ρ β} :
    Upholds I ((MonadExcept.throw e : Op ρ α) >>= f) := Triple.throw_bind fun _ h => h

theorem get_bind {f : World ρ → Op ρ β} (hf : ∀ w, Upholds I (f w)) :
    Upholds I ((get : Op ρ (World ρ)) >>= f) := triple_get_bind fun w _ => hf w

theorem read_bind {f : World ρ → α} {k : α → Op ρ β} (hf : ∀ a, Upholds I (k a)) :
    Upholds I (Op.read f >>= k) := triple_read_bind fun w _ => hf (f w)

theorem ask_bind {f : ρ → α × ρ} {k : α → Op ρ β} (hf : ∀ a, Upholds I (k a)) :
    Upholds I (Op.ask f >>= k) := triple_ask_bind (fun _ _ h => h) hf

theorem tryCatch {m : Op ρ α} {h : Status → Op ρ α} (hm : Upholds I m) (hh : ∀ e, Upholds I (h e)) :
    Upholds I (tryCatch m h) := Triple.tryCatch hm hh

theorem forM {g : β → Op ρ Unit} {l : List β} (h : ∀ b ∈ l, Upholds I (g b)) :
    Upholds I (l.forM g) := Triple.forM h

theorem of_frames {m : Op ρ α} (hm : Frames World.tally m) : Upholds I m := by
  intro w hw
  have h : I (m.exec w).2.tally := by rw [hm w]; exact hw
  exact ⟨.refl, fun _ _ => h, fun _ _ => h⟩

theorem modify {g : World ρ → World ρ} (h : ∀ w, (g w).tally = w.tally) :
    Upholds I (modify g : Op ρ PUnit) := of_frames fun w => h w

theorem latch {m : Op ρ Unit} (hm : Upholds I m) : Upholds I (Op.latch m) :=
  tryCatch hm fun _ => modify fun _ => rfl

theorem updateStage {f : StageRuntime → StageRuntime} (h : ∀ s, (f s).tally = s.tally) :
    Upholds I (Op.updateStage (ρ := ρ) j f) :=
  modify fun w => by simp only [World.tally, Rollout.tally_modifyStage h]

theorem updateTarget {f : TargetRuntime → TargetRuntime} (h : ∀ t, (f t).tally = t.tally) :
    Upholds I (Op.updateTarget (ρ := ρ) j i f) :=
  modify fun w => by simp only [World.tally, Rollout.tally_modifyTarget_same h]

theorem updateRollout {f : Rollout → Rollout} (h : ∀ r, (f r).tally = r.tally) :
    Upholds I (Op.updateRollout (ρ := ρ) f) :=
  modify fun w => by simp only [World.tally, h]

theorem updateImpl {f : Impl ρ → Impl ρ} (h : ∀ s, (f s).trace = s.trace) :
    Upholds I (Op.updateImpl f) :=
  modify fun w => by simp only [World.tally, h]

theorem updateAttempt {id : AttemptId} {f : Attempt → Attempt} :
    Upholds I (Op.updateAttempt (ρ := ρ) id f) :=
  updateImpl fun s => by split <;> rfl

theorem releaseOutstanding : Upholds I (Op.releaseOutstanding (ρ := ρ)) :=
  updateRollout fun _ => rfl

/-- In one world. -/
theorem here {m : Op ρ α} {w : World ρ} (hm : Upholds I m) (hw : I w.tally) :
    Triple (fun s => s = w) m (fun _ w => I w.tally) (fun _ w => I w.tally) :=
  Triple.weaken hm (fun _ h => h ▸ hw) (fun _ _ h => h) fun _ _ h => h

/-- A part of a program that keeps more than what is to hold at its end. -/
theorem before {J : Tally → Prop} {m : Op ρ α} {f : α → Op ρ β} {R : β → World ρ → Prop}
    (hm : Upholds I m) (hJ : ∀ l, I l → J l)
    (hf : ∀ a, Triple (fun w => I w.tally) (f a) R fun _ w => J w.tally) :
    Triple (fun w => I w.tally) (m >>= f) R fun _ w => J w.tally :=
  Triple.bind (Triple.weaken hm (fun _ h => h) (fun _ _ h => h) fun _ _ h => hJ _ h) hf

theorem log {e : Event} (hI : Logged I) (h : ∀ l, I l → l.Logs e) : Upholds I (Op.log (ρ := ρ) e) :=
  Triple.modify fun w hw => hI.log w.tally e (h _ hw) hw

end Upholds

/-! ## The journal -/

theorem journalAppend_upholds {limits : RuntimeLimits} {device : JournalDevice ρ}
    {entry : JournalEntry} (hI : Logged I)
    (h : ∀ l epoch ok landed, I l → l.Logs (.appended entry epoch ok landed)) :
    Upholds I (journalAppend limits device entry) := by
  unfold journalAppend
  refine .read_bind fun _ => .read_bind fun epoch => ?_
  split
  · exact .bind (.log hI fun l hl => h l _ _ _ hl) fun _ => .pure _
  split
  · exact .bind (.log hI fun l hl => h l _ _ _ hl) fun _ => .pure _
  · refine .ask_bind fun answer => .bind (.log hI fun l hl => h l _ _ _ hl) fun _ => ?_
    dsimp only
    split
    · exact .bind (.updateImpl fun _ => rfl) fun _ => .pure _
    · exact .pure _

theorem appendJournal_upholds {entry : JournalEntry} (hI : Logged I)
    (h : ∀ l epoch ok landed, I l → l.Logs (.appended entry epoch ok landed)) :
    Upholds I (appendJournal env entry) := by
  unfold appendJournal
  split
  · exact .pure _
  · refine .read_bind fun failed => ?_
    split
    · exact .read_bind fun status => .throw _
    · refine .bind (journalAppend_upholds hI h) fun status => ?_
      split
      · exact .modify fun _ => rfl
      · exact .bind (.updateImpl fun _ => rfl) fun _ => .throw _

theorem persistRollout_upholds (hI : Logged I) : Upholds I (persistRollout env) := by
  unfold persistRollout
  refine Triple.of_each fun w hw => triple_get_bind fun w' hw' => ?_
  subst hw'
  let Same (l : Tally) : Prop := I l ∧ l.rollout = w'.rollout.tally
  have hsame : Logged Same := hI.with fun r => r = w'.rollout.tally
  have hlogs (l : Tally) (epoch : UInt64) (ok landed : Bool) (hl : Same l) :
      l.Logs (.appended (.rolloutSnapshot w'.rollout) epoch ok landed) := hl.2.symm
  suffices hbody : Upholds Same (_ : Op ρ Unit) from
    hbody.weaken (fun t ht => by subst ht; exact ⟨hw, rfl⟩) (fun _ _ h => h.1) fun _ _ h => h.1
  dsimp only
  split
  · exact .bind (.log hsame fun l hl => hlogs l _ _ _ hl) fun _ => .throw _
  split
  · refine .bind (appendJournal_upholds hsame hlogs) fun _ => ?_
    exact .updateImpl fun _ => rfl
  · exact .updateImpl fun _ => rfl

/-! ## Transitions and decisions -/

theorem countTransition_upholds (counted : Bool) : Upholds I (countTransition (ρ := ρ) counted) := by
  unfold countTransition
  split
  · exact .modify fun _ => rfl
  · exact .pure _

theorem countDecision_upholds : Upholds I (countDecision (ρ := ρ)) := .modify fun _ => rfl

theorem countGate_upholds : Upholds I (countGate (ρ := ρ)) := .modify fun _ => rfl

theorem transition_upholds (hI : Logged I) {next : RolloutState} {reason : Bytes} {counted : Bool} :
    Upholds I (transition env next reason now counted) := by
  unfold transition
  refine .read_bind fun state => ?_
  split
  · exact .pure _
  split
  · refine .bind ?_ fun _ => .bind (countTransition_upholds counted) fun _ => persistRollout_upholds hI
    unfold Op.enterRollout
    exact .bind (.updateRollout fun _ => rfl) fun _ => .read_bind fun _ => .log hI fun _ _ => trivial
  · exact .throw _

theorem stageTransition_upholds (hI : Logged I) {next : StageState} {counted : Bool} :
    Upholds I (stageTransition env j next now counted) := by
  unfold stageTransition
  refine .read_bind fun stage => ?_
  split
  · exact .pure _
  split
  · refine .bind ?_ fun _ => .bind (countTransition_upholds counted) fun _ => persistRollout_upholds hI
    unfold Op.enterStage
    refine .read_bind fun _ => .bind (.updateStage fun _ => rfl) fun _ => ?_
    exact .bind (.updateRollout fun _ => rfl) fun _ => .read_bind fun _ => .log hI fun _ _ => trivial
  · exact .throw _

theorem commit_upholds (hI : Logged I) {fill : World ρ → DecisionBuilder} :
    Upholds I (commit env now fill) := by
  unfold commit commitDecision
  refine .read_bind fun _ => .read_bind fun decision => .bind (.updateImpl fun _ => rfl) fun _ => ?_
  refine .bind (.updateRollout fun _ => rfl) fun _ => .latch ?_
  exact appendJournal_upholds hI fun _ _ _ _ _ => trivial

/-- A decision of a tick. -/
theorem decide_upholds (hI : Logged I) {fill : World ρ → DecisionBuilder} :
    Upholds I (do commit env now fill; countDecision) :=
  .bind (commit_upholds hI) fun _ => countDecision_upholds

/-! ## One target -/

/-- The target at `j`, `i` is this one. -/
structure At (I : Tally → Prop) (j i : Nat) (p : StagePolicy) (t : TargetTally) (l : Tally) :
    Prop where
  base : I l
  shows : l.rollout.Shows j i p t

theorem Logged.at (hI : Logged I) : Logged (At I j i p t) :=
  ⟨fun l e he h => ⟨hI.log l e he h.base, h.shows⟩⟩

/-- From a tally that shows this target, what holds of it before holds afterwards. -/
def Settles (I : Tally → Prop) (j i : Nat) (p : StagePolicy) (t : TargetTally) (m : Op ρ α) : Prop :=
  Triple (fun w => At I j i p t w.tally) m (fun _ w => I w.tally) (fun _ w => I w.tally)

namespace Settles

theorem of_upholds {m : Op ρ α} (h : Upholds I m) : Settles I j i p t m :=
  Triple.weaken h (fun _ h => h.base) (fun _ _ h => h) fun _ _ h => h

theorem pure (a : α) : Settles I j i p t (pure a : Op ρ α) := of_upholds (.pure a)

theorem skip {m : Op ρ α} {f : α → Op ρ β} (hm : Upholds (At I j i p t) m)
    (hf : ∀ a, Settles I j i p t (f a)) : Settles I j i p t (m >>= f) :=
  hm.before (fun _ h => h.base) hf

theorem stage_bind {k : StageRuntime → Op ρ β}
    (hk : ∀ s, s.policy = p → Settles I j i p t (k s)) : Settles I j i p t (Op.stage j >>= k) :=
  triple_read_bind fun _ hw => hk _ (Rollout.tally_shows hw.shows).1

theorem target_bind {k : TargetRuntime → Op ρ β}
    (hk : ∀ r, r.tally = t → Settles I j i p t (k r)) : Settles I j i p t (Op.target j i >>= k) :=
  triple_read_bind fun _ hw => hk _ (Rollout.tally_shows hw.shows).2

/-- The target is replaced by one that follows it. -/
theorem update {f : TargetRuntime → TargetRuntime} {t' : TargetTally} {k : Unit → Op ρ β}
    (hI : Settled strict I) (hf : ∀ r, r.tally = t → (f r).tally = t') (h : t.Follows t')
    (hr : strict → t.Retries p t') (hk : ∀ a, Settles I j i p t' (k a)) :
    Settles I j i p t (Op.updateTarget j i f >>= k) := by
  refine Triple.bind (Q := fun _ (w : World ρ) => At I j i p t' w.tally) (.modify fun w hw => ?_)
    hk
  have hnow : (w.rollout.modifyTarget j i f).tally = w.rollout.tally.setTarget j i t' := by
    rw [Rollout.tally_modifyTarget, hf _ (Rollout.tally_shows hw.shows).2]
  show At I j i p t' ⟨(w.rollout.modifyTarget j i f).tally, w.impl.trace⟩
  rw [hnow]
  exact ⟨hI.settle _ j i p t t' hw.shows h hr hw.base, hw.shows.setTarget t'⟩

theorem enter {f : TargetRuntime → TargetRuntime} {state : TargetState}
    {record : Option EvidenceRecord} {u : TargetTally} {k : Unit → Op ρ β}
    (hI : Settled strict I) (hf : ∀ r, r.tally = t → TargetRuntime.tally { f r with state } = u)
    (h : t.Follows u) (hr : strict → t.Retries p u) (hk : ∀ a, Settles I j i p u (k a)) :
    Settles I j i p t (Op.enterTarget j i state record f >>= k) := by
  unfold Op.enterTarget
  simp only [bind_assoc]
  refine triple_read_bind fun w _ => update hI hf h hr fun _ => .skip (.modify fun _ => rfl) fun _ => ?_
  exact .skip (.log hI.at fun _ _ => trivial) hk

/-- The same at the end of a program. -/
theorem enter_last {f : TargetRuntime → TargetRuntime} {state : TargetState}
    {record : Option EvidenceRecord} {u : TargetTally}
    (hI : Settled strict I) (hf : ∀ r, r.tally = t → TargetRuntime.tally { f r with state } = u)
    (h : t.Follows u) (hr : strict → t.Retries p u) :
    Settles I j i p t (Op.enterTarget (ρ := ρ) j i state record f) := by
  have henter : Settles I j i p t (Op.enterTarget (ρ := ρ) j i state record f >>= Pure.pure) :=
    enter hI hf h hr fun _ => .pure _
  rwa [bind_pure] at henter

/-- In one world, where the target is. -/
theorem here {m : Op ρ α} {w : World ρ} (hm : Settles I j i p t m) (hw : I w.tally)
    (hs : w.rollout.tally.Shows j i p t) :
    Triple (fun s => s = w) m (fun _ w => I w.tally) (fun _ w => I w.tally) :=
  Triple.weaken hm (fun _ h => h ▸ ⟨hw, hs⟩) (fun _ _ h => h) fun _ _ h => h

end Settles

/-- A target enters a state. -/
theorem enterTarget_exec {w : World ρ} {state : TargetState} {record : Option EvidenceRecord}
    {f : TargetRuntime → TargetRuntime} :
    ((Op.enterTarget j i state record f).exec w).1 = .ok ()
      ∧ ((Op.enterTarget j i state record f).exec w).2.tally
        = (w.tally.setTarget j i (TargetRuntime.tally { f (w.rollout.targetAt j i) with state })).log
          (.entered (w.rollout.place j i) state record) := by
  refine ⟨rfl, ?_⟩
  have hroll : ((Op.enterTarget j i state record f).exec w).2.rollout.tally
      = w.rollout.tally.setTarget j i (TargetRuntime.tally { f (w.rollout.targetAt j i) with state }) :=
    Rollout.tally_modifyTarget ..
  simp only [World.tally, hroll]
  rfl

end

end RolloutFabric
