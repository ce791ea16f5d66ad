/-
Attempts of a generation that was superseded: what evidence and reconciliation that name them do to
the rollout, which has the same stages and targets in its new generation.
-/
import RolloutFabric.Orchestrator.Turns
import RolloutFabric.Safety.Confinement

namespace RolloutFabric

open Program

variable {ρ : Type} {env : Env ρ} {o : Orchestrator ρ} {record : EvidenceRecord} {now : Timestamp}
  {k j i : Nat} {a : Attempt} {w : World ρ}

/-! ## Ledgers -/

/-- Where a target stands. -/
def TargetRuntime.ledger (t : TargetRuntime) : TargetState × AttemptId × UInt32 × UInt32 :=
  (t.state, t.currentAttempt, t.attemptsCreated, t.rollbackStep)

/-- The targets of a stage and its totals. -/
def StageRuntime.ledger (s : StageRuntime) :
    List (TargetState × AttemptId × UInt32 × UInt32) × List UInt32 :=
  (s.targets.map TargetRuntime.ledger, [s.dispatchedTotal, s.succeededTotal, s.failedTotal,
    s.cancelledTotal, s.rolledBackTotal, s.rollbackFailedTotal, s.attemptsTotal])

/-- What a generation keeps count of: its targets, the totals of its stages and its outstanding
attempts. -/
def Rollout.ledger (r : Rollout) :
    List (List (TargetState × AttemptId × UInt32 × UInt32) × List UInt32) × UInt32 :=
  (r.stages.map StageRuntime.ledger, r.outstandingAttempts)

theorem map_modify_iff {α β : Type} {l : List α} {n : Nat} {f : α → α} {g : α → β} {b : α}
    (hb : l[n]? = some b) : (l.modify n f).map g = l.map g ↔ g (f b) = g b := by
  constructor
  · intro h
    have hn := congrArg (fun m => m[n]?) h
    simpa [hb] using hn
  · intro h
    apply List.ext_getElem?
    intro m
    simp only [List.getElem?_map, List.getElem?_modify]
    by_cases hm : n = m
    · subst hm
      simp [hb, h]
    · simp [hm]

/-- The target is there. -/
structure Rollout.Has (r : Rollout) (j i : Nat) : Prop where
  stage : j < r.stages.length
  target : i < (r.stageAt j).targets.length

theorem Rollout.ledger_update {f : TargetRuntime → TargetRuntime} {r : Rollout} {n : UInt32}
    (h : r.Has j i) : ({ r.modifyTarget j i f with outstandingAttempts := n } : Rollout).ledger
        = r.ledger
      ↔ (f (r.targetAt j i)).ledger = (r.targetAt j i).ledger ∧ n = r.outstandingAttempts := by
  have hstage : r.stages[j]? = some (r.stageAt j) := by simp [Rollout.stageAt, h.stage]
  have htarget : (r.stageAt j).targets[i]? = some (r.targetAt j i) := by
    simp [Rollout.targetAt, h.target]
  simp only [Rollout.ledger, Rollout.modifyTarget, Rollout.modifyStage, Prod.mk.injEq]
  rw [map_modify_iff hstage]
  simp only [StageRuntime.ledger, Prod.mk.injEq, and_true]
  rw [map_modify_iff htarget]

/-- A change of every target that no ledger shows. -/
theorem Rollout.ledger_same {f : TargetRuntime → TargetRuntime} (hf : ∀ t, (f t).ledger = t.ledger)
    (r : Rollout) : (r.modifyTarget j i f).ledger = r.ledger := by
  simp only [Rollout.ledger, Rollout.modifyTarget, Rollout.modifyStage, Prod.mk.injEq, and_true]
  refine map_modify_same (fun s => ?_) _ _
  simp only [StageRuntime.ledger, Prod.mk.injEq, and_true]
  exact map_modify_same hf _ _

theorem Rollout.has_of_find {id : StageId} {target : TargetId} {r : Rollout}
    (hstage : r.findStage id = some j) (htarget : (r.stageAt j).findTarget target = some i) :
    r.Has j i := by
  rw [Rollout.findStage_core] at hstage
  rw [StageRuntime.findTarget_core, Rollout.core_stageAt] at htarget
  refine ⟨?_, ?_⟩
  · simpa [Rollout.core] using (RolloutCore.findStage_lt hstage).1
  · have hlt := (StageCore.findTarget_lt htarget).1
    rw [← Rollout.core_stageAt] at hlt
    simpa [StageRuntime.core] using hlt

/-! ## Entries -/

/-- The target holds no attempt. -/
structure TargetRuntime.Idle (t : TargetRuntime) : Prop where
  state : t.state ≠ .dispatched ∧ t.state ≠ .unknown
  attempt : t.currentAttempt = .nil

/-- The entry finds nothing to do at the place of the attempt it names. -/
structure ReconcileEntry.Spares (entry : ReconcileEntry) (r : Rollout) (a : Attempt) : Prop where
  notStarted : entry.disposition = .notStarted → ∀ j i, r.findStage a.stage = some j →
    (r.stageAt j).findTarget a.target = some i → (r.targetAt j i).Idle ∧ r.outstandingAttempts = 0
  unknown : entry.disposition = .unknown → ∀ j i, r.findStage a.stage = some j →
    (r.stageAt j).findTarget a.target = some i → (r.targetAt j i).state ≠ .dispatched

theorem ReconcileEntry.spares_of_missing {entry : ReconcileEntry} {r : Rollout}
    (h : ∀ j i, r.findStage a.stage = some j → (r.stageAt j).findTarget a.target ≠ some i) :
    entry.Spares r a :=
  ⟨fun _ j i hj hi => absurd hi (h j i hj), fun _ j i hj hi => absurd hi (h j i hj)⟩

theorem ReconcileEntry.spares_iff {entry : ReconcileEntry} {r : Rollout}
    (hstage : r.findStage a.stage = some j)
    (htarget : (r.stageAt j).findTarget a.target = some i) : entry.Spares r a ↔
      (entry.disposition = .notStarted → (r.targetAt j i).Idle ∧ r.outstandingAttempts = 0)
        ∧ (entry.disposition = .unknown → (r.targetAt j i).state ≠ .dispatched) := by
  constructor
  · intro h
    exact ⟨fun hd => h.notStarted hd j i hstage htarget, fun hd => h.unknown hd j i hstage htarget⟩
  · rintro ⟨hreleased, hlost⟩
    refine ⟨fun hd j' i' hj hi => ?_, fun hd j' i' hj hi => ?_⟩
    · cases hstage.symm.trans hj
      cases htarget.symm.trans hi
      exact hreleased hd
    · cases hstage.symm.trans hj
      cases htarget.symm.trans hi
      exact hlost hd

/-- `outstanding_attempts` is counted down, and stays at zero. -/
theorem countDown_iff (n : UInt32) : (if 0 < n then n - 1 else 0) = n ↔ n = 0 := by
  constructor
  · intro h
    split at h
    · next hpos =>
      have hle : (1 : UInt32) ≤ n := by
        rw [UInt32.le_iff_toNat_le]
        exact UInt32.lt_iff_toNat_lt.1 hpos
      have hn := congrArg UInt32.toNat h
      rw [UInt32.toNat_sub_of_le _ _ hle] at hn
      have hpos := UInt32.lt_iff_toNat_lt.1 hpos
      simp at hn hpos
      omega
    · exact h.symm
  · rintro rfl
    rfl

/-- What is left of a target whose attempt never started. -/
def TargetRuntime.release (t : TargetRuntime) : TargetRuntime :=
  { t with
    state := if t.state = .dispatched ∨ t.state = .unknown then .pending else t.state
    currentAttempt := .nil }

theorem TargetRuntime.release_ledger {t : TargetRuntime} : t.release.ledger = t.ledger ↔ t.Idle := by
  simp only [release, ledger, Prod.mk.injEq, and_true]
  constructor
  · rintro ⟨hstate, hattempt⟩
    refine ⟨?_, hattempt.symm⟩
    split at hstate
    · next h => rcases h with h | h <;> rw [h] at hstate <;> cases hstate
    · next h => exact not_or.1 h
  · rintro ⟨hstate, hattempt⟩
    exact ⟨if_neg (not_or.2 hstate), hattempt.symm⟩

theorem Rollout.modifyTarget_modifyTarget (r : Rollout) (f g : TargetRuntime → TargetRuntime) :
    (r.modifyTarget j i f).modifyTarget j i g = r.modifyTarget j i fun t => g (f t) := by
  simp only [Rollout.modifyTarget, Rollout.modifyStage, List.modify_modify_eq]
  congr 2
  funext s
  simp only [Function.comp_apply, List.modify_modify_eq]
  rfl

theorem releaseAttempt_rollout (id : AttemptId) : ((releaseAttempt id j i).exec w).2.rollout
    = { w.rollout.modifyTarget j i fun t =>
          { t with
            state := if (w.rollout.targetAt j i).state = .dispatched
              ∨ (w.rollout.targetAt j i).state = .unknown then .pending else t.state
            currentAttempt := .nil } with
        outstandingAttempts := if 0 < w.rollout.outstandingAttempts
          then w.rollout.outstandingAttempts - 1 else 0 } := by
  unfold releaseAttempt Op.updateAttempt Op.target
  rw [exec_bind_ok (Op.exec_updateImpl ..)]
  rw [exec_bind_ok (Op.exec_read ..)]
  dsimp only
  by_cases h : (w.rollout.targetAt j i).state = .dispatched ∨ (w.rollout.targetAt j i).state = .unknown
  · simp only [if_pos h]
    rw [← Rollout.modifyTarget_modifyTarget w.rollout (fun t => { t with state := .pending })
      fun t => { t with currentAttempt := .nil }]
    rfl
  · simp only [if_neg h]
    rfl

theorem releaseAttempt_ledger {id : AttemptId} (h : w.rollout.Has j i) :
    ((releaseAttempt id j i).exec w).2.rollout.ledger = w.rollout.ledger
      ↔ (w.rollout.targetAt j i).Idle ∧ w.rollout.outstandingAttempts = 0 := by
  rw [releaseAttempt_rollout, Rollout.ledger_update h, countDown_iff]
  exact and_congr_left' TargetRuntime.release_ledger

/-- An entry that names an attempt of another generation leaves the ledger of the rollout alone
exactly when it finds nothing to do. -/
theorem reconcileEntry_ledger_iff {find : Rollout → RolloutId → Option Rollout}
    {entry : ReconcileEntry} (ha : w.impl.attempts.lookup entry.fence.attempt = some a)
    (hfind : find w.rollout a.rollout = some w.rollout)
    (hgeneration : a.generation ≠ w.rollout.generation) :
    ((reconcileEntry env find now entry).exec w).2.rollout.ledger = w.rollout.ledger
      ↔ entry.Spares w.rollout a := by
  unfold reconcileEntry
  rw [exec_bind_ok (exec_get w)]
  simp only [ha]
  cases hstage : w.rollout.findStage a.stage with
  | none =>
    refine iff_of_true rfl (ReconcileEntry.spares_of_missing fun j i hj => ?_)
    rw [hstage] at hj
    cases hj
  | some j =>
  dsimp only
  cases htarget : (w.rollout.stageAt j).findTarget a.target with
  | none =>
    refine iff_of_true rfl (ReconcileEntry.spares_of_missing fun j' i hj => ?_)
    cases hstage.symm.trans hj
    simp [htarget]
  | some i =>
  dsimp only
  rw [ReconcileEntry.spares_iff hstage htarget]
  cases hd : entry.disposition with
  | completed | failed =>
    -- the record is made from the attempt, so it names the generation of the attempt
    refine iff_of_true ?_ (by simp)
    dsimp only
    rw [exec_bind_ok (Op.exec_updateImpl ..), exec_bind_ok (exec_get _)]
    have hrefused (s : Impl ρ) (record : EvidenceRecord) (hr : record.rollout = a.rollout)
        (hg : record.generation = a.generation) (hasPlan : Bool) :
        (admitRecord env s (find w.rollout record.rollout) hasPlan record now).isAccepted
          = false := by
      rw [Bool.eq_false_iff]
      intro haccepted
      obtain ⟨-, r, _, _, _, hr', hadmitted⟩ := admit_isAccepted.1 haccepted
      rw [hr, hfind] at hr'
      cases hr'
      exact hgeneration (hg.symm.trans hadmitted.generation)
    rw [hrefused _ _ rfl rfl]
    rfl
  | notStarted =>
    dsimp only
    rw [exec_bind_pure, releaseAttempt_ledger (Rollout.has_of_find hstage htarget)]
    simp
  | inProgress => exact iff_of_true rfl (by simp)
  | unknown =>
    unfold Op.target
    dsimp only
    rw [exec_bind_ok (Op.exec_read ..)]
    by_cases hdispatched : (w.rollout.targetAt j i).state = .dispatched
    · simp only [if_pos hdispatched]
      refine iff_of_false (fun hsame => ?_) (by simp [hdispatched])
      have hstate := (Rollout.ledger_update (f := fun t => { t with state := .unknown })
        (Rollout.has_of_find hstage htarget)).1 hsame
      have hunknown := congrArg Prod.fst hstate.1
      change TargetState.unknown = (w.rollout.targetAt j i).state at hunknown
      rw [hdispatched] at hunknown
      cases hunknown
    · simp only [if_neg hdispatched]
      exact iff_of_true rfl (by simp [hdispatched])

/-! ## Records -/

theorem telemetryOn_ledger : Frames (fun w => w.rollout.ledger) (telemetryOn env record now) := by
  have hhealth (t : TargetRuntime) : (applyHealth env.limits record now t).ledger = t.ledger := by
    unfold applyHealth
    dsimp only
    split
    · rfl
    · split <;> rfl
  unfold telemetryOn
  refine .bind (fun _ => rfl) fun r => ?_
  split
  · refine .bind (.forM fun j _ => .bind (fun _ => rfl) fun stage => ?_) fun _ => ?_
    · split
      · exact .pure _
      · refine .bind (fun _ => rfl) fun place => .bind (fun w => ?_) fun _ => fun _ => rfl
        exact Rollout.ledger_same hhealth w.rollout
    · exact (latch_frames persistRollout_frames).map (g := fun b => b.1.ledger)
  · exact .pure _

theorem on_ledger {m : Op ρ Unit} {report : TickReport} (hm : Frames (fun w => w.rollout.ledger) m)
    (hk : k < o.held.length) (n : Nat) :
    ((o.on k report m).2.heldAt n).rollout.ledger = (o.heldAt n).rollout.ledger := by
  unfold Orchestrator.on
  by_cases hn : k = n
  · subst hn
    rw [Orchestrator.heldAt_put_self hk]
    exact hm (o.world k report)
  · rw [heldAt_put hn]

/-- A health sample, and a record that is refused, leave every ledger alone. -/
theorem drainRecord_ledger {r : TickReport} (h : record.isTelemetry = false → ∀ k j i a,
      o.index record.rollout = some k →
        ¬ Admitted env o.impl (o.heldAt k).rollout record now j i a) (n : Nat) :
    ((drainRecord env now (r, o) record).2.heldAt n).rollout.ledger
      = (o.heldAt n).rollout.ledger := by
  cases htelemetry : record.isTelemetry with
  | false =>
    obtain ⟨f, hcount⟩ : ∃ f, (drainRecord env now (r, o) record).2 = o.count f :=
      drainRecord_refused htelemetry (h htelemetry)
    rw [hcount]
    rfl
  | true =>
    have hrun : (drainRecord env now (r, o) record).2 = applyTelemetry env record now o := by
      simp only [drainRecord, htelemetry, if_true]
    rw [hrun]
    unfold applyTelemetry
    dsimp only
    split
    · rfl
    · have hloop := foldl_range (f := fun o k => (o.on k {} (telemetryOn env record now)).2) (a := o)
        (n := o.held.length) (fun _ o' => o'.held.length = o.held.length
          ∧ (o'.heldAt n).rollout.ledger = (o.heldAt n).rollout.ledger) ⟨rfl, rfl⟩
        fun k o' hk hkept => ⟨(on_length _).trans hkept.1,
          (on_ledger telemetryOn_ledger (hkept.1.symm ▸ hk) n).trans hkept.2⟩
      exact hloop.2

/-! ## Reconciliation -/

/-- The adapter is asked about the outstanding attempts of the rollout. -/
def askAdapter (env : Env ρ) (execution : ExecutionAdapter ρ) : Op ρ (ReconcileResult × Timestamp) := do
  let asked ← Op.read fun w => w.impl.outstanding w.rollout.id
  let result ← Op.ask (execution.reconcile (asked.map Attempt.fence))
  let now ← Op.ask env.clock
  pure (result, now)

/-- The rollouts as a reconciliation of the one at `k` looks them up. -/
def Orchestrator.finding (o : Orchestrator ρ) (k : Nat) (r : Rollout) (id : RolloutId) :
    Option Rollout := (o.setRollout k r).find id

/-- The reconciliation of the rollout at `k` comes to this entry of the answer in the world `w`, once
it took up the entries before it. -/
structure Orchestrator.ComesTo (o : Orchestrator ρ) (env : Env ρ) (k : Nat) (now : Timestamp)
    (entry : ReconcileEntry) (w : World ρ) : Prop where
  index : o.index (o.heldAt k).rollout.id = some k
  reached : ∃ execution result before rest start, env.execution = some execution
    ∧ (askAdapter env execution).exec (o.world k {}) = (.ok (result, now), start)
    ∧ result.ok = true ∧ result.entries = before ++ entry :: rest
    ∧ (before.forM fun entry => do let _ ← reconcileEntry env (o.finding k) now entry).exec start
      = (.ok (), w)

/-- The rollout that is reconciled is found as it is. -/
theorem Orchestrator.finding_self (hindex : o.index (o.heldAt k).rollout.id = some k) {r : Rollout}
    (hid : r.id = (o.heldAt k).rollout.id) : o.finding k r r.id = some r := by
  obtain ⟨hk, -, hfirst⟩ := Orchestrator.index_iff.1 hindex
  let o' : Orchestrator ρ := o.put k { impl := o.impl, rollout := r }
  have hself : o'.heldAt k = { o.heldAt k with rollout := r } := Orchestrator.heldAt_put_self hk _
  have hindex' : o'.index r.id = some k := by
    refine Orchestrator.index_iff.2 ⟨(List.length_modify ..).symm ▸ hk, ?_, fun n hn => ?_⟩
    · rw [Orchestrator.coreAt, hself]
      rfl
    · rw [Orchestrator.coreAt, heldAt_put (Nat.ne_of_gt hn), hid]
      exact hfirst n hn
  have hfind : o'.find r.id = some (o'.heldAt k).rollout := index_find hindex'
  rw [hself] at hfind
  exact hfind

theorem Orchestrator.ComesTo.id_eq {entry : ReconcileEntry} (hs : o.sys.Holds (View.Sound env))
    (h : o.ComesTo env k now entry w) : w.rollout.id = (o.heldAt k).rollout.id := by
  obtain ⟨execution, result, before, rest, start, -, hask, -, -, hbefore⟩ := h.reached
  have hk : k < o.held.length := index_lt h.index
  have hsound := hs _ (.inr (List.mem_of_getElem? (rollouts_getElem? hk)))
  have hstart : start.core = (o.world k {}).core := by
    have hasked : Performs env Act.isSettling (fun _ => True) (o.world k {}).core
        (askAdapter env execution) fun _ c => c = (o.world k {}).core :=
      .read_bind fun _ _ => .skip .ask fun _ => .skip .ask fun _ => .pure rfl
    have hanswer := (hasked _ rfl).2.1
    rw [hask] at hanswer
    exact hanswer _ rfl
  have hloop : Performs env Act.isSettling (fun _ => True) start.core
      (before.forM fun entry => do let _ ← reconcileEntry env (o.finding k) now entry)
      fun _ c => c.Keyed ∧ c.rollout.id = (o.heldAt k).rollout.id := by
    refine .forM (hstart ▸ ⟨hsound.keyed, rfl⟩) fun entry _ c ⟨hkeyed, hid⟩ => ?_
    refine .bind (.keep (I := fun c => c.Keyed ∧ c.rollout.id = (o.heldAt k).rollout.id)
      (fun a c _ _ hg h => ⟨keyed_after a c hg h.1, (a.id_run _).trans h.2⟩) ⟨hkeyed, hid⟩
      (reconcileEntry_performs hkeyed)) fun _ _ hc => .pure hc.2
  have hdone := (hloop start rfl).2.1
  rw [hbefore] at hdone
  exact (hdone _ rfl).2

/-! ## Superseded generations -/

/-- The attempt belongs to an earlier generation of the rollout. -/
structure Rollout.Supersedes (r : Rollout) (a : Attempt) : Prop where
  rollout : a.rollout = r.id
  generation : a.generation ≠ r.generation

/-- The record carries the rollout and the generation of the attempt it names. -/
structure EvidenceRecord.TrueTo (record : EvidenceRecord) (a : Attempt) : Prop where
  rollout : record.rollout = a.rollout
  generation : record.generation = a.generation

/-- In every run, what names an attempt of a superseded generation leaves the ledger of the rollout
alone: a record that is true to its attempt does, and an entry of a reconciliation does exactly when
it finds nothing to do at the place of the attempt. -/
theorem superseded_untouched {n : Node ρ} (hn : n.Initial) (steps : List (Step ρ))
    (hrun : n.run env steps = .running o) :
    (∀ taken record a k, let acc := o.draining env taken
        acc.2.impl.attempts.lookup record.attempt = some a → acc.2.index a.rollout = some k →
        (acc.2.heldAt k).rollout.Supersedes a → record.isTelemetry = true ∨ record.TrueTo a →
        ∀ n, ((drainRecord env (o.tickTime env) acc record).2.heldAt n).rollout.ledger
          = (acc.2.heldAt n).rollout.ledger)
      ∧ ∀ k now entry w a, o.ComesTo env k now entry w →
        w.impl.attempts.lookup entry.fence.attempt = some a → w.rollout.Supersedes a →
        (((reconcileEntry env (o.finding k) now entry).exec w).2.rollout.ledger = w.rollout.ledger
          ↔ entry.Spares w.rollout a) := by
  have hs : o.sys.Holds (View.Sound env) := by
    have hsound : (n.run env steps).sys.Holds (View.Sound env) := sound_of_run hn steps
    rwa [hrun] at hsound
  constructor
  · intro taken record a k acc ha hindex hsuperseded htrue
    refine drainRecord_ledger (o := acc.2) fun htelemetry k' j i a' hindex' hadmitted => ?_
    have hown := htrue.resolve_left (by simp [htelemetry])
    rw [hown.rollout, hindex] at hindex'
    cases hindex'
    exact hsuperseded.generation (hown.generation.symm.trans hadmitted.generation)
  · intro k now entry w a hcomes ha hsuperseded
    refine reconcileEntry_ledger_iff ha ?_ hsuperseded.generation
    rw [hsuperseded.rollout]
    exact Orchestrator.finding_self hcomes.index (hcomes.id_eq hs)

/-! ## A rollout that is run again -/

/-- The attempts of the first generation are in flight when it is aborted, and those of the second
are in flight after that. -/
def rerun : List Input := firstRun ++ [.abort twinRollout {} [], .regenerate twinRollout {}]
  ++ startRerun

def firstGeneration : GenerationId :=
  ((twinOrchestrator.after volatileEnv [.create rerunPlan {}]).heldAt 0).rollout.generation

/-- The executor answers that the attempts of the first generation were never started. -/
def forgetfulAdapter : ExecutionAdapter Unit := { promptAdapter with
  reconcile := fun fences s => ({
    ok := true
    entries := (fences.filter fun fence => fence.generation == firstGeneration).map fun fence =>
      { fence, disposition := .notStarted } }, s) }

def forgetfulEnv : Env Unit := { volatileEnv with execution := some forgetfulAdapter }

def rerunTwin : Orchestrator Unit := loneOrchestrator.after forgetfulEnv rerun

/-- What the adapter answers, in the world it leaves. -/
def rerunAnswer : Except Status (ReconcileResult × Timestamp) × World Unit :=
  (askAdapter forgetfulEnv forgetfulAdapter).exec (rerunTwin.world 0 {})

def rerunEntry : ReconcileEntry :=
  (rerunAnswer.1.toOption.bind fun answer => answer.1.entries.head?).getD default

def rerunAttempt : Attempt :=
  (rerunAnswer.2.impl.attempts.lookup rerunEntry.fence.attempt).getD default

/-- A late success of an attempt. -/
def Attempt.lateSuccess (a : Attempt) : EvidenceRecord where
  id := idOf 6
  kind := .executionCompleted
  outcome := .succeeded
  sequence := 1
  rollout := a.rollout
  generation := a.generation
  stage := a.stage
  target := a.target
  attempt := a.id
  attemptEpoch := a.epoch
  incarnation := a.incarnation
  observedAt := ⟨1000⟩
  recordedAt := ⟨1000⟩

theorem Attempt.lateSuccess_trueTo (a : Attempt) : a.lateSuccess.TrueTo a := ⟨rfl, rfl⟩

/-- The attempt of the second generation. -/
def rerunLive : Attempt := (rerunTwin.impl.attempts.lookup
  ((rerunTwin.heldAt 0).rollout.targetAt 0 0).currentAttempt).getD default

theorem rerunTwin_checks :
    let r := (rerunTwin.heldAt 0).rollout
    let answer := rerunAnswer.1.toOption.getD ({}, {})
    let target := r.targetAt 0 0
    let drained := (rerunTwin.draining forgetfulEnv []).2
    let reconciled := ((reconcileOutstanding forgetfulEnv rerunTwin r.id).2.heldAt 0).rollout
    (rerunTwin.index r.id = some 0 ∧ rerunAnswer.1.isOk = true ∧ answer.1.ok = true
        ∧ answer.1.entries = [rerunEntry] ∧ rerunEntry.disposition = .notStarted
        ∧ rerunAnswer.2.impl.attempts.lookup rerunEntry.fence.attempt = some rerunAttempt
        ∧ rerunAttempt.rollout = rerunAnswer.2.rollout.id
        ∧ rerunAttempt.generation ≠ rerunAnswer.2.rollout.generation)
      ∧ (rerunAnswer.2.rollout.findStage rerunAttempt.stage = some 0
        ∧ (rerunAnswer.2.rollout.stageAt 0).findTarget rerunAttempt.target = some 0
        ∧ (rerunAnswer.2.rollout.targetAt 0 0).state = .dispatched)
      ∧ (drained.impl.attempts.lookup rerunAttempt.lateSuccess.attempt = some rerunAttempt
        ∧ drained.index rerunAttempt.rollout = some 0
        ∧ rerunAttempt.rollout = (drained.heldAt 0).rollout.id
        ∧ rerunAttempt.generation ≠ (drained.heldAt 0).rollout.generation)
      ∧ (target.state = .dispatched
        ∧ rerunTwin.impl.attempts.lookup target.currentAttempt = some rerunLive
        ∧ rerunLive.generation = r.generation ∧ rerunLive.finished = false)
      ∧ ((reconciled.targetAt 0 0).state = .pending
        ∧ (reconciled.targetAt 0 0).currentAttempt = .nil) := by
  decide +kernel

theorem rerunTwin_run :
    (Node.running loneOrchestrator).run forgetfulEnv (rerun.map .input) = .running rerunTwin :=
  Node.run_inputs loneOrchestrator rerun

theorem rerunTwin_comesTo : rerunTwin.ComesTo forgetfulEnv 0
    (rerunAnswer.1.toOption.getD ({}, {})).2 rerunEntry rerunAnswer.2 := by
  obtain ⟨⟨hindex, hok, hanswered, hentries, -⟩, -⟩ := rerunTwin_checks
  refine ⟨hindex, forgetfulAdapter, (rerunAnswer.1.toOption.getD ({}, {})).1, [], [],
    rerunAnswer.2, rfl, ?_, hanswered, hentries, rfl⟩
  change rerunAnswer = _
  generalize rerunAnswer = answer at hok ⊢
  obtain ⟨result, w⟩ := answer
  cases result with
  | error s => cases hok
  | ok answer => rfl

/-- The late success is refused, and the answer of the adapter releases the target of the second
generation. -/
theorem rerunTwin_touched :
    (∀ n, ((drainRecord forgetfulEnv (rerunTwin.tickTime forgetfulEnv)
        (rerunTwin.draining forgetfulEnv []) rerunAttempt.lateSuccess).2.heldAt n).rollout.ledger
          = ((rerunTwin.draining forgetfulEnv []).2.heldAt n).rollout.ledger)
      ∧ ((reconcileEntry forgetfulEnv (rerunTwin.finding 0)
        (rerunAnswer.1.toOption.getD ({}, {})).2 rerunEntry).exec rerunAnswer.2).2.rollout.ledger
          ≠ rerunAnswer.2.rollout.ledger := by
  obtain ⟨⟨-, -, -, -, hnotStarted, hfound, hrollout, hgeneration⟩, ⟨hstage, htarget, hstate⟩,
    ⟨hnamed, hindex, hrollout', hgeneration'⟩, -⟩ := rerunTwin_checks
  obtain ⟨hrecords, hentries⟩ := superseded_untouched
    (.running loneOrchestrator rfl rfl rfl rfl) (rerun.map .input) rerunTwin_run
  refine ⟨hrecords [] _ _ _ hnamed hindex ⟨hrollout', hgeneration'⟩ (.inr rerunAttempt.lateSuccess_trueTo),
    fun hsame => ?_⟩
  have hspares := (hentries _ _ _ _ _ rerunTwin_comesTo hfound ⟨hrollout, hgeneration⟩).1 hsame
  exact (hspares.notStarted hnotStarted _ _ hstage htarget).1.state.1 hstate

/-- The target of the second generation loses its live attempt to an answer about the first. -/
theorem rerunTwin_released : ∃ (steps : List (Step Unit)) (o : Orchestrator Unit) (a live : Attempt),
    (Node.running loneOrchestrator).run forgetfulEnv steps = .running o
      ∧ (∃ now entry w, o.ComesTo forgetfulEnv 0 now entry w
        ∧ w.impl.attempts.lookup entry.fence.attempt = some a ∧ w.rollout.Supersedes a)
      ∧ (let target := (o.heldAt 0).rollout.targetAt 0 0
        target.state = .dispatched ∧ o.impl.attempts.lookup target.currentAttempt = some live
          ∧ live.generation = (o.heldAt 0).rollout.generation ∧ live.finished = false)
      ∧ (let target := ((reconcileOutstanding forgetfulEnv o
          (o.heldAt 0).rollout.id).2.heldAt 0).rollout.targetAt 0 0
        target.state = .pending ∧ target.currentAttempt = .nil) := by
  obtain ⟨⟨-, -, -, -, -, hfound, hrollout, hgeneration⟩, -, -, hlive, hreleased⟩ := rerunTwin_checks
  exact ⟨_, rerunTwin, rerunAttempt, rerunLive, rerunTwin_run,
    ⟨_, _, _, rerunTwin_comesTo, hfound, hrollout, hgeneration⟩, hlive, hreleased⟩

end RolloutFabric
