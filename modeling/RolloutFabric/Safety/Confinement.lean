/-
Evidence and the attempt it belongs to: a record touches the place it names, which nothing compares
with the place of its attempt.
-/
import RolloutFabric.Orchestrator.Overlooked
import RolloutFabric.Safety.Verification

namespace RolloutFabric

open Program

variable {ρ : Type} {env : Env ρ} {o o' : Orchestrator ρ} {record : EvidenceRecord}
  {now : Timestamp} {r : TickReport} {k j i : Nat} {a : Attempt}

/-! ## Beside a target -/

/-- A rollout around the target at `j`, `i`: its identifier, its other stages, and the other
targets of the stage. -/
def Rollout.beside (j i : Nat) (r : Rollout) : RolloutId × List StageRuntime × List TargetRuntime :=
  (r.id, r.stages.set j default, (r.stageAt j).targets.set i default)

theorem set_modify {α : Type} (l : List α) (i : Nat) (f : α → α) (b : α) :
    (l.modify i f).set i b = l.set i b := by
  apply List.ext_getElem?
  intro n
  simp only [List.getElem?_set, List.getElem?_modify, List.length_modify]
  by_cases h : i = n
  · simp [h]
  · simp [h]

/-- A change of the stage at `j` that keeps its targets, all but the one at `i`. -/
theorem Rollout.beside_modifyStage (r : Rollout) {f : StageRuntime → StageRuntime}
    (h : ∀ s, (f s).targets.set i default = s.targets.set i default) :
    (r.modifyStage j f).beside j i = r.beside j i := by
  have htargets : ((r.modifyStage j f).stageAt j).targets.set i default
      = (r.stageAt j).targets.set i default := by
    simp only [stageAt, modifyStage, List.getD_eq_getElem?_getD, List.getElem?_modify, if_true]
    cases r.stages[j]? with
    | none => rfl
    | some s => exact h s
  simp only [beside, htargets, Prod.mk.injEq, and_true]
  exact ⟨rfl, set_modify ..⟩

theorem Rollout.beside_modifyTarget (r : Rollout) (f : TargetRuntime → TargetRuntime) :
    (r.modifyTarget j i f).beside j i = r.beside j i :=
  r.beside_modifyStage fun _ => set_modify ..

theorem beside_overlooks (j i : Nat) : Overlooks (Rollout.beside j i) j i where
  settled _ := rfl
  target r f _ := r.beside_modifyTarget f
  stage r f h := r.beside_modifyStage fun s => by rw [h]

/-- A record of any class stays at the target it is applied to. -/
theorem applyClass_beside : Frames (fun w => w.rollout.beside j i)
    (applyClass env record j i a now) := by
  by_cases hclass : evidenceClass record.kind = .verification
  · unfold applyClass
    rw [hclass]
    exact fun w => w.rollout.beside_modifyTarget _
  · exact (beside_overlooks j i).applyClass_frames hclass

/-! ## What a record may touch -/

/-- The record names the place of the attempt. -/
structure EvidenceRecord.OwnedBy (record : EvidenceRecord) (a : Attempt) : Prop where
  rollout : record.rollout = a.rollout
  stage : record.stage = a.stage
  target : record.target = a.target

/-- Nothing changed but the rollout of the attempt, there but its stage, and there but its target. -/
structure Orchestrator.Apart (o o' : Orchestrator ρ) (a : Attempt) : Prop where
  length : o'.held.length = o.held.length
  rollouts : ∀ k, (o.heldAt k).rollout.id ≠ a.rollout → o'.held[k]? = o.held[k]?
  stages : ∀ k j, ((o.heldAt k).rollout.stageAt j).id ≠ a.stage →
    (o'.heldAt k).rollout.stages[j]? = (o.heldAt k).rollout.stages[j]?
  targets : ∀ k j i, ((o.heldAt k).rollout.targetAt j i).target ≠ a.target →
    ((o'.heldAt k).rollout.stageAt j).targets[i]? = ((o.heldAt k).rollout.stageAt j).targets[i]?

theorem getElem?_of_set_eq {α : Type} {l l' : List α} {i n : Nat} {b : α}
    (h : l'.set i b = l.set i b) (hn : i ≠ n) : l'[n]? = l[n]? := by
  have hat := congrArg (fun l : List α => l[n]?) h
  simpa [List.getElem?_set, hn] using hat

/-- A rollout that kept what is beside the target at `j`, `i`. -/
theorem Rollout.of_beside {r r' : Rollout} (h : r'.beside j i = r.beside j i) :
    (∀ n, j ≠ n → r'.stages[n]? = r.stages[n]?)
      ∧ ∀ n m, j ≠ n ∨ i ≠ m → (r'.stageAt n).targets[m]? = (r.stageAt n).targets[m]? := by
  simp only [beside, Prod.mk.injEq] at h
  obtain ⟨-, hstages, htargets⟩ := h
  have hother (n : Nat) (hn : j ≠ n) : r'.stages[n]? = r.stages[n]? :=
    getElem?_of_set_eq hstages hn
  refine ⟨hother, fun n m hne => ?_⟩
  by_cases hn : j = n
  · subst hn
    exact getElem?_of_set_eq htargets (hne.resolve_left fun h => h rfl)
  · simp only [stageAt, List.getD_eq_getElem?_getD, hother n hn]

theorem Rollout.find_names {r : Rollout} {stage : StageId} {target : TargetId}
    (hstage : r.findStage stage = some j) (htarget : (r.stageAt j).findTarget target = some i) :
    (r.stageAt j).id = stage ∧ (r.targetAt j i).target = target := by
  rw [Rollout.findStage_core] at hstage
  rw [StageRuntime.findTarget_core, core_stageAt] at htarget
  have hid := (RolloutCore.findStage_lt hstage).2
  have hname := (StageCore.findTarget_lt htarget).2
  rw [← core_stageAt] at hid
  change (r.core.targetAt j i).target = target at hname
  rw [← core_targetAt] at hname
  exact ⟨hid, hname⟩

/-! ## Draining -/

/-- An admitted record leaves alone everything but the place it names. -/
theorem drain_apart (htelemetry : record.isTelemetry = false)
    (hindex : o.index record.rollout = some k)
    (hadmitted : Admitted env o.impl (o.heldAt k).rollout record now j i a)
    (hown : record.OwnedBy a) : o.Apart (drainRecord env now (r, o) record).2 a := by
  rw [drainRecord_admitted htelemetry hindex hadmitted]
  generalize ho' : o.count (fun c => { c with evidenceAccepted := c.evidenceAccepted + 1 }) = o'
  have hheld : o'.held = o.held := by
    subst ho'
    rfl
  have hk : k < o.held.length := index_lt hindex
  let w := (Op.latch (applyEvidence env record now)).exec (o'.world k r)
  -- applying the record keeps what is beside its target
  have hbeside : w.2.rollout.beside j i = (o.heldAt k).rollout.beside j i := by
    subst ho'
    exact applyEvidence_kept (Rollout.beside j i) hadmitted.stage
      hadmitted.target hadmitted.attempt applyClass_beside
  have hput : (o'.put k w.2).held = o.held.modify k fun h => { h with rollout := w.2.rollout } := by
    rw [← hheld]
    rfl
  have hother (n : Nat) (hn : k ≠ n) : (o'.put k w.2).held[n]? = o.held[n]? := by
    simp [hput, hn]
  have hlength : (o'.put k w.2).held.length = o.held.length := by
    rw [hput, List.length_modify]
  have hat : ((o'.put k w.2).heldAt k).rollout = w.2.rollout := by
    simp [Orchestrator.heldAt, hput, hk]
  have hheldAt (n : Nat) (hn : k ≠ n) : (o'.put k w.2).heldAt n = o.heldAt n := by
    simp only [Orchestrator.heldAt, List.getD_eq_getElem?_getD, hother n hn]
  obtain ⟨hstages, htargets⟩ := Rollout.of_beside hbeside
  obtain ⟨hstage, htarget⟩ := Rollout.find_names hadmitted.stage hadmitted.target
  -- the other rollouts, the other stages and the other targets, in turn
  refine ⟨hlength, fun n hn => ?_,
    fun n m hm => ?_, fun n m l hl => ?_⟩
  · refine hother n fun heq => hn ?_
    rw [← heq, index_id hindex, hown.rollout]
  · by_cases hn : k = n
    · subst hn
      show ((o'.put k w.2).heldAt k).rollout.stages[m]? = _
      rw [hat]
      refine hstages m fun heq => hm ?_
      rw [← heq, hstage, hown.stage]
    · show ((o'.put k w.2).heldAt n).rollout.stages[m]? = _
      rw [hheldAt n hn]
  · by_cases hn : k = n
    · subst hn
      show (((o'.put k w.2).heldAt k).rollout.stageAt m).targets[l]? = _
      rw [hat]
      refine htargets m l ?_
      by_contra hsame
      obtain ⟨rfl, rfl⟩ := not_or.1 hsame |>.imp not_not.1 not_not.1
      exact hl (htarget.trans hown.target)
    · show (((o'.put k w.2).heldAt n).rollout.stageAt m).targets[l]? = _
      rw [hheldAt n hn]

/-! ## Own and foreign records -/

/-- The record passes every fence of `admit`. -/
def EvidenceRecord.accepted (record : EvidenceRecord) (env : Env ρ) (o : Orchestrator ρ)
    (now : Timestamp) : Bool :=
  (admitRecord env o.impl (o.find record.rollout) (o.planFor record.rollout).isSome record
    now).isAccepted

/-- A record touches the attempt it belongs to: admitted, it names the place of its attempt and
changes nothing elsewhere; naming another, it is refused and changes nothing at all. -/
structure EvidenceRecord.Confined (record : EvidenceRecord) (env : Env ρ) (o : Orchestrator ρ)
    (now : Timestamp) (r : TickReport) : Prop where
  own : record.accepted env o now = true → ∃ a, o.impl.attempts.lookup record.attempt = some a
    ∧ record.OwnedBy a ∧ o.Apart (drainRecord env now (r, o) record).2 a
  foreign : ∀ a, o.impl.attempts.lookup record.attempt = some a → a.finished = false →
    ¬ record.OwnedBy a → record.accepted env o now = false
      ∧ (drainRecord env now (r, o) record).2.held = o.held
      ∧ (drainRecord env now (r, o) record).2.impl.attempts = o.impl.attempts

theorem accepted_iff : record.accepted env o now = true ↔ ∃ k j i a,
    o.index record.rollout = some k
      ∧ Admitted env o.impl (o.heldAt k).rollout record now j i a := by
  unfold EvidenceRecord.accepted
  rw [admit_isAccepted]
  constructor
  · rintro ⟨-, r, j, i, a, hfind, hadmitted⟩
    cases hk : o.index record.rollout with
    | none =>
      obtain ⟨h, hfound, -⟩ := Option.map_eq_some_iff.1 hfind
      have hnone := List.findIdx?_eq_none_iff.1 hk h (List.mem_of_find?_eq_some hfound)
      rw [List.find?_some hfound] at hnone
      cases hnone
    | some k =>
      rw [index_find hk] at hfind
      cases hfind
      exact ⟨k, j, i, a, rfl, hadmitted⟩
  · rintro ⟨k, j, i, a, hindex, hadmitted⟩
    exact ⟨index_plan hindex, _, j, i, a, index_find hindex, hadmitted⟩

/-- A record of an attempt touches what it belongs to exactly when some fence refuses it, or it
names the rollout, the stage and the target of its attempt. -/
theorem record_confined_iff (env : Env ρ) (o : Orchestrator ρ) (now : Timestamp) (r : TickReport)
    (record : EvidenceRecord) (htelemetry : record.isTelemetry = false) :
    record.Confined env o now r ↔ ∀ k j i a, o.index record.rollout = some k →
      Admitted env o.impl (o.heldAt k).rollout record now j i a → record.OwnedBy a := by
  constructor
  · intro h k j i a hindex hadmitted
    obtain ⟨a', ha', hown, -⟩ := h.own (accepted_iff.2 ⟨k, j, i, a, hindex, hadmitted⟩)
    rw [hadmitted.attempt] at ha'
    cases ha'
    exact hown
  · intro h
    refine ⟨fun haccepted => ?_, fun a ha _ hforeign => ?_⟩
    · obtain ⟨k, j, i, a, hindex, hadmitted⟩ := accepted_iff.1 haccepted
      have hown := h k j i a hindex hadmitted
      exact ⟨a, hadmitted.attempt, hown, drain_apart htelemetry hindex hadmitted hown⟩
    · have hnone (k j i : Nat) (a' : Attempt) (hindex : o.index record.rollout = some k) :
          ¬ Admitted env o.impl (o.heldAt k).rollout record now j i a' := by
        intro hadmitted
        have hsame := hadmitted.attempt
        rw [ha] at hsame
        cases hsame
        exact hforeign (h k j i a hindex hadmitted)
      obtain ⟨f, hf⟩ := drainRecord_refused (r := r) htelemetry hnone
      rw [hf]
      refine ⟨Bool.eq_false_iff.2 fun haccepted => ?_, rfl, rfl⟩
      obtain ⟨k, j, i, a', hindex, hadmitted⟩ := accepted_iff.1 haccepted
      exact hnone k j i a' hindex hadmitted

/-! ## A cancellation of another attempt -/

/-- The executor of the first target acknowledges the cancellation of its attempt, under the name
of the second target. -/
def crossedReport : EvidenceRecord :=
  { verifiedNode.report 0 .cancellationAcknowledged .inconclusive with
    target := (verifiedNode.first.targetAt 0 1).target }

def crossedNode : Orchestrator Unit :=
  (drainRecord volatileEnv ⟨1000⟩ ({}, verifiedNode.orchestrator) crossedReport).2

theorem verifiedPass_confined :
    (verifiedPass 1).Confined volatileEnv verifiedNode.orchestrator ⟨1000⟩ {} := by
  refine (record_confined_iff volatileEnv verifiedNode.orchestrator ⟨1000⟩ {} (verifiedPass 1)
    rfl).2 fun k j i a _ hadmitted => ?_
  obtain ⟨⟨-, -, -, -, hlookup, -⟩, -, -, -, -, hrecords⟩ := verifiedNode_checks
  obtain ⟨⟨hrollout, -, hstage, htarget, hattempt, -⟩, -⟩ := hrecords (verifiedPass 1) (by simp)
  have hstanding (o : Orchestrator Unit) (id : AttemptId) :
      (o.standing 0).attempts id = o.impl.attempts.lookup id := rfl
  have hsame := hadmitted.attempt
  rw [hattempt, ← hstanding, hlookup] at hsame
  obtain rfl := Option.some.inj hsame
  exact ⟨hrollout, hstage, htarget⟩

/-- The second target is cancelled by it, and its attempt forgotten. -/
theorem crossedReport_cancels :
    crossedReport.isTelemetry = false
      ∧ (verifiedNode.first.targetAt 0 1).state = .dispatched
      ∧ ((crossedNode.heldAt 0).rollout.targetAt 0 1).state = .cancelled
      ∧ ((crossedNode.heldAt 0).rollout.targetAt 0 1).currentAttempt = .nil
      ∧ ¬ crossedReport.Confined volatileEnv verifiedNode.orchestrator ⟨1000⟩ {} := by
  have hcrossed : crossedReport.isTelemetry = false
      ∧ (verifiedNode.first.targetAt 0 1).state = .dispatched
      ∧ ((crossedNode.heldAt 0).rollout.targetAt 0 1).state = .cancelled
      ∧ ((crossedNode.heldAt 0).rollout.targetAt 0 1).currentAttempt = .nil
      ∧ crossedReport.accepted volatileEnv verifiedNode.orchestrator ⟨1000⟩ = true
      ∧ ∀ a ∈ verifiedNode.orchestrator.impl.attempts.lookup crossedReport.attempt,
        crossedReport.target ≠ a.target := by decide +kernel
  obtain ⟨htelemetry, hbefore, hafter, hattempt, haccepted, hother⟩ := hcrossed
  refine ⟨htelemetry, hbefore, hafter, hattempt, fun h => ?_⟩
  obtain ⟨a, ha, hown, -⟩ := h.own haccepted
  exact hother a ha hown.target

end RolloutFabric
