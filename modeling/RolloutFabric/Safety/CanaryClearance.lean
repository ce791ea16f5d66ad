/-
The clearance of a canary: it is on a batch of succeeded targets, where no retry took the place of
a target among the dispatches that are counted.
-/
import RolloutFabric.Safety.AuditedRuns
import RolloutFabric.Safety.Concurrency

namespace RolloutFabric

variable {ρ : Type} {env : Env ρ}

/-! ## The law -/

namespace StageTally

/-- The targets of the stage that have succeeded. -/
def succeeded (s : StageTally) : Nat := s.targets.countP fun t => decide (t.state = .succeeded)

/-- What the canary is to wait for: as many targets as it holds, or the whole cohort. -/
def canaryBatch (s : StageTally) : Nat := min s.policy.canarySize.toNat s.targets.length

/-- Once the dispatches of an open canary are as many as it holds, they were for as many targets. -/
def Spread (s : StageTally) : Prop :=
  s.canaryCleared = false → s.policy.canarySize ≤ s.dispatchedTotal → s.canaryBatch ≤ s.attempted

variable {s : StageTally} {i : Nat} {t t' : TargetTally}

/-- A target gives way to one with the same value of this. -/
theorem map_setTarget {α : Type} {f : TargetTally → α} (ht : s.targets[i]? = some t)
    (h : f t' = f t) : (s.setTarget i t').targets.map f = s.targets.map f := by
  obtain ⟨hi, hget⟩ := List.getElem?_eq_some_iff.1 ht
  show (s.targets.set i t').map f = _
  rw [List.map_set, h, ← hget, ← List.getElem_map f (h := by simpa using hi), List.set_getElem_self]

theorem Sorted.setTarget (hs : s.Sorted) (ht : s.targets[i]? = some t)
    (h : t'.target = t.target) : (s.setTarget i t').Sorted := by
  unfold Sorted
  rwa [map_setTarget ht h]

theorem attempted_eq (s : StageTally) :
    s.attempted = (s.targets.map TargetTally.attemptsCreated).countP fun n => decide (0 < n) := by
  rw [List.countP_map]
  rfl

theorem attempted_setTarget (ht : s.targets[i]? = some t)
    (h : t'.attemptsCreated = t.attemptsCreated) :
    (s.setTarget i t').attempted = s.attempted := by
  rw [attempted_eq, attempted_eq, map_setTarget ht h]

theorem canaryBatch_setTarget : (s.setTarget i t').canaryBatch = s.canaryBatch := by
  simp [canaryBatch, setTarget]

theorem Spread.setTarget (h : s.Spread) (ht : s.targets[i]? = some t) (hf : t.Follows t') :
    (s.setTarget i t').Spread := by
  intro hopen hfull
  rw [attempted_setTarget ht hf.attempts, canaryBatch_setTarget]
  exact h hopen hfull

/-- A canary that is cleared where its dispatches were spread finds its batch succeeded. -/
theorem succeeded_of_clears {stage : StageRuntime} {now : Timestamp} (h : stage.tally.Spread)
    (hclears : stage.clears env now = true) :
    stage.tally.canaryBatch ≤ stage.tally.succeeded := by
  simp only [StageRuntime.clears, canaryOk, Bool.and_eq_true, Bool.not_eq_true',
    decide_eq_true_eq, decide_eq_false_iff_not, List.all_eq_true, Bool.or_eq_true,
    beq_iff_eq] at hclears
  obtain ⟨⟨⟨hopen, -⟩, hfull⟩, hall, -⟩ := hclears
  refine (h hopen (UInt32.not_lt.1 hfull)).trans ?_
  show (stage.targets.map TargetRuntime.tally).countP _ ≤ (stage.targets.map TargetRuntime.tally).countP _
  rw [List.countP_map, List.countP_map]
  refine List.countP_mono_left fun t ht hattempted => ?_
  have hpos : 0 < t.attemptsCreated := of_decide_eq_true hattempted
  exact decide_eq_true ((hall t ht).resolve_left ((UInt32.lt_iff_toNat_lt.1 hpos).ne' ∘ congrArg UInt32.toNat))

end StageTally

/-- A cleared canary was cleared by a look at it. -/
def clearedLaw (env : Env ρ) : StageLaw := fun r g s t =>
  s.Sorted ∧ (s.canaryCleared = true → ∃ stage now, .weighed r g stage now ∈ t
    ∧ stage.id = s.id ∧ stage.policy = s.policy ∧ stage.clears env now = true)

/-- A look that clears the canary finds its batch succeeded. -/
def ClearsOnSuccess (env : Env ρ) : Event → Prop
  | .weighed _ _ stage now => stage.clears env now = true →
    stage.tally.canaryBatch ≤ stage.tally.succeeded
  | _ => True

theorem clearedLaw_grows : (clearedLaw env).Grows := by
  rintro r g s t l ⟨hsorted, hcleared⟩
  refine ⟨hsorted, fun h => ?_⟩
  obtain ⟨stage, now, hmem, hrest⟩ := hcleared h
  exact ⟨stage, now, List.mem_append_left _ hmem, hrest⟩

theorem clearedLaw_lawful :
    Lawful env False (clearedLaw env) StageTally.Spread (ClearsOnSuccess env) where
  sorted h := h.1
  log h _ := clearedLaw_grows _ _ _ _ _ h
  other h _ := clearedLaw_grows _ _ _ _ _ h
  settle h ht hf _ := ⟨h.1.setTarget ht hf.target, h.2⟩
  dispatch := by
    rintro r g s t i x a step h hfor
    obtain ⟨hsorted, hcleared⟩ := clearedLaw_grows _ _ _ _ [.dispatched a step] h
    exact ⟨hsorted.setTarget hfor.found rfl, hcleared⟩
  clear h _ hmem hclears := ⟨h.1, fun _ => ⟨_, _, hmem, rfl, rfl, hclears⟩⟩
  blank h _ := ⟨h.sorted, fun hcleared => by rw [h.uncleared] at hcleared; cases hcleared⟩
  plain := by
    rintro e he
    cases e <;> trivial
  weighed h := StageTally.succeeded_of_clears h
  nothing := fun _ h => absurd h (by decide)
  dSettle h ht hf := h.setTarget ht hf
  dClear _ := fun h => by cases h

/-! ## Every run -/

instance : DecidablePred StageTally.Spread := fun s =>
  inferInstanceAs (Decidable (s.canaryCleared = false → s.policy.canarySize ≤ s.dispatchedTotal →
    s.canaryBatch ≤ s.attempted))

/-- A canary of both targets, which are dispatched one at a time and may be retried once. -/
def retriedPlan : ChangePlan := { rerunPlan with
  stages := rerunPlan.stages.map fun stage => { stage with
    policy := { stage.policy with
      maxConcurrency := 1
      canarySize := 2
      canaryRequiresHealthGate := false
      maxAttemptsPerTarget := 2 } } }

/-- The first target is dispatched. -/
def startRetried : List (Step Unit) := (.create retriedPlan {} :: startRerun).map .input

/-- Its attempt fails, and it is dispatched again. -/
def retry : List (Step Unit) := startRetried ++ [
  .input (.onEvidence ((twinNode.run volatileEnv startRetried).report 0 .executionCompleted .failed)),
  .input .tick]

/-- Its second attempt succeeds. -/
def clearRetried : List (Step Unit) := retry ++ [
  .input (.onEvidence { (twinNode.run volatileEnv retry).report 0 .executionCompleted .succeeded with
    id := idOf 9 }),
  .input .tick]

/-- The look clears the canary of a stage whose batch has not succeeded. -/
def Event.clearsEarly (env : Env ρ) : Event → Bool
  | .weighed _ _ stage now =>
    stage.clears env now && decide (stage.tally.succeeded < stage.tally.canaryBatch)
  | _ => false

end RolloutFabric
