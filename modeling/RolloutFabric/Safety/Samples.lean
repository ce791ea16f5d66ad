/-
The health samples of a target, in whatever order they arrive: how many of them a count of
consecutive healthy samples stands for, and where the time of the last one goes.
-/
import RolloutFabric.Safety.Attestation

namespace RolloutFabric

variable {limits : RuntimeLimits} {id : TargetId} {t : TargetRuntime}

/-! ## Samples -/

/-- A health sample with the time it arrives at. -/
abbrev Sample := EvidenceRecord × Timestamp

/-- It is fresh enough, on arrival, to be applied. -/
def Sample.Heeded (limits : RuntimeLimits) (s : Sample) : Prop :=
  (admissionFreshness limits s.1 s.2).fresh = true

/-- It says that the target is healthy. -/
def Sample.Healthy (s : Sample) : Prop := s.1.outcome = .succeeded

/-- A target as it is created, after the samples that arrived for it. -/
def sampled (limits : RuntimeLimits) (id : TargetId) (samples : List Sample) : TargetRuntime :=
  samples.foldl (fun t s => applyHealth limits s.1 s.2 t) { target := id }

theorem sampled_concat (samples : List Sample) (s : Sample) :
    sampled limits id (samples ++ [s]) = applyHealth limits s.1 s.2 (sampled limits id samples) := by
  simp [sampled]

/-- There are this many healthy observations, each later than the one before, and none after the
first of them was unhealthy. -/
def HealthyInARow (limits : RuntimeLimits) (samples : List Sample) (n : Nat) : Prop :=
  ∃ seen : List Timestamp, seen.length = n ∧ seen.Pairwise (fun a b => a.nanos < b.nanos)
    ∧ (∀ at' ∈ seen, ∃ s ∈ samples, s.Heeded limits ∧ s.Healthy ∧ s.1.observedAt = at')
    ∧ ∀ s ∈ samples, s.Heeded limits → ¬ s.Healthy → ∀ at' ∈ seen,
      s.1.observedAt.nanos ≤ at'.nanos

/-- Where a count of consecutive healthy samples is one of distinct observations, and the time of
the last one never goes back. -/
structure Honest (limits : RuntimeLimits) (id : TargetId) (samples : List Sample) : Prop where
  count : ∀ n ≤ (sampled limits id samples).consecutiveHealthy.toNat,
    HealthyInARow limits samples n
  time : ∀ earlier later, samples = earlier ++ later →
    (sampled limits id earlier).lastHealthyAt.isNil = false →
    (sampled limits id earlier).lastHealthyAt.nanos
      ≤ (sampled limits id samples).lastHealthyAt.nanos

/-! ## Samples in order -/

/-- A sample is observed no earlier than the last one that was applied, and later if both are
healthy. -/
def Sample.Follows (limits : RuntimeLimits) (t : TargetRuntime) (s : Sample) : Prop :=
  s.Heeded limits → t.lastHealthyAt.isNil = false →
    t.lastHealthyAt.nanos ≤ s.1.observedAt.nanos
      ∧ (t.healthy = true → s.Healthy → t.lastHealthyAt.nanos < s.1.observedAt.nanos)

/-- Every sample follows those that arrived before it. -/
def InOrder (limits : RuntimeLimits) (id : TargetId) (samples : List Sample) : Prop :=
  ∀ earlier s later, samples = earlier ++ s :: later → s.Follows limits (sampled limits id earlier)

theorem InOrder.init {samples : List Sample} {s : Sample} (h : InOrder limits id (samples ++ [s])) :
    InOrder limits id samples ∧ s.Follows limits (sampled limits id samples) := by
  constructor
  · rintro earlier s' later rfl
    exact h earlier s' (later ++ [s]) (by simp)
  · exact h samples s [] rfl

/-! ## One sample -/

theorem applyHealth_stale {s : Sample} (h : ¬ s.Heeded limits) :
    (applyHealth limits s.1 s.2 t).consecutiveHealthy = t.consecutiveHealthy
      ∧ (applyHealth limits s.1 s.2 t).lastHealthyAt = t.lastHealthyAt
      ∧ (applyHealth limits s.1 s.2 t).healthy = t.healthy := by
  unfold Sample.Heeded at h
  simp [applyHealth, h]

theorem applyHealth_healthy {s : Sample} (h : s.Heeded limits) (hs : s.Healthy) :
    (applyHealth limits s.1 s.2 t).consecutiveHealthy = t.consecutiveHealthy + 1
      ∧ (applyHealth limits s.1 s.2 t).lastHealthyAt = s.1.observedAt
      ∧ (applyHealth limits s.1 s.2 t).healthy = true := by
  unfold Sample.Heeded at h
  unfold Sample.Healthy at hs
  simp [applyHealth, h, hs]

theorem applyHealth_unhealthy {s : Sample} (h : s.Heeded limits) (hs : ¬ s.Healthy) :
    (applyHealth limits s.1 s.2 t).consecutiveHealthy = 0
      ∧ (applyHealth limits s.1 s.2 t).lastHealthyAt = s.1.observedAt
      ∧ (applyHealth limits s.1 s.2 t).healthy = false := by
  unfold Sample.Heeded at h
  unfold Sample.Healthy at hs
  simp [applyHealth, h, hs]

/-- A sample without a time is not applied. -/
theorem Sample.Heeded.observed {s : Sample} (h : s.Heeded limits) :
    s.1.observedAt.isNil = false := by
  by_contra hnil
  rw [Bool.not_eq_false] at hnil
  simp [Sample.Heeded, admissionFreshness, evaluateFreshness, hnil] at h

/-! ## What is counted -/

/-- The observations behind the count of a target. -/
structure Counted (limits : RuntimeLimits) (samples : List Sample) (t : TargetRuntime)
    (seen : List Timestamp) : Prop where
  count : t.consecutiveHealthy.toNat ≤ seen.length
  increasing : seen.Pairwise fun a b => a.nanos < b.nanos
  healthy : ∀ at' ∈ seen, ∃ s ∈ samples, s.Heeded limits ∧ s.Healthy ∧ s.1.observedAt = at'
  recent : ∀ at' ∈ seen, at'.nanos ≤ t.lastHealthyAt.nanos
  after : ∀ s ∈ samples, s.Heeded limits → ¬ s.Healthy → ∀ at' ∈ seen,
    s.1.observedAt.nanos ≤ at'.nanos
  last : ∀ s ∈ samples, s.Heeded limits →
    t.lastHealthyAt.isNil = false ∧ s.1.observedAt.nanos ≤ t.lastHealthyAt.nanos
  down : t.healthy = false → seen = []

theorem counted_nil : Counted limits [] { target := id } [] where
  count := Nat.le_refl _
  increasing := List.Pairwise.nil
  healthy := by simp
  recent := by simp
  after := by simp
  last := by simp
  down _ := rfl

section

variable {samples : List Sample} {seen : List Timestamp} {s : Sample}

/-- A sample that is not applied changes nothing. -/
theorem Counted.stale (h : Counted limits samples t seen) (hs : ¬ s.Heeded limits) :
    Counted limits (samples ++ [s]) (applyHealth limits s.1 s.2 t) seen := by
  obtain ⟨hcount, hlast, hhealthy⟩ := applyHealth_stale (t := t) hs
  have hmem {s' : Sample} (hs' : s' ∈ samples ++ [s]) (hheeded : s'.Heeded limits) :
      s' ∈ samples := by
    rcases List.mem_append.1 hs' with hin | hin
    · exact hin
    · rw [List.mem_singleton.1 hin] at hheeded
      exact absurd hheeded hs
  constructor
  · rw [hcount]
    exact h.count
  · exact h.increasing
  · intro at' hat
    obtain ⟨s', hs', hrest⟩ := h.healthy at' hat
    exact ⟨s', List.mem_append_left _ hs', hrest⟩
  · rw [hlast]
    exact h.recent
  · exact fun s' hs' hheeded => h.after s' (hmem hs' hheeded) hheeded
  · rw [hlast]
    exact fun s' hs' hheeded => h.last s' (hmem hs' hheeded) hheeded
  · rw [hhealthy]
    exact h.down

/-- The time of the last sample after one more that follows it. -/
theorem Counted.last_concat (h : Counted limits samples t seen) (hs : s.Heeded limits)
    (hfollows : s.Follows limits t) {t' : TargetRuntime} (ht : t'.lastHealthyAt = s.1.observedAt)
    {s' : Sample} (hs' : s' ∈ samples ++ [s]) (hheeded : s'.Heeded limits) :
    t'.lastHealthyAt.isNil = false ∧ s'.1.observedAt.nanos ≤ t'.lastHealthyAt.nanos := by
  rw [ht]
  refine ⟨hs.observed, ?_⟩
  rcases List.mem_append.1 hs' with hin | hin
  · obtain ⟨hnil, hle⟩ := h.last s' hin hheeded
    exact Int64.le_trans hle (hfollows hs hnil).1
  · rw [List.mem_singleton.1 hin]
    exact Int64.le_refl _

/-- An unhealthy sample starts the count again. -/
theorem Counted.unhealthy (h : Counted limits samples t seen) (hs : s.Heeded limits)
    (hhealthy : ¬ s.Healthy) (hfollows : s.Follows limits t) :
    Counted limits (samples ++ [s]) (applyHealth limits s.1 s.2 t) [] := by
  obtain ⟨hcount, hlast, -⟩ := applyHealth_unhealthy (t := t) hs hhealthy
  constructor
  · rw [hcount]
    exact Nat.le_refl _
  · exact List.Pairwise.nil
  · simp
  · simp
  · simp
  · exact fun s' hs' hheeded => h.last_concat hs hfollows hlast hs' hheeded
  · exact fun _ => rfl

/-- A healthy sample is one more observation, later than all that are counted. -/
theorem Counted.counts (h : Counted limits samples t seen) (hs : s.Heeded limits)
    (hhealthy : s.Healthy) (hfollows : s.Follows limits t) :
    Counted limits (samples ++ [s]) (applyHealth limits s.1 s.2 t)
      (seen ++ [s.1.observedAt]) := by
  obtain ⟨hcount, hlast, hup⟩ := applyHealth_healthy (t := t) hs hhealthy
  -- healthy samples in a row come in the order of their observation
  have hlater : ∀ at' ∈ seen, at'.nanos < s.1.observedAt.nanos := by
    intro at' hat
    have hhealthy' : t.healthy = true := by
      by_contra hdown
      rw [h.down (by simpa using hdown)] at hat
      cases hat
    obtain ⟨s', hs', hheeded, -⟩ := h.healthy at' hat
    exact Int64.lt_of_le_of_lt (h.recent at' hat)
      ((hfollows hs (h.last s' hs' hheeded).1).2 hhealthy' hhealthy)
  constructor
  · rw [hcount, List.length_append, List.length_singleton, UInt32.toNat_add]
    exact (Nat.mod_le _ _).trans (Nat.add_le_add_right h.count 1)
  · rw [List.pairwise_append]
    refine ⟨h.increasing, List.pairwise_singleton .., fun at' hat b hb => ?_⟩
    rw [List.mem_singleton.1 hb]
    exact hlater at' hat
  · intro at' hat
    rcases List.mem_append.1 hat with hin | hin
    · obtain ⟨s', hs', hrest⟩ := h.healthy at' hin
      exact ⟨s', List.mem_append_left _ hs', hrest⟩
    · rw [List.mem_singleton.1 hin]
      exact ⟨s, by simp, hs, hhealthy, rfl⟩
  · intro at' hat
    rw [hlast]
    rcases List.mem_append.1 hat with hin | hin
    · exact Int64.le_of_lt (hlater at' hin)
    · rw [List.mem_singleton.1 hin]
      exact Int64.le_refl _
  · intro s' hs' hheeded hunhealthy at' hat
    have hs' : s' ∈ samples := by
      rcases List.mem_append.1 hs' with hin | hin
      · exact hin
      · rw [List.mem_singleton.1 hin] at hunhealthy
        exact absurd hhealthy hunhealthy
    rcases List.mem_append.1 hat with hin | hin
    · exact h.after s' hs' hheeded hunhealthy at' hin
    · rw [List.mem_singleton.1 hin]
      obtain ⟨hnil, hle⟩ := h.last s' hs' hheeded
      exact Int64.le_trans hle (hfollows hs hnil).1
  · exact fun s' hs' hheeded => h.last_concat hs hfollows hlast hs' hheeded
  · intro hdown
    rw [hup] at hdown
    cases hdown

theorem counted_of_inOrder (h : InOrder limits id samples) :
    ∃ seen, Counted limits samples (sampled limits id samples) seen := by
  induction samples using List.reverseRecOn with
  | nil => exact ⟨[], counted_nil⟩
  | append_singleton samples s ih =>
    obtain ⟨hinit, hfollows⟩ := h.init
    obtain ⟨seen, hcounted⟩ := ih hinit
    rw [sampled_concat]
    by_cases hs : s.Heeded limits
    · by_cases hhealthy : s.Healthy
      · exact ⟨_, hcounted.counts hs hhealthy hfollows⟩
      · exact ⟨_, hcounted.unhealthy hs hhealthy hfollows⟩
    · exact ⟨seen, hcounted.stale hs⟩

/-- The last of the observations behind a count. -/
theorem Counted.inARow (h : Counted limits samples t seen) {n : Nat}
    (hn : n ≤ t.consecutiveHealthy.toNat) : HealthyInARow limits samples n := by
  have hlength := h.count
  refine ⟨seen.drop (seen.length - n), by rw [List.length_drop]; omega,
    h.increasing.sublist (List.drop_sublist ..), fun at' hat => h.healthy at' (List.mem_of_mem_drop hat),
    fun s hs hheeded hunhealthy at' hat => h.after s hs hheeded hunhealthy at'
      (List.mem_of_mem_drop hat)⟩

/-- A sample that follows leaves no earlier time behind. -/
theorem time_concat (hfollows : s.Follows limits t) (hnil : t.lastHealthyAt.isNil = false) :
    (applyHealth limits s.1 s.2 t).lastHealthyAt.isNil = false
      ∧ t.lastHealthyAt.nanos ≤ (applyHealth limits s.1 s.2 t).lastHealthyAt.nanos := by
  by_cases hs : s.Heeded limits
  · have hlast : (applyHealth limits s.1 s.2 t).lastHealthyAt = s.1.observedAt := by
      by_cases hhealthy : s.Healthy
      · exact (applyHealth_healthy hs hhealthy).2.1
      · exact (applyHealth_unhealthy hs hhealthy).2.1
    rw [hlast]
    exact ⟨hs.observed, (hfollows hs hnil).1⟩
  · rw [(applyHealth_stale hs).2.1]
    exact ⟨hnil, Int64.le_refl _⟩

/-- The time of the last sample after more that follow. -/
theorem time_kept {earlier later : List Sample} (h : InOrder limits id (earlier ++ later))
    (hnil : (sampled limits id earlier).lastHealthyAt.isNil = false) :
    (sampled limits id (earlier ++ later)).lastHealthyAt.isNil = false
      ∧ (sampled limits id earlier).lastHealthyAt.nanos
        ≤ (sampled limits id (earlier ++ later)).lastHealthyAt.nanos := by
  induction later using List.reverseRecOn with
  | nil =>
    rw [List.append_nil]
    exact ⟨hnil, Int64.le_refl _⟩
  | append_singleton later s ih =>
    rw [← List.append_assoc] at h ⊢
    obtain ⟨hinit, hfollows⟩ := h.init
    obtain ⟨hnil', hle⟩ := ih hinit
    rw [sampled_concat]
    obtain ⟨hnil'', hle'⟩ := time_concat hfollows hnil'
    exact ⟨hnil'', Int64.le_trans hle hle'⟩

end

/-- Samples that arrive in the order of their observation, and each once, are counted as distinct
observations. -/
theorem samples_in_order_are_honest {samples : List Sample} (h : InOrder limits id samples) :
    Honest limits id samples := by
  constructor
  · intro n hn
    obtain ⟨seen, hcounted⟩ := counted_of_inOrder h
    exact hcounted.inARow hn
  · rintro earlier later rfl hnil
    exact (time_kept h hnil).2

/-! ## In the orchestrator -/

/-- What a health sample is applied to. -/
def TargetRuntime.pulse (t : TargetRuntime) : UInt32 × Timestamp × Bool :=
  (t.consecutiveHealthy, t.lastHealthyAt, t.healthy)

/-- A drained sample is applied to the targets of the stages that hold the one it names. -/
theorem drained_sample {ρ : Type} {env : Env ρ} {o : Orchestrator ρ} {r : TickReport}
    {record : EvidenceRecord} {now : Timestamp} {k j i : Nat}
    (htelemetry : record.isTelemetry = true) (hk : k < o.held.length)
    (hfind : ((o.heldAt k).rollout.stageAt j).findTarget record.target = some i) :
    (((drainRecord env now (r, o) record).2.heldAt k).rollout.targetAt j i).pulse
      = (applyHealth env.limits record now ((o.heldAt k).rollout.targetAt j i)).pulse := by
  have hdrain : (drainRecord env now (r, o) record).2 = applyTelemetry env record now o := by
    simp only [drainRecord, htelemetry, if_true]
  rw [hdrain]
  cases hfresh : (admissionFreshness env.limits record now).fresh with
  | false =>
    have hstale : (applyTelemetry env record now o).held = o.held := by
      simp only [applyTelemetry, hfresh, Bool.not_false, if_true]
      rfl
    simp only [Orchestrator.heldAt, hstale, applyHealth, hfresh, Bool.not_false, if_true]
    rfl
  | true =>
    have hsettled := settled_telemetry (o := o) hfresh
    have hlength : k < (applyTelemetry env record now o).held.length := by
      have hsame := congrArg List.length hsettled
      simp only [Orchestrator.settled, List.length_map] at hsame
      omega
    have hat := Orchestrator.heldAt_settled hlength
    rw [hsettled, List.getElem?_map, Orchestrator.heldAt_settled hk] at hat
    have hrollout := Option.some.inj hat
    generalize ((applyTelemetry env record now o).heldAt k).rollout = after at hrollout
    have hstages : after.stages
        = (o.heldAt k).rollout.stages.map (StageRuntime.sample env.limits record now) :=
      (congrArg Rollout.stages hrollout).symm
    have hstage : after.stageAt j
        = ((o.heldAt k).rollout.stageAt j).sample env.limits record now := by
      rw [Rollout.stageAt, hstages, Rollout.stageAt, List.getD_eq_getElem?_getD,
        List.getD_eq_getElem?_getD, List.getElem?_map]
      cases (o.heldAt k).rollout.stages[j]? <;> rfl
    rw [Rollout.targetAt, hstage, Rollout.targetAt]
    generalize (o.heldAt k).rollout.stageAt j = stage at hfind ⊢
    have hi : i < stage.targets.length := by
      rw [StageRuntime.findTarget_core] at hfind
      simpa [StageRuntime.core] using (StageCore.findTarget_lt hfind).1
    simp [StageRuntime.sample, hfind, hi]

/-! ### Repeated and delayed samples -/

/-- A healthy sample of this time, which arrives a second after the epoch. -/
def sampleAt (nanos : Int64) : Sample :=
  ({ kind := .healthSample, outcome := .succeeded, observedAt := ⟨nanos⟩ }, ⟨1000000000⟩)

theorem samples_in_order_are_honest_twice :
    Honest {} (idOf 1) [sampleAt 1000, sampleAt 2000] := by
  refine samples_in_order_are_honest fun earlier s later hsplit => ?_
  rcases earlier with _ | ⟨first, _ | ⟨second, rest⟩⟩
  · intro _ hnil
    cases hnil
  · simp only [List.cons_append, List.nil_append, List.cons.injEq] at hsplit
    obtain ⟨rfl, rfl, -⟩ := hsplit
    exact fun _ _ => ⟨by decide +kernel, fun _ _ => by decide +kernel⟩
  · simp at hsplit

/-- A sample that arrives twice counts as two, and a delayed one takes the time back. -/
theorem repeated_sample_counts_twice :
    ¬ Honest {} (idOf 1) [sampleAt 1000, sampleAt 1000]
      ∧ ¬ Honest {} (idOf 1) [sampleAt 2000, sampleAt 1000] := by
  constructor
  · intro h
    have htwo : 2 ≤ (sampled {} (idOf 1) [sampleAt 1000, sampleAt 1000]).consecutiveHealthy.toNat := by
      decide +kernel
    obtain ⟨seen, hlength, hincreasing, hhealthy, -⟩ := h.count 2 htwo
    have hat {at' : Timestamp} (hat : at' ∈ seen) : at' = ⟨1000⟩ := by
      obtain ⟨s, hs, -, -, rfl⟩ := hhealthy at' hat
      have hsample : s = sampleAt 1000 := by simpa using hs
      rw [hsample]
      rfl
    obtain ⟨a, b, rfl⟩ := List.length_eq_two.1 hlength
    rw [hat (List.mem_cons_self ..), hat (List.mem_cons_of_mem _ (List.mem_singleton_self _))]
      at hincreasing
    revert hincreasing
    decide
  · intro h
    have htime := h.time [sampleAt 2000] [sampleAt 1000] rfl (by decide +kernel)
    revert htime
    decide +kernel

end RolloutFabric
