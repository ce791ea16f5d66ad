/-
What the evidence gate says of a stage whose targets are all terminal: which targets succeeded, and
how many of them are verified.
-/
import RolloutFabric.Domain.Ratio
import RolloutFabric.Orchestrator.Gates

namespace RolloutFabric

variable {stage : StageRuntime} {policy : EvidenceGatePolicy} {rule : TargetEvidenceRule}
  {now : Timestamp} {limits : RuntimeLimits} {t : TargetRuntime}

/-! ## The gate -/

/-- The stage has not soaked as long as the policy asks for. -/
def StageRuntime.Soaks (stage : StageRuntime) (policy : EvidenceGatePolicy) (now : Timestamp) :
    Prop :=
  policy.soak.isZero = false
    ∧ (stage.soakStartedAt.isNil = true ∨ now.since stage.soakStartedAt < policy.soak)

/-- A succeeded target with a fresh passing verification by a verifier the policy accepts. -/
structure TargetRuntime.Verified (t : TargetRuntime) (policy : EvidenceGatePolicy) (now : Timestamp)
    (limits : RuntimeLimits) : Prop where
  succeeded : t.state = .succeeded
  observed : t.verificationObservedAt.isNil = false
  fresh : (evaluateFreshness t.verificationObservedAt now (gateMaxAge policy.maxAge limits)
    (skewOf limits)).fresh = true
  passed : t.verificationPassed = true
  verifier : policy.requiredVerifier = .nil ∨ t.verificationVerifier = policy.requiredVerifier

theorem verified_iff : t.Verified policy now limits
    ↔ t.state = .succeeded ∧ (verificationBlocking policy now limits t).isNone = true := by
  have hnil : policy.requiredVerifier.isNil = true ↔ policy.requiredVerifier = .nil :=
    StrongId.isNil_iff
  have hblocking : (verificationBlocking policy now limits t).isNone = true
      ↔ t.verificationObservedAt.isNil = false
        ∧ (evaluateFreshness t.verificationObservedAt now (gateMaxAge policy.maxAge limits)
          (skewOf limits)).fresh = true
        ∧ t.verificationPassed = true
        ∧ (policy.requiredVerifier = .nil ∨ t.verificationVerifier = policy.requiredVerifier) := by
    unfold verificationBlocking
    dsimp only
    split
    · next h => simp [h]
    next hobserved =>
    split
    · next h => simp_all
    next hfresh =>
    split
    · next h => simp_all
    next hpassed =>
    rw [← hnil]
    split
    · next h =>
      obtain ⟨hrequired, hother⟩ := h
      simp_all
    · next h =>
      rw [not_and_or, not_not] at h
      simp_all
  rw [hblocking]
  constructor
  · rintro ⟨hstate, hobserved, hfresh, hpassed, hverifier⟩
    exact ⟨hstate, hobserved, hfresh, hpassed, hverifier⟩
  · rintro ⟨hstate, hobserved, hfresh, hpassed, hverifier⟩
    exact ⟨hstate, hobserved, hfresh, hpassed, hverifier⟩

instance : Decidable (t.Verified policy now limits) := decidable_of_iff' _ verified_iff

/-- The number of verified targets of a stage. -/
def StageRuntime.verifiedFor (stage : StageRuntime) (policy : EvidenceGatePolicy) (now : Timestamp)
    (limits : RuntimeLimits) : Nat :=
  stage.targets.countP fun t => decide (t.Verified policy now limits)

theorem countP_verificationBlocking :
    ((stage.targets.filter fun t => t.state == .succeeded).map
      (verificationBlocking policy now limits)).countP (fun r => r.isNone)
      = stage.verifiedFor policy now limits := by
  rw [List.countP_map, List.countP_filter, StageRuntime.verifiedFor]
  refine List.countP_congr fun t _ => ?_
  rw [decide_eq_true_iff, verified_iff, Bool.and_eq_true, beq_iff_eq, and_comm]
  rfl

/-- When the evidence gate is satisfied. -/
theorem evaluateEvidenceGate_satisfied :
    (evaluateEvidenceGate stage policy rule now limits).satisfied = true
      ↔ ¬ stage.Soaks policy now ∧ stage.targets.length ≤ stage.terminalCount
        ∧ stage.failedCount = 0
        ∧ (rule.requireVerification = true →
          if policy.requireFullCoverage then
            stage.verifiedFor policy now limits = stage.targets.length
          else max policy.minPassingSamples.toUInt64
              (policy.minPassingFraction.applyCeil stage.targets.length.toUInt64)
            ≤ (stage.verifiedFor policy now limits).toUInt64) := by
  unfold evaluateEvidenceGate StageRuntime.Soaks
  dsimp only
  rw [countP_verificationBlocking]
  split
  · next h =>
    refine iff_of_false nofun fun hholds => hholds.1 ⟨by simpa using h.1, .inl h.2⟩
  next hstarted =>
  split
  · next h =>
    refine iff_of_false nofun fun hholds => hholds.1 ⟨by simpa using h.1, .inr h.2⟩
  next helapsed =>
  -- the two tests of the soak are one condition
  have hsoaked : ¬ (policy.soak.isZero = false
      ∧ (stage.soakStartedAt.isNil = true ∨ now.since stage.soakStartedAt < policy.soak)) := by
    rintro ⟨hsoak, hnil | hlt⟩
    · exact hstarted ⟨by simp [hsoak], hnil⟩
    · exact helapsed ⟨by simp [hsoak], hlt⟩
  split
  · next h => exact iff_of_false nofun fun hholds => absurd hholds.2.1 (by omega)
  next hterminal =>
  split
  · next h => exact iff_of_false nofun fun hholds => absurd hholds.2.2.1 (by omega)
  next hfailed =>
  split
  · next h =>
    have hnone : rule.requireVerification = false := by simpa using h
    exact iff_of_true rfl ⟨hsoaked, Nat.not_lt.1 hterminal, Nat.eq_zero_of_not_pos hfailed,
      fun hrequired => by rw [hnone] at hrequired; cases hrequired⟩
  · next h =>
    have hrequired : rule.requireVerification = true := by simpa using h
    constructor
    · intro hsatisfied
      refine ⟨hsoaked, Nat.not_lt.1 hterminal, Nat.eq_zero_of_not_pos hfailed, fun _ => ?_⟩
      split
      · next hfull => simpa [hfull] using hsatisfied
      · next hpart => simpa [hpart] using hsatisfied
    · rintro ⟨-, -, -, hverified⟩
      have hcount := hverified hrequired
      split at hcount
      · next hfull => simpa [hfull] using hcount
      · next hpart => simpa [hpart] using hcount

/-! ## What it means -/

/-- What a satisfied gate reports of the targets of the stage. -/
def EvidenceMeans (stage : StageRuntime) (policy : EvidenceGatePolicy) (rule : TargetEvidenceRule)
    (now : Timestamp) (limits : RuntimeLimits) : Prop :=
  (evaluateEvidenceGate stage policy rule now limits).satisfied = true →
    if rule.requireVerification then
      if policy.requireFullCoverage then ∀ t ∈ stage.targets, t.Verified policy now limits
      else max policy.minPassingSamples.toNat
          (policy.minPassingFraction.ofPopulation stage.targets.length)
        ≤ stage.verifiedFor policy now limits
    else ∀ t ∈ stage.targets, t.state = .succeeded

/-- A target that ended without success and that no gate counts as failed. -/
def TargetState.isUndone : TargetState → Bool
  | .cancelled | .rolledBack => true
  | _ => false

/-- A terminal target succeeded, failed, or was taken back. -/
theorem TargetState.isTerminal_cases {s : TargetState} (h : s.isTerminal = true) :
    s = .succeeded ∨ s.countsAsFailed = true ∨ s.isUndone = true := by
  cases s <;> simp_all [isTerminal, countsAsFailed, isUndone]

theorem uint64_max_le {a b c : UInt64} : max a b ≤ c ↔ a ≤ c ∧ b ≤ c := by
  rw [show max a b = if a ≤ b then b else a from rfl]
  simp only [UInt64.le_iff_toNat_le]
  split
  · omega
  · omega

/-- Where verification is required the gate means what it reports. -/
theorem evidence_means_of_verification (hsize : stage.targets.length < 2 ^ 32)
    (hfraction : policy.minPassingFraction.validate.isOk = true)
    (hrule : rule.requireVerification = true) : EvidenceMeans stage policy rule now limits := by
  intro hsatisfied
  obtain ⟨-, -, -, hverified⟩ := evaluateEvidenceGate_satisfied.1 hsatisfied
  have hcount := hverified hrule
  rw [if_pos hrule]
  split at hcount
  · next hfull =>
    rw [if_pos hfull]
    intro t ht
    exact of_decide_eq_true (List.countP_eq_length.1 hcount t ht)
  · next hpart =>
    rw [if_neg hpart]
    have hwrap : (stage.verifiedFor policy now limits).toUInt64.toNat
        ≤ stage.verifiedFor policy now limits := by
      rw [UInt64.toNat_ofNat']
      exact Nat.mod_le _ _
    have hpopulation : stage.targets.length.toUInt64.toNat = stage.targets.length := by
      rw [UInt64.toNat_ofNat']
      exact Nat.mod_eq_of_lt (by omega)
    have hceil := Ratio.applyCeil_toNat hfraction stage.targets.length.toUInt64
    rw [hpopulation] at hceil
    rw [← hceil]
    obtain ⟨hsamples, hshare⟩ := uint64_max_le.1 hcount
    rw [UInt64.le_iff_toNat_le] at hsamples hshare
    rw [UInt32.toNat_toUInt64] at hsamples
    exact max_le (hsamples.trans hwrap) (hshare.trans hwrap)

/-- The evidence gate of a stage whose targets are all terminal means what it reports exactly when
it looks at verification, is not satisfied, or no target was cancelled or rolled back. -/
theorem evidence_means_iff (hsize : stage.targets.length < 2 ^ 32)
    (hfraction : policy.minPassingFraction.validate.isOk = true)
    (hterminal : ∀ t ∈ stage.targets, t.state.isTerminal = true) :
    EvidenceMeans stage policy rule now limits
      ↔ rule.requireVerification = true ∨ stage.Soaks policy now
        ∨ (∃ t ∈ stage.targets, t.state.countsAsFailed = true)
        ∨ ∀ t ∈ stage.targets, t.state.isUndone = false := by
  by_cases hrule : rule.requireVerification = true
  · exact iff_of_true (evidence_means_of_verification hsize hfraction hrule) (.inl hrule)
  by_cases hsoaks : stage.Soaks policy now
  · refine iff_of_true (fun hsatisfied => ?_) (.inr (.inl hsoaks))
    exact absurd hsoaks (evaluateEvidenceGate_satisfied.1 hsatisfied).1
  by_cases hfailed : ∃ t ∈ stage.targets, t.state.countsAsFailed = true
  · refine iff_of_true (fun hsatisfied => ?_) (.inr (.inr (.inl hfailed)))
    obtain ⟨t, ht, hcounts⟩ := hfailed
    have hnone := List.countP_eq_zero.1 (evaluateEvidenceGate_satisfied.1 hsatisfied).2.2.1
    exact absurd hcounts (hnone t ht)
  -- the gate is satisfied here, whatever the cancelled and rolled back targets are
  have hnone : ∀ t ∈ stage.targets, ¬ t.state.countsAsFailed = true := fun t ht hcounts =>
    hfailed ⟨t, ht, hcounts⟩
  have hsatisfied : (evaluateEvidenceGate stage policy rule now limits).satisfied = true := by
    refine evaluateEvidenceGate_satisfied.2 ⟨hsoaks, ?_, List.countP_eq_zero.2 hnone, ?_⟩
    · exact (List.countP_eq_length.2 hterminal).ge
    · exact fun h => absurd h hrule
  simp only [EvidenceMeans, hsatisfied, hrule, hsoaks, hfailed, false_or, true_imp_iff,
    Bool.false_eq_true, if_false]
  constructor
  · intro hall t ht
    rw [hall t ht]
    rfl
  · intro hall t ht
    rcases TargetState.isTerminal_cases (hterminal t ht) with hsucceeded | hcounts | hundone
    · exact hsucceeded
    · exact absurd hcounts (hnone t ht)
    · rw [hall t ht] at hundone
      cases hundone

/-! ### A cancelled target -/

/-- One target succeeded and one was cancelled. -/
def halfDone : StageRuntime where
  targets := [{ state := .succeeded }, { state := .cancelled }]

theorem evidence_means_iff_halfDone :
    EvidenceMeans halfDone {} {} ⟨1000⟩ {}
      ↔ ({} : TargetEvidenceRule).requireVerification = true ∨ halfDone.Soaks {} ⟨1000⟩
        ∨ (∃ t ∈ halfDone.targets, t.state.countsAsFailed = true)
        ∨ ∀ t ∈ halfDone.targets, t.state.isUndone = false :=
  evidence_means_iff (by show 2 < 2 ^ 32; decide) (by decide) (by decide)

/-- The gate reports that every target reached a terminal success. -/
theorem cancelled_target_passes :
    (∀ t ∈ halfDone.targets, t.state.isTerminal = true)
      ∧ ¬ EvidenceMeans halfDone {} {} ⟨1000⟩ {} := by
  refine ⟨by decide, fun hmeans => ?_⟩
  have hsatisfied : (evaluateEvidenceGate halfDone {} {} ⟨1000⟩ {}).satisfied = true := by
    decide +kernel
  have hall : ∀ t ∈ halfDone.targets, t.state = .succeeded := hmeans hsatisfied
  revert hall
  decide

end RolloutFabric
