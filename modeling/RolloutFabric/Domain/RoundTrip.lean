/-
What the snapshot decoders accept and what they give back. A value within the runtime limits is
read back as it was written, except that a stage loses its evidence rule and its last gate
evaluations, which the encoder does not write.
-/
import RolloutFabric.Codec.Laws
import RolloutFabric.Domain.Snapshot

namespace RolloutFabric

open Decoding

theorem check_reads (s : Status) : Reads (ByteReader.check s) [] (s.isOk = true) () :=
  require_reads _ _

theorem duration_reads (v : Duration) : Reads readDuration (ByteWriter.duration v) True v :=
  reads_map (i64_reads v.nanos) rfl

/-! ## Named fields -/

section
variable (field : Bytes)

theorem dcU8_reads (v : UInt8) : Reads (dcU8 field) (ByteWriter.u8 v) True v :=
  field_reads field (u8_reads v)
theorem dcU32_reads (v : UInt32) : Reads (dcU32 field) (ByteWriter.u32 v) True v :=
  field_reads field (u32_reads v)
theorem dcU64_reads (v : UInt64) : Reads (dcU64 field) (ByteWriter.u64 v) True v :=
  field_reads field (u64_reads v)
theorem dcI64_reads (v : Int64) : Reads (dcI64 field) (ByteWriter.i64 v) True v :=
  field_reads field (i64_reads v)
theorem dcBool_reads (v : Bool) : Reads (dcBool field) (ByteWriter.boolean v) True v :=
  field_reads field (boolean_reads v)
theorem dcId_reads {tag : IdTag} (v : StrongId tag) :
    Reads (dcId tag field) (ByteWriter.id v) True v :=
  field_reads field (id_reads v)
theorem dcDigest_reads (v : Digest256) : Reads (dcDigest field) (ByteWriter.digest v) True v :=
  field_reads field (digest_reads v)
theorem dcTimestamp_reads (v : Timestamp) :
    Reads (dcTimestamp field) (ByteWriter.timestamp v) True v :=
  reads_map (dcI64_reads field v.nanos) rfl
theorem dcDuration_reads (v : Duration) :
    Reads (dcDuration field) (ByteWriter.duration v) True v :=
  reads_map (dcI64_reads field v.nanos) rfl

end

/-- The text is valid UTF-8 and no longer than its bound. -/
def fitsText (bound : UInt32) (t : Bytes) : Bool := decide (t.length ≤ bound.toNat) && isValidUtf8 t

theorem dcString_reads (field t : Bytes) (bound : UInt32) :
    Reads (dcString field bound.toNat) (ByteWriter.string t) (fitsText bound t = true) t :=
  field_reads field ((string_reads t bound.toNat).congr (by simp [fitsText]))

theorem dcBytes_reads (field t : Bytes) (maxLength : Nat) :
    Reads (dcBytes field maxLength) (ByteWriter.bytes t) (t.length ≤ maxLength) t :=
  field_reads field (bytes_reads t maxLength)

theorem dcEnum_reads {α : Type} [ByteCoded α] (field : Bytes) (unknown : UInt8 → Status) (a : α) :
    Reads (dcEnum (dcU8 field) unknown) (ByteWriter.u8 (ByteCoded.code a)) True a :=
  enum_reads a (dcU8_reads field _)

/-- A vector whose elements are read back changed by `f`. -/
theorem dcVector_reads {α γ : Type} {element : Decoder α} {encode : γ → Bytes}
    {P : γ → Prop} {f : γ → α} (field : Bytes) (maxCount : Nat) (tooMany : Nat → Status)
    (xs : List γ) (hpos : ∀ x, 0 < (encode x).length)
    (helement : ∀ x, Reads element (encode x) (P x) (f x)) :
    Reads (dcVector field maxCount tooMany element) (ByteWriter.vector encode xs)
      (xs.length ≤ maxCount ∧ ∀ x ∈ xs, P x) (xs.map f) :=
  vector_reads maxCount xs (fun v => dcU32_reads field v) hpos fun x _ => helement x

theorem id_pos {tag : IdTag} (v : StrongId tag) : 0 < (ByteWriter.id v).length := by
  simp [ByteWriter.id, v.bytes.size_eq]

theorem string_pos (t : Bytes) : 0 < (ByteWriter.string t).length := by
  simp [ByteWriter.string, ByteWriter.count, ByteWriter.u32]

/-- A record is not empty when its first field is not. -/
theorem record_pos {bs : Bytes} {es : List Bytes} (h : 0 < bs.length) :
    0 < (bs :: es).flatten.length := by
  simp only [List.flatten_cons, List.length_append]
  omega

theorem dcIdVector_reads {tag : IdTag} (field : Bytes) (bound : UInt32)
    (xs : List (StrongId tag)) :
    Reads (dcIdVector tag field bound.toNat) (ByteWriter.vector ByteWriter.id xs)
      (xs.length ≤ bound.toNat) xs :=
  (vector_reads_id bound.toNat xs (dcU32_reads field) id_pos (dcId_reads field)).congr (by simp)

/-! ## Actions and policies -/

theorem decodeAction_reads (limits : RuntimeLimits) (a : ActionSpec) :
    Reads (decodeAction limits) a.encode ((a.validate limits).isOk = true) a := by
  unfold decodeAction ActionSpec.encode
  apply Decodes.congr
  · exact (dcId_reads _ a.id).next <| (dcString_reads _ a.name _).nextIf <|
      (dcEnum_reads _ _ a.kind).next <| (dcDigest_reads _ a.artifactDigest).next <|
      (dcId_reads _ a.artifact).next <| (dcEnum_reads _ _ a.rollback).next <|
      (dcBytes_reads _ a.parameters _).nextIf <| (check_reads _).guard <| Decodes.done a
  · constructor
    · exact fun h => h.2.2.1
    · intro h
      refine ⟨?_, ?_, h, trivial⟩ <;>
        simp only [ActionSpec.validate, firstFailure_isOk, List.forall_mem_cons, refuseIf_isOk,
          apply_ite Status.isOk] at h
      · simp at h
        simp [fitsText, h]
      · simp at h
        simp [h]

theorem Ratio_reads (r : Ratio) : Reads decodeRatio r.encode (r.validate.isOk = true) r := by
  unfold decodeRatio Ratio.encode
  apply Decodes.congr
  · apply (u32_reads r.numerator).bind
    apply (u32_reads r.denominator).tail
    exact (check_reads _).guard (Decodes.pure r)
  · simp

/-- The compensation list fits its bound and the policy passes its own validation. -/
def StagePolicy.withinLimits (limits : RuntimeLimits) (p : StagePolicy) : Bool :=
  decide (p.compensationActions.length ≤ limits.maxActionsPerStage.toNat)
    && (p.validate limits).isOk

theorem decodeStagePolicy_reads (limits : RuntimeLimits) (p : StagePolicy) :
    Reads (decodeStagePolicy limits) p.encode (p.withinLimits limits = true) p := by
  unfold decodeStagePolicy StagePolicy.encode decodeGateMode
  apply Decodes.congr
  · exact (u32_reads p.maxConcurrency).next <| (Ratio_reads p.minHealthyFraction).nextIf <|
      (u32_reads p.failureBudgetTargets).next <| (Ratio_reads p.failureBudgetFraction).nextIf <|
      (u32_reads p.canarySize).next <| (boolean_reads p.canaryRequiresHealthGate).next <|
      (boolean_reads p.healthGate.enabled).next <| (duration_reads p.healthGate.maxAge).next <|
      (id_reads p.healthGate.requiredSource).next <|
      (u32_reads p.healthGate.minConsecutiveHealthy).next <|
      (Ratio_reads p.healthGate.minHealthyFraction).nextIf <|
      (u32_reads p.healthGate.failureBudgetTargets).next <|
      (Ratio_reads p.healthGate.failureBudgetFraction).nextIf <|
      (enum_reads p.evidenceGate.mode (u8_reads _)).next <|
      (duration_reads p.evidenceGate.soak).next <| (duration_reads p.evidenceGate.maxAge).next <|
      (id_reads p.evidenceGate.requiredVerifier).next <|
      (u32_reads p.evidenceGate.minPassingSamples).next <|
      (Ratio_reads p.evidenceGate.minPassingFraction).nextIf <|
      (boolean_reads p.evidenceGate.requireFullCoverage).next <|
      (enum_reads p.entryGate (u8_reads _)).next <|
      (enum_reads p.advanceGate (u8_reads _)).next <|
      (u32_reads p.blastRadius.maxTargetsChangingGlobal).next <|
      (u32_reads p.blastRadius.maxTargetsChangingPerStage).next <|
      (u32_reads p.blastRadius.maxTargetsChangingPerFailureDomain).next <|
      (u32_reads p.blastRadius.maxTargetsChangingPerRack).next <|
      (u32_reads p.blastRadius.maxTargetsChangingPerPod).next <|
      (u32_reads p.blastRadius.maxTargetsChangingPerSite).next <|
      (u32_reads p.blastRadius.maxFailureDomainsChanging).next <|
      (duration_reads p.attemptDeadline).next <| (u32_reads p.maxAttemptsPerTarget).next <|
      (duration_reads p.evidenceMaxAge).next <| (enum_reads p.pauseInFlight (u8_reads _)).next <|
      (boolean_reads p.rollbackSupported).next <|
      vector_next (vector_reads_id _ p.compensationActions u32_reads id_pos id_reads) <|
      (boolean_reads p.requirePredecessorsSucceeded).next <| (u32_reads p.weight).next <|
      (check_reads _).guard <| Decodes.done p
  · simp only [StagePolicy.withinLimits, Bool.and_eq_true, decide_eq_true_eq]
    constructor
    · rintro ⟨-, -, -, -, -, ⟨hcount, -⟩, hpolicy, -⟩
      exact ⟨hcount, hpolicy⟩
    · rintro ⟨hcount, hpolicy⟩
      have hratios := hpolicy
      simp only [StagePolicy.validate, firstFailure_isOk, List.forall_mem_cons,
        validateRatio_isOk] at hratios
      obtain ⟨-, h1, h2, h3, h4, h5, -⟩ := hratios
      exact ⟨h1, h2, h3, h4, h5, ⟨hcount, fun _ _ => trivial⟩, hpolicy, trivial⟩

/-! ## Selectors -/

mutual

/-- The lists and texts of the term fit, down to `room` levels of nesting. -/
def SelectorTerm.fits (limits : RuntimeLimits) : Nat → SelectorTerm → Bool
  | 0, _ => false
  | room + 1, .mk _ ids kinds sites pods racks failureDomains labelKey labelValue _ children =>
    decide (ids.length ≤ limits.maxTargetsPerCohort.toNat) && decide (kinds.length ≤ 16)
      && decide (sites.length ≤ limits.maxSelectorTerms.toNat)
      && sites.all (fitsText limits.maxLabelValueBytes)
      && decide (pods.length ≤ limits.maxSelectorTerms.toNat)
      && pods.all (fitsText limits.maxLabelValueBytes)
      && decide (racks.length ≤ limits.maxSelectorTerms.toNat)
      && racks.all (fitsText limits.maxLabelValueBytes)
      && decide (failureDomains.length ≤ limits.maxSelectorTerms.toNat)
      && fitsText limits.maxLabelKeyBytes labelKey
      && fitsText limits.maxLabelValueBytes labelValue
      && decide (children.length ≤ limits.maxSelectorTerms.toNat)
      && selectorsFit limits room children

def selectorsFit (limits : RuntimeLimits) : Nat → List SelectorTerm → Bool
  | _, [] => true
  | room, child :: rest => child.fits limits room && selectorsFit limits room rest

end

theorem selectorsFit_iff (limits : RuntimeLimits) (room : Nat) (terms : List SelectorTerm) :
    selectorsFit limits room terms = true ↔ ∀ term ∈ terms, term.fits limits room = true := by
  induction terms with
  | nil => simp [selectorsFit]
  | cons child rest ih => simp [selectorsFit, ih]

theorem encodeSelectors_eq (terms : List SelectorTerm) :
    encodeSelectors terms = (terms.map SelectorTerm.encode).flatten := by
  induction terms with
  | nil => simp [encodeSelectors]
  | cons child rest ih => simp [encodeSelectors, ih]

theorem dcStringVector_reads (field : Bytes) (maxCount : Nat) (bound : UInt32)
    (xs : List Bytes) :
    Reads (dcStringVector field maxCount bound.toNat) (ByteWriter.vector ByteWriter.string xs)
      (xs.length ≤ maxCount ∧ ∀ x ∈ xs, fitsText bound x = true) xs :=
  vector_reads_id maxCount xs (dcU32_reads field) string_pos fun x => dcString_reads field x bound

theorem SelectorTerm.encode_length_pos (term : SelectorTerm) : 0 < term.encode.length := by
  cases term
  simp [SelectorTerm.encode, ByteWriter.u8]

theorem decodeSelector_reads (limits : RuntimeLimits) (room : Nat) (term : SelectorTerm) :
    Reads (decodeSelector limits room) term.encode (term.fits limits room = true) term := by
  induction room generalizing term with
  | zero =>
    cases term
    intro _ rest
    exact ⟨fun h => by simp [SelectorTerm.fits] at h, fun _ => ⟨_, rfl⟩⟩
  | succ room ih =>
    obtain ⟨op, ids, kinds, sites, pods, racks, failureDomains, labelKey, labelValue, isSet,
      children⟩ := term
    have hchildren : ByteWriter.count children.length ++ encodeSelectors children
        = ByteWriter.vector SelectorTerm.encode children := by
      rw [encodeSelectors_eq]; rfl
    unfold decodeSelector SelectorTerm.encode
    rw [hchildren]
    apply Decodes.congr
    · exact (dcEnum_reads _ _ op).next <|
        (vector_reads_id _ ids (dcU32_reads _) id_pos (dcId_reads _)).nextIf <|
        (vector_reads_id _ kinds (dcU32_reads _) (fun x => by simp [ByteWriter.u8])
          (dcEnum_reads _ _)).nextIf <|
        (dcStringVector_reads _ _ _ sites).nextIf <| (dcStringVector_reads _ _ _ pods).nextIf <|
        (dcStringVector_reads _ _ _ racks).nextIf <|
        (dcIdVector_reads _ _ failureDomains).nextIf <| (dcString_reads _ labelKey _).nextIf <|
        (dcString_reads _ labelValue _).nextIf <| (dcBool_reads _ isSet).next <|
        (vector_reads_id _ children (dcU32_reads _) SelectorTerm.encode_length_pos ih).nextIf <|
        Decodes.done _
    · simp [SelectorTerm.fits, selectorsFit_iff, and_assoc]

/-- The term fits and passes its own validation. -/
def SelectorTerm.withinLimits (limits : RuntimeLimits) (term : SelectorTerm) : Bool :=
  term.fits limits (kMaxSelectorDepth + 1) && (term.validate limits).isOk

theorem decodeSelectorTerm_reads (limits : RuntimeLimits) (term : SelectorTerm) :
    Reads (decodeSelectorTerm limits) term.encode (term.withinLimits limits = true) term := by
  unfold decodeSelectorTerm
  apply Decodes.congr
  · exact (decodeSelector_reads limits _ term).tail <| (check_reads _).guard <| Decodes.pure term
  · simp [SelectorTerm.withinLimits]

/-! ## Decisions -/

def Decision.withinLimits (limits : RuntimeLimits) (d : Decision) : Bool :=
  fitsText limits.maxRationaleBytes d.selected
    && decide (d.rejected.length ≤ limits.maxRejectedAlternatives.toNat)
    && d.rejected.all (fun alternative => fitsText limits.maxRationaleBytes alternative.action
      && fitsText limits.maxRationaleBytes alternative.reason)
    && fitsText limits.maxRationaleBytes d.rationale

theorem decodeRejectedAlternative_reads (limits : RuntimeLimits) (r : RejectedAlternative) :
    Reads (decodeRejectedAlternative limits) r.encode
      (fitsText limits.maxRationaleBytes r.action = true
        ∧ fitsText limits.maxRationaleBytes r.reason = true) r := by
  unfold decodeRejectedAlternative RejectedAlternative.encode
  apply Decodes.congr
  · exact (dcString_reads _ r.action _).nextIf <| (dcString_reads _ r.reason _).nextIf <|
      Decodes.done r
  · simp

theorem decodeDecision_reads (limits : RuntimeLimits) (d : Decision) :
    Reads (decodeDecision limits) d.encode (d.withinLimits limits = true) d := by
  unfold decodeDecision Decision.encode
  apply Decodes.congr
  · exact (dcId_reads _ d.id).next <| (dcEnum_reads _ _ d.kind).next <|
      (dcId_reads _ d.rollout).next <| (dcId_reads _ d.generation).next <|
      (dcU64_reads _ d.revision).next <| (dcU64_reads _ d.controllerEpoch).next <|
      (dcId_reads _ d.incarnation).next <| (dcId_reads _ d.authority).next <|
      (dcId_reads _ d.stage).next <| (dcId_reads _ d.target).next <|
      (dcId_reads _ d.attempt).next <| (dcTimestamp_reads _ d.decidedAt).next <|
      (dcDigest_reads _ d.inputsDigest).next <| (dcDigest_reads _ d.policyDigest).next <|
      (dcDigest_reads _ d.evidenceDigest).next <| (dcString_reads _ d.selected _).nextIf <|
      (vector_reads_id _ d.rejected (dcU32_reads _)
        (fun r => record_pos (string_pos r.action))
        (decodeRejectedAlternative_reads limits)).nextIf <|
      (dcString_reads _ d.rationale _).nextIf <| Decodes.done d
  · simp [Decision.withinLimits, and_assoc]

/-! ## The snapshot -/

def TargetRuntime.withinLimits (limits : RuntimeLimits) (t : TargetRuntime) : Bool :=
  fitsText limits.maxDescriptionBytes t.lastReason

theorem decodeTargetRuntime_reads (limits : RuntimeLimits) (t : TargetRuntime) :
    Reads (decodeTargetRuntime limits) t.encode (t.withinLimits limits = true) t := by
  unfold decodeTargetRuntime TargetRuntime.encode
  apply Decodes.congr
  · exact (dcId_reads _ t.target).next <| (dcEnum_reads _ _ t.state).next <|
      (dcU64_reads _ t.epoch).next <| (dcU32_reads _ t.attemptsCreated).next <|
      (dcId_reads _ t.currentAttempt).next <| (dcId_reads _ t.lastAttempt).next <|
      (dcTimestamp_reads _ t.dispatchedAt).next <| (dcTimestamp_reads _ t.lastChangeAt).next <|
      (dcTimestamp_reads _ t.completedAt).next <| (dcBool_reads _ t.healthy).next <|
      (dcU32_reads _ t.consecutiveHealthy).next <| (dcTimestamp_reads _ t.healthySince).next <|
      (dcTimestamp_reads _ t.lastHealthyAt).next <|
      (dcBool_reads _ t.lastHealthOriginLive).next <|
      (dcId_reads _ t.lastHealthSource).next <|
      (dcTimestamp_reads _ t.verificationObservedAt).next <|
      (dcBool_reads _ t.verificationPassed).next <|
      (dcId_reads _ t.verificationVerifier).next <|
      (dcId_reads _ t.lastTerminalEvidence).next <| (dcEnum_reads _ _ t.outcome).next <|
      (dcU32_reads _ t.rollbackStep).next <| (dcString_reads _ t.lastReason _).nextIf <|
      Decodes.done t
  · simp [TargetRuntime.withinLimits]

def CohortMembership.withinLimits (limits : RuntimeLimits) (c : CohortMembership) : Bool :=
  c.selector.withinLimits limits
    && decide (c.members.length ≤ limits.maxTargetsPerCohort.toNat)

theorem decodeCohort_reads (limits : RuntimeLimits) (c : CohortMembership) :
    Reads (decodeCohort limits) c.encode (c.withinLimits limits = true) c := by
  unfold decodeCohort CohortMembership.encode
  apply Decodes.congr
  · exact (dcId_reads _ c.id).next <| (dcId_reads _ c.stage).next <|
      (dcId_reads _ c.generation).next <| (decodeSelectorTerm_reads limits c.selector).nextIf <|
      (dcDigest_reads _ c.selectorDigest).next <| (dcIdVector_reads _ _ c.members).nextIf <|
      (dcDigest_reads _ c.membershipDigest).next <|
      (dcDigest_reads _ c.inventoryDigest).next <| (dcU64_reads _ c.inventoryEpoch).next <|
      (dcTimestamp_reads _ c.frozenAt).next <| (dcBool_reads _ c.frozen).next <| Decodes.done c
  · simp [CohortMembership.withinLimits]

def StageRuntime.withinLimits (limits : RuntimeLimits) (s : StageRuntime) : Bool :=
  decide (s.predecessors.length ≤ limits.maxStagesPerPlan.toNat)
    && decide (s.successors.length ≤ limits.maxStagesPerPlan.toNat)
    && s.policy.withinLimits limits && s.cohort.withinLimits limits
    && decide (s.actions.length ≤ limits.maxActionsPerStage.toNat)
    && s.actions.all (fun action => (action.validate limits).isOk)
    && decide (s.targets.length ≤ limits.maxTargetsPerCohort.toNat)
    && s.targets.all (TargetRuntime.withinLimits limits)

/-- What a snapshot keeps of a stage. -/
def StageRuntime.persisted (s : StageRuntime) : StageRuntime :=
  { s with evidenceRule := {}, lastHealthGate := {}, lastEvidenceGate := {}
           lastAdvanceGate := {} }

theorem decodeStageRuntime_reads (limits : RuntimeLimits) (s : StageRuntime) :
    Reads (decodeStageRuntime limits) s.encode (s.withinLimits limits = true) s.persisted := by
  unfold decodeStageRuntime StageRuntime.encode
  apply Decodes.congr
  · exact (dcId_reads _ s.id).next <| (dcEnum_reads _ _ s.state).next <|
      (dcU32_reads _ s.ordinal).next <| (dcIdVector_reads _ _ s.predecessors).nextIf <|
      (dcIdVector_reads _ _ s.successors).nextIf <|
      (decodeStagePolicy_reads limits s.policy).nextIf <|
      (decodeCohort_reads limits s.cohort).nextIf <|
      (vector_reads_id _ s.actions (dcU32_reads _)
        (fun a => record_pos (id_pos a.id)) (decodeAction_reads limits)).nextIf <|
      (dcTimestamp_reads _ s.enteredAt).next <| (dcTimestamp_reads _ s.startedAt).next <|
      (dcTimestamp_reads _ s.soakStartedAt).next <| (dcTimestamp_reads _ s.gatedAt).next <|
      (dcTimestamp_reads _ s.completedAt).next <|
      (dcTimestamp_reads _ s.lastProgressAt).next <| (dcU32_reads _ s.dispatchedTotal).next <|
      (dcU32_reads _ s.succeededTotal).next <| (dcU32_reads _ s.failedTotal).next <|
      (dcU32_reads _ s.cancelledTotal).next <| (dcU32_reads _ s.rolledBackTotal).next <|
      (dcU32_reads _ s.rollbackFailedTotal).next <| (dcU32_reads _ s.attemptsTotal).next <|
      (dcBool_reads _ s.canaryCleared).next <| (dcU32_reads _ s.maxObservedChanging).next <|
      (dcId_reads _ s.pendingGate).next <| (dcEnum_reads _ _ s.pendingGateKind).next <|
      (dcTimestamp_reads _ s.pendingGateSince).next <|
      (vector_reads_id _ s.targets (dcU32_reads _)
        (fun t => record_pos (id_pos t.target))
        (decodeTargetRuntime_reads limits)).nextIf <|
      Decodes.done s.persisted
  · simp [StageRuntime.withinLimits, and_assoc]

def Rollout.withinLimits (limits : RuntimeLimits) (r : Rollout) : Bool :=
  fitsText limits.maxNameBytes r.changeId && decide (r.schemaVersion = Rollout.kSchemaVersion)
    && fitsText limits.maxDescriptionBytes r.stateReason
    && decide (r.stages.length ≤ limits.maxStagesPerPlan.toNat)
    && r.stages.all (StageRuntime.withinLimits limits)
    && decide (r.decisions.length ≤ limits.maxDecisionHistory.toNat)
    && r.decisions.all (Decision.withinLimits limits)
    && decide (r.cursor.toNat ≤ r.stages.length)
    && r.stages.all (fun stage => (checkCanonical stage).isOk)

/-- What a snapshot keeps of a rollout. -/
def Rollout.persisted (r : Rollout) : Rollout :=
  { r with stages := r.stages.map StageRuntime.persisted }

theorem checkCanonical_persisted (s : StageRuntime) :
    checkCanonical s.persisted = checkCanonical s := rfl

theorem decodeRollout_reads (limits : RuntimeLimits) (r : Rollout) :
    Reads (decodeRollout limits) r.encode (r.withinLimits limits = true) r.persisted := by
  unfold decodeRollout Rollout.encode
  apply Decodes.congr
  · exact (dcId_reads _ r.id).next <| (dcId_reads _ r.planId).next <|
      (dcDigest_reads _ r.planDigest).next <| (dcDigest_reads _ r.sourceDigest).next <|
      (dcString_reads _ r.changeId _).nextIf <| (dcU32_reads _ r.schemaVersion).next <|
      (require_reads _ _).guard <| (dcId_reads _ r.generation).next <|
      (dcU64_reads _ r.generationCounter).next <| (dcU64_reads _ r.revision).next <|
      (dcId_reads _ r.incarnation).next <| (dcU64_reads _ r.controllerEpoch).next <|
      (dcEnum_reads _ _ r.state).next <| (dcEnum_reads _ _ r.resumeState).next <|
      (dcString_reads _ r.stateReason _).nextIf <| (dcTimestamp_reads _ r.createdAt).next <|
      (dcTimestamp_reads _ r.updatedAt).next <| (dcTimestamp_reads _ r.armedAt).next <|
      (dcTimestamp_reads _ r.completedAt).next <| (dcId_reads _ r.createdBy).next <|
      (dcId_reads _ r.createdByOperator).next <|
      (vector_reads _ r.stages (dcU32_reads _)
        (fun s => record_pos (id_pos s.id))
        (fun s _ => decodeStageRuntime_reads limits s)).nextIf <|
      (dcU32_reads _ r.cursor).next <| (dcU32_reads _ r.outstandingAttempts).next <|
      (dcU32_reads _ r.maxObservedChangingGlobal).next <|
      (dcU64_reads _ r.evidenceSequences).next <|
      (vector_reads_id _ r.decisions (dcU32_reads _)
        (fun d => record_pos (id_pos d.id)) (decodeDecision_reads limits)).nextIf <|
      (require_reads _ _).guard <| (check_reads _).guard <| Decodes.done r.persisted
  · simp [Rollout.withinLimits, firstFailure_isOk, checkCanonical_persisted, and_assoc]

/-! ## Payloads -/

@[simp] theorem StageRuntime.encode_persisted (s : StageRuntime) :
    s.persisted.encode = s.encode := rfl

@[simp] theorem Rollout.encode_persisted (r : Rollout) : r.persisted.encode = r.encode := by
  have hstages : ByteWriter.vector StageRuntime.encode (r.stages.map StageRuntime.persisted)
      = ByteWriter.vector StageRuntime.encode r.stages := by
    simp [ByteWriter.vector, Function.comp_def]
  simp [Rollout.encode, Rollout.persisted, hstages]

/-- The digest does not see what a snapshot drops. -/
theorem rolloutDigest_persisted (r : Rollout) : rolloutDigest r.persisted = rolloutDigest r := by
  simp [rolloutDigest]

theorem unwrap_wrap {tag body : Bytes} {limits : RuntimeLimits} (htag : tag.length ≤ 64)
    (hutf8 : isValidUtf8 tag = true) (hbody : body.length ≤ limits.maxJournalRecordBytes.toNat)
    (hwrap : (wrap tag body).length < kLengthBound) :
    unwrap tag (wrap tag body) limits = .ok body := by
  have hread : Reads (do
      let found ← ByteReader.string 64
      ByteReader.require (found == tag) (makeStatus .corrupt
        (text "payload tag '" ++ found ++ text "' is not '" ++ tag ++ text "'"))
      let schema ← ByteReader.u32
      ByteReader.require (schema == kPayloadSchemaVersion) (makeStatus .notSupported
        (text "payload schema version " ++ toStringNat schema.toNat
          ++ text " is not readable by this build"))
      ByteReader.bytes limits.maxJournalRecordBytes.toNat) (wrap tag body) True body := by
    unfold wrap
    apply Decodes.congr
    · exact (string_reads tag 64).nextIf <| (require_reads _ _).guard <|
        (u32_reads kPayloadSchemaVersion).next <| (require_reads _ _).guard <|
        (bytes_reads body _).last
    · simp [htag, hutf8, hbody]
  have hrun := (hread.runThen (fun body => do ByteReader.expectEnd; pure body) hwrap).1 trivial
  simp only [bind_assoc] at hrun
  unfold unwrap Decoder.over unwrapDecoder
  rw [hrun]
  rfl

/-- A digested value is read back when its decoder reads it and its digest is the recorded one. -/
theorem digested_reads {α : Type} {decode : Decoder α} {digestOf : α → Digest256} {bs : Bytes}
    {P : Prop} {a : α} (field mismatch : Bytes) (h : Reads decode bs P a) (hp : P)
    (hN : ((digestOf a).data ++ bs).length < kLengthBound) :
    Decoder.over (digested field decode digestOf mismatch) ((digestOf a).data ++ bs) = .ok a := by
  have hread : Reads (do
      let expected ← dcDigest field
      let value ← decode
      pure (expected, value)) ((digestOf a).data ++ bs) (True ∧ P ∧ True) (digestOf a, a) := by
    apply (dcDigest_reads field (digestOf a)).bind
    exact h.tail (Decodes.pure _)
  have hrun := (hread.runThen (fun read => do
      ByteReader.expectEnd
      ByteReader.require (read.1 == digestOf read.2) (makeStatus .corrupt mismatch)
      pure read.2) hN).1 ⟨trivial, hp, trivial⟩
  simp only [bind_assoc, pure_bind] at hrun
  unfold Decoder.over digested
  rw [hrun]
  simp [ByteReader.expectEnd, ByteReader.require, Bind.bind, StateT.bind, Except.bind,
    Pure.pure, StateT.pure, Except.pure]

/-- A digested value whose decoder fails is not read back. -/
theorem digested_fails {α : Type} {decode : Decoder α} {digestOf : α → Digest256} {bs : Bytes}
    {P : Prop} {a : α} (digest : Digest256) (field mismatch : Bytes) (h : Reads decode bs P a)
    (hp : ¬ P) (hN : (digest.data ++ bs).length < kLengthBound) :
    ∃ e, Decoder.over (digested field decode digestOf mismatch) (digest.data ++ bs) = .error e := by
  have hread : Reads (do
      let expected ← dcDigest field
      let value ← decode
      pure (expected, value)) (digest.data ++ bs) (True ∧ P ∧ True) (digest, a) := by
    apply (dcDigest_reads field digest).bind
    exact h.tail (Decodes.pure _)
  obtain ⟨e, hrun⟩ := (hread.runThen (fun read => do
      ByteReader.expectEnd
      ByteReader.require (read.1 == digestOf read.2) (makeStatus .corrupt mismatch)
      pure read.2) hN).2 fun h => hp h.2.1
  simp only [bind_assoc, pure_bind] at hrun
  refine ⟨e, ?_⟩
  unfold Decoder.over digested
  rw [hrun]

/-- The payload of a rollout within the limits decodes to what a snapshot keeps of it. -/
theorem decodeRolloutPayload_encode {limits : RuntimeLimits} {r : Rollout}
    (hlimits : limits.validate.isOk = true) (hr : r.withinLimits limits = true)
    (hsize : (encodeRolloutPayload r).length ≤ limits.maxJournalRecordBytes.toNat) :
    decodeRolloutPayload (encodeRolloutPayload r) limits = .ok r.persisted := by
  have hlength : (encodeRolloutPayload r).length < kLengthBound := record_length_lt hlimits hsize
  have hbody : ((rolloutDigest r).data ++ r.encode).length ≤ (encodeRolloutPayload r).length := by
    simp [encodeRolloutPayload, wrap, ByteWriter.bytes]
    omega
  unfold decodeRolloutPayload
  rw [encodeRolloutPayload, unwrap_wrap (by decide) (by decide) (le_trans hbody hsize) hlength]
  rw [← rolloutDigest_persisted]
  exact digested_reads _ _ (decodeRollout_reads limits r) hr
    (by rw [rolloutDigest_persisted]; exact lt_of_le_of_lt hbody hlength)

/-- Whatever a payload within the bound decodes to is what a snapshot keeps. -/
theorem decodeRolloutPayload_ok {limits : RuntimeLimits} {r r' : Rollout}
    (hlimits : limits.validate.isOk = true)
    (hsize : (encodeRolloutPayload r).length ≤ limits.maxJournalRecordBytes.toNat)
    (h : decodeRolloutPayload (encodeRolloutPayload r) limits = .ok r') : r' = r.persisted := by
  by_cases hr : r.withinLimits limits = true
  · exact Except.ok.inj (h.symm.trans (decodeRolloutPayload_encode hlimits hr hsize))
  · have hlength : (encodeRolloutPayload r).length < kLengthBound := record_length_lt hlimits hsize
    have hbody : ((rolloutDigest r).data ++ r.encode).length ≤ (encodeRolloutPayload r).length := by
      simp [encodeRolloutPayload, wrap, ByteWriter.bytes]
      omega
    obtain ⟨e, he⟩ := digested_fails (rolloutDigest r) (text "rollout.digest")
      (text "the rollout snapshot does not match the digest recorded with it")
      (decodeRollout_reads limits r) hr (lt_of_le_of_lt hbody hlength)
    unfold decodeRolloutPayload at h
    rw [encodeRolloutPayload, unwrap_wrap (by decide) (by decide) (le_trans hbody hsize) hlength] at h
    exact absurd (he.symm.trans h) (by simp)

/-! ## What the round trip keeps -/

/-- The rollout without the three last gate evaluations of each stage, which only the status
report reads. -/
def Rollout.deciding (r : Rollout) : Rollout :=
  { r with stages := r.stages.map fun stage =>
      { stage with lastHealthGate := {}, lastEvidenceGate := {}, lastAdvanceGate := {} } }

/-- A snapshot keeps everything that decides behaviour exactly when no stage has an evidence rule
of its own: `encode_stage_runtime` never writes it and the decoder leaves the default. -/
theorem snapshot_keeps_deciding_iff {limits : RuntimeLimits} {r : Rollout}
    (hlimits : limits.validate.isOk = true) (hr : r.withinLimits limits = true)
    (hsize : (encodeRolloutPayload r).length ≤ limits.maxJournalRecordBytes.toNat) :
    (∃ r', decodeRolloutPayload (encodeRolloutPayload r) limits = .ok r'
        ∧ r'.deciding = r.deciding)
      ↔ ∀ stage ∈ r.stages, stage.evidenceRule = {} := by
  have hdecode := decodeRolloutPayload_encode hlimits hr hsize
  have hstages : r.persisted.deciding = r.deciding
      ↔ ∀ stage ∈ r.stages, stage.evidenceRule = {} := by
    simp only [Rollout.deciding, Rollout.persisted, Rollout.mk.injEq, List.map_map,
      List.map_inj_left, Function.comp_apply, StageRuntime.persisted, StageRuntime.mk.injEq,
      true_and, and_true]
    exact forall₂_congr fun _ _ => eq_comm
  constructor
  · rintro ⟨r', hr', heq⟩
    cases hdecode.symm.trans hr'
    exact hstages.1 heq
  · intro hrules
    exact ⟨_, hdecode, hstages.2 hrules⟩

/-- A rollout of one stage, with the evidence rule `rule`. -/
def singleStageRollout (rule : TargetEvidenceRule) : Rollout :=
  { stages := [{ evidenceRule := rule }] }

theorem snapshot_keeps_deciding_default :
    ∃ r', decodeRolloutPayload (encodeRolloutPayload (singleStageRollout {})) {} = .ok r'
      ∧ r'.deciding = (singleStageRollout {}).deciding :=
  (snapshot_keeps_deciding_iff (by decide) (by decide +kernel) (by decide +kernel)).2
    (by simp [singleStageRollout])

/-- A stage that asks for independent verification comes back without asking for it. -/
theorem snapshot_drops_evidence_rule :
    (singleStageRollout { requireVerification := true }).withinLimits {} = true
    ∧ ∃ r', decodeRolloutPayload
        (encodeRolloutPayload (singleStageRollout { requireVerification := true })) {} = .ok r'
      ∧ ¬ r'.deciding = (singleStageRollout { requireVerification := true }).deciding := by
  refine ⟨by decide +kernel, _, decodeRolloutPayload_encode (by decide) (by decide +kernel)
    (by decide +kernel), ?_⟩
  intro h
  have hrule := congrArg (fun r : Rollout => r.stages.map fun s => s.evidenceRule.requireVerification) h
  exact absurd hrule (by decide)

end RolloutFabric
