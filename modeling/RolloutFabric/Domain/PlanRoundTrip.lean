/-
Which plans survive the journal: the decoder of the plan payload has bounds of its own, and what
`validate` accepts is read back exactly when it is also within these.
-/
import RolloutFabric.Domain.RoundTrip

namespace RolloutFabric

open Decoding

/-! ## Stages -/

theorem decodeEvidenceRule_reads (rule : TargetEvidenceRule) :
    Reads decodeEvidenceRule rule.encode True rule := by
  unfold decodeEvidenceRule TargetEvidenceRule.encode
  exact (dcEnum_reads _ _ rule.successAuthority).next <|
    (dcEnum_reads _ _ rule.failureAuthority).next <|
    (dcBool_reads _ rule.requireVerification).next <| (dcId_reads _ rule.verifier).next <|
    (dcDuration_reads _ rule.healthSettle).next <|
    (dcBool_reads _ rule.requireHealthAfterSuccess).next <| Decodes.done rule

theorem ActionSpec.encode_pos (a : ActionSpec) : 0 < a.encode.length :=
  record_pos (id_pos a.id)

/-- What the decoder of a stage checks and its validation does not. -/
def StageSpec.fits (limits : RuntimeLimits) (s : StageSpec) : Bool :=
  isValidUtf8 s.name && decide (s.predecessors.length ≤ limits.maxStagesPerPlan.toNat)
    && s.selector.fits limits (kMaxSelectorDepth + 1)
    && decide (s.policy.compensationActions.length ≤ limits.maxActionsPerStage.toNat)

theorem StageSpec.inStage_isOk (name part : Bytes) (s : Status) :
    (inStage name part s).isOk = s.isOk := by
  unfold inStage
  split
  · next h => rw [h]; rfl
  · rfl

theorem decodeStage_reads (limits : RuntimeLimits) (s : StageSpec) :
    Reads (decodeStage limits) s.encode
      (s.fits limits = true ∧ (s.validate limits).isOk = true) s := by
  unfold decodeStage StageSpec.encode
  apply Decodes.congr
  · exact (dcId_reads _ s.id).next <| (dcString_reads _ s.name _).nextIf <|
      (dcU32_reads _ s.ordinal).next <| (dcIdVector_reads _ _ s.predecessors).nextIf <|
      (decodeSelectorTerm_reads limits s.selector).nextIf <|
      (decodeStagePolicy_reads limits s.policy).nextIf <|
      (decodeEvidenceRule_reads s.evidenceRule).next <|
      (vector_reads_id _ s.actions (dcU32_reads _) ActionSpec.encode_pos
        (decodeAction_reads limits)).nextIf <|
      (check_reads _).guard <| Decodes.done s
  · simp only [StageSpec.fits, SelectorTerm.withinLimits, StagePolicy.withinLimits, fitsText,
      Bool.and_eq_true, decide_eq_true_eq]
    constructor
    · rintro ⟨⟨-, hname⟩, hpredecessors, ⟨hselector, -⟩, ⟨hcompensation, -⟩, -, hvalid, -⟩
      exact ⟨⟨⟨⟨hname, hpredecessors⟩, hselector⟩, hcompensation⟩, hvalid⟩
    · rintro ⟨⟨⟨⟨hname, hpredecessors⟩, hselector⟩, hcompensation⟩, hvalid⟩
      have hall := hvalid
      simp only [StageSpec.validate, firstFailure_isOk, List.forall_mem_cons, refuseIf_isOk,
        List.forall_mem_map, StageSpec.inStage_isOk] at hall
      obtain ⟨-, -, hlength, hcount, hselector', hpolicy, -, hactions, -⟩ := hall
      have hlength : s.name.length ≤ limits.maxNameBytes.toNat := by
        by_contra hlong
        simp [Nat.not_le.1 hlong] at hlength
      have hcount : s.actions.length ≤ limits.maxActionsPerStage.toNat := by
        by_contra hmany
        simp [Nat.not_le.1 hmany] at hcount
      exact ⟨⟨hlength, hname⟩, hpredecessors, ⟨hselector, hselector'⟩, ⟨hcompensation, hpolicy⟩,
        ⟨hcount, hactions⟩, hvalid, trivial⟩

/-! ## Plans -/

theorem StageSpec.encode_pos (s : StageSpec) : 0 < s.encode.length := record_pos (id_pos s.id)

namespace ChangePlan

/-- What the decoder of a plan checks and its validation does not. -/
def fits (limits : RuntimeLimits) (p : ChangePlan) : Bool :=
  fitsText limits.maxNameBytes p.changeId && fitsText limits.maxNameBytes p.approvedBy
    && fitsText limits.maxDescriptionBytes p.summary && p.stages.all (StageSpec.fits limits)

/-- The plan without its order, which `validate` computes. -/
def declared (p : ChangePlan) : ChangePlan := { p with order := [] }

/-- The order a plan comes with plays no part in its validation. -/
theorem validate_declared (p : ChangePlan) (limits : RuntimeLimits) :
    p.declared.validate limits = p.validate limits := rfl

/-- What a validated plan is known to satisfy. -/
theorem of_validate {p q : ChangePlan} {limits : RuntimeLimits}
    (h : p.validate limits = .ok q) :
    q.declared = p.declared ∧ q.stages.length ≤ limits.maxStagesPerPlan.toNat
      ∧ q.order.length = q.stages.length ∧ ∀ s ∈ q.stages, (s.validate limits).isOk = true := by
  unfold validate at h
  obtain ⟨hchecks, h⟩ := Status.toResult_bind_ok h
  obtain ⟨horder, h⟩ := Status.toResult_bind_ok h
  cases h
  simp only [firstFailure_isOk, List.forall_mem_cons, List.forall_mem_map] at hchecks
  obtain ⟨-, -, hcount, -, -, hstages, -⟩ := hchecks
  refine ⟨rfl, ?_, by simpa using horder, hstages⟩
  by_contra hmany
  simp [Nat.not_le.1 hmany] at hcount

end ChangePlan

theorem decodePlan_reads {limits : RuntimeLimits} {p : ChangePlan}
    (hp : p.declared.validate limits = .ok p) :
    Reads (decodePlan limits) p.encode (p.fits limits = true) p := by
  obtain ⟨-, hcount, horder, hstages⟩ := ChangePlan.of_validate hp
  have hvalid : ChangePlan.validate
      { id := p.id, sourceDigest := p.sourceDigest, changeId := p.changeId
        approvedBy := p.approvedBy, approvedAt := p.approvedAt, summary := p.summary
        stages := p.stages } limits = .ok p := hp
  unfold decodePlan ChangePlan.encode
  apply Decodes.congr
  · refine (dcId_reads _ p.id).next <| (dcDigest_reads _ p.sourceDigest).next <|
      (dcString_reads _ p.changeId _).nextIf <| (dcString_reads _ p.approvedBy _).nextIf <|
      (dcTimestamp_reads _ p.approvedAt).next <| (dcString_reads _ p.summary _).nextIf <|
      (vector_reads_id _ p.stages (dcU32_reads _) StageSpec.encode_pos
        (decodeStage_reads limits)).nextIf <|
      (dcIdVector_reads _ _ p.order).nextIf (Q := True) ?_
    simp only [hvalid]
    exact ((require_reads _ _).guard <| (require_reads _ _).guard <| Decodes.done p).congr
      (by simp)
  · simp only [ChangePlan.fits, Bool.and_eq_true, List.all_eq_true]
    constructor
    · rintro ⟨hchange, hby, hsummary, ⟨-, hall⟩, -⟩
      exact ⟨⟨⟨hchange, hby⟩, hsummary⟩, fun s hs => (hall s hs).1⟩
    · rintro ⟨⟨⟨hchange, hby⟩, hsummary⟩, hall⟩
      exact ⟨hchange, hby, hsummary, ⟨hcount, fun s hs => ⟨hall s hs, hstages s hs⟩⟩,
        by omega, trivial⟩

/-! ## The payload -/

/-- A body above the record bound is refused: its length prefix says so or, once it has wrapped,
leaves bytes behind. -/
theorem bytes_fails {t : Bytes} {maxLength : Nat} (h : maxLength < t.length) :
    ∃ e, (do
      let body ← ByteReader.bytes maxLength
      ByteReader.expectEnd
      pure body) (ByteWriter.bytes t) = .error e := by
  obtain ⟨n, hcount⟩ : ∃ n, ByteWriter.bytes t = ByteWriter.u32 n ++ t := ⟨_, rfl⟩
  have hread := (u32_reads n (by simp [ByteWriter.u32, kLengthBound]) t).1 trivial
  rw [hcount]
  by_cases hbound : n.toNat ≤ maxLength
  · have htake : ¬ t.length < n.toNat := by omega
    have hleft : ¬ t.length ≤ n.toNat := by omega
    simp [ByteReader.bytes, ByteReader.take, ByteReader.expectEnd, ByteReader.require, Bind.bind,
      StateT.bind, Except.bind, Pure.pure, StateT.pure, Except.pure, hread, hbound, htake, hleft]
  · simp [ByteReader.bytes, ByteReader.require, ByteReader.fail, Bind.bind, StateT.bind,
      Except.bind, hread, hbound]

theorem unwrap_fails {tag body : Bytes} {limits : RuntimeLimits} (htag : tag.length ≤ 64)
    (hutf8 : isValidUtf8 tag = true)
    (hbody : limits.maxJournalRecordBytes.toNat < body.length) :
    ∃ e, unwrap tag (wrap tag body) limits = .error e := by
  obtain ⟨e, he⟩ := bytes_fails hbody
  have hread : Reads (do
      let found ← ByteReader.string 64
      ByteReader.require (found == tag) (makeStatus .corrupt
        (text "payload tag '" ++ found ++ text "' is not '" ++ tag ++ text "'"))
      let schema ← ByteReader.u32
      ByteReader.require (schema == kPayloadSchemaVersion) (makeStatus .notSupported
        (text "payload schema version " ++ toStringNat schema.toNat
          ++ text " is not readable by this build")))
      [ByteWriter.string tag, ByteWriter.u32 kPayloadSchemaVersion].flatten True () := by
    apply Decodes.congr
    · exact (string_reads tag 64).nextIf <| (require_reads _ _).guard <|
        ((u32_reads kPayloadSchemaVersion).tail (require_reads _ _)).last
    · simp [htag, hutf8]
  have hsize : [ByteWriter.string tag, ByteWriter.u32 kPayloadSchemaVersion].flatten.length
      < kLengthBound := by
    simp [ByteWriter.string, ByteWriter.u32, ByteWriter.count, kLengthBound]
    omega
  refine ⟨e, ?_⟩
  have hwrap : wrap tag body
      = [ByteWriter.string tag, ByteWriter.u32 kPayloadSchemaVersion].flatten
        ++ ByteWriter.bytes body := by
    simp [wrap]
  have hsplit : ∀ input, unwrapDecoder tag limits input = ((do
      let found ← ByteReader.string 64
      ByteReader.require (found == tag) (makeStatus .corrupt
        (text "payload tag '" ++ found ++ text "' is not '" ++ tag ++ text "'"))
      let schema ← ByteReader.u32
      ByteReader.require (schema == kPayloadSchemaVersion) (makeStatus .notSupported
        (text "payload schema version " ++ toStringNat schema.toNat
          ++ text " is not readable by this build"))) >>= fun _ => do
      let body ← ByteReader.bytes limits.maxJournalRecordBytes.toNat
      ByteReader.expectEnd
      pure body : Decoder Bytes) input := by
    intro input
    simp only [unwrapDecoder, bind_assoc]
  unfold unwrap Decoder.over
  rw [hwrap, hsplit, hread.before _ hsize trivial, he]

/-- The body of the payload of a plan. -/
def ChangePlan.record (p : ChangePlan) : Bytes := p.planDigest.data ++ p.encode

/-- A plan that validation accepted is read back from its payload exactly when its texts and lists
also fit the bounds that only the decoder has, and its payload fits a record. -/
theorem plan_survives_iff {p q : ChangePlan} {limits : RuntimeLimits}
    (hlimits : limits.validate.isOk = true) (hq : p.validate limits = .ok q) :
    decodePlanPayload (encodePlanPayload q) limits = .ok q
      ↔ q.fits limits = true ∧ q.record.length ≤ limits.maxJournalRecordBytes.toNat := by
  have hplan : q.declared.validate limits = .ok q := by
    rw [(ChangePlan.of_validate hq).1, ChangePlan.validate_declared]
    exact hq
  unfold decodePlanPayload encodePlanPayload
  by_cases hbody : q.record.length ≤ limits.maxJournalRecordBytes.toNat
  · have hlength : q.record.length < kLengthBound := record_length_lt hlimits hbody
    have hwrap : (wrap planTag q.record).length < kLengthBound := by
      have hrecord := record_length_le hlimits hbody
      have htag : planTag.length = 22 := by decide
      simp [wrap, ByteWriter.string, ByteWriter.bytes, ByteWriter.u32, ByteWriter.count, htag,
        kLengthBound]
      omega
    change (unwrap planTag (wrap planTag q.record) limits >>= _) = _ ↔ _
    rw [unwrap_wrap (by decide) (by decide) hbody hwrap]
    change Decoder.over _ (q.planDigest.data ++ q.encode) = _ ↔ _
    by_cases hfits : q.fits limits = true
    · rw [digested_reads _ _ (decodePlan_reads hplan) hfits hlength]
      exact ⟨fun _ => ⟨hfits, hbody⟩, fun _ => rfl⟩
    · obtain ⟨e, he⟩ := digested_fails q.planDigest _ _ (decodePlan_reads hplan) hfits hlength
      rw [he]
      exact ⟨fun h => absurd h (by simp), fun h => absurd h.1 hfits⟩
  · obtain ⟨e, he⟩ : ∃ e, unwrap planTag (wrap planTag q.record) limits = .error e :=
      unwrap_fails (by decide) (by decide) (Nat.not_le.1 hbody)
    change (unwrap planTag (wrap planTag q.record) limits >>= _) = _ ↔ _
    rw [he]
    exact ⟨fun h => absurd h (by simp [Bind.bind, Except.bind]), fun h => absurd h.2 hbody⟩

/-- A plan of one stage for the change with this name, with the order that validation gives it. -/
def plainPlan (changeId : Bytes) : ChangePlan where
  id := ⟨.ofBytes 16 [1]⟩
  sourceDigest := .ofBytes 32 [1]
  changeId := changeId
  stages := [{
    id := ⟨.ofBytes 16 [2]⟩
    name := text "s"
    actions := [{
      id := ⟨.ofBytes 16 [3]⟩
      name := text "a"
      artifactDigest := .ofBytes 32 [1] }] }]
  order := [⟨.ofBytes 16 [2]⟩]

theorem plainPlan_valid {changeId : Bytes} (h : changeId.isEmpty = false) :
    (plainPlan changeId).validate {} = .ok (plainPlan changeId) := by
  have hname : (plainPlan changeId).changeId.isEmpty = false := h
  unfold ChangePlan.validate
  rw [hname]
  rfl

theorem plainPlan_survives :
    decodePlanPayload (encodePlanPayload (plainPlan (text "c"))) {} = .ok (plainPlan (text "c")) :=
  (plan_survives_iff (by decide) (plainPlan_valid (by decide))).2
    ⟨by decide +kernel, by decide +kernel⟩

/-- A change identifier above `max_name_bytes` passes validation, and its payload is unreadable. -/
theorem plainPlan_unreadable :
    ∃ q, (plainPlan (List.replicate 129 97)).validate {} = .ok q
      ∧ ∃ e, decodePlanPayload (encodePlanPayload q) {} = .error e := by
  refine ⟨_, plainPlan_valid rfl, ?_⟩
  have hfails : (decodePlanPayload
      (encodePlanPayload (plainPlan (List.replicate 129 97))) {}).toOption.isNone = true := by
    decide +kernel
  cases h : decodePlanPayload (encodePlanPayload (plainPlan (List.replicate 129 97))) {} with
  | error e => exact ⟨e, rfl⟩
  | ok _ => rw [h] at hfails; cases hfails

end RolloutFabric
