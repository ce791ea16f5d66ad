/-
The wire form of evidence: a record within the limits is read back as it was written.
-/
import RolloutFabric.Domain.RoundTrip

namespace RolloutFabric

open Decoding

instance : ByteCoded EvidenceKind where
  code
    | .dispatchAccepted => 0 | .executionProgress => 1 | .executionCompleted => 2
    | .executionFailed => 3 | .healthSample => 4 | .rollbackCompleted => 5 | .rollbackFailed => 6
    | .verificationPassed => 7 | .verificationFailed => 8 | .cancellationAcknowledged => 9
  ofCode?
    | 0 => some .dispatchAccepted | 1 => some .executionProgress | 2 => some .executionCompleted
    | 3 => some .executionFailed | 4 => some .healthSample | 5 => some .rollbackCompleted
    | 6 => some .rollbackFailed | 7 => some .verificationPassed | 8 => some .verificationFailed
    | 9 => some .cancellationAcknowledged | _ => none
  ofCode?_code a := by cases a <;> rfl

instance : ByteCoded EvidenceOrigin where
  code | .live => 0 | .recoveredFromJournal => 1 | .reconciledFromAdapter => 2
  ofCode?
    | 0 => some .live | 1 => some .recoveredFromJournal | 2 => some .reconciledFromAdapter
    | _ => none
  ofCode?_code a := by cases a <;> rfl

def Metric.encode (m : Metric) : Bytes :=
  [ByteWriter.string m.name, ByteWriter.i64 m.valueMilli, ByteWriter.string m.unit].flatten

def decodeMetric (limits : RuntimeLimits) : Decoder Metric := do
  let name ← dcString (text "metric.name") limits.maxMetricNameBytes.toNat
  let valueMilli ← dcI64 (text "metric.value_milli")
  let unit ← dcString (text "metric.unit") limits.maxMetricTextBytes.toNat
  pure { name, valueMilli, unit }

def EvidenceRecord.encode (r : EvidenceRecord) : Bytes := [
  ByteWriter.id r.id, ByteWriter.id r.rollout, ByteWriter.id r.generation, ByteWriter.id r.stage,
  ByteWriter.id r.cohort, ByteWriter.id r.target, ByteWriter.id r.attempt,
  ByteWriter.u64 r.attemptEpoch, ByteWriter.id r.incarnation,
  ByteWriter.u8 (ByteCoded.code r.kind), ByteWriter.u8 (ByteCoded.code r.outcome),
  ByteWriter.u8 (ByteCoded.code r.authority), ByteWriter.u8 (ByteCoded.code r.origin),
  ByteWriter.u64 r.sequence, ByteWriter.timestamp r.observedAt, ByteWriter.timestamp r.recordedAt,
  ByteWriter.duration r.ttl, ByteWriter.id r.healthSource, ByteWriter.id r.verifier,
  ByteWriter.digest r.payloadDigest, ByteWriter.vector Metric.encode r.metrics].flatten

/-- `decode_evidence_record`. -/
def decodeEvidenceRecord (limits : RuntimeLimits) : Decoder EvidenceRecord := do
  let id ← dcId .evidence (text "evidence.id")
  let rollout ← dcId .rollout (text "evidence.rollout")
  let generation ← dcId .generation (text "evidence.generation")
  let stage ← dcId .stage (text "evidence.stage")
  let cohort ← dcId .cohort (text "evidence.cohort")
  let target ← dcId .target (text "evidence.target")
  let attempt ← dcId .attempt (text "evidence.attempt")
  let attemptEpoch ← dcU64 (text "evidence.attempt_epoch")
  let incarnation ← dcId .incarnation (text "evidence.incarnation")
  let kind ← dcEnum (dcU8 (text "evidence.kind")) fun value =>
    makeStatus .corrupt (text "unknown evidence kind " ++ toStringNat value.toNat)
  let outcome ← dcEnum (dcU8 (text "evidence.outcome")) fun _ =>
    makeStatus .corrupt (text "unknown evidence outcome")
  let authority ← dcEnum (dcU8 (text "evidence.authority")) fun _ =>
    makeStatus .corrupt (text "unknown evidence authority")
  let origin ← dcEnum (dcU8 (text "evidence.origin")) fun _ =>
    makeStatus .corrupt (text "unknown evidence origin")
  let sequence ← dcU64 (text "evidence.sequence")
  let observedAt ← dcTimestamp (text "evidence.observed_at")
  let recordedAt ← dcTimestamp (text "evidence.recorded_at")
  let ttl ← dcDuration (text "evidence.ttl")
  let healthSource ← dcId .healthSource (text "evidence.health_source")
  let verifier ← dcId .verifier (text "evidence.verifier")
  let payloadDigest ← dcDigest (text "evidence.payload_digest")
  let metrics ← dcVector (text "evidence.metrics") limits.maxMetricsPerEvidence.toNat
    (fun _ => makeStatus .limitExceeded (text "evidence metric count exceeds the bound"))
    (decodeMetric limits)
  let record : EvidenceRecord := {
    id, rollout, generation, stage, cohort, target, attempt, attemptEpoch, incarnation, kind
    outcome, authority, origin, sequence, observedAt, recordedAt, ttl, healthSource, verifier
    payloadDigest, metrics }
  ByteReader.check (record.validate limits)
  pure record

/-- `decode_evidence`: the body of a frame is one record. -/
def decodeEvidence (body : Bytes) (limits : RuntimeLimits) : Result EvidenceRecord :=
  Decoder.over (do
    let record ← decodeEvidenceRecord limits
    ByteReader.expectEnd
    pure record) body

/-! ## Round trip -/

def Metric.withinLimits (limits : RuntimeLimits) (m : Metric) : Bool :=
  fitsText limits.maxMetricNameBytes m.name && fitsText limits.maxMetricTextBytes m.unit

theorem decodeMetric_reads (limits : RuntimeLimits) (m : Metric) :
    Reads (decodeMetric limits) m.encode (m.withinLimits limits = true) m := by
  unfold decodeMetric Metric.encode
  apply Decodes.congr
  · exact (dcString_reads _ m.name _).nextIf <| (dcI64_reads _ m.valueMilli).next <|
      (dcString_reads _ m.unit _).nextIf <| Decodes.done m
  · simp [Metric.withinLimits]

/-- The record is valid and its metrics are texts. -/
def EvidenceRecord.withinLimits (limits : RuntimeLimits) (r : EvidenceRecord) : Bool :=
  decide (r.metrics.length ≤ limits.maxMetricsPerEvidence.toNat)
    && r.metrics.all (fun m => m.withinLimits limits) && (r.validate limits).isOk

theorem decodeEvidenceRecord_reads (limits : RuntimeLimits) (r : EvidenceRecord) :
    Reads (decodeEvidenceRecord limits) r.encode (r.withinLimits limits = true) r := by
  unfold decodeEvidenceRecord EvidenceRecord.encode
  apply Decodes.congr
  · exact (dcId_reads _ r.id).next <| (dcId_reads _ r.rollout).next <|
      (dcId_reads _ r.generation).next <| (dcId_reads _ r.stage).next <|
      (dcId_reads _ r.cohort).next <| (dcId_reads _ r.target).next <|
      (dcId_reads _ r.attempt).next <| (dcU64_reads _ r.attemptEpoch).next <|
      (dcId_reads _ r.incarnation).next <| (dcEnum_reads _ _ r.kind).next <|
      (dcEnum_reads _ _ r.outcome).next <| (dcEnum_reads _ _ r.authority).next <|
      (dcEnum_reads _ _ r.origin).next <| (dcU64_reads _ r.sequence).next <|
      (dcTimestamp_reads _ r.observedAt).next <| (dcTimestamp_reads _ r.recordedAt).next <|
      (dcDuration_reads _ r.ttl).next <| (dcId_reads _ r.healthSource).next <|
      (dcId_reads _ r.verifier).next <| (dcDigest_reads _ r.payloadDigest).next <|
      (vector_reads_id _ r.metrics (dcU32_reads _) (fun m => record_pos (string_pos m.name))
        (decodeMetric_reads limits)).nextIf <|
      (check_reads _).guard <| Decodes.done r
  · simp [EvidenceRecord.withinLimits, and_assoc]

theorem decodeEvidence_encode {limits : RuntimeLimits} {r : EvidenceRecord}
    (h : r.withinLimits limits = true) (hsize : r.encode.length < kLengthBound) :
    decodeEvidence r.encode limits = .ok r := by
  have hrun := ((decodeEvidenceRecord_reads limits r).runThen
    (fun r => do ByteReader.expectEnd; pure r) hsize).1 h
  unfold decodeEvidence Decoder.over
  rw [hrun]
  rfl

end RolloutFabric
