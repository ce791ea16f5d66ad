/-
Every message of the protocol has one encoding: a message within the limits is read back as it
was written, and a body that is accepted is the encoding of the message it gives.
-/
import RolloutFabric.Codec.Exact
import RolloutFabric.Protocol.Messages
import RolloutFabric.Protocol.Transport

namespace RolloutFabric

open Decoding

variable {α : Type}

/-! ## Codes -/

instance : ByteCoded.Canonical DispatchOutcome where
  code_of_ofCode? c a h := by
    simp only [ByteCoded.ofCode?] at h
    split at h <;> cases h <;> rfl

instance : ByteCoded.Canonical ReconcileDisposition where
  code_of_ofCode? c a h := by
    simp only [ByteCoded.ofCode?] at h
    split at h <;> cases h <;> rfl

instance : ByteCoded.Canonical CommandKind where
  code_of_ofCode? c a h := by
    simp only [ByteCoded.ofCode?] at h
    split at h <;> cases h <;> rfl

instance : ByteCoded.Canonical EvidenceKind where
  code_of_ofCode? c a h := by
    simp only [ByteCoded.ofCode?] at h
    split at h <;> cases h <;> rfl

instance : ByteCoded.Canonical EvidenceOutcome where
  code_of_ofCode? c a h := by
    simp only [ByteCoded.ofCode?] at h
    split at h <;> cases h <;> rfl

instance : ByteCoded.Canonical EvidenceAuthority where
  code_of_ofCode? c a h := by
    simp only [ByteCoded.ofCode?] at h
    split at h <;> cases h <;> rfl

instance : ByteCoded.Canonical EvidenceOrigin where
  code_of_ofCode? c a h := by
    simp only [ByteCoded.ofCode?] at h
    split at h <;> cases h <;> rfl

/-! ## Shared parts -/

theorem decodeEnum_exact [ByteCoded α] [ByteCoded.Canonical α] (field : Bytes) :
    Exact (decodeEnum field) (fun a : α => ByteWriter.u8 (ByteCoded.code a)) (fun _ => True) :=
  dcEnum_exact field _

theorem decodeStatusCode_exact (field : Bytes) :
    Exact (decodeStatusCode field) (fun c => ByteWriter.u16 c.code) (fun _ => True) := by
  intro bs c rest
  have hraw : Exact (dcU16 field) ByteWriter.u16 (fun _ => True) := field_exact field u16_exact
  unfold decodeStatusCode
  rw [bind_eq_ok]
  constructor
  · rintro ⟨raw, mid, hread, hof⟩
    obtain ⟨-, rfl⟩ := hraw.canonical hread
    cases hcode : StatusCode.ofCode? raw with
    | none =>
      rw [hcode] at hof
      cases hof
    | some c' =>
      rw [hcode] at hof
      obtain ⟨rfl, rfl⟩ := Prod.mk.inj (Except.ok.inj hof)
      obtain rfl := StatusCode.code_of_ofCode? hcode
      exact ⟨trivial, rfl⟩
  · rintro ⟨-, rfl⟩
    refine ⟨c.code, rest, hraw.decode trivial rest, ?_⟩
    rw [StatusCode.ofCode?_code]
    rfl

theorem readFence_exact (field : Bytes) :
    Exact (readFence field) AttemptFence.write (fun _ => True) := by
  unfold readFence AttemptFence.write
  apply Exact.record
  · exact .field AttemptFence.rollout (dcId_exact field) fun _ =>
      .field AttemptFence.generation (dcId_exact field) fun _ =>
      .field AttemptFence.stage (dcId_exact field) fun _ =>
      .field AttemptFence.attempt (dcId_exact field) fun _ =>
      .field AttemptFence.epoch (dcU64_exact field) fun _ =>
      .field AttemptFence.incarnation (dcId_exact field) fun _ =>
      .done (R := fun _ => True) fun ⟨_, _, _, _, _, _⟩ => by simp [and_assoc]
  · simp

/-- A text within its bound. -/
theorem dcText_exact (field : Bytes) (bound : UInt32) :
    Exact (dcString field bound.toNat) ByteWriter.string (fun t => fitsText bound t = true) :=
  (dcString_exact field bound).congr fun t => by simp [fitsText]

/-- A decoder of a whole body accepts exactly the encodings. -/
theorem Decoder.whole_eq_ok {fields : Decoder α} {enc : α → Bytes} {P : α → Prop}
    (h : Exact fields enc P) {body : Bytes} {m : α} :
    fields.whole body = .ok m ↔ P m ∧ body = enc m := by
  have hfields := h body
  unfold Decoder.whole Decoder.over
  simp only [bind, StateT.bind, Except.bind]
  cases hrun : fields body with
  | error e =>
    have hnone := (hfields m []).2
    rw [hrun] at hnone
    simpa using hnone
  | ok r =>
    obtain ⟨a, rest⟩ := r
    obtain ⟨ha, rfl⟩ := h.canonical hrun
    cases rest with
    | nil =>
      show Except.ok a = Except.ok m ↔ _
      constructor
      · rintro ⟨⟩
        exact ⟨ha, List.append_nil _⟩
      · rintro ⟨hm, heq⟩
        rw [h.injective ha hm ((List.append_nil _).symm.trans heq)]
    | cons byte rest =>
      constructor
      · rintro ⟨⟩
      · rintro ⟨hm, heq⟩
        have hread := h.decode hm []
        rw [List.append_nil, ← heq, hrun] at hread
        cases hread

/-! ## Hello -/

theorem helloFields_exact (limits : RuntimeLimits) :
    Exact (helloFields limits) HelloMessage.encode (fun m =>
      m.protocolVersion = kProtocolVersion ∧ fitsText limits.maxNameBytes m.name = true
        ∧ m.capacity ≤ limits.maxConcurrentAttempts) := by
  unfold helloFields HelloMessage.encode
  apply Exact.record
  · exact .field HelloMessage.protocolVersion (dcU32_exact _) fun _ =>
      require_guard (D := fun m => m.protocolVersion = kProtocolVersion)
        (by rintro m ⟨-, rfl⟩; simp) <|
      .field HelloMessage.abiVersion (dcU32_exact _) fun _ =>
      .field HelloMessage.worker (dcId_exact _) fun _ =>
      .field HelloMessage.incarnation (dcId_exact _) fun _ =>
      .field HelloMessage.name (dcText_exact _ _) fun _ =>
      .field HelloMessage.capacity (dcU32_exact _) fun _ =>
      require_guard (D := fun m => m.capacity ≤ limits.maxConcurrentAttempts)
        (by rintro m ⟨-, rfl⟩; simp) <|
      .field HelloMessage.startedAtUnixNanos (dcU64_exact _) fun _ =>
      .done (R := fun _ => True) fun ⟨_, _, _, _, _, _, _⟩ => by simp [and_assoc]
  · simp

theorem helloAckFields_exact :
    Exact helloAckFields HelloAckMessage.encode (fun _ => True) := by
  unfold helloAckFields HelloAckMessage.encode
  apply Exact.record
  · exact .field HelloAckMessage.protocolVersion (dcU32_exact _) fun _ =>
      .field HelloAckMessage.abiVersion (dcU32_exact _) fun _ =>
      .field HelloAckMessage.controllerIncarnation (dcId_exact _) fun _ =>
      .field HelloAckMessage.controllerEpoch (dcU64_exact _) fun _ =>
      .field HelloAckMessage.maxInFlight (dcU32_exact _) fun _ =>
      .done (R := fun _ => True) fun ⟨_, _, _, _, _⟩ => by simp [and_assoc]
  · simp

/-! ## Dispatch and cancel -/

/-- The request's own target is not read: it is the message that names the target. -/
theorem dispatchFields_exact (limits : RuntimeLimits) :
    Exact (dispatchFields limits) DispatchCommandMessage.encode (fun m =>
      m.request.parameters.length ≤ limits.maxMessageBytes.toNat
        ∧ fitsText limits.maxNameBytes m.targetName = true ∧ m.request.target = .nil) := by
  unfold dispatchFields DispatchCommandMessage.encode
  apply Exact.record
  · exact .field (fun m : DispatchCommandMessage => m.request.fence) (readFence_exact _) fun _ =>
      .field (fun m : DispatchCommandMessage => m.request.cohort) (dcId_exact _) fun _ =>
      .field (fun m : DispatchCommandMessage => m.request.action) (dcId_exact _) fun _ =>
      .field (fun m : DispatchCommandMessage => m.request.actionDigest) (dcDigest_exact _) fun _ =>
      .field (fun m : DispatchCommandMessage => m.request.artifactDigest) (dcDigest_exact _) fun _ =>
      .field (fun m : DispatchCommandMessage => m.request.idempotencyKey) (dcDigest_exact _) fun _ =>
      .field (fun m : DispatchCommandMessage => m.request.attemptNumber) (dcU32_exact _) fun _ =>
      .field (fun m : DispatchCommandMessage => m.request.parameters) (dcBytes_exact _ _) fun _ =>
      .field (fun m : DispatchCommandMessage => m.request.deadline) (dcTimestamp_exact _) fun _ =>
      .field DispatchCommandMessage.target (dcId_exact _) fun _ =>
      .field DispatchCommandMessage.targetName (dcText_exact _ _) fun _ =>
      .done (R := fun m : DispatchCommandMessage => m.request.target = .nil)
        fun ⟨⟨_, _, _, _, _, _, _, _, _, _⟩, _, _⟩ => by simp [and_assoc]; tauto
  · simp

theorem dispatchAckFields_exact (limits : RuntimeLimits) :
    Exact (dispatchAckFields limits) DispatchAckMessage.encode (fun m =>
      fitsText limits.maxDescriptionBytes m.detail = true) := by
  unfold dispatchAckFields DispatchAckMessage.encode
  apply Exact.record
  · exact .field DispatchAckMessage.fence (readFence_exact _) fun _ =>
      .field DispatchAckMessage.outcome (decodeEnum_exact _) fun _ =>
      .field DispatchAckMessage.detail (dcText_exact _ _) fun _ =>
      .field DispatchAckMessage.acceptedAt (dcTimestamp_exact _) fun _ =>
      .done (R := fun _ => True) fun ⟨_, _, _, _⟩ => by simp [and_assoc]
  · simp

theorem cancelFields_exact (limits : RuntimeLimits) :
    Exact (cancelFields limits) CancelMessage.encode (fun m =>
      fitsText limits.maxDescriptionBytes m.reason = true) := by
  unfold cancelFields CancelMessage.encode
  apply Exact.record
  · exact .field CancelMessage.fence (readFence_exact _) fun _ =>
      .field CancelMessage.reason (dcText_exact _ _) fun _ =>
      .done (R := fun _ => True) fun ⟨_, _⟩ => by simp
  · simp

theorem cancelAckFields_exact (limits : RuntimeLimits) :
    Exact (cancelAckFields limits) CancelAckMessage.encode (fun m =>
      fitsText limits.maxDescriptionBytes m.detail = true) := by
  unfold cancelAckFields CancelAckMessage.encode
  apply Exact.record
  · exact .field CancelAckMessage.fence (readFence_exact _) fun _ =>
      .field CancelAckMessage.stopped (dcBool_exact _) fun _ =>
      .field CancelAckMessage.detail (dcText_exact _ _) fun _ =>
      .done (R := fun _ => True) fun ⟨_, _, _⟩ => by simp [and_assoc]
  · simp

/-! ## Evidence -/

theorem decodeMetric_exact (limits : RuntimeLimits) :
    Exact (decodeMetric limits) Metric.encode (fun m => m.withinLimits limits = true) := by
  unfold decodeMetric Metric.encode
  apply Exact.record
  · exact .field Metric.name (dcText_exact _ _) fun _ =>
      .field Metric.valueMilli (dcI64_exact _) fun _ =>
      .field Metric.unit (dcText_exact _ _) fun _ =>
      .done (R := fun _ => True) fun ⟨_, _, _⟩ => by simp [and_assoc]
  · simp [Metric.withinLimits]

theorem decodeEvidenceRecord_exact (limits : RuntimeLimits) :
    Exact (decodeEvidenceRecord limits) EvidenceRecord.encode
      (fun r => r.withinLimits limits = true) := by
  unfold decodeEvidenceRecord ByteReader.check EvidenceRecord.encode
  dsimp only
  apply Exact.record
  · exact .field EvidenceRecord.id (dcId_exact _) fun _ =>
      .field EvidenceRecord.rollout (dcId_exact _) fun _ =>
      .field EvidenceRecord.generation (dcId_exact _) fun _ =>
      .field EvidenceRecord.stage (dcId_exact _) fun _ =>
      .field EvidenceRecord.cohort (dcId_exact _) fun _ =>
      .field EvidenceRecord.target (dcId_exact _) fun _ =>
      .field EvidenceRecord.attempt (dcId_exact _) fun _ =>
      .field EvidenceRecord.attemptEpoch (dcU64_exact _) fun _ =>
      .field EvidenceRecord.incarnation (dcId_exact _) fun _ =>
      .field EvidenceRecord.kind (dcEnum_exact _ _) fun _ =>
      .field EvidenceRecord.outcome (dcEnum_exact _ _) fun _ =>
      .field EvidenceRecord.authority (dcEnum_exact _ _) fun _ =>
      .field EvidenceRecord.origin (dcEnum_exact _ _) fun _ =>
      .field EvidenceRecord.sequence (dcU64_exact _) fun _ =>
      .field EvidenceRecord.observedAt (dcTimestamp_exact _) fun _ =>
      .field EvidenceRecord.recordedAt (dcTimestamp_exact _) fun _ =>
      .field EvidenceRecord.ttl (dcDuration_exact _) fun _ =>
      .field EvidenceRecord.healthSource (dcId_exact _) fun _ =>
      .field EvidenceRecord.verifier (dcId_exact _) fun _ =>
      .field EvidenceRecord.payloadDigest (dcDigest_exact _) fun _ =>
      .field EvidenceRecord.metrics (dcVector_exact _ _ (decodeMetric_exact limits)) fun _ =>
      require_guard (D := fun r : EvidenceRecord => (r.validate limits).isOk = true)
        (fun ⟨_, _, _, _, _, _, _, _, _, _, _, _, _, _, _, _, _, _, _, _, _⟩ => by
          rintro h
          simp only [and_assoc, true_and] at h
          obtain ⟨rfl, rfl, rfl, rfl, rfl, rfl, rfl, rfl, rfl, rfl, rfl, rfl, rfl, rfl, rfl, rfl,
            rfl, rfl, rfl, rfl, rfl⟩ := h
          rfl) <|
      .done (R := fun _ => True)
        fun ⟨_, _, _, _, _, _, _, _, _, _, _, _, _, _, _, _, _, _, _, _, _⟩ => by
          simp [and_assoc]
  · simp [EvidenceRecord.withinLimits, and_assoc]

/-! ## Heartbeat -/

theorem heartbeatFields_exact :
    Exact heartbeatFields HeartbeatMessage.encode (fun _ => True) := by
  unfold heartbeatFields HeartbeatMessage.encode
  apply Exact.record
  · exact .field HeartbeatMessage.incarnation (dcId_exact _) fun _ =>
      .field HeartbeatMessage.inFlight (dcU32_exact _) fun _ =>
      .field HeartbeatMessage.completed (dcU64_exact _) fun _ =>
      .field HeartbeatMessage.failed (dcU64_exact _) fun _ =>
      .field HeartbeatMessage.occurredAt (dcTimestamp_exact _) fun _ =>
      .done (R := fun _ => True) fun ⟨_, _, _, _, _⟩ => by simp [and_assoc]
  · simp

theorem heartbeatAckFields_exact :
    Exact heartbeatAckFields HeartbeatAckMessage.encode (fun _ => True) := by
  unfold heartbeatAckFields HeartbeatAckMessage.encode
  apply Exact.record
  · exact .field HeartbeatAckMessage.controllerIncarnation (dcId_exact _) fun _ =>
      .field HeartbeatAckMessage.controllerEpoch (dcU64_exact _) fun _ =>
      .field HeartbeatAckMessage.acceptWork (dcBool_exact _) fun _ =>
      .done (R := fun _ => True) fun ⟨_, _, _⟩ => by simp [and_assoc]
  · simp

/-! ## Reconcile -/

theorem reconcileRequestFields_exact (limits : RuntimeLimits) :
    Exact (reconcileRequestFields limits) ReconcileRequestMessage.encode (fun m =>
      m.fences.length ≤ limits.maxConcurrentAttempts.toNat) := by
  unfold reconcileRequestFields ReconcileRequestMessage.encode
  apply Exact.record
  · exact .field ReconcileRequestMessage.requestId (dcU64_exact _) fun _ =>
      .field ReconcileRequestMessage.fences (dcVector_exact _ _ (readFence_exact _)) fun _ =>
      .done (R := fun _ => True) fun ⟨_, _⟩ => by simp
  · simp

/-- The detail of an entry is within its bound. -/
def ReconcileEntry.withinLimits (limits : RuntimeLimits) (entry : ReconcileEntry) : Bool :=
  fitsText limits.maxDescriptionBytes entry.detail

theorem readReconcileEntry_exact (limits : RuntimeLimits) :
    Exact (readReconcileEntry limits) ReconcileEntry.write
      (fun entry => entry.withinLimits limits = true) := by
  unfold readReconcileEntry ReconcileEntry.write
  apply Exact.record
  · exact .field ReconcileEntry.fence (readFence_exact _) fun _ =>
      .field ReconcileEntry.disposition (decodeEnum_exact _) fun _ =>
      .field ReconcileEntry.outcome (decodeEnum_exact _) fun _ =>
      .field ReconcileEntry.detail (dcText_exact _ _) fun _ =>
      .done (R := fun _ => True) fun ⟨_, _, _, _⟩ => by simp [and_assoc]
  · simp [ReconcileEntry.withinLimits]

theorem reconcileResponseFields_exact (limits : RuntimeLimits) :
    Exact (reconcileResponseFields limits) ReconcileResponseMessage.encode (fun m =>
      m.entries.length ≤ limits.maxConcurrentAttempts.toNat
        ∧ ∀ entry ∈ m.entries, entry.withinLimits limits = true) := by
  unfold reconcileResponseFields ReconcileResponseMessage.encode
  apply Exact.record
  · exact .field ReconcileResponseMessage.requestId (dcU64_exact _) fun _ =>
      .field ReconcileResponseMessage.entries
        (dcVector_exact _ _ (readReconcileEntry_exact limits)) fun _ =>
      .done (R := fun _ => True) fun ⟨_, _⟩ => by simp
  · simp

/-! ## Shutdown and error -/

theorem shutdownFields_exact (limits : RuntimeLimits) :
    Exact (shutdownFields limits) ShutdownMessage.encode (fun m =>
      fitsText limits.maxDescriptionBytes m.reason = true) := by
  unfold shutdownFields ShutdownMessage.encode
  apply Exact.record
  · exact .field ShutdownMessage.reason (dcText_exact _ _) fun _ =>
      .done (R := fun _ => True) fun ⟨_⟩ => by simp
  · simp

theorem errorFields_exact (limits : RuntimeLimits) :
    Exact (errorFields limits) ErrorMessage.encode (fun m =>
      fitsText limits.maxDescriptionBytes m.detail = true) := by
  unfold errorFields ErrorMessage.encode
  apply Exact.record
  · exact .field ErrorMessage.code (decodeStatusCode_exact _) fun _ =>
      .field ErrorMessage.detail (dcText_exact _ _) fun _ =>
      .done (R := fun _ => True) fun ⟨_, _⟩ => by simp
  · simp

/-! ## Operator commands -/

theorem commandRequestFields_exact (limits : RuntimeLimits) :
    Exact (commandRequestFields limits) CommandRequestMessage.encode (fun m =>
      fitsText limits.maxDescriptionBytes m.reason = true
        ∧ fitsText limits.maxNameBytes m.operatorName = true
        ∧ fitsText limits.maxDescriptionBytes m.planPath = true) := by
  unfold commandRequestFields CommandRequestMessage.encode
  apply Exact.record
  · exact .field CommandRequestMessage.kind (decodeEnum_exact _) fun _ =>
      .field CommandRequestMessage.rollout (dcId_exact _) fun _ =>
      .field CommandRequestMessage.gate (dcId_exact _) fun _ =>
      .field CommandRequestMessage.generation (dcId_exact _) fun _ =>
      .field CommandRequestMessage.revision (dcU64_exact _) fun _ =>
      .field CommandRequestMessage.checkedGeneration (dcBool_exact _) fun _ =>
      .field CommandRequestMessage.checkedRevision (dcBool_exact _) fun _ =>
      .field CommandRequestMessage.reason (dcText_exact _ _) fun _ =>
      .field CommandRequestMessage.operatorName (dcText_exact _ _) fun _ =>
      .field CommandRequestMessage.planPath (dcText_exact _ _) fun _ =>
      .done (R := fun _ => True) fun ⟨_, _, _, _, _, _, _, _, _, _⟩ => by simp [and_assoc]
  · simp

theorem commandResponseFields_exact (limits : RuntimeLimits) :
    Exact (commandResponseFields limits) CommandResponseMessage.encode (fun m =>
      fitsText limits.maxDescriptionBytes m.detail = true
        ∧ fitsText limits.maxMessageBytes m.payload = true) := by
  unfold commandResponseFields CommandResponseMessage.encode
  apply Exact.record
  · exact .field CommandResponseMessage.code (decodeStatusCode_exact _) fun _ =>
      .field CommandResponseMessage.detail (dcText_exact _ _) fun _ =>
      .field CommandResponseMessage.payload (dcText_exact _ _) fun _ =>
      .field CommandResponseMessage.rollout (dcId_exact _) fun _ =>
      .field CommandResponseMessage.gate (dcId_exact _) fun _ =>
      .done (R := fun _ => True) fun ⟨_, _, _, _, _⟩ => by simp [and_assoc]
  · simp

/-! ## Health -/

theorem healthRequestFields_exact (limits : RuntimeLimits) :
    Exact (healthRequestFields limits) HealthRequestMessage.encode (fun m =>
      m.targets.length ≤ limits.maxTotalTargets.toNat) := by
  unfold healthRequestFields dcIdVector HealthRequestMessage.encode
  apply Exact.record
  · exact .field HealthRequestMessage.requestId (dcU64_exact _) fun _ =>
      .field HealthRequestMessage.targets (dcVector_exact _ _ (dcId_exact _)) fun _ =>
      .field HealthRequestMessage.issuedAt (dcTimestamp_exact _) fun _ =>
      .done (R := fun _ => True) fun ⟨_, _, _⟩ => by simp [and_assoc]
  · simp

/-- The reason of a sample is within its bound. -/
def HealthSample.withinLimits (limits : RuntimeLimits) (sample : HealthSample) : Bool :=
  fitsText limits.maxDescriptionBytes sample.reason

theorem readHealthSample_exact (limits : RuntimeLimits) :
    Exact (readHealthSample limits) HealthSample.write
      (fun sample => sample.withinLimits limits = true) := by
  unfold readHealthSample HealthSample.write
  apply Exact.record
  · exact .field HealthSample.target (dcId_exact _) fun _ =>
      .field HealthSample.healthy (dcBool_exact _) fun _ =>
      .field HealthSample.observedAt (dcTimestamp_exact _) fun _ =>
      .field HealthSample.reason (dcText_exact _ _) fun _ =>
      .done (R := fun _ => True) fun ⟨_, _, _, _⟩ => by simp [and_assoc]
  · simp [HealthSample.withinLimits]

theorem healthResponseFields_exact (limits : RuntimeLimits) :
    Exact (healthResponseFields limits) HealthResponseMessage.encode (fun m =>
      m.samples.length ≤ limits.maxTotalTargets.toNat
        ∧ ∀ sample ∈ m.samples, sample.withinLimits limits = true) := by
  unfold healthResponseFields HealthResponseMessage.encode
  apply Exact.record
  · exact .field HealthResponseMessage.requestId (dcU64_exact _) fun _ =>
      .field HealthResponseMessage.source (dcId_exact _) fun _ =>
      .field HealthResponseMessage.observedAt (dcTimestamp_exact _) fun _ =>
      .field HealthResponseMessage.live (dcBool_exact _) fun _ =>
      .field HealthResponseMessage.samples
        (dcVector_exact _ _ (readHealthSample_exact limits)) fun _ =>
      .done (R := fun _ => True) fun ⟨_, _, _, _, _⟩ => by simp [and_assoc]
  · simp

/-! ## Every message -/

/-- A message of the protocol. -/
inductive Message
  | hello (m : HelloMessage)
  | helloAck (m : HelloAckMessage)
  | dispatch (m : DispatchCommandMessage)
  | dispatchAck (m : DispatchAckMessage)
  | cancel (m : CancelMessage)
  | cancelAck (m : CancelAckMessage)
  | evidence (m : EvidenceRecord)
  | heartbeat (m : HeartbeatMessage)
  | heartbeatAck (m : HeartbeatAckMessage)
  | reconcileRequest (m : ReconcileRequestMessage)
  | reconcileResponse (m : ReconcileResponseMessage)
  | shutdown (m : ShutdownMessage)
  | error (m : ErrorMessage)
  | commandRequest (m : CommandRequestMessage)
  | commandResponse (m : CommandResponseMessage)
  | healthRequest (m : HealthRequestMessage)
  | healthResponse (m : HealthResponseMessage)

namespace Message

/-- The type of the frame a message travels in. -/
def type : Message → MessageType
  | hello _ => .hello
  | helloAck _ => .helloAck
  | dispatch _ => .dispatch
  | dispatchAck _ => .dispatchAck
  | cancel _ => .cancel
  | cancelAck _ => .cancelAck
  | evidence _ => .evidence
  | heartbeat _ => .heartbeat
  | heartbeatAck _ => .heartbeatAck
  | reconcileRequest _ => .reconcileRequest
  | reconcileResponse _ => .reconcileResponse
  | shutdown _ => .shutdown
  | error _ => .error
  | commandRequest _ => .commandRequest
  | commandResponse _ => .commandResponse
  | healthRequest _ => .healthRequest
  | healthResponse _ => .healthResponse

def encode : Message → Bytes
  | hello m => m.encode
  | helloAck m => m.encode
  | dispatch m => m.encode
  | dispatchAck m => m.encode
  | cancel m => m.encode
  | cancelAck m => m.encode
  | evidence m => m.encode
  | heartbeat m => m.encode
  | heartbeatAck m => m.encode
  | reconcileRequest m => m.encode
  | reconcileResponse m => m.encode
  | shutdown m => m.encode
  | error m => m.encode
  | commandRequest m => m.encode
  | commandResponse m => m.encode
  | healthRequest m => m.encode
  | healthResponse m => m.encode

/-- The message as it arrives: a request's own target travels as the target of the message. -/
def carried : Message → Message
  | dispatch m => dispatch { m with request := { m.request with target := .nil } }
  | m => m

/-- Every text is valid and, like every list and count, within its bound; a hello speaks this
version of the protocol, and the record of an evidence message passes its own validation. -/
def WithinLimits (limits : RuntimeLimits) : Message → Prop
  | hello m => m.protocolVersion = kProtocolVersion ∧ fitsText limits.maxNameBytes m.name = true
    ∧ m.capacity ≤ limits.maxConcurrentAttempts
  | helloAck _ | heartbeat _ | heartbeatAck _ => True
  | dispatch m => m.request.parameters.length ≤ limits.maxMessageBytes.toNat
    ∧ fitsText limits.maxNameBytes m.targetName = true
  | dispatchAck m => fitsText limits.maxDescriptionBytes m.detail = true
  | cancel m => fitsText limits.maxDescriptionBytes m.reason = true
  | cancelAck m => fitsText limits.maxDescriptionBytes m.detail = true
  | evidence record => record.withinLimits limits = true
  | reconcileRequest m => m.fences.length ≤ limits.maxConcurrentAttempts.toNat
  | reconcileResponse m => m.entries.length ≤ limits.maxConcurrentAttempts.toNat
    ∧ ∀ entry ∈ m.entries, entry.withinLimits limits = true
  | shutdown m => fitsText limits.maxDescriptionBytes m.reason = true
  | error m => fitsText limits.maxDescriptionBytes m.detail = true
  | commandRequest m => fitsText limits.maxDescriptionBytes m.reason = true
    ∧ fitsText limits.maxNameBytes m.operatorName = true
    ∧ fitsText limits.maxDescriptionBytes m.planPath = true
  | commandResponse m => fitsText limits.maxDescriptionBytes m.detail = true
    ∧ fitsText limits.maxMessageBytes m.payload = true
  | healthRequest m => m.targets.length ≤ limits.maxTotalTargets.toNat
  | healthResponse m => m.samples.length ≤ limits.maxTotalTargets.toNat
    ∧ ∀ sample ∈ m.samples, sample.withinLimits limits = true

/-- The decoder of each type of frame; no frame of type `invalid` is decoded. -/
def decode (body : Bytes) (limits : RuntimeLimits) : MessageType → Result Message
  | .invalid => .error (makeStatus .corrupt (text "unknown message type 0"))
  | .hello => (decodeHello body limits).map hello
  | .helloAck => (decodeHelloAck body).map helloAck
  | .dispatch => (decodeDispatch body limits).map dispatch
  | .dispatchAck => (decodeDispatchAck body limits).map dispatchAck
  | .cancel => (decodeCancel body limits).map cancel
  | .cancelAck => (decodeCancelAck body limits).map cancelAck
  | .evidence => ((decodeEvidenceRecord limits).whole body).map evidence
  | .heartbeat => (decodeHeartbeat body).map heartbeat
  | .heartbeatAck => (decodeHeartbeatAck body).map heartbeatAck
  | .reconcileRequest => (decodeReconcileRequest body limits).map reconcileRequest
  | .reconcileResponse => (decodeReconcileResponse body limits).map reconcileResponse
  | .shutdown => (decodeShutdown body limits).map shutdown
  | .error => (decodeError body limits).map error
  | .commandRequest => (decodeCommandRequest body limits).map commandRequest
  | .commandResponse => (decodeCommandResponse body limits).map commandResponse
  | .healthRequest => (decodeHealthRequest body limits).map healthRequest
  | .healthResponse => (decodeHealthResponse body limits).map healthResponse

end Message

/-- The law of one decoder, for the message it is wrapped in. -/
theorem whole_map_eq_ok {fields : Decoder α} {enc : α → Bytes} {P : α → Prop}
    (h : Exact fields enc P) (wrap : α → Message) {body : Bytes} {m : Message} :
    (fields.whole body).map wrap = .ok m ↔ ∃ a, P a ∧ body = enc a ∧ wrap a = m := by
  constructor
  · intro hmap
    cases hwhole : fields.whole body with
    | error e =>
      rw [hwhole] at hmap
      cases hmap
    | ok a =>
      rw [hwhole] at hmap
      obtain ⟨ha, hbytes⟩ := (Decoder.whole_eq_ok h).1 hwhole
      exact ⟨a, ha, hbytes, Except.ok.inj hmap⟩
  · rintro ⟨a, ha, hbytes, rfl⟩
    rw [(Decoder.whole_eq_ok h).2 ⟨ha, hbytes⟩]
    rfl

/-- Decoding a message within the limits gives it back. -/
theorem Message.decode_encode {limits : RuntimeLimits} {m : Message} (h : m.WithinLimits limits) :
    Message.decode m.encode limits m.type = .ok m.carried := by
  cases m with
  | hello m => exact (whole_map_eq_ok (helloFields_exact limits) _).2 ⟨m, h, rfl, rfl⟩
  | helloAck m => exact (whole_map_eq_ok helloAckFields_exact _).2 ⟨m, h, rfl, rfl⟩
  | dispatch m =>
    exact (whole_map_eq_ok (dispatchFields_exact limits) _).2
      ⟨{ m with request := { m.request with target := .nil } }, ⟨h.1, h.2, rfl⟩, rfl, rfl⟩
  | dispatchAck m => exact (whole_map_eq_ok (dispatchAckFields_exact limits) _).2 ⟨m, h, rfl, rfl⟩
  | cancel m => exact (whole_map_eq_ok (cancelFields_exact limits) _).2 ⟨m, h, rfl, rfl⟩
  | cancelAck m => exact (whole_map_eq_ok (cancelAckFields_exact limits) _).2 ⟨m, h, rfl, rfl⟩
  | evidence m => exact (whole_map_eq_ok (decodeEvidenceRecord_exact limits) _).2 ⟨m, h, rfl, rfl⟩
  | heartbeat m => exact (whole_map_eq_ok heartbeatFields_exact _).2 ⟨m, h, rfl, rfl⟩
  | heartbeatAck m => exact (whole_map_eq_ok heartbeatAckFields_exact _).2 ⟨m, h, rfl, rfl⟩
  | reconcileRequest m => exact (whole_map_eq_ok (reconcileRequestFields_exact limits) _).2 ⟨m, h, rfl, rfl⟩
  | reconcileResponse m => exact (whole_map_eq_ok (reconcileResponseFields_exact limits) _).2 ⟨m, h, rfl, rfl⟩
  | shutdown m => exact (whole_map_eq_ok (shutdownFields_exact limits) _).2 ⟨m, h, rfl, rfl⟩
  | error m => exact (whole_map_eq_ok (errorFields_exact limits) _).2 ⟨m, h, rfl, rfl⟩
  | commandRequest m => exact (whole_map_eq_ok (commandRequestFields_exact limits) _).2 ⟨m, h, rfl, rfl⟩
  | commandResponse m => exact (whole_map_eq_ok (commandResponseFields_exact limits) _).2 ⟨m, h, rfl, rfl⟩
  | healthRequest m => exact (whole_map_eq_ok (healthRequestFields_exact limits) _).2 ⟨m, h, rfl, rfl⟩
  | healthResponse m => exact (whole_map_eq_ok (healthResponseFields_exact limits) _).2 ⟨m, h, rfl, rfl⟩

/-- A body that is accepted is the encoding of the message it gives. -/
theorem Message.encode_decode {limits : RuntimeLimits} {type : MessageType} {body : Bytes}
    {m : Message} (h : Message.decode body limits type = .ok m) :
    m.encode = body ∧ m.type = type := by
  cases type with
  | invalid => cases h
  | hello =>
    obtain ⟨a, -, rfl, rfl⟩ := (whole_map_eq_ok (helloFields_exact limits) _).1 h
    exact ⟨rfl, rfl⟩
  | helloAck =>
    obtain ⟨a, -, rfl, rfl⟩ := (whole_map_eq_ok helloAckFields_exact _).1 h
    exact ⟨rfl, rfl⟩
  | dispatch =>
    obtain ⟨a, -, rfl, rfl⟩ := (whole_map_eq_ok (dispatchFields_exact limits) _).1 h
    exact ⟨rfl, rfl⟩
  | dispatchAck =>
    obtain ⟨a, -, rfl, rfl⟩ := (whole_map_eq_ok (dispatchAckFields_exact limits) _).1 h
    exact ⟨rfl, rfl⟩
  | cancel =>
    obtain ⟨a, -, rfl, rfl⟩ := (whole_map_eq_ok (cancelFields_exact limits) _).1 h
    exact ⟨rfl, rfl⟩
  | cancelAck =>
    obtain ⟨a, -, rfl, rfl⟩ := (whole_map_eq_ok (cancelAckFields_exact limits) _).1 h
    exact ⟨rfl, rfl⟩
  | evidence =>
    obtain ⟨a, -, rfl, rfl⟩ := (whole_map_eq_ok (decodeEvidenceRecord_exact limits) _).1 h
    exact ⟨rfl, rfl⟩
  | heartbeat =>
    obtain ⟨a, -, rfl, rfl⟩ := (whole_map_eq_ok heartbeatFields_exact _).1 h
    exact ⟨rfl, rfl⟩
  | heartbeatAck =>
    obtain ⟨a, -, rfl, rfl⟩ := (whole_map_eq_ok heartbeatAckFields_exact _).1 h
    exact ⟨rfl, rfl⟩
  | reconcileRequest =>
    obtain ⟨a, -, rfl, rfl⟩ := (whole_map_eq_ok (reconcileRequestFields_exact limits) _).1 h
    exact ⟨rfl, rfl⟩
  | reconcileResponse =>
    obtain ⟨a, -, rfl, rfl⟩ := (whole_map_eq_ok (reconcileResponseFields_exact limits) _).1 h
    exact ⟨rfl, rfl⟩
  | shutdown =>
    obtain ⟨a, -, rfl, rfl⟩ := (whole_map_eq_ok (shutdownFields_exact limits) _).1 h
    exact ⟨rfl, rfl⟩
  | error =>
    obtain ⟨a, -, rfl, rfl⟩ := (whole_map_eq_ok (errorFields_exact limits) _).1 h
    exact ⟨rfl, rfl⟩
  | commandRequest =>
    obtain ⟨a, -, rfl, rfl⟩ := (whole_map_eq_ok (commandRequestFields_exact limits) _).1 h
    exact ⟨rfl, rfl⟩
  | commandResponse =>
    obtain ⟨a, -, rfl, rfl⟩ := (whole_map_eq_ok (commandResponseFields_exact limits) _).1 h
    exact ⟨rfl, rfl⟩
  | healthRequest =>
    obtain ⟨a, -, rfl, rfl⟩ := (whole_map_eq_ok (healthRequestFields_exact limits) _).1 h
    exact ⟨rfl, rfl⟩
  | healthResponse =>
    obtain ⟨a, -, rfl, rfl⟩ := (whole_map_eq_ok (healthResponseFields_exact limits) _).1 h
    exact ⟨rfl, rfl⟩

/-- Wire messages have one encoding: a message within the limits is read back as it was written,
and what a decoder accepts is written back as it was read. -/
theorem messages_have_one_encoding (limits : RuntimeLimits) :
    (∀ m : Message, m.WithinLimits limits →
      Message.decode m.encode limits m.type = .ok m.carried)
    ∧ ∀ (type : MessageType) (body : Bytes) (m : Message),
      Message.decode body limits type = .ok m → m.encode = body ∧ m.type = type :=
  ⟨fun _ h => Message.decode_encode h, fun _ _ _ h => Message.encode_decode h⟩

end RolloutFabric
