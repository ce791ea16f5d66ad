/-
Decisions: the audit record of every choice the runtime makes, and the builder that digests
its inputs and bounds its texts.
-/
import RolloutFabric.Domain.IdFactory
import RolloutFabric.Domain.Limits

namespace RolloutFabric

inductive DecisionKind
  | validatePlan | armRollout | startStage | dispatchBatch | holdStage | openGate | refuseGate
  | advanceStage | completeRollout | pauseRollout | resumeRollout | abortRollout | beginRollback
  | failStage | failRollout | retireRollout | retryTarget | cancelAttempt | reconcile
  | rejectEvidence | admitAttempt
deriving DecidableEq, Repr

instance : Inhabited DecisionKind := ⟨.holdStage⟩

instance : ByteCoded DecisionKind where
  code
    | .validatePlan => 0 | .armRollout => 1 | .startStage => 2 | .dispatchBatch => 3
    | .holdStage => 4 | .openGate => 5 | .refuseGate => 6 | .advanceStage => 7
    | .completeRollout => 8 | .pauseRollout => 9 | .resumeRollout => 10 | .abortRollout => 11
    | .beginRollback => 12 | .failStage => 13 | .failRollout => 14 | .retireRollout => 15
    | .retryTarget => 16 | .cancelAttempt => 17 | .reconcile => 18 | .rejectEvidence => 19
    | .admitAttempt => 20
  ofCode?
    | 0 => some .validatePlan | 1 => some .armRollout | 2 => some .startStage
    | 3 => some .dispatchBatch | 4 => some .holdStage | 5 => some .openGate
    | 6 => some .refuseGate | 7 => some .advanceStage | 8 => some .completeRollout
    | 9 => some .pauseRollout | 10 => some .resumeRollout | 11 => some .abortRollout
    | 12 => some .beginRollback | 13 => some .failStage | 14 => some .failRollout
    | 15 => some .retireRollout | 16 => some .retryTarget | 17 => some .cancelAttempt
    | 18 => some .reconcile | 19 => some .rejectEvidence | 20 => some .admitAttempt | _ => none
  ofCode?_code a := by cases a <;> rfl

structure RejectedAlternative where
  action : Bytes := []
  reason : Bytes := []
deriving DecidableEq, Inhabited

structure Decision where
  id : DecisionId := .nil
  kind : DecisionKind := .holdStage
  rollout : RolloutId := .nil
  generation : GenerationId := .nil
  revision : UInt64 := 0
  controllerEpoch : UInt64 := 0
  incarnation : IncarnationId := .nil
  authority : AuthorityId := .nil
  stage : StageId := .nil
  target : TargetId := .nil
  attempt : AttemptId := .nil
  decidedAt : Timestamp := {}
  inputsDigest : Digest256 := default
  policyDigest : Digest256 := default
  evidenceDigest : Digest256 := default
  selected : Bytes := []
  rejected : List RejectedAlternative := []
  rationale : Bytes := []
deriving DecidableEq, Inhabited

/-! ## Codec -/

def RejectedAlternative.encode (r : RejectedAlternative) : Bytes :=
  [ByteWriter.string r.action, ByteWriter.string r.reason].flatten

def Decision.encode (d : Decision) : Bytes := [
  ByteWriter.id d.id, ByteWriter.u8 (ByteCoded.code d.kind), ByteWriter.id d.rollout,
  ByteWriter.id d.generation, ByteWriter.u64 d.revision, ByteWriter.u64 d.controllerEpoch,
  ByteWriter.id d.incarnation, ByteWriter.id d.authority, ByteWriter.id d.stage,
  ByteWriter.id d.target, ByteWriter.id d.attempt, ByteWriter.timestamp d.decidedAt,
  ByteWriter.digest d.inputsDigest, ByteWriter.digest d.policyDigest,
  ByteWriter.digest d.evidenceDigest, ByteWriter.string d.selected,
  ByteWriter.vector RejectedAlternative.encode d.rejected,
  ByteWriter.string d.rationale].flatten

def decodeRejectedAlternative (limits : RuntimeLimits) : Decoder RejectedAlternative := do
  let action ← dcString (text "decision.rejected[].action") limits.maxRationaleBytes.toNat
  let reason ← dcString (text "decision.rejected[].reason") limits.maxRationaleBytes.toNat
  pure { action, reason }

def decodeDecision (limits : RuntimeLimits) : Decoder Decision := do
  let id ← dcId .decision (text "decision.id")
  let kind ← dcEnum (dcU8 (text "decision.kind")) fun value => makeStatus .corrupt
    (text "unknown decision kind " ++ toStringNat value.toNat)
  let rollout ← dcId .rollout (text "decision.rollout")
  let generation ← dcId .generation (text "decision.generation")
  let revision ← dcU64 (text "decision.revision")
  let controllerEpoch ← dcU64 (text "decision.controller_epoch")
  let incarnation ← dcId .incarnation (text "decision.incarnation")
  let authority ← dcId .authority (text "decision.authority")
  let stage ← dcId .stage (text "decision.stage")
  let target ← dcId .target (text "decision.target")
  let attempt ← dcId .attempt (text "decision.attempt")
  let decidedAt ← dcTimestamp (text "decision.decided_at")
  let inputsDigest ← dcDigest (text "decision.inputs_digest")
  let policyDigest ← dcDigest (text "decision.policy_digest")
  let evidenceDigest ← dcDigest (text "decision.evidence_digest")
  let selected ← dcString (text "decision.selected") limits.maxRationaleBytes.toNat
  let rejected ← dcVector (text "decision.rejected") limits.maxRejectedAlternatives.toNat
    (fun _ => makeStatus .limitExceeded
      (text "decision rejected-alternative count exceeds max_rejected_alternatives"))
    (decodeRejectedAlternative limits)
  let rationale ← dcString (text "decision.rationale") limits.maxRationaleBytes.toNat
  pure { id, kind, rollout, generation, revision, controllerEpoch, incarnation, authority, stage
         target, attempt, decidedAt, inputsDigest, policyDigest, evidenceDigest, selected
         rejected, rationale }

/-! ## The builder -/

/-- A `DecisionBuilder`: the decision so far and the bytes its input digest will cover. -/
structure DecisionBuilder where
  decision : Decision
  inputBytes : Bytes := ByteWriter.string (text "rollout-fabric/decision-inputs/v1")
deriving Inhabited

namespace DecisionBuilder

def stage (b : DecisionBuilder) (id : StageId) : DecisionBuilder :=
  { b with decision := { b.decision with stage := id } }
def target (b : DecisionBuilder) (id : TargetId) : DecisionBuilder :=
  { b with decision := { b.decision with target := id } }
def attempt (b : DecisionBuilder) (id : AttemptId) : DecisionBuilder :=
  { b with decision := { b.decision with attempt := id } }
def authority (b : DecisionBuilder) (id : AuthorityId) : DecisionBuilder :=
  { b with decision := { b.decision with authority := id } }
def policyDigest (b : DecisionBuilder) (digest : Digest256) : DecisionBuilder :=
  { b with decision := { b.decision with policyDigest := digest } }

def input (b : DecisionBuilder) (name value : Bytes) : DecisionBuilder :=
  { b with inputBytes := b.inputBytes ++ ByteWriter.string name ++ ByteWriter.string value }
def inputDigest (b : DecisionBuilder) (name : Bytes) (digest : Digest256) : DecisionBuilder :=
  { b with inputBytes := b.inputBytes ++ ByteWriter.string name ++ digest.data }
def inputU64 (b : DecisionBuilder) (name : Bytes) (value : UInt64) : DecisionBuilder :=
  { b with inputBytes := b.inputBytes ++ ByteWriter.string name ++ ByteWriter.u64 value }

def select (b : DecisionBuilder) (selected : Bytes) : DecisionBuilder :=
  { b with decision := { b.decision with selected } }
def reject (b : DecisionBuilder) (action reason : Bytes) : DecisionBuilder :=
  { b with decision :=
      { b.decision with rejected := b.decision.rejected ++ [{ action, reason }] } }
def rationale (b : DecisionBuilder) (t : Bytes) : DecisionBuilder :=
  { b with decision := { b.decision with rationale := t } }

/-- `text.resize(bound)` where the text is longer; the cut is made on bytes. -/
def bounded (bound : Nat) (t : Bytes) : Bytes := t.take bound

def boundDecision (limits : RuntimeLimits) (d : Decision) : Decision :=
  let bound := limits.maxRationaleBytes.toNat
  { d with
    rejected := (d.rejected.take limits.maxRejectedAlternatives.toNat).map fun alternative =>
      { action := bounded bound alternative.action, reason := bounded bound alternative.reason }
    rationale := bounded bound d.rationale
    selected := bounded bound d.selected }

/-- `finish`: mints the decision's identifier and cuts every text to its bound. -/
def finish (b : DecisionBuilder) (ids : IdFactory) (decidedAt : Timestamp)
    (limits : RuntimeLimits) : Decision × IdFactory :=
  let (id, ids) := ids.next .decision .decision
  (boundDecision limits
    { b.decision with id, decidedAt, inputsDigest := sha256 b.inputBytes }, ids)

end DecisionBuilder

end RolloutFabric
