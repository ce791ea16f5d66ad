/-
Attempts: one execution of one action on one target, the fence every report about it must
present, and the key that makes repeating it harmless.
-/
import RolloutFabric.Domain.Evidence

namespace RolloutFabric

structure AttemptFence where
  rollout : RolloutId := .nil
  generation : GenerationId := .nil
  stage : StageId := .nil
  attempt : AttemptId := .nil
  epoch : UInt64 := 0
  incarnation : IncarnationId := .nil
deriving DecidableEq, Inhabited

def deriveIdempotencyKey (rollout : RolloutId) (generation : GenerationId) (stage : StageId)
    (target : TargetId) (action : ActionId) : Digest256 :=
  sha256 (ByteWriter.string (text "rollout-fabric/idempotency-key/v1") ++ ByteWriter.id rollout
    ++ ByteWriter.id generation ++ ByteWriter.id stage ++ ByteWriter.id target
    ++ ByteWriter.id action)

structure Attempt where
  id : AttemptId := .nil
  rollout : RolloutId := .nil
  generation : GenerationId := .nil
  stage : StageId := .nil
  cohort : CohortId := .nil
  target : TargetId := .nil
  action : ActionId := .nil
  epoch : UInt64 := 0
  attemptNumber : UInt32 := 1
  incarnation : IncarnationId := .nil
  actionDigest : Digest256 := default
  artifactDigest : Digest256 := default
  idempotencyKey : Digest256 := default
  createdAt : Timestamp := {}
  dispatchedAt : Timestamp := {}
  deadline : Timestamp := {}
  lastEvidenceAt : Timestamp := {}
  state : TargetState := .pending
  completed : Bool := false
  outcome : EvidenceOutcome := .inconclusive
  /-- Non-zero when a cancel was requested. -/
  cancelledEpoch : UInt64 := 0
  highestSequence : UInt64 := 0
  acceptedEvidence : UInt32 := 0
deriving DecidableEq, Inhabited

namespace Attempt

def fence (a : Attempt) : AttemptFence :=
  { rollout := a.rollout, generation := a.generation, stage := a.stage, attempt := a.id
    epoch := a.epoch, incarnation := a.incarnation }

def finished (a : Attempt) : Bool := a.state.isTerminal

/-- `value_of(attempt.cancelled_epoch) != 0`. -/
def wasCancelled (a : Attempt) : Bool := a.cancelledEpoch != 0

end Attempt

end RolloutFabric
