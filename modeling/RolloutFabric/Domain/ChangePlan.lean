/-
The whole plan: validation computes the deterministic execution order, the digest pins what
the order executes, and the codec stores both.
-/
import RolloutFabric.Domain.Plan

namespace RolloutFabric

structure ChangePlan where
  id : PlanId := .nil
  sourceDigest : Digest256 := default
  changeId : Bytes := []
  approvedBy : Bytes := []
  approvedAt : Timestamp := {}
  summary : Bytes := []
  stages : List StageSpec := []
  /-- Canonical execution order, produced by `validate`. -/
  order : List StageId := []
deriving Inhabited

namespace ChangePlan

def findStage (p : ChangePlan) (id : StageId) : Option StageSpec :=
  p.stages.find? fun stage => stage.id == id

/-! ## Execution order -/

/-- The first pair of stages with one identifier. -/
def firstDuplicate : List StageId → Option StageId
  | [] => none
  | id :: rest => if rest.contains id then some id else firstDuplicate rest

/-- The position of the stage with this identifier; the number of stages when there is none. -/
def position (ids : List StageId) (id : StageId) : Nat := ids.idxOf id

/-- The check of one predecessor entry of the stage at `index`. -/
def checkPredecessor (ids : List StageId) (stage : StageSpec) (predecessor : StageId) : Status :=
  if predecessor = stage.id then
    makeStatus .invalidArgument
      (text "stage '" ++ stage.name ++ text "' lists itself as a predecessor")
  else if position ids predecessor = ids.length then
    makeStatus .notFound (text "stage '" ++ stage.name ++ text "' names an unknown predecessor "
      ++ predecessor.toHex)
  else .success

/-- `successors[found]`: one entry for every time a stage names the stage at `found`. -/
def successors (stages : List StageSpec) (found : Nat) : List Nat :=
  let ids := stages.map StageSpec.id
  (stages.zipIdx.map fun (stage, index) =>
    (stage.predecessors.filter fun p => position ids p = found).map fun _ => index).flatten

/-- Lowest ordinal first, ties broken by identifier. -/
def orderLess (stages : List StageSpec) (lhs rhs : Nat) : Bool :=
  let l := stages.getD lhs default
  let r := stages.getD rhs default
  if l.ordinal ≠ r.ordinal then decide (l.ordinal < r.ordinal) else decide (l.id < r.id)

def sortReady (stages : List StageSpec) (ready : List Nat) : List Nat :=
  ready.insertionSort fun a b => orderLess stages a b = true

/-- The loop over the successors of the stage just emitted. -/
def release : List Nat → List Nat → List Nat → List Nat × List Nat
  | [], indegree, ready => (indegree, ready)
  | s :: rest, indegree, ready =>
    let indegree := indegree.modify s (· - 1)
    release rest indegree (if indegree.getD s 0 = 0 then ready ++ [s] else ready)

/-- The worklist loop; every iteration emits one stage, so the number of stages is enough fuel. -/
def emitOrder (stages : List StageSpec) : Nat → List Nat → List Nat → List StageId
  | 0, _, _ => []
  | _, _, [] => []
  | fuel + 1, indegree, current :: ready =>
    let (indegree, ready) := release (successors stages current) indegree ready
    (stages.getD current default).id :: emitOrder stages fuel indegree (sortReady stages ready)

def computeOrder (stages : List StageSpec) : List StageId :=
  let indegree := stages.map fun stage => stage.predecessors.length
  let ready := (List.range stages.length).filter fun index => indegree.getD index 0 = 0
  emitOrder stages stages.length indegree (sortReady stages ready)

/-- `ChangePlan::validate`: the plan with its order, or the first failure. -/
def validate (p : ChangePlan) (limits : RuntimeLimits) : Result ChangePlan := do
  let ids := p.stages.map StageSpec.id
  (firstFailure [
    refuseIf p.id.isNil (text "plan identifier is nil"),
    refuseIf p.stages.isEmpty (text "a plan must declare at least one stage"),
    (if limits.maxStagesPerPlan.toNat < p.stages.length then
      makeStatus .limitExceeded (text "plan declares " ++ toStringNat p.stages.length
        ++ text " stages, above max_stages_per_plan")
    else .success),
    refuseIf p.changeId.isEmpty (text "plan must name the upstream change identifier"),
    refuseIf (p.sourceDigest == default)
      (text "plan must carry the digest of the approved upstream document"),
    firstFailure (p.stages.map fun stage => stage.validate limits),
    (match firstDuplicate ids with
      | some id => makeStatus .alreadyExists (text "two stages share the identifier " ++ id.toHex
          ++ text "; stage identities must be distinct")
      | none => .success),
    firstFailure (p.stages.map fun stage =>
      firstFailure (stage.predecessors.map (checkPredecessor ids stage)))]).toResult
  let order := computeOrder p.stages
  (refuseIf (order.length ≠ p.stages.length)
    (text "the stage dependency graph contains a cycle; no stage ordering exists that satisfies the declared predecessors")).toResult
  pure { p with order }

/-! ## Digest and codec -/

def planDigest (p : ChangePlan) : Digest256 := sha256 [
  ByteWriter.string (text "rollout-fabric/change-plan/v1"), ByteWriter.id p.id,
  ByteWriter.digest p.sourceDigest, ByteWriter.string p.changeId,
  ByteWriter.string p.approvedBy, ByteWriter.timestamp p.approvedAt,
  ByteWriter.vector (fun id => match p.findStage id with
    | none => ByteWriter.id id
    | some spec => spec.stageDigest.data) p.order].flatten

def encode (p : ChangePlan) : Bytes := [
  ByteWriter.id p.id, ByteWriter.digest p.sourceDigest, ByteWriter.string p.changeId,
  ByteWriter.string p.approvedBy, ByteWriter.timestamp p.approvedAt,
  ByteWriter.string p.summary, ByteWriter.vector StageSpec.encode p.stages,
  ByteWriter.vector ByteWriter.id p.order].flatten

end ChangePlan

def decodePlan (limits : RuntimeLimits) : Decoder ChangePlan := do
  let id ← dcId .plan (text "plan.id")
  let sourceDigest ← dcDigest (text "plan.source_digest")
  let changeId ← dcString (text "plan.change_id") limits.maxNameBytes.toNat
  let approvedBy ← dcString (text "plan.approved_by") limits.maxNameBytes.toNat
  let approvedAt ← dcTimestamp (text "plan.approved_at")
  let summary ← dcString (text "plan.summary") limits.maxDescriptionBytes.toNat
  let stages ← dcVector (text "plan.stages") limits.maxStagesPerPlan.toNat
    (fun _ => makeStatus .limitExceeded (text "plan stage count exceeds max_stages_per_plan"))
    (decodeStage limits)
  let storedOrder ← dcIdVector .stage (text "plan.order") limits.maxStagesPerPlan.toNat
  match ChangePlan.validate { id, sourceDigest, changeId, approvedBy, approvedAt, summary, stages }
      limits with
  | .error s => ByteReader.fail s
  | .ok value =>
    ByteReader.require (storedOrder.length == value.order.length)
      (makeStatus .corrupt (text "stored execution order does not match the plan"))
    ByteReader.require (storedOrder == value.order)
      (makeStatus .corrupt
        (text "stored execution order is not the deterministic order this plan requires"))
    pure value

end RolloutFabric
