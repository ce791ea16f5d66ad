/-
Selectors and cohorts: the term that says which targets a stage changes, its validation and
encoding, and the membership it is materialised into.
-/
import RolloutFabric.Domain.Target

namespace RolloutFabric

inductive SelectorOp
  | all | byIds | byKind | bySite | byPod | byRack | byFailureDomain | byLabel | and | or | not
deriving DecidableEq, Repr, Inhabited

def SelectorOp.toText : SelectorOp → Bytes
  | .all => text "all" | .byIds => text "by_ids" | .byKind => text "by_kind"
  | .bySite => text "by_site" | .byPod => text "by_pod" | .byRack => text "by_rack"
  | .byFailureDomain => text "by_failure_domain" | .byLabel => text "by_label"
  | .and => text "and" | .or => text "or" | .not => text "not"

instance : ByteCoded SelectorOp where
  code
    | .all => 0 | .byIds => 1 | .byKind => 2 | .bySite => 3 | .byPod => 4 | .byRack => 5
    | .byFailureDomain => 6 | .byLabel => 7 | .and => 8 | .or => 9 | .not => 10
  ofCode?
    | 0 => some .all | 1 => some .byIds | 2 => some .byKind | 3 => some .bySite
    | 4 => some .byPod | 5 => some .byRack | 6 => some .byFailureDomain | 7 => some .byLabel
    | 8 => some .and | 9 => some .or | 10 => some .not | _ => none
  ofCode?_code a := by cases a <;> rfl

def kMaxSelectorDepth : Nat := 8

inductive SelectorTerm
  | mk (op : SelectorOp) (ids : List TargetId) (kinds : List TargetKind) (sites : List Bytes)
    (pods : List Bytes) (racks : List Bytes) (failureDomains : List FailureDomainId)
    (labelKey labelValue : Bytes) (labelValueIsSet : Bool) (children : List SelectorTerm)

instance : Inhabited SelectorTerm := ⟨.mk .all [] [] [] [] [] [] [] [] false []⟩

/-! ## Validation -/

/-- `require_empty_children`. -/
def requireNoChildren (op : SelectorOp) (children : List SelectorTerm) : Status :=
  if children.isEmpty then .success
  else makeStatus .invalidArgument
    (text "selector operator " ++ op.toText ++ text " does not take children")

mutual

/-- `validate_selector` from `depth`: the new value of the term budget, or the failure. -/
def validateSelector (limits : RuntimeLimits) (depth : Nat) (budget : UInt64) :
    SelectorTerm → Result UInt64
  | .mk op ids kinds sites pods racks failureDomains labelKey labelValue _ children => do
    if kMaxSelectorDepth < depth then
      throw (makeStatus .limitExceeded (text "selector nesting depth " ++ toStringNat depth
        ++ text " exceeds the maximum of " ++ toStringNat kMaxSelectorDepth))
    let terms := ids.length.toUInt64 + kinds.length.toUInt64 + sites.length.toUInt64
      + pods.length.toUInt64 + racks.length.toUInt64 + failureDomains.length.toUInt64
      + children.length.toUInt64 + 1
    match checkedAdd budget terms with
    | none => throw (makeStatus .limitExceeded (text "selector term count overflowed"))
    | some budget =>
      if limits.maxSelectorTerms.toUInt64 < budget then
        throw (makeStatus .limitExceeded (text "selector uses " ++ toStringNat budget.toNat
          ++ text " terms, above max_selector_terms"))
      match op with
      | .all => (requireNoChildren op children).toResult; pure budget
      | .byIds =>
        (refuseIf (ids.isEmpty || limits.maxTargetsPerCohort.toNat < ids.length)
          (text "by_ids requires between 1 and max_targets_per_cohort identifiers")).toResult
        (requireNoChildren op children).toResult; pure budget
      | .byKind =>
        (refuseIf kinds.isEmpty (text "by_kind requires at least one kind")).toResult
        (requireNoChildren op children).toResult; pure budget
      | .bySite =>
        (refuseIf sites.isEmpty (text "by_site requires at least one site")).toResult
        (requireNoChildren op children).toResult; pure budget
      | .byPod =>
        (refuseIf pods.isEmpty (text "by_pod requires at least one pod")).toResult
        (requireNoChildren op children).toResult; pure budget
      | .byRack =>
        (refuseIf racks.isEmpty (text "by_rack requires at least one rack")).toResult
        (requireNoChildren op children).toResult; pure budget
      | .byFailureDomain =>
        (refuseIf failureDomains.isEmpty
          (text "by_failure_domain requires at least one domain")).toResult
        (requireNoChildren op children).toResult; pure budget
      | .byLabel =>
        (refuseIf labelKey.isEmpty (text "by_label requires a label key")).toResult
        if limits.maxLabelKeyBytes.toNat < labelKey.length
            ∨ limits.maxLabelValueBytes.toNat < labelValue.length then
          throw (makeStatus .limitExceeded
            (text "by_label key or value exceeds the size bound"))
        (requireNoChildren op children).toResult; pure budget
      | .and | .or =>
        (refuseIf children.isEmpty (op.toText ++ text " requires at least one child")).toResult
        validateSelectors limits (depth + 1) budget children
      | .not =>
        (refuseIf (children.length ≠ 1) (text "not requires exactly one child")).toResult
        validateSelectors limits (depth + 1) budget children

/-- The loop over the children; the budget runs through it. -/
def validateSelectors (limits : RuntimeLimits) (depth : Nat) (budget : UInt64) :
    List SelectorTerm → Result UInt64
  | [] => pure budget
  | child :: rest => do
    let budget ← validateSelector limits depth budget child
    validateSelectors limits depth budget rest

end

def SelectorTerm.validate (term : SelectorTerm) (limits : RuntimeLimits) : Status :=
  match validateSelector limits 0 0 term with
  | .ok _ => .success
  | .error s => s

/-! ## Encoding -/

mutual

def SelectorTerm.encode : SelectorTerm → Bytes
  | .mk op ids kinds sites pods racks failureDomains labelKey labelValue labelValueIsSet
      children => [
    ByteWriter.u8 (ByteCoded.code op),
    ByteWriter.vector ByteWriter.id ids,
    ByteWriter.vector (fun kind => ByteWriter.u8 (ByteCoded.code kind)) kinds,
    ByteWriter.vector ByteWriter.string sites,
    ByteWriter.vector ByteWriter.string pods,
    ByteWriter.vector ByteWriter.string racks,
    ByteWriter.vector ByteWriter.id failureDomains,
    ByteWriter.string labelKey,
    ByteWriter.string labelValue,
    ByteWriter.boolean labelValueIsSet,
    ByteWriter.count children.length ++ encodeSelectors children].flatten

def encodeSelectors : List SelectorTerm → Bytes
  | [] => []
  | child :: rest => child.encode ++ encodeSelectors rest

end

def SelectorTerm.selectorDigest (term : SelectorTerm) : Digest256 :=
  sha256 (ByteWriter.string (text "rollout-fabric/selector/v1") ++ term.encode)

/-- `decode_selector` with `room` levels of nesting left. -/
def decodeSelector (limits : RuntimeLimits) : Nat → Decoder SelectorTerm
  | 0 => ByteReader.fail
      (makeStatus .limitExceeded (text "selector nesting exceeds the maximum depth"))
  | room + 1 => do
    let op ← dcEnum (dcU8 (text "selector.op")) fun value => makeStatus .corrupt
      (text "unknown selector operator " ++ toStringNat value.toNat)
    let ids ← dcVector (text "selector.ids") limits.maxTargetsPerCohort.toNat
      (fun _ => makeStatus .limitExceeded (text "selector id list exceeds max_targets_per_cohort"))
      (dcId .target (text "selector.ids[]"))
    let kinds ← dcVector (text "selector.kinds") 16
      (fun _ => makeStatus .limitExceeded (text "selector kind list is too long"))
      (dcEnum (dcU8 (text "selector.kinds[]")) fun _ =>
        makeStatus .corrupt (text "unknown target kind in selector"))
    let sites ← dcStringVector (text "selector.sites") limits.maxSelectorTerms.toNat
      limits.maxLabelValueBytes.toNat
    let pods ← dcStringVector (text "selector.pods") limits.maxSelectorTerms.toNat
      limits.maxLabelValueBytes.toNat
    let racks ← dcStringVector (text "selector.racks") limits.maxSelectorTerms.toNat
      limits.maxLabelValueBytes.toNat
    let failureDomains ← dcIdVector .failureDomain (text "selector.failure_domains")
      limits.maxSelectorTerms.toNat
    let labelKey ← dcString (text "selector.label_key") limits.maxLabelKeyBytes.toNat
    let labelValue ← dcString (text "selector.label_value") limits.maxLabelValueBytes.toNat
    let labelValueIsSet ← dcBool (text "selector.label_value_is_set")
    let children ← dcVector (text "selector.children") limits.maxSelectorTerms.toNat
      (fun _ => makeStatus .limitExceeded
        (text "selector child count exceeds max_selector_terms"))
      (decodeSelector limits room)
    pure (.mk op ids kinds sites pods racks failureDomains labelKey labelValue labelValueIsSet
      children)

def decodeSelectorTerm (limits : RuntimeLimits) : Decoder SelectorTerm := do
  let term ← decodeSelector limits (kMaxSelectorDepth + 1)
  ByteReader.check (term.validate limits)
  pure term

/-! ## Matching -/

mutual

def selectorMatches (target : TargetDescriptor) : SelectorTerm → Bool
  | .mk op ids kinds sites pods racks failureDomains labelKey labelValue labelValueIsSet
      children =>
    match op with
    | .all => true
    | .byIds => ids.contains target.id
    | .byKind => kinds.contains target.kind
    | .bySite => sites.contains target.placement.site
    | .byPod => pods.contains target.placement.pod
    | .byRack => racks.contains target.placement.rack
    | .byFailureDomain => failureDomains.contains target.placement.failureDomain
    | .byLabel => match target.labelValue labelKey with
      | none => false
      | some value => !labelValueIsSet || value == labelValue
    | .and => matchesAll target children
    | .or => matchesAny target children
    | .not => matchesNot target children

def matchesAll (target : TargetDescriptor) : List SelectorTerm → Bool
  | [] => true
  | child :: rest => selectorMatches target child && matchesAll target rest

def matchesAny (target : TargetDescriptor) : List SelectorTerm → Bool
  | [] => false
  | child :: rest => selectorMatches target child || matchesAny target rest

/-- `kNot` looks at the first child only. -/
def matchesNot (target : TargetDescriptor) : List SelectorTerm → Bool
  | [] => false
  | child :: _ => !selectorMatches target child

end

/-! ## Cohorts -/

structure CohortMembership where
  id : CohortId := .nil
  stage : StageId := .nil
  generation : GenerationId := .nil
  selector : SelectorTerm := default
  selectorDigest : Digest256 := default
  /-- Sorted by identifier, unique. -/
  members : List TargetId := []
  membershipDigest : Digest256 := default
  inventoryDigest : Digest256 := default
  inventoryEpoch : UInt64 := 0
  frozenAt : Timestamp := {}
  frozen : Bool := false
deriving Inhabited

def computeMembershipDigest (selector : SelectorTerm) (members : List TargetId)
    (inventoryDigest : Digest256) : Digest256 :=
  sha256 (ByteWriter.string (text "rollout-fabric/cohort-membership/v1") ++ inventoryDigest.data
    ++ selector.selectorDigest.data ++ ByteWriter.vector ByteWriter.id members)

structure CohortMaterialization where
  membership : CohortMembership := {}
  truncated : List TargetId := []
deriving Inhabited

def materializeCohort (selector : SelectorTerm) (inventory : TargetInventory) (stage : StageId)
    (generation : GenerationId) (limits : RuntimeLimits) (now : Timestamp) :
    Result CohortMaterialization := do
  (selector.validate limits).toResult
  let matched := ((inventory.targets.filter fun d => selectorMatches d selector).map
    TargetDescriptor.id).insertionSort (· ≤ ·)
  let bound := limits.maxTargetsPerCohort.toNat
  let members := matched.take bound
  let inventoryDigest := inventory.inventoryDigest
  pure {
    truncated := matched.drop bound
    membership := {
      stage, generation, selector, members, inventoryDigest
      selectorDigest := selector.selectorDigest
      inventoryEpoch := inventory.epoch
      frozenAt := now
      membershipDigest := computeMembershipDigest selector members inventoryDigest } }

end RolloutFabric
