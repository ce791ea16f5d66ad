/-
The loader of inventory documents: the targets are read one by one, their labels brought into
canonical order, and added to an inventory under identifiers that are derived from their names.
-/
import RolloutFabric.Domain.Inventory
import RolloutFabric.Document.Plan

namespace RolloutFabric

def kInventoryKind : Bytes := text "rollout_fabric.inventory"

/-! ## Targets -/

/-- The loop over the members of the label object. -/
def readLabels (path : Bytes) : List (Bytes × JsonValue) → Result (List Label)
  | [] => .ok []
  | (key, member) :: rest => do
    let value ← member.requireString (joinPath path key)
    let labels ← readLabels path rest
    return ⟨key, value⟩ :: labels

/-- `std::sort` by key; the reader refuses a key that stands twice. -/
def sortLabels (labels : List Label) : List Label :=
  labels.insertionSort fun a b => bytesLess b.key a.key = false

/-- The labels of a target, sorted by key. -/
def parseLabels (limits : RuntimeLimits) (value : JsonValue) (path : Bytes) :
    Result (List Label) := do
  let object ← value.requireObject path
  (checkCount object.members.length limits.maxLabelsPerTarget.toNat path (text "labels")).toResult
  let labels ← readLabels path object.members
  return sortLabels labels

def readFailureDomain (object : JsonValue) (path : Bytes) : Result FailureDomainId := do
  let domain ← readRequiredString object (text "failure_domain") path
  if domain.isEmpty then
    throw (makeStatus .invalidArgument (joinPath path (text "failure_domain")
      ++ text " must name the failure domain this target belongs to"))
  return deriveFailureDomainId domain

def parseTarget (limits : RuntimeLimits) (value : JsonValue) (path : Bytes) :
    Result TargetDescriptor := do
  let object ← value.requireObject path
  let name ← readName limits object (text "name") path
  let kind ← readRequiredEnum object (text "kind") path (text "a target kind") parseTargetKind
  let site ← readOptionalString object (text "site") path []
  let pod ← readOptionalString object (text "pod") path []
  let rack ← readOptionalString object (text "rack") path []
  let failureDomain ← readFailureDomain object path
  let labels ← readOptional (parseLabels limits) object (text "labels") path []
  return { id := deriveTargetId name, name, kind, labels
           placement := { site, pod, rack, failureDomain } }

/-! ## Inventories -/

/-- The loop over the targets: the inventory so far and `seen_names`, every name with the position
it was declared at. -/
def loadTargets (limits : RuntimeLimits) (inventory : TargetInventory) (seen : List (Bytes × Nat)) :
    Nat → List JsonValue → Result TargetInventory
  | _, [] => .ok inventory
  | index, item :: rest => do
    let path := indexPath (text "targets") index
    let descriptor ← parseTarget limits item path
    match seen.find? fun entry => entry.1 == descriptor.name with
    | some existing => throw (makeStatus .invalidArgument (joinPath path (text "name")
        ++ text ": duplicate target name " ++ jsonQuoted descriptor.name
        ++ text ", already declared at targets[" ++ toStringNat existing.2 ++ text "]"))
    | none =>
      let inventory ← inventory.add descriptor limits
      loadTargets limits inventory (seen ++ [(descriptor.name, index)]) (index + 1) rest

def inventoryFromJson (value : JsonValue) (limits : RuntimeLimits) : Result TargetInventory := do
  let document ← value.requireObject []
  requireDocumentKind document kInventoryKind
  requireSchemaVersion document
  let targets ← readRequired (fun value path => value.requireArray path) document (text "targets") []
  (checkCount targets.length limits.maxTotalTargets.toNat (text "targets")
    (text "targets")).toResult
  loadTargets limits {} [] 0 targets

def parseInventory (t : Bytes) (limits : RuntimeLimits) : Result TargetInventory := do
  let document ← parseJson t limits
  inventoryFromJson document limits

end RolloutFabric
