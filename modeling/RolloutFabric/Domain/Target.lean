/-
Targets and the inventory: where a target lives, its labels, and the collection of
descriptors the cohorts are materialised from.
-/
import RolloutFabric.Domain.Lifecycle
import RolloutFabric.Domain.Limits
import RolloutFabric.Domain.Policy

namespace RolloutFabric

inductive TargetKind
  | switch | device | rack | pod | site | failureDomain
deriving DecidableEq, Repr, Inhabited

instance : ByteCoded TargetKind where
  code | .switch => 0 | .device => 1 | .rack => 2 | .pod => 3 | .site => 4 | .failureDomain => 5
  ofCode?
    | 0 => some .switch | 1 => some .device | 2 => some .rack | 3 => some .pod | 4 => some .site
    | 5 => some .failureDomain | _ => none
  ofCode?_code a := by cases a <;> rfl

structure Label where
  key : Bytes
  value : Bytes
deriving DecidableEq, Inhabited

structure Placement where
  site : Bytes := []
  pod : Bytes := []
  rack : Bytes := []
  failureDomain : FailureDomainId := .nil
deriving DecidableEq, Inhabited

structure TargetDescriptor where
  id : TargetId := .nil
  name : Bytes := []
  kind : TargetKind := .device
  placement : Placement := {}
  labels : List Label := []
deriving DecidableEq, Inhabited

/-- `std::string` comparison: byte by byte, a proper prefix first. -/
def bytesLess : Bytes → Bytes → Bool
  | _, [] => false
  | [], _ :: _ => true
  | a :: as, b :: bs => if a = b then bytesLess as bs else decide (a < b)

/-- Labels are compared by key, then by value. -/
def Label.less (a b : Label) : Bool :=
  if a.key = b.key then bytesLess a.value b.value else bytesLess a.key b.key

def validateText (t : Bytes) (maxBytes : Nat) (field : Bytes) : Status :=
  if maxBytes < t.length then
    makeStatus .limitExceeded (field ++ text " is " ++ toStringNat t.length
      ++ text " bytes, above the maximum of " ++ toStringNat maxBytes)
  else if !isValidUtf8 t then
    makeStatus .invalidArgument (field ++ text " is not valid UTF-8")
  else .success

namespace TargetDescriptor

/-- `std::lower_bound` over the labels by key, then the equality test. -/
def labelValue (d : TargetDescriptor) (key : Bytes) : Option Bytes :=
  match d.labels.dropWhile (fun label => bytesLess label.key key) with
  | label :: _ => if label.key = key then some label.value else none
  | [] => none

def encode (d : TargetDescriptor) : Bytes := [
  ByteWriter.id d.id, ByteWriter.string d.name, ByteWriter.u8 (ByteCoded.code d.kind),
  ByteWriter.string d.placement.site, ByteWriter.string d.placement.pod,
  ByteWriter.string d.placement.rack, ByteWriter.id d.placement.failureDomain,
  ByteWriter.vector (fun label => ByteWriter.string label.key ++ ByteWriter.string label.value)
    d.labels].flatten

/-- The digest covers the canonical encoding under its own tag. -/
def descriptorDigest (d : TargetDescriptor) : Digest256 :=
  sha256 (ByteWriter.string (text "rollout-fabric/target-descriptor/v1") ++ d.encode)

/-- The label checks at `index`, with the previous label when there is one. -/
def validateLabel (limits : RuntimeLimits) (previous : Option Label) (label : Label) : Status :=
  firstFailure [
    validateText label.key limits.maxLabelKeyBytes.toNat (text "label key"),
    validateText label.value limits.maxLabelValueBytes.toNat (text "label value"),
    refuseIf label.key.isEmpty (text "label key must not be empty"),
    refuseIf (match previous with
        | none => false
        | some p => !p.less label)
      (text "labels must be sorted by key with at most one entry per key; '" ++ label.key
        ++ text "' breaks that invariant")]

def validateLabels (limits : RuntimeLimits) : Option Label → List Label → Status
  | _, [] => .success
  | previous, label :: rest =>
    let s := validateLabel limits previous label
    if s.isOk then validateLabels limits (some label) rest else s

def validate (d : TargetDescriptor) (limits : RuntimeLimits) : Status := firstFailure [
  refuseIf d.id.isNil (text "target identifier is nil"),
  validateText d.name limits.maxNameBytes.toNat (text "target name"),
  refuseIf d.name.isEmpty (text "target name must not be empty"),
  validateText d.placement.site limits.maxLabelValueBytes.toNat (text "placement.site"),
  validateText d.placement.pod limits.maxLabelValueBytes.toNat (text "placement.pod"),
  validateText d.placement.rack limits.maxLabelValueBytes.toNat (text "placement.rack"),
  refuseIf d.placement.failureDomain.isNil
    (text "placement.failure_domain must name a domain; an unnamed failure domain would make correlated-change accounting meaningless"),
  (if limits.maxLabelsPerTarget.toNat < d.labels.length then
    makeStatus .limitExceeded (text "target declares " ++ toStringNat d.labels.length
      ++ text " labels, above max_labels_per_target")
  else .success),
  validateLabels limits none d.labels]

end TargetDescriptor

def decodeLabel (limits : RuntimeLimits) : Decoder Label := do
  let key ← dcString (text "label.key") limits.maxLabelKeyBytes.toNat
  let value ← dcString (text "label.value") limits.maxLabelValueBytes.toNat
  pure { key, value }

def decodeTargetDescriptor (limits : RuntimeLimits) : Decoder TargetDescriptor := do
  let id ← dcId .target (text "target.id")
  let name ← dcString (text "target.name") limits.maxNameBytes.toNat
  let kind ← dcEnum (dcU8 (text "target.kind")) fun value => makeStatus .corrupt
    (text "unknown target kind " ++ toStringNat value.toNat)
  let site ← dcString (text "target.placement.site") limits.maxLabelValueBytes.toNat
  let pod ← dcString (text "target.placement.pod") limits.maxLabelValueBytes.toNat
  let rack ← dcString (text "target.placement.rack") limits.maxLabelValueBytes.toNat
  let failureDomain ← dcId .failureDomain (text "target.placement.failure_domain")
  let labels ← dcVector (text "target.labels") limits.maxLabelsPerTarget.toNat
    (fun _ => makeStatus .limitExceeded (text "target label count exceeds max_labels_per_target"))
    (decodeLabel limits)
  let value : TargetDescriptor :=
    { id, name, kind, labels, placement := { site, pod, rack, failureDomain } }
  ByteReader.check (value.validate limits)
  pure value

/-! ## Inventory -/

theorem ascending_nil :
    (([] : List TargetDescriptor).map TargetDescriptor.id).Pairwise (· < ·) := List.Pairwise.nil

/-- The inventory; an unsorted one, or one with two targets of one identifier, cannot be built. -/
structure TargetInventory where
  /-- `targets_`: sorted by identifier. -/
  targets : List TargetDescriptor := []
  epoch : UInt64 := 0
  sorted : (targets.map TargetDescriptor.id).Pairwise (· < ·) := by exact ascending_nil

instance : Inhabited TargetInventory := ⟨{}⟩

namespace TargetInventory

/-- `std::lower_bound` by identifier: the entries before it, and those from it on. -/
def before (targets : List TargetDescriptor) (id : TargetId) : List TargetDescriptor :=
  targets.takeWhile fun entry => entry.id < id

def lowerBound (targets : List TargetDescriptor) (id : TargetId) : List TargetDescriptor :=
  targets.dropWhile fun entry => entry.id < id

theorem before_append_lowerBound (targets : List TargetDescriptor) (id : TargetId) :
    before targets id ++ lowerBound targets id = targets := List.takeWhile_append_dropWhile

theorem id_lt_of_mem_before {targets : List TargetDescriptor} {id : TargetId}
    {entry : TargetDescriptor} (h : entry ∈ before targets id) : entry.id < id := by
  simpa using List.mem_takeWhile_imp h

/-- Inserting at the lower bound keeps the order when the identifier is new. -/
theorem sorted_insert {targets : List TargetDescriptor} {d : TargetDescriptor}
    (hsorted : (targets.map TargetDescriptor.id).Pairwise (· < ·))
    (hnew : ∀ entry ∈ (lowerBound targets d.id).head?, entry.id ≠ d.id) :
    ((before targets d.id ++ d :: lowerBound targets d.id).map TargetDescriptor.id).Pairwise
      (· < ·) := by
  rw [← before_append_lowerBound targets d.id, List.map_append, List.pairwise_append] at hsorted
  obtain ⟨hbefore, hafter, hcross⟩ := hsorted
  have hgt : ∀ id ∈ (lowerBound targets d.id).map TargetDescriptor.id, d.id < id := by
    cases hlower : lowerBound targets d.id with
    | nil => simp
    | cons entry rest =>
      have hnot : ¬ entry.id < d.id := by
        have hhead := List.head?_dropWhile_not (fun e : TargetDescriptor => decide (e.id < d.id))
          targets
        rw [show targets.dropWhile _ = entry :: rest from hlower] at hhead
        simpa using hhead
      have hne : entry.id ≠ d.id := hnew entry (by simp [hlower])
      have hfirst : d.id < entry.id := lt_of_le_of_ne (not_lt.1 hnot) (Ne.symm hne)
      rw [hlower] at hafter
      intro id hid
      rcases List.mem_cons.1 hid with rfl | hrest
      · exact hfirst
      · exact hfirst.trans ((List.pairwise_cons.1 hafter).1 id hrest)
  rw [List.map_append, List.map_cons, List.pairwise_append]
  refine ⟨hbefore, List.pairwise_cons.2 ⟨hgt, hafter⟩, ?_⟩
  intro a ha b hb
  obtain ⟨entry, hentry, rfl⟩ := List.mem_map.1 ha
  rcases List.mem_cons.1 hb with rfl | hb
  · exact id_lt_of_mem_before hentry
  · exact hcross _ ha b hb

def add (self : TargetInventory) (descriptor : TargetDescriptor) (limits : RuntimeLimits) :
    Result TargetInventory :=
  let s := descriptor.validate limits
  if !s.isOk then .error s
  else if hnew : ∀ entry ∈ (lowerBound self.targets descriptor.id).head?,
      entry.id ≠ descriptor.id then
    if limits.maxTotalTargets.toNat ≤ self.targets.length then
      .error (makeStatus .limitExceeded (text "inventory holds "
        ++ toStringNat self.targets.length ++ text " targets, at max_total_targets"))
    else .ok {
      targets := before self.targets descriptor.id
        ++ descriptor :: lowerBound self.targets descriptor.id
      epoch := self.epoch + 1
      sorted := sorted_insert self.sorted hnew }
  else .error (makeStatus .alreadyExists
    (text "target " ++ descriptor.id.toHex ++ text " is already registered"))

theorem sorted_remove {targets : List TargetDescriptor} (id : TargetId)
    (hsorted : (targets.map TargetDescriptor.id).Pairwise (· < ·)) :
    ((before targets id ++ (lowerBound targets id).tail).map TargetDescriptor.id).Pairwise
      (· < ·) := by
  refine hsorted.sublist (List.Sublist.map _ ?_)
  conv_rhs => rw [← before_append_lowerBound targets id]
  exact (List.Sublist.refl _).append (List.tail_sublist _)

def remove (self : TargetInventory) (id : TargetId) : Result TargetInventory :=
  if (lowerBound self.targets id).head?.any fun entry => entry.id == id then
    .ok {
      targets := before self.targets id ++ (lowerBound self.targets id).tail
      epoch := self.epoch + 1
      sorted := sorted_remove id self.sorted }
  else .error (makeStatus .notFound (text "target " ++ id.toHex ++ text " is not registered"))

/-- The hash index holds the position of every target by identifier. -/
def find (self : TargetInventory) (id : TargetId) : Option TargetDescriptor :=
  self.targets.find? fun entry => entry.id == id

def inventoryDigest (self : TargetInventory) : Digest256 :=
  sha256 (ByteWriter.string (text "rollout-fabric/inventory/v1")
    ++ ByteWriter.vector (fun d => d.descriptorDigest.data) self.targets)

end TargetInventory

end RolloutFabric
