/-
What an inventory document says: the loader accepts exactly the documents whose targets can all be
registered, and the inventory holds exactly the targets that the document describes.
-/
import RolloutFabric.Document.Accepts
import RolloutFabric.Document.MemberOrder
import RolloutFabric.Domain.InventoryContent

namespace RolloutFabric

open Decoding

variable {limits : RuntimeLimits} {v w : JsonValue}

/-! ## Labels -/

/-- The members of a label object. -/
def labelMembers (labels : List Label) : List (Bytes × JsonValue) :=
  labels.map fun label => (label.key, .string label.value)

theorem readLabels_ok {path : Bytes} {members : List (Bytes × JsonValue)} {labels : List Label} :
    readLabels path members = .ok labels ↔ members = labelMembers labels := by
  induction members generalizing labels with
  | nil =>
    constructor
    · intro h
      cases h
      rfl
    · intro h
      rw [List.map_eq_nil_iff.1 h.symm]
      rfl
  | cons member rest ih =>
    obtain ⟨key, value⟩ := member
    unfold readLabels
    rw [except_bind_eq_ok]
    constructor
    · rintro ⟨s, hs, h⟩
      obtain ⟨labels, hlabels, h⟩ := except_bind_eq_ok.1 h
      cases h
      rw [JsonValue.requireString_ok] at hs
      rw [hs, ih.1 hlabels]
      rfl
    · intro h
      cases labels with
      | nil => cases h
      | cons label labels =>
        obtain ⟨hmember, hrest⟩ := List.cons.inj h
        obtain ⟨rfl, rfl⟩ := Prod.mk.inj hmember
        refine ⟨label.value, rfl, except_bind_eq_ok.2 ⟨labels, ih.2 hrest, rfl⟩⟩

/-- The labels an object of strings describes, in canonical order. -/
def JsonValue.Labels (limits : RuntimeLimits) (v : JsonValue) (labels : List Label) : Prop :=
  ∃ listed, v = .object (labelMembers listed) ∧ listed.length ≤ limits.maxLabelsPerTarget.toNat
    ∧ labels = sortLabels listed

theorem parseLabels_ok {path : Bytes} {labels : List Label} :
    parseLabels limits v path = .ok labels ↔ v.Labels limits labels := by
  unfold parseLabels
  rw [except_bind_eq_ok]
  constructor
  · rintro ⟨object, hobject, h⟩
    obtain ⟨rfl, members, rfl⟩ := JsonValue.requireObject_ok.1 hobject
    obtain ⟨_, hcount, h⟩ := except_bind_eq_ok.1 h
    obtain ⟨listed, hlisted, h⟩ := except_bind_eq_ok.1 h
    cases h
    have hmembers : members = labelMembers listed := readLabels_ok.1 hlisted
    have hlength := checkCount_isOk.1 (toResult_eq_ok.1 hcount)
    refine ⟨listed, by rw [hmembers], ?_, rfl⟩
    simpa [JsonValue.members, hmembers, labelMembers] using hlength
  · rintro ⟨listed, rfl, hlength, rfl⟩
    refine ⟨_, rfl, except_bind_eq_ok.2 ⟨(), ?_, except_bind_eq_ok.2 ⟨listed, ?_, rfl⟩⟩⟩
    · refine toResult_eq_ok.2 (checkCount_isOk.2 ?_)
      simpa [JsonValue.members, labelMembers] using hlength
    · exact readLabels_ok.2 rfl

/-! ## Targets -/

/-- The descriptor of a target as the document describes it. -/
structure JsonValue.Describes (limits : RuntimeLimits) (v : JsonValue) (d : TargetDescriptor) :
    Prop where
  name : v.find (text "name") = some (.string d.name)
  named : d.name ≠ [] ∧ d.name.length ≤ limits.maxNameBytes.toNat
  id : d.id = deriveTargetId d.name
  kind : ∃ t, v.find (text "kind") = some (.string t) ∧ parseTargetKind t = some d.kind
  site : v.Says (text "site") d.placement.site
  pod : v.Says (text "pod") d.placement.pod
  rack : v.Says (text "rack") d.placement.rack
  failureDomain : ∃ t, v.find (text "failure_domain") = some (.string t) ∧ t ≠ []
    ∧ d.placement.failureDomain = deriveFailureDomainId t
  labels : v.find (text "labels") = none ∧ d.labels = []
    ∨ ∃ member, v.find (text "labels") = some member ∧ member.Labels limits d.labels

theorem readFailureDomain_ok {path : Bytes} {id : FailureDomainId} :
    readFailureDomain v path = .ok id ↔ ∃ t, v.find (text "failure_domain") = some (.string t)
      ∧ t ≠ [] ∧ id = deriveFailureDomainId t := by
  unfold readFailureDomain
  rw [except_bind_eq_ok]
  refine exists_congr fun t => ?_
  rw [readRequiredString_ok]
  refine and_congr_right fun _ => ?_
  by_cases hempty : t.isEmpty = true
  · rw [if_pos hempty]
    refine ⟨fun h => (by cases h), fun h => absurd (by simpa using hempty) h.1⟩
  · rw [if_neg hempty]
    constructor
    · intro h
      cases h
      exact ⟨by simpa using hempty, rfl⟩
    · rintro ⟨-, rfl⟩
      rfl

theorem parseTarget_ok {path : Bytes} {d : TargetDescriptor} :
    parseTarget limits v path = .ok d ↔ v.Describes limits d := by
  unfold parseTarget
  simp only [except_bind_eq_ok, JsonValue.requireObject_ok, readName_ok, readRequiredEnum_ok,
    readOptionalString_ok, readFailureDomain_ok, readOptional_ok, parseLabels_ok, except_pure_eq_ok]
  constructor
  · rintro ⟨_, ⟨rfl, -⟩, name, ⟨hname, hnamed⟩, kind, hkind, site, hsite, pod, hpod, rack, hrack,
      domain, hdomain, labels, hlabels, rfl⟩
    exact ⟨hname, hnamed, rfl, hkind, hsite, hpod, hrack, hdomain, hlabels⟩
  · rintro ⟨hname, hnamed, hid, hkind, hsite, hpod, hrack, hdomain, hlabels⟩
    refine ⟨v, ⟨rfl, JsonValue.object_of_find hname⟩, d.name, ⟨hname, hnamed⟩, d.kind, hkind, _, hsite,
      _, hpod, _, hrack, _, hdomain, _, hlabels, ?_⟩
    rw [← hid]

/-! ## Registering many targets -/

namespace TargetInventory

variable {inventory inventory' : TargetInventory} {d : TargetDescriptor}

theorem eq_of_mem_iff (hmem : ∀ x, x ∈ inventory.targets ↔ x ∈ inventory'.targets)
    (hepoch : inventory.epoch = inventory'.epoch) : inventory = inventory' := by
  have htargets := targets_eq_of_mem_iff hmem
  cases inventory
  cases inventory'
  cases htargets
  cases hepoch
  rfl

/-- A valid target of a new identifier is registered while there is room. -/
theorem add_eq {d : TargetDescriptor} (hvalid : (d.validate limits).isOk = true)
    (hnew : d.id ∉ inventory.targets.map TargetDescriptor.id)
    (hroom : inventory.targets.length < limits.maxTotalTargets.toNat) :
    ∃ inventory', inventory.add d limits = .ok inventory'
      ∧ inventory'.targets = before inventory.targets d.id ++ d :: lowerBound inventory.targets d.id
      ∧ inventory'.epoch = inventory.epoch + 1 := by
  have hhead : ∀ entry ∈ (lowerBound inventory.targets d.id).head?, entry.id ≠ d.id := by
    intro entry hentry heq
    refine hnew (heq ▸ List.mem_map_of_mem ?_)
    rw [← before_append_lowerBound inventory.targets d.id]
    exact List.mem_append_right _ (List.mem_of_mem_head? hentry)
  unfold add
  dsimp only
  rw [if_neg (by simp [hvalid]), dif_pos hhead, if_neg (Nat.not_le.2 hroom)]
  exact ⟨_, rfl, rfl, rfl⟩

theorem perm_added (targets : List TargetDescriptor) (d : TargetDescriptor) :
    (before targets d.id ++ d :: lowerBound targets d.id).Perm (d :: targets) := by
  conv_rhs => rw [← before_append_lowerBound targets d.id]
  exact List.perm_middle

/-- When a target is registered, and what the inventory is then. -/
theorem add_ok_iff : inventory.add d limits = .ok inventory'
    ↔ (d.validate limits).isOk = true ∧ d.id ∉ inventory.targets.map TargetDescriptor.id
      ∧ inventory.targets.length < limits.maxTotalTargets.toNat
      ∧ inventory'.targets.Perm (d :: inventory.targets) ∧ inventory'.epoch = inventory.epoch + 1 := by
  have hperm := perm_added inventory.targets d
  constructor
  · intro h
    obtain ⟨hvalid, hroom, htargets⟩ := add_eq_ok h
    rw [← htargets] at hperm
    have hnodup : ((d :: inventory.targets).map TargetDescriptor.id).Nodup :=
      (hperm.map _).nodup_iff.1 (inventory'.sorted.imp fun h => h.ne)
    have hnew := (List.nodup_cons.1 hnodup).1
    obtain ⟨added, hadded, -, hepoch⟩ := add_eq hvalid hnew hroom
    cases h.symm.trans hadded
    exact ⟨hvalid, hnew, hroom, hperm, hepoch⟩
  · rintro ⟨hvalid, hnew, hroom, htargets, hepoch⟩
    obtain ⟨added, hadded, haddedTargets, haddedEpoch⟩ := add_eq hvalid hnew hroom
    rw [hadded]
    refine congrArg Except.ok (eq_of_mem_iff (fun x => ?_) (haddedEpoch.trans hepoch.symm))
    rw [haddedTargets, hperm.mem_iff, htargets.mem_iff]

/-- The targets, one after the other. -/
def addAll (limits : RuntimeLimits) (inventory : TargetInventory) (ds : List TargetDescriptor) :
    Result TargetInventory :=
  ds.foldlM (fun inventory d => inventory.add d limits) inventory

/-- When all of the targets are registered, and what the inventory is then: the order they come in
plays no part. -/
theorem addAll_ok_iff {ds : List TargetDescriptor}
    (hbounded : inventory.targets.length ≤ limits.maxTotalTargets.toNat) :
    addAll limits inventory ds = .ok inventory'
      ↔ (∀ d ∈ ds, (d.validate limits).isOk = true)
        ∧ ((ds ++ inventory.targets).map TargetDescriptor.id).Nodup
        ∧ ds.length + inventory.targets.length ≤ limits.maxTotalTargets.toNat
        ∧ inventory'.targets.Perm (ds ++ inventory.targets)
        ∧ inventory'.epoch = inventory.epoch + ds.length.toUInt64 := by
  induction ds generalizing inventory with
  | nil =>
    have hnodup : (inventory.targets.map TargetDescriptor.id).Nodup :=
      inventory.sorted.imp fun h => h.ne
    constructor
    · intro h
      cases h
      exact ⟨by simp, by simpa using hnodup, by simpa using hbounded, by simp, by simp⟩
    · rintro ⟨-, -, -, hperm, hepoch⟩
      refine congrArg Except.ok (eq_of_mem_iff (fun x => ?_) ?_)
      · exact (hperm.mem_iff (a := x)).symm
      · simpa using hepoch.symm
  | cons d ds ih =>
    unfold addAll
    rw [List.foldlM_cons, except_bind_eq_ok]
    constructor
    · rintro ⟨middle, hadd, hrest⟩
      obtain ⟨hvalid, hnew, hroom, hperm, hepoch⟩ := add_ok_iff.1 hadd
      have hlength : middle.targets.length = inventory.targets.length + 1 := by
        simpa using hperm.length_eq
      obtain ⟨hall, hnodup, hcount, hperm', hepoch'⟩ := (ih (by omega)).1 hrest
      -- the new target may stand anywhere, so the lists agree up to their order
      have hmiddle : (ds ++ middle.targets).Perm (d :: ds ++ inventory.targets) :=
        (hperm.append_left ds).trans List.perm_middle
      refine ⟨?_, (hmiddle.map _).nodup_iff.1 hnodup, ?_, hperm'.trans hmiddle, ?_⟩
      · rintro x (_ | ⟨_, hx⟩)
        · exact hvalid
        · exact hall x hx
      · rw [List.length_cons]
        omega
      · rw [hepoch', hepoch, List.length_cons]
        simp [UInt64.add_assoc, UInt64.add_comm]
    · rintro ⟨hall, hnodup, hcount, hperm, hepoch⟩
      have hnodup' : (d.id :: (ds ++ inventory.targets).map TargetDescriptor.id).Nodup := hnodup
      have hnew : d.id ∉ inventory.targets.map TargetDescriptor.id := fun hmem =>
        (List.nodup_cons.1 hnodup').1 (by rw [List.map_append]; exact List.mem_append_right _ hmem)
      rw [List.length_cons] at hcount
      obtain ⟨middle, hadd, htargets, hmiddleEpoch⟩ :=
        add_eq (hall d (List.mem_cons_self ..)) hnew (by omega)
      have hmiddlePerm := (perm_added inventory.targets d)
      rw [← htargets] at hmiddlePerm
      have hlength : middle.targets.length = inventory.targets.length + 1 := by
        simpa using hmiddlePerm.length_eq
      have hmiddle : (ds ++ middle.targets).Perm (d :: ds ++ inventory.targets) :=
        (hmiddlePerm.append_left ds).trans List.perm_middle
      refine ⟨middle, hadd, (ih (by omega)).2 ⟨fun x hx => hall x (List.mem_cons_of_mem _ hx),
        (hmiddle.map _).nodup_iff.2 hnodup, by omega, hperm.trans hmiddle.symm, ?_⟩⟩
      rw [hepoch, hmiddleEpoch, List.length_cons]
      simp [UInt64.add_assoc, UInt64.add_comm]

end TargetInventory

/-! ## Documents -/

/-- The targets that the items describe can be registered, and the inventory holds them: each of
them once, whatever the order they are listed in. -/
structure Registers (limits : RuntimeLimits) (items : List JsonValue) (ds : List TargetDescriptor)
    (inventory : TargetInventory) : Prop where
  described : List.Forall₂ (JsonValue.Describes limits) items ds
  valid : ∀ d ∈ ds, (d.validate limits).isOk = true
  names : (ds.map TargetDescriptor.name).Nodup
  ids : (ds.map TargetDescriptor.id).Nodup
  bounded : ds.length ≤ limits.maxTotalTargets.toNat
  holds : inventory.targets.Perm ds
  epoch : inventory.epoch = ds.length.toUInt64

/-- The inventory a document describes. -/
structure JsonValue.DescribesInventory (limits : RuntimeLimits) (v : JsonValue)
    (inventory : TargetInventory) : Prop where
  kind : v.find (text "kind") = some (.string kInventoryKind)
  version : v.find (text "schema_version") = some (.number kSchemaVersion)
  targets : ∃ items ds, v.find (text "targets") = some (.array items)
    ∧ Registers limits items ds inventory

/-- The loop over the targets: they are described, of new names, and registered one by one. -/
theorem loadTargets_ok {inventory inventory' : TargetInventory} {seen : List (Bytes × Nat)}
    {index : Nat} {items : List JsonValue} (hseen : (seen.map Prod.fst).Nodup) :
    loadTargets limits inventory seen index items = .ok inventory'
      ↔ ∃ ds, List.Forall₂ (JsonValue.Describes limits) items ds
        ∧ (seen.map Prod.fst ++ ds.map TargetDescriptor.name).Nodup
        ∧ TargetInventory.addAll limits inventory ds = .ok inventory' := by
  induction items generalizing inventory seen index with
  | nil =>
    constructor
    · intro h
      exact ⟨[], .nil, by simpa using hseen, h⟩
    · rintro ⟨ds, hds, -, h⟩
      cases hds
      exact h
  | cons item rest ih =>
    unfold loadTargets
    rw [except_bind_eq_ok]
    constructor
    · rintro ⟨d, hd, h⟩
      split at h
      · cases h
      next hnew =>
      obtain ⟨middle, hadd, h⟩ := except_bind_eq_ok.1 h
      -- a name that was not found is not among those seen
      have hfresh : d.name ∉ seen.map Prod.fst := by
        intro hmem
        obtain ⟨entry, hentry, heq⟩ := List.mem_map.1 hmem
        have := List.find?_eq_none.1 hnew entry hentry
        simp [heq] at this
      have hseen' : ((seen ++ [(d.name, index)]).map Prod.fst).Nodup := by
        rw [List.map_append]
        exact List.nodup_append.2 ⟨hseen, by simp, by
          rintro name hname _ (_ | ⟨_, ⟨⟩⟩) rfl
          exact hfresh hname⟩
      obtain ⟨ds, hds, hnames, hrest⟩ := (ih hseen').1 h
      refine ⟨d :: ds, .cons (parseTarget_ok.1 hd) hds, by simpa using hnames, ?_⟩
      exact except_bind_eq_ok.2 ⟨middle, hadd, hrest⟩
    · rintro ⟨_, hds, hnames, h⟩
      cases hds with
      | @cons _ d _ ds hd hds =>
      obtain ⟨middle, hadd, hrest⟩ := except_bind_eq_ok.1 h
      rw [List.map_cons, List.append_cons] at hnames
      have hseen' : ((seen ++ [(d.name, index)]).map Prod.fst).Nodup := by
        simpa using (List.nodup_append.1 hnames).1
      -- a name that stands once is not among those before it
      have hnew : (seen.find? fun entry => entry.1 == d.name) = none := by
        rw [List.find?_eq_none]
        intro entry hentry heq
        rw [List.map_append, List.nodup_append] at hseen'
        refine hseen'.2.2 d.name ?_ d.name (by simp) rfl
        rw [← beq_iff_eq.1 heq]
        exact List.mem_map_of_mem hentry
      refine ⟨d, parseTarget_ok.2 hd, ?_⟩
      rw [hnew]
      exact except_bind_eq_ok.2 ⟨middle, hadd, (ih hseen').2 ⟨ds, hds, by simpa using hnames, hrest⟩⟩

/-- The loader accepts a document exactly when it describes an inventory, and returns it. -/
theorem inventoryFromJson_ok_iff {inventory : TargetInventory} :
    inventoryFromJson v limits = .ok inventory ↔ v.DescribesInventory limits inventory := by
  have hload (items : List JsonValue) := @loadTargets_ok limits {} inventory [] 0 items List.nodup_nil
  have hadd (ds : List TargetDescriptor) :=
    @TargetInventory.addAll_ok_iff limits {} inventory ds (Nat.zero_le _)
  unfold inventoryFromJson
  simp only [except_bind_eq_ok, JsonValue.requireObject_ok, readRequired_ok,
    JsonValue.requireArray_ok, hload, hadd]
  constructor
  · rintro ⟨_, ⟨rfl, -⟩, ⟨⟩, hkind, ⟨⟩, hversion, items, ⟨_, hitems, rfl⟩, ⟨⟩, hcount, ds, hds, hnames,
      hvalid, hids, hbounded, hholds, hepoch⟩
    exact ⟨requireDocumentKind_ok.1 hkind, requireSchemaVersion_ok.1 hversion, items, ds, hitems, hds,
      hvalid, by simpa using hnames, by simpa using hids, by simpa using hbounded,
      by simpa using hholds, by simpa using hepoch⟩
  · rintro ⟨hkind, hversion, items, ds, hitems, hds, hvalid, hnames, hids, hbounded, hholds, hepoch⟩
    refine ⟨v, ⟨rfl, JsonValue.object_of_find hkind⟩, (), requireDocumentKind_ok.2 hkind, (),
      requireSchemaVersion_ok.2 hversion, items, ⟨_, hitems, rfl⟩, (), ?_, ds, hds, by simpa using hnames,
      hvalid, by simpa using hids, by simpa using hbounded, by simpa using hholds,
      by simpa using hepoch⟩
    exact toResult_eq_ok.2 (checkCount_isOk.2 (hds.length_eq ▸ hbounded))

end RolloutFabric
