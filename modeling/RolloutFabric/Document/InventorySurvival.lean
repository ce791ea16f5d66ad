/-
What an accepted inventory document leaves: its targets have one value for each label, and the
inventory is read back from the journal as it was loaded.
-/
import RolloutFabric.Document.Parts
import RolloutFabric.Document.TargetOrder

namespace RolloutFabric

open Decoding

variable {limits : RuntimeLimits} {t : Bytes}

/-- A text is accepted exactly when it is a document that describes an inventory, and the inventory
is the one it describes. -/
theorem parseInventory_ok_iff (t : Bytes) (limits : RuntimeLimits) (inventory : TargetInventory) :
    parseInventory t limits = .ok inventory
      ↔ ∃ v, JsonDocumentOfBytes limits t v ∧ v.DescribesInventory limits inventory := by
  unfold parseInventory
  rw [except_bind_eq_ok]
  refine exists_congr fun v => ?_
  rw [parseJson_iff, inventoryFromJson_ok_iff]

/-! ## Epochs -/

/-- Every target that is read back counts once in the epoch. -/
theorem addDecoded_epoch {n : Nat} {inventory inventory' : TargetInventory} {input rest : Bytes}
    (h : addDecoded limits n inventory input = .ok (inventory', rest)) :
    inventory'.epoch = inventory.epoch + n.toUInt64
      ∧ inventory'.targets.length = inventory.targets.length + n := by
  induction n generalizing inventory input with
  | zero =>
    cases h
    exact ⟨by simp, rfl⟩
  | succ n ih =>
    unfold addDecoded at h
    obtain ⟨d, middle, -, h⟩ := bind_eq_ok.1 h
    cases hadd : inventory.add d limits with
    | error s =>
      rw [hadd] at h
      cases h
    | ok added =>
      rw [hadd] at h
      obtain ⟨-, -, -, hperm, hepoch⟩ := TargetInventory.add_ok_iff.1 hadd
      obtain ⟨hepoch', hlength⟩ := ih h
      have hadded : added.targets.length = inventory.targets.length + 1 := by
        simpa using hperm.length_eq
      refine ⟨?_, by omega⟩
      rw [hepoch', hepoch]
      simp [UInt64.add_assoc, UInt64.add_comm]

/-- The epoch of an inventory that was read back is the number of its targets. -/
theorem decodeInventoryPayload_epoch {input : Bytes} {inventory : TargetInventory}
    (h : decodeInventoryPayload input limits = .ok inventory) :
    inventory.epoch = inventory.targets.length.toUInt64 := by
  unfold decodeInventoryPayload at h
  obtain ⟨body, -, h⟩ := except_bind_eq_ok.1 h
  unfold Decoder.over at h
  split at h
  · next rest hdecode =>
    cases h
    obtain ⟨_, _, -, hdecode⟩ := bind_eq_ok.1 hdecode
    obtain ⟨read, _, hread, hdecode⟩ := bind_eq_ok.1 hdecode
    obtain ⟨_, _, -, hdecode⟩ := bind_eq_ok.1 hdecode
    obtain ⟨_, _, -, hdecode⟩ := bind_eq_ok.1 hdecode
    cases hdecode
    obtain ⟨count, _, -, hread⟩ := bind_eq_ok.1 hread
    obtain ⟨_, _, -, hread⟩ := bind_eq_ok.1 hread
    obtain ⟨hepoch, hlength⟩ := addDecoded_epoch hread
    rw [hepoch, hlength]
    simp
  · cases h

/-! ## Accepted documents -/

theorem labels_of_describes {v item : JsonValue} {d : TargetDescriptor}
    (h : parseJson t limits = .ok v) (hpart : item.Part v) (hd : item.Describes limits d) :
    d.labels.Pairwise fun a b => byteRank a.key < byteRank b.key := by
  rcases hd.labels with ⟨-, hnone⟩ | ⟨member, hmember, listed, rfl, -, hsorted⟩
  · rw [hnone]
    exact .nil
  · rw [hsorted]
    refine sortLabels_ascends ?_
    have hkeys := keys_of_parseJson h ((JsonValue.Part.of_find hmember).trans hpart)
    rwa [labelMembers, List.map_map] at hkeys

theorem Registers.admitted {items : List JsonValue} {ds : List TargetDescriptor}
    {inventory : TargetInventory} (h : Registers limits items ds inventory) :
    inventory.Admitted limits where
  valid d hd := h.valid d (h.holds.mem_iff.1 hd)
  bounded := h.holds.length_eq ▸ h.bounded

theorem Registers.exists_item {items : List JsonValue} {ds : List TargetDescriptor}
    {inventory : TargetInventory} (h : Registers limits items ds inventory) {d : TargetDescriptor}
    (hd : d ∈ inventory.targets) : ∃ item ∈ items, item.Describes limits d := by
  obtain ⟨index, hindex, rfl⟩ := List.mem_iff_getElem.1 (h.holds.mem_iff.1 hd)
  have hlt : index < items.length := h.described.length_eq ▸ hindex
  exact ⟨items[index], List.getElem_mem hlt, h.described.get hlt hindex⟩

/-- The inventory of an accepted document is read back from its payload as it was loaded, when the
payload fits a record; its targets are named by their identifiers, and have one value for each
label. -/
theorem parseInventory_survives {inventory : TargetInventory}
    (hlimits : limits.validate.isOk = true) (h : parseInventory t limits = .ok inventory)
    (hsize : (encodeInventoryPayload inventory).length ≤ limits.maxJournalRecordBytes.toNat) :
    decodeInventoryPayload (encodeInventoryPayload inventory) limits = .ok inventory
      ∧ ∀ d ∈ inventory.targets, d.id = deriveTargetId d.name ∧ d.OneValuePerKey := by
  unfold parseInventory at h
  obtain ⟨v, hjson, h⟩ := except_bind_eq_ok.1 h
  obtain ⟨-, -, items, ds, hitems, hr⟩ := inventoryFromJson_ok_iff.1 h
  constructor
  · obtain ⟨back, hback, htargets⟩ :=
      TargetInventory.decodeInventoryPayload_encode hlimits hr.admitted hsize
    have hepoch := decodeInventoryPayload_epoch hback
    rw [hback]
    refine congrArg Except.ok (TargetInventory.eq_of_mem_iff (fun d => by rw [htargets]) ?_)
    rw [hepoch, htargets, hr.epoch, hr.holds.length_eq]
  · intro d hd
    obtain ⟨item, hitem, hdescribes⟩ := hr.exists_item hd
    have hpart : item.Part v := JsonValue.Part.trans (.item hitem .refl) (JsonValue.Part.of_find hitems)
    have hascend := labels_of_describes hjson hpart hdescribes
    refine ⟨hdescribes.id, (TargetDescriptor.oneValuePerKey_iff (hr.admitted.valid d hd)).2 ?_⟩
    exact (hascend.imp fun hlt heq => by rw [heq] at hlt; exact lt_irrefl _ hlt).isChain

theorem pairDocument_survives : ∃ inventory,
    parseInventory (pairDocument pairFirst pairSecond) {} = .ok inventory
      ∧ decodeInventoryPayload (encodeInventoryPayload inventory) {} = .ok inventory
      ∧ ∀ d ∈ inventory.targets, d.id = deriveTargetId d.name ∧ d.OneValuePerKey := by
  have haccepted : (parseInventory (pairDocument pairFirst pairSecond) {}).toOption.any (fun inventory =>
      decide ((encodeInventoryPayload inventory).length
        ≤ ({} : RuntimeLimits).maxJournalRecordBytes.toNat)) = true := by
    decide +kernel
  cases h : parseInventory (pairDocument pairFirst pairSecond) {} with
  | error e =>
    rw [h] at haccepted
    cases haccepted
  | ok inventory =>
    rw [h] at haccepted
    exact ⟨inventory, rfl, parseInventory_survives (by decide) h (of_decide_eq_true haccepted)⟩

end RolloutFabric
