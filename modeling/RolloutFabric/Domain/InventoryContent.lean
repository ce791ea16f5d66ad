/-
What an inventory is used for: its digest, the cohorts of a selector and the payload it is stored
in. All of them depend on the set of its descriptors only.
-/
import RolloutFabric.Domain.Inventory
import RolloutFabric.Domain.Labels
import RolloutFabric.Domain.PlanRoundTrip

namespace RolloutFabric

namespace TargetInventory

variable {limits : RuntimeLimits} {inventory inventory' : TargetInventory}

/-! ## The descriptors determine the rest -/

/-- Two inventories of the same descriptors list them in the same order. -/
theorem targets_eq_of_mem_iff (h : ∀ d, d ∈ inventory.targets ↔ d ∈ inventory'.targets) :
    inventory.targets = inventory'.targets := by
  have hasymm : Std.Asymm fun a b : TargetDescriptor => a.id < b.id := ⟨fun _ _ => lt_asymm⟩
  have hirrefl : Std.Irrefl fun a b : TargetDescriptor => a.id < b.id := ⟨fun _ => lt_irrefl _⟩
  exact List.Pairwise.eq_of_mem_iff (List.pairwise_map.1 inventory.sorted)
    (List.pairwise_map.1 inventory'.sorted) h

/-- The targets a selector matching, in the order of their identifiers. -/
def matching (self : TargetInventory) (selector : SelectorTerm) : List TargetId :=
  (self.targets.filter fun d => selectorMatches d selector).map TargetDescriptor.id

theorem matching_sorted (selector : SelectorTerm) :
    (inventory.matching selector).Pairwise (· < ·) :=
  inventory.sorted.sublist (List.Sublist.map _ List.filter_sublist)

theorem mem_matching_iff {selector : SelectorTerm} {id : TargetId} :
    id ∈ inventory.matching selector
      ↔ ∃ d ∈ inventory.targets, d.id = id ∧ selectorMatches d selector = true := by
  unfold matching
  simp only [List.mem_map, List.mem_filter]
  constructor
  · rintro ⟨d, ⟨hmem, hmatch⟩, rfl⟩
    exact ⟨d, hmem, rfl, hmatch⟩
  · rintro ⟨d, hmem, rfl, hmatch⟩
    exact ⟨d, ⟨hmem, hmatch⟩, rfl⟩

/-- The cohort of a valid selector: the matching targets up to the bound, and the others. -/
theorem materializeCohort_valid {selector : SelectorTerm}
    (hvalid : (selector.validate limits).isOk = true) (stage : StageId)
    (generation : GenerationId) (now : Timestamp) :
    ∃ cohort, materializeCohort selector inventory stage generation limits now = .ok cohort
      ∧ cohort.membership.members
          = (inventory.matching selector).take limits.maxTargetsPerCohort.toNat
      ∧ cohort.truncated
          = (inventory.matching selector).drop limits.maxTargetsPerCohort.toNat := by
  have hsorted := (@matching_sorted inventory selector).imp fun h => le_of_lt h
  have hmatched := List.Pairwise.insertionSort_eq hsorted
  unfold matching at hmatched
  unfold materializeCohort
  rw [Status.toResult, if_pos hvalid]
  refine ⟨_, rfl, ?_, ?_⟩
  · dsimp only
    rw [hmatched]
    rfl
  · dsimp only
    rw [hmatched]
    rfl

/-! ## The payload -/

/-- Every target passes validation, and there are no more than the limit. -/
structure Admitted (limits : RuntimeLimits) (inventory : TargetInventory) : Prop where
  valid : ∀ d ∈ inventory.targets, (d.validate limits).isOk = true
  bounded : inventory.targets.length ≤ limits.maxTotalTargets.toNat

theorem Admitted.empty : Admitted limits {} := ⟨by simp, by simp⟩

/-- What an accepted `add` needs, and the targets it leaves. -/
theorem add_eq_ok {d : TargetDescriptor} (h : inventory.add d limits = .ok inventory') :
    (d.validate limits).isOk = true ∧ inventory.targets.length < limits.maxTotalTargets.toNat
      ∧ inventory'.targets
        = before inventory.targets d.id ++ d :: lowerBound inventory.targets d.id := by
  unfold add at h
  dsimp only at h
  split at h
  · cases h
  next hvalid =>
  split at h
  · split at h
    · cases h
    · next hroom =>
      cases h
      exact ⟨by simpa using hvalid, Nat.not_le.1 hroom, rfl⟩
  · cases h

theorem remove_eq_ok {id : TargetId} (h : inventory.remove id = .ok inventory') :
    inventory'.targets = before inventory.targets id ++ (lowerBound inventory.targets id).tail := by
  unfold remove at h
  split at h
  · cases h
    rfl
  · cases h

theorem Admitted.call {c : InventoryCall} (h : inventory.Admitted limits)
    (hcall : inventory.call limits c = .ok inventory') : inventory'.Admitted limits := by
  have hsplit (id : TargetId) := before_append_lowerBound inventory.targets id
  cases c with
  | add d =>
    obtain ⟨hvalid, hroom, htargets⟩ := add_eq_ok hcall
    constructor
    · intro x hx
      rw [htargets, List.mem_append, List.mem_cons] at hx
      rcases hx with hx | rfl | hx
      · refine h.valid x ?_
        rw [← hsplit d.id]
        exact List.mem_append_left _ hx
      · exact hvalid
      · refine h.valid x ?_
        rw [← hsplit d.id]
        exact List.mem_append_right _ hx
    · have hlength := congrArg List.length (hsplit d.id)
      rw [List.length_append] at hlength
      rw [htargets, List.length_append, List.length_cons]
      omega
  | remove id =>
    have hsub : inventory'.targets.Sublist inventory.targets := by
      rw [remove_eq_ok hcall]
      conv_rhs => rw [← hsplit id]
      exact (List.Sublist.refl _).append (List.tail_sublist _)
    exact ⟨fun x hx => h.valid x (hsub.subset hx), hsub.length_le.trans h.bounded⟩

theorem run_admitted (limits : RuntimeLimits) (calls : List InventoryCall) :
    (run limits calls).Admitted limits := by
  induction calls using List.reverseRecOn with
  | nil => exact .empty
  | append_singleton calls c ih =>
    rw [run, List.foldl_append, ← run]
    show Admitted limits (((run limits calls).call limits c).toOption.getD _)
    cases hcall : (run limits calls).call limits c with
    | ok _ => exact ih.call hcall
    | error _ => exact ih

/-- A target after all the others is added at the end. -/
theorem add_last {d : TargetDescriptor} (hvalid : (d.validate limits).isOk = true)
    (hroom : inventory.targets.length < limits.maxTotalTargets.toNat)
    (hlast : ∀ x ∈ inventory.targets, x.id < d.id) :
    ∃ inventory', inventory.add d limits = .ok inventory'
      ∧ inventory'.targets = inventory.targets ++ [d] := by
  have hbefore : before inventory.targets d.id = inventory.targets :=
    List.takeWhile_eq_self_iff.2 fun x hx => decide_eq_true (hlast x hx)
  have hlower : lowerBound inventory.targets d.id = [] :=
    List.dropWhile_eq_nil_iff.2 fun x hx => decide_eq_true (hlast x hx)
  have hnew : ∀ entry ∈ (lowerBound inventory.targets d.id).head?, entry.id ≠ d.id := by
    simp [hlower]
  unfold add
  dsimp only
  rw [if_neg (by simp [hvalid]), dif_pos hnew, if_neg (Nat.not_le.2 hroom)]
  refine ⟨_, rfl, ?_⟩
  show before inventory.targets d.id ++ d :: lowerBound inventory.targets d.id = _
  rw [hbefore, hlower]

end TargetInventory

open Decoding

theorem decodeLabel_reads (limits : RuntimeLimits) (l : Label) :
    Reads (decodeLabel limits) (ByteWriter.string l.key ++ ByteWriter.string l.value)
      (fitsText limits.maxLabelKeyBytes l.key = true
        ∧ fitsText limits.maxLabelValueBytes l.value = true) l := by
  unfold decodeLabel
  apply Decodes.congr
  · exact (dcString_reads _ l.key _).bind ((dcString_reads _ l.value _).map fun value =>
      (⟨l.key, value⟩ : Label))
  · exact Iff.rfl

theorem validateText_isOk {t field : Bytes} {bound : UInt32} :
    (validateText t bound.toNat field).isOk = true ↔ fitsText bound t = true := by
  unfold validateText fitsText
  split
  · next h => simp [h]
  · next h =>
    split
    · next hutf8 => simp_all
    · next hutf8 => simp_all

namespace TargetDescriptor

variable {limits : RuntimeLimits} {d : TargetDescriptor}

/-- The labels of a valid descriptor are within the bounds of the decoder. -/
theorem fits_of_validateLabels {previous : Option Label} {labels : List Label}
    (h : (validateLabels limits previous labels).isOk = true) :
    ∀ l ∈ labels, fitsText limits.maxLabelKeyBytes l.key = true
      ∧ fitsText limits.maxLabelValueBytes l.value = true := by
  induction labels generalizing previous with
  | nil => simp
  | cons label rest ih =>
    rw [validateLabels] at h
    split at h
    · next hlabel =>
      have hchecks : (validateLabel limits previous label).isOk = true := hlabel
      have hall := (firstFailure_isOk _).1 hchecks
      rintro l (_ | ⟨_, hl⟩)
      · exact ⟨validateText_isOk.1 (hall _ (List.mem_cons_self ..)),
          validateText_isOk.1 (hall _ (List.mem_cons_of_mem _ (List.mem_cons_self ..)))⟩
      · exact ih h l hl
    · next hlabel => exact absurd h hlabel

end TargetDescriptor

/-- A descriptor is read back exactly when it is valid. -/
theorem decodeTargetDescriptor_reads (limits : RuntimeLimits) (d : TargetDescriptor) :
    Reads (decodeTargetDescriptor limits) d.encode ((d.validate limits).isOk = true) d := by
  unfold decodeTargetDescriptor TargetDescriptor.encode
  apply Decodes.congr
  · exact (dcId_reads _ d.id).next <| (dcString_reads _ d.name _).nextIf <|
      (dcEnum_reads _ _ d.kind).next <| (dcString_reads _ d.placement.site _).nextIf <|
      (dcString_reads _ d.placement.pod _).nextIf <|
      (dcString_reads _ d.placement.rack _).nextIf <|
      (dcId_reads _ d.placement.failureDomain).next <|
      (vector_reads_id _ d.labels (dcU32_reads _)
        (fun l => by simp only [List.length_append]; have := string_pos l.key; omega)
        (decodeLabel_reads limits)).nextIf <|
      (check_reads _).guard <| Decodes.done d
  · constructor
    · rintro ⟨-, -, -, -, -, hvalid, -⟩
      exact hvalid
    · intro hvalid
      have hall := (firstFailure_isOk _).1 hvalid
      simp only [List.forall_mem_cons] at hall
      obtain ⟨-, hname, -, hsite, hpod, hrack, -, hcount, hlabels, -⟩ := hall
      refine ⟨validateText_isOk.1 hname, validateText_isOk.1 hsite, validateText_isOk.1 hpod,
        validateText_isOk.1 hrack,
        ⟨?_, TargetDescriptor.fits_of_validateLabels hlabels⟩, hvalid, trivial⟩
      by_contra hmany
      rw [if_pos (Nat.not_le.1 hmany)] at hcount
      simp at hcount

theorem TargetDescriptor.encode_pos (d : TargetDescriptor) : 0 < d.encode.length :=
  record_pos (id_pos d.id)

namespace TargetInventory

variable {limits : RuntimeLimits}

/-- Descriptors in the order of their identifiers are read back one after the other, each added
behind the ones before it. -/
theorem addDecoded_reads (ds : List TargetDescriptor)
    (hvalid : ∀ d ∈ ds, (d.validate limits).isOk = true) (inventory : TargetInventory)
    (hroom : inventory.targets.length + ds.length ≤ limits.maxTotalTargets.toNat)
    (hsorted : (inventory.targets ++ ds).Pairwise fun a b => a.id < b.id) :
    ∃ inventory', inventory'.targets = inventory.targets ++ ds
      ∧ Reads (addDecoded limits ds.length inventory) (ds.map TargetDescriptor.encode).flatten
        True inventory' := by
  induction ds generalizing inventory with
  | nil => exact ⟨inventory, (List.append_nil _).symm, Decodes.pure inventory⟩
  | cons d ds ih =>
    rw [List.length_cons] at hroom
    have hlast : ∀ x ∈ inventory.targets, x.id < d.id := fun x hx =>
      (List.pairwise_append.1 hsorted).2.2 x hx d (List.mem_cons_self ..)
    obtain ⟨next, hadd, htargets⟩ := add_last (hvalid d (List.mem_cons_self ..)) (by omega) hlast
    rw [List.append_cons, ← htargets] at hsorted
    have hlength := congrArg List.length htargets
    rw [List.length_append, List.length_singleton] at hlength
    obtain ⟨inventory', hall, hreads⟩ := ih (fun x hx => hvalid x (List.mem_cons_of_mem _ hx)) next
      (by omega) hsorted
    refine ⟨inventory', by rw [hall, htargets, List.append_assoc, List.singleton_append], ?_⟩
    rw [List.length_cons, addDecoded, List.map_cons, List.flatten_cons]
    apply Decodes.congr
    · apply (decodeTargetDescriptor_reads limits d).nextIf
      rw [hadd]
      exact hreads
    · simp [hvalid d (List.mem_cons_self ..)]

/-- An inventory within the limit is read back with its targets. -/
theorem decodeInventory_reads {inventory : TargetInventory} (h : inventory.Admitted limits) :
    ∃ inventory', inventory'.targets = inventory.targets
      ∧ Reads (decodeInventory limits) (ByteWriter.vector TargetDescriptor.encode inventory.targets)
        True inventory' := by
  obtain ⟨inventory', htargets, hreads⟩ := addDecoded_reads inventory.targets h.valid {}
    (by simpa using h.bounded) (by simpa using List.pairwise_map.1 inventory.sorted)
  have hcount : inventory.targets.length.toUInt32.toNat = inventory.targets.length := by
    have hbounded := h.bounded
    have := limits.maxTotalTargets.toNat_lt
    simp
    omega
  refine ⟨inventory', htargets, ?_⟩
  unfold decodeInventory
  apply Decodes.congr
  · apply (dcU32_reads _ _).bind
    apply (require_reads _ _).guard
    rw [hcount]
    exact hreads
  · simpa [hcount] using h.bounded

/-- The payload of an inventory within the limits, when it fits a record, is read back with the
same targets. -/
theorem decodeInventoryPayload_encode {inventory : TargetInventory}
    (hlimits : limits.validate.isOk = true) (h : inventory.Admitted limits)
    (hsize : (encodeInventoryPayload inventory).length ≤ limits.maxJournalRecordBytes.toNat) :
    ∃ inventory', decodeInventoryPayload (encodeInventoryPayload inventory) limits = .ok inventory'
      ∧ inventory'.targets = inventory.targets := by
  have hlength : (encodeInventoryPayload inventory).length < kLengthBound :=
    record_length_lt hlimits hsize
  have hbody : (inventory.inventoryDigest.data
      ++ ByteWriter.vector TargetDescriptor.encode inventory.targets).length
      ≤ (encodeInventoryPayload inventory).length := by
    simp [encodeInventoryPayload, wrap, ByteWriter.bytes]
    omega
  obtain ⟨inventory', htargets, hreads⟩ := decodeInventory_reads h
  have hdigest : inventory.inventoryDigest = inventory'.inventoryDigest := by
    unfold inventoryDigest
    rw [htargets]
  refine ⟨inventory', ?_, htargets⟩
  unfold decodeInventoryPayload
  rw [encodeInventoryPayload, unwrap_wrap (by decide) (by decide) (le_trans hbody hsize) hlength]
  change Decoder.over _ (inventory.inventoryDigest.data ++ _) = _
  rw [hdigest]
  exact digested_reads _ _ hreads trivial (by rw [← hdigest]; exact lt_of_le_of_lt hbody hlength)

end TargetInventory

/-! ## The inventory and its cohorts -/

/-- After the calls the store is a finite map: its targets ascend, it finds what was registered,
and a call that fails changes nothing. -/
structure InventoryStore.IsMap (limits : RuntimeLimits) (calls : List InventoryCall) : Prop where
  ascending : ((run limits calls).targets.map TargetDescriptor.id).Pairwise (· < ·)
  find : (run limits calls).find = registered (outcomes limits {} calls)
  unchanged : ∀ c, ((run limits calls).call limits c).1.isOk = false →
    ((run limits calls).call limits c).2 = run limits calls
  stores : (run limits calls).Stores (TargetInventory.run limits calls)

theorem InventoryStore.isMap (limits : RuntimeLimits) (calls : List InventoryCall) :
    IsMap limits calls := by
  have hstores := run_stores limits calls
  refine ⟨?_, find_run limits calls, fun c hfailed => ?_, hstores⟩
  · rw [hstores.targets]
    exact (TargetInventory.run limits calls).sorted
  · have hends := @Stores.call _ limits _ hstores c
    revert hfailed hends
    generalize (run limits calls).call limits c = result
    intro hfailed hends
    cases hends with
    | done htaken hstores' => cases hfailed
    | refused hrefused hstatus => rfl

namespace TargetInventory

/-- The two give one digest and, for every valid selector, one cohort: what matches, in order. -/
structure SameContent (limits : RuntimeLimits) (inventory inventory' : TargetInventory) :
    Prop where
  digest : inventory.inventoryDigest = inventory'.inventoryDigest
  cohorts : ∀ selector stage generation now, (selector.validate limits).isOk = true →
    ∃ cohort cohort',
      materializeCohort selector inventory stage generation limits now = .ok cohort
      ∧ materializeCohort selector inventory' stage generation limits now = .ok cohort'
      ∧ cohort'.membership.members = cohort.membership.members
      ∧ cohort'.truncated = cohort.truncated
      ∧ (cohort.membership.members ++ cohort.truncated).Pairwise (· < ·)
      ∧ ∀ id, id ∈ cohort.membership.members ++ cohort.truncated
        ↔ ∃ d ∈ inventory.targets, d.id = id ∧ selectorMatches d selector = true

theorem sameContent {inventory inventory' : TargetInventory} (limits : RuntimeLimits)
    (h : ∀ d, d ∈ inventory.targets ↔ d ∈ inventory'.targets) :
    SameContent limits inventory inventory' := by
  have htargets := targets_eq_of_mem_iff h
  constructor
  · unfold inventoryDigest
    rw [htargets]
  · intro selector stage generation now hvalid
    obtain ⟨cohort, hcohort, hmembers, htruncated⟩ :=
      @materializeCohort_valid limits inventory selector hvalid stage generation now
    obtain ⟨cohort', hcohort', hmembers', htruncated'⟩ :=
      @materializeCohort_valid limits inventory' selector hvalid stage generation now
    have hmatching : inventory'.matching selector = inventory.matching selector := by
      unfold matching
      rw [htargets]
    refine ⟨cohort, cohort', hcohort, hcohort', ?_, ?_, ?_, fun id => ?_⟩
    · rw [hmembers', hmembers, hmatching]
    · rw [htruncated', htruncated, hmatching]
    · rw [hmembers, htruncated, List.take_append_drop]
      exact matching_sorted selector
    · rw [hmembers, htruncated, List.take_append_drop]
      exact mem_matching_iff

end TargetInventory

/-- Over every sequence of calls the inventory is a finite map, its digest and its cohorts depend
on the set of its descriptors only, and its payload, when it fits a record, keeps that set. -/
theorem inventory_is_content {limits : RuntimeLimits} (hlimits : limits.validate.isOk = true)
    (calls : List InventoryCall) :
    InventoryStore.IsMap limits calls
      ∧ (∀ inventory inventory' : TargetInventory,
        (∀ d, d ∈ inventory.targets ↔ d ∈ inventory'.targets) →
        inventory.SameContent limits inventory')
      ∧ ((encodeInventoryPayload (TargetInventory.run limits calls)).length
          ≤ limits.maxJournalRecordBytes.toNat →
        ∃ inventory, decodeInventoryPayload
            (encodeInventoryPayload (TargetInventory.run limits calls)) limits = .ok inventory
          ∧ ∀ d, d ∈ inventory.targets ↔ d ∈ (TargetInventory.run limits calls).targets) := by
  refine ⟨InventoryStore.isMap limits calls,
    fun _ _ h => TargetInventory.sameContent limits h, fun hsize => ?_⟩
  obtain ⟨inventory, hdecode, htargets⟩ := TargetInventory.decodeInventoryPayload_encode hlimits
    (TargetInventory.run_admitted limits calls) hsize
  exact ⟨inventory, hdecode, fun d => by rw [htargets]⟩

theorem inventory_is_content_twice :
    InventoryStore.IsMap {} [.add (.labelled []), .add (.labelled [])]
      ∧ ∃ inventory, decodeInventoryPayload (encodeInventoryPayload
          (TargetInventory.run {} [.add (.labelled []), .add (.labelled [])])) {}
          = .ok inventory
        ∧ ∀ d, d ∈ inventory.targets ↔ d ∈ (TargetInventory.run {}
          [.add (.labelled []), .add (.labelled [])]).targets := by
  have h := @inventory_is_content {} (by decide)
    [.add (.labelled []), .add (.labelled [])]
  exact ⟨h.1, h.2.2 (by decide +kernel)⟩

/-- Twenty labels of 221 bytes each. -/
def bulkyDevice : TargetDescriptor :=
  .labelled ((List.range 20).map fun n => ⟨[97 + n.toUInt8], List.replicate 220 120⟩)

/-- The least limit on a record that is valid. -/
def narrowLimits : RuntimeLimits := { maxJournalRecordBytes := 4096 }

/-- An accepted target whose payload is refused: it is above the bound of a record. -/
theorem bulky_inventory_unreadable :
    narrowLimits.validate.isOk = true
      ∧ (TargetInventory.run narrowLimits [.add bulkyDevice]).targets = [bulkyDevice]
      ∧ ∃ e, decodeInventoryPayload
          (encodeInventoryPayload (TargetInventory.run narrowLimits [.add bulkyDevice]))
          narrowLimits = .error e := by
  have htargets : (TargetInventory.run narrowLimits [.add bulkyDevice]).targets = [bulkyDevice] := by
    decide +kernel
  refine ⟨by decide, htargets, ?_⟩
  have hlong : 4096
      < (ByteWriter.vector TargetDescriptor.encode [bulkyDevice]).length := by decide +kernel
  obtain ⟨e, he⟩ : ∃ e, unwrap inventoryTag
      (encodeInventoryPayload (TargetInventory.run narrowLimits [.add bulkyDevice]))
      narrowLimits = .error e := by
    refine unwrap_fails (by decide) (by decide) ?_
    rw [List.length_append, htargets]
    exact Nat.lt_add_left _ hlong
  refine ⟨e, ?_⟩
  unfold decodeInventoryPayload
  rw [he]
  rfl

end RolloutFabric
