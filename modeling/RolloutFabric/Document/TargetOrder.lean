/-
The order of an inventory document is not observable: neither that of the members of its objects nor
that of its targets.
-/
import RolloutFabric.Document.Content

namespace RolloutFabric

variable {limits : RuntimeLimits} {v w : JsonValue}

/-! ## Labels in canonical order -/

theorem bytesLess_eq_false {a b : Bytes} : bytesLess b a = false ↔ byteRank a ≤ byteRank b := by
  rw [← Bool.not_eq_true, bytesLess_iff, not_lt]

theorem sortLabels_perm (labels : List Label) : (sortLabels labels).Perm labels :=
  List.perm_insertionSort _ labels

/-- Where keys are unique they ascend. -/
theorem sortLabels_ascends {labels : List Label} (h : (labels.map Label.key).Nodup) :
    (sortLabels labels).Pairwise fun a b => byteRank a.key < byteRank b.key := by
  have htotal : Std.Total fun a b : Label => bytesLess b.key a.key = false := ⟨fun a b => by
    rw [bytesLess_eq_false, bytesLess_eq_false]
    exact le_total _ _⟩
  have htrans : IsTrans Label fun a b : Label => bytesLess b.key a.key = false := ⟨fun a b c => by
    rw [bytesLess_eq_false, bytesLess_eq_false, bytesLess_eq_false]
    exact le_trans⟩
  have hsorted := List.pairwise_insertionSort (fun a b : Label => bytesLess b.key a.key = false) labels
  have hkeys : ((sortLabels labels).map Label.key).Nodup :=
    ((sortLabels_perm labels).map _).nodup_iff.2 h
  exact (hsorted.and (List.pairwise_map.1 hkeys)).imp fun hab =>
    lt_of_le_of_ne (bytesLess_eq_false.1 hab.1) (mt byteRank_inj.1 hab.2)

/-- The canonical order of labels depends on the set of them only. -/
theorem sortLabels_eq {labels labels' : List Label} (h : (labels.map Label.key).Nodup)
    (hperm : labels.Perm labels') : sortLabels labels = sortLabels labels' := by
  have hasymm : Std.Asymm fun a b : Label => byteRank a.key < byteRank b.key := ⟨fun _ _ => lt_asymm⟩
  have hirrefl : Std.Irrefl fun a b : Label => byteRank a.key < byteRank b.key :=
    ⟨fun _ => lt_irrefl _⟩
  refine List.Pairwise.eq_of_mem_iff (sortLabels_ascends h)
    (sortLabels_ascends ((hperm.map _).nodup_iff.1 h)) fun label => ?_
  rw [(sortLabels_perm labels).mem_iff, (sortLabels_perm labels').mem_iff, hperm.mem_iff]

/-! ## Values that are alike -/

namespace JsonValue

theorem Alike.string_iff (h : v.Alike w) (s : Bytes) : v = .string s ↔ w = .string s := by
  cases h with
  | refl => exact Iff.rfl
  | array => exact iff_of_false (by simp) (by simp)
  | object => exact iff_of_false (by simp) (by simp)

/-- A lookup finds nothing in both values, or members that are alike. -/
theorem Alike.find_cases (h : v.Alike w) (key : Bytes) :
    (v.find key = none ∧ w.find key = none)
      ∨ ∃ member member', v.find key = some member ∧ w.find key = some member'
        ∧ member.Alike member' := by
  have hfind := h.find key
  revert hfind
  generalize v.find key = m
  generalize w.find key = m'
  rintro (hmember | _)
  · exact .inr ⟨_, _, rfl, rfl, hmember⟩
  · exact .inl ⟨rfl, rfl⟩

theorem Alike.find_string (h : v.Alike w) (key s : Bytes) :
    v.find key = some (.string s) ↔ w.find key = some (.string s) := by
  rcases h.find_cases key with ⟨hv, hw⟩ | ⟨member, member', hv, hw, hmember⟩
  · rw [hv, hw]
  · rw [hv, hw, Option.some.injEq, Option.some.injEq, hmember.string_iff]

theorem Alike.find_number (h : v.Alike w) (key : Bytes) (n : Int64) :
    v.find key = some (.number n) ↔ w.find key = some (.number n) := by
  rcases h.find_cases key with ⟨hv, hw⟩ | ⟨member, member', hv, hw, hmember⟩
  · rw [hv, hw]
  · rw [hv, hw]
    cases hmember with
    | refl => exact Iff.rfl
    | array => simp
    | object => simp

theorem Alike.says_iff (h : v.Alike w) (key s : Bytes) : v.Says key s ↔ w.Says key s := by
  unfold Says
  rw [h.find_string]
  rcases h.find_cases key with ⟨hv, hw⟩ | ⟨member, member', hv, hw, hmember⟩
  · rw [hv, hw]
  · rw [hv, hw]
    cases hmember with
    | refl => exact Iff.rfl
    | array => simp
    | object => simp

end JsonValue

theorem MembersAlike.labels_iff {members members' : List (Bytes × JsonValue)}
    (h : MembersAlike members members') (labels : List Label) :
    members = labelMembers labels ↔ members' = labelMembers labels := by
  induction members generalizing members' labels with
  | nil =>
    cases h
    exact Iff.rfl
  | cons member rest ih =>
    cases h with
    | cons hvalue hrest =>
      cases labels with
      | nil => simp [labelMembers]
      | cons label labels =>
        have htail := ih hrest labels
        unfold labelMembers at htail ⊢
        rw [List.map_cons, List.cons.injEq, List.cons.injEq, Prod.mk.injEq, Prod.mk.injEq,
          hvalue.string_iff, htail]

/-- What is a shuffle of images is the images of a shuffle. -/
theorem exists_of_perm_map {α β : Type} {f : α → β} {l : List β} {a : List α}
    (h : l.Perm (a.map f)) : ∃ b : List α, l = b.map f ∧ b.Perm a :=
  (congrFun (congrFun (List.eq_map_comp_perm f) l) a).mpr h

theorem labels_shuffled {members shuffled members' : List (Bytes × JsonValue)} {listed : List Label}
    (hkeys : (members.map Prod.fst).Nodup) (hperm : members.Perm shuffled)
    (hmembers : shuffled = labelMembers listed ↔ members' = labelMembers listed)
    (h : members' = labelMembers listed) :
    ∃ listed', members = labelMembers listed' ∧ listed'.length = listed.length
      ∧ sortLabels listed = sortLabels listed' := by
  rw [hmembers.2 h] at hperm
  obtain ⟨listed', heq, hlisted⟩ := exists_of_perm_map hperm
  have hkeys' : (listed'.map Label.key).Nodup := by
    rw [heq, List.map_map] at hkeys
    exact hkeys
  exact ⟨listed', heq, hlisted.length_eq, (sortLabels_eq hkeys' hlisted).symm⟩

/-- The labels an object describes do not depend on the order of its members. -/
theorem JsonValue.Alike.labels (h : v.Alike w) (labels : List Label) :
    v.Labels limits labels ↔ w.Labels limits labels := by
  cases h with
  | refl => exact Iff.rfl
  | array =>
    refine iff_of_false ?_ ?_
    · rintro ⟨listed, ⟨⟩, -⟩
    · rintro ⟨listed, ⟨⟩, -⟩
  | @object members shuffled members' hkeys hperm hmembers =>
    constructor
    · rintro ⟨listed, heq, hlength, rfl⟩
      obtain ⟨listed', hlisted, hlength', hsort⟩ := labels_shuffled ((hperm.map _).nodup_iff.1 hkeys)
        hperm.symm Iff.rfl (JsonValue.object.inj heq)
      exact ⟨listed', by rw [(hmembers.labels_iff listed').1 hlisted], hlength' ▸ hlength, hsort⟩
    · rintro ⟨listed, heq, hlength, rfl⟩
      obtain ⟨listed', hlisted, hlength', hsort⟩ := labels_shuffled hkeys hperm
        (hmembers.labels_iff listed) (JsonValue.object.inj heq)
      exact ⟨listed', by rw [hlisted], hlength' ▸ hlength, hsort⟩

/-- Targets that are alike are described by the same descriptor. -/
theorem JsonValue.Alike.describes (h : v.Alike w) (d : TargetDescriptor) :
    v.Describes limits d ↔ w.Describes limits d := by
  -- the labels are the one part that is read without its order
  have hlabels : (v.find (text "labels") = none ∧ d.labels = []
        ∨ ∃ member, v.find (text "labels") = some member ∧ member.Labels limits d.labels)
      ↔ (w.find (text "labels") = none ∧ d.labels = []
        ∨ ∃ member, w.find (text "labels") = some member ∧ member.Labels limits d.labels) := by
    rcases h.find_cases (text "labels") with ⟨hv, hw⟩ | ⟨member, member', hv, hw, hmember⟩
    · rw [hv, hw]
    · rw [hv, hw]
      have hsame : member.Labels limits d.labels ↔ member'.Labels limits d.labels :=
        hmember.labels d.labels
      simp [hsame]
  constructor
  · rintro ⟨hname, hnamed, hid, ⟨t, ht, hkind⟩, hsite, hpod, hrack, ⟨u, hu, hdomain⟩, hl⟩
    exact ⟨(h.find_string _ _).1 hname, hnamed, hid, ⟨t, (h.find_string _ _).1 ht, hkind⟩,
      (h.says_iff _ _).1 hsite, (h.says_iff _ _).1 hpod, (h.says_iff _ _).1 hrack,
      ⟨u, (h.find_string _ _).1 hu, hdomain⟩, hlabels.1 hl⟩
  · rintro ⟨hname, hnamed, hid, ⟨t, ht, hkind⟩, hsite, hpod, hrack, ⟨u, hu, hdomain⟩, hl⟩
    exact ⟨(h.find_string _ _).2 hname, hnamed, hid, ⟨t, (h.find_string _ _).2 ht, hkind⟩,
      (h.says_iff _ _).2 hsite, (h.says_iff _ _).2 hpod, (h.says_iff _ _).2 hrack,
      ⟨u, (h.find_string _ _).2 hu, hdomain⟩, hlabels.2 hl⟩

/-! ## Documents -/

theorem ItemsAlike.described {items items' : List JsonValue} (h : ItemsAlike items items')
    (ds : List TargetDescriptor) : List.Forall₂ (JsonValue.Describes limits) items ds
      ↔ List.Forall₂ (JsonValue.Describes limits) items' ds := by
  induction items generalizing items' ds with
  | nil =>
    cases h
    exact Iff.rfl
  | cons item rest ih =>
    cases h with
    | cons hitem hrest =>
      cases ds with
      | nil => simp
      | cons d ds => rw [List.forall₂_cons, List.forall₂_cons, hitem.describes, ih hrest]

theorem ItemsAlike.registers {items items' : List JsonValue} (h : ItemsAlike items items')
    (ds : List TargetDescriptor) (inventory : TargetInventory) :
    Registers limits items ds inventory ↔ Registers limits items' ds inventory := by
  constructor
  · intro hr
    exact { hr with described := (h.described ds).1 hr.described }
  · intro hr
    exact { hr with described := (h.described ds).2 hr.described }

theorem Registers.perm {items items' : List JsonValue} {ds : List TargetDescriptor}
    {inventory : TargetInventory} (h : Registers limits items ds inventory)
    (hperm : items.Perm items') : ∃ ds', Registers limits items' ds' inventory := by
  obtain ⟨ds', hds', hds⟩ := List.perm_comp_forall₂ hperm.symm h.described
  exact ⟨ds', hds', fun d hd => h.valid d (hds.mem_iff.1 hd), (hds.map _).nodup_iff.2 h.names,
    (hds.map _).nodup_iff.2 h.ids, hds.length_eq ▸ h.bounded, h.holds.trans hds.symm,
    hds.length_eq ▸ h.epoch⟩

namespace JsonValue

/-- An object whose targets are these, with other members before and behind. -/
def listing (before after : List (Bytes × JsonValue)) (items : List JsonValue) : JsonValue :=
  .object (before ++ (text "targets", .array items) :: after)

/-- The same document, but for the order of the members of its objects and of its targets. -/
def Reordered (v w : JsonValue) : Prop :=
  ∃ before after items items', (∀ member ∈ before, member.1 ≠ text "targets")
    ∧ v.Alike (listing before after items) ∧ items.Perm items' ∧ w = listing before after items'

theorem find_listing {before after : List (Bytes × JsonValue)} (items : List JsonValue)
    (hbefore : ∀ member ∈ before, member.1 ≠ text "targets") :
    (listing before after items).find (text "targets") = some (.array items) := by
  have hnone : (before.find? fun member => member.1 == text "targets") = none := by
    rw [List.find?_eq_none]
    exact fun member hmember => by simpa using hbefore member hmember
  rw [listing, find_object, List.find?_append, hnone]
  simp

theorem find_listing_ne {before after : List (Bytes × JsonValue)} (items items' : List JsonValue)
    {key : Bytes} (hkey : key ≠ text "targets") :
    (listing before after items).find key = (listing before after items').find key := by
  have hne : (text "targets" == key) = false := beq_eq_false_iff_ne.2 (Ne.symm hkey)
  rw [listing, listing, find_object, find_object, List.find?_append, List.find?_append,
    List.find?_cons, List.find?_cons]
  simp only [hne]

theorem Alike.describesInventory (h : v.Alike w) (inventory : TargetInventory) :
    v.DescribesInventory limits inventory ↔ w.DescribesInventory limits inventory := by
  have htargets : (∃ items ds, v.find (text "targets") = some (.array items)
        ∧ Registers limits items ds inventory)
      ↔ ∃ items ds, w.find (text "targets") = some (.array items)
        ∧ Registers limits items ds inventory := by
    rcases h.find_cases (text "targets") with ⟨hv, hw⟩ | ⟨member, member', hv, hw, hmember⟩
    · rw [hv, hw]
    · rw [hv, hw]
      cases hmember with
      | refl => exact Iff.rfl
      | array hitems =>
        constructor
        · rintro ⟨_, ds, ⟨⟩, hr⟩
          exact ⟨_, ds, rfl, (hitems.registers ds inventory).1 hr⟩
        · rintro ⟨_, ds, ⟨⟩, hr⟩
          exact ⟨_, ds, rfl, (hitems.registers ds inventory).2 hr⟩
      | object => simp
  constructor
  · rintro ⟨hkind, hversion, hall⟩
    exact ⟨(h.find_string _ _).1 hkind, (h.find_number _ _).1 hversion, htargets.1 hall⟩
  · rintro ⟨hkind, hversion, hall⟩
    exact ⟨(h.find_string _ _).2 hkind, (h.find_number _ _).2 hversion, htargets.2 hall⟩

theorem describesInventory_listing {before after : List (Bytes × JsonValue)}
    {items items' : List JsonValue} {inventory : TargetInventory}
    (hbefore : ∀ member ∈ before, member.1 ≠ text "targets") (hperm : items.Perm items')
    (h : (listing before after items).DescribesInventory limits inventory) :
    (listing before after items').DescribesInventory limits inventory := by
  obtain ⟨hkind, hversion, found, ds, hfound, hr⟩ := h
  rw [find_listing items hbefore] at hfound
  cases hfound
  obtain ⟨ds', hr'⟩ := hr.perm hperm
  refine ⟨?_, ?_, items', ds', find_listing items' hbefore, hr'⟩
  · rwa [find_listing_ne items' items (by decide)]
  · rwa [find_listing_ne items' items (by decide)]

theorem Reordered.describesInventory (h : v.Reordered w) (inventory : TargetInventory) :
    v.DescribesInventory limits inventory ↔ w.DescribesInventory limits inventory := by
  obtain ⟨before, after, items, items', hbefore, halike, hperm, rfl⟩ := h
  rw [halike.describesInventory]
  exact ⟨describesInventory_listing hbefore hperm, describesInventory_listing hbefore hperm.symm⟩

end JsonValue

/-- Neither the order of the members of its objects nor that of its targets is observable in an
inventory document: both orders load the same inventory, or both are refused. -/
theorem parseInventory_reordered {t t' : Bytes} {v v' : JsonValue}
    (h : parseJson t limits = .ok v) (h' : parseJson t' limits = .ok v') (hv : v.Reordered v')
    (inventory : TargetInventory) :
    parseInventory t limits = .ok inventory ↔ parseInventory t' limits = .ok inventory := by
  unfold parseInventory
  rw [h, h']
  show inventoryFromJson v limits = _ ↔ inventoryFromJson v' limits = _
  rw [inventoryFromJson_ok_iff, inventoryFromJson_ok_iff, hv.describesInventory]

/-! An inventory document of two targets. -/

def pairDocument (first second : Bytes) : Bytes :=
  text "\x7b\"kind\":\"rollout_fabric.inventory\",\"schema_version\":1,\"targets\":[" ++ first
    ++ text "," ++ second ++ text "]\x7d"

def pairFirst : Bytes :=
  text "\x7b\"name\":\"a\",\"kind\":\"switch\",\"failure_domain\":\"d\"\x7d"

def pairSecond : Bytes :=
  text "\x7b\"failure_domain\":\"e\",\"name\":\"b\",\"kind\":\"rack\"\x7d"

def pairBefore : List (Bytes × JsonValue) :=
  [(text "kind", .string kInventoryKind), (text "schema_version", .number 1)]

def pairItems : List JsonValue :=
  [.object [(text "name", .string (text "a")), (text "kind", .string (text "switch")),
    (text "failure_domain", .string (text "d"))],
   .object [(text "failure_domain", .string (text "e")), (text "name", .string (text "b")),
    (text "kind", .string (text "rack"))]]

set_option maxRecDepth 8000 in
theorem pairDocument_reordered : ∃ inventory,
    parseInventory (pairDocument pairFirst pairSecond) {} = .ok inventory
      ∧ parseInventory (pairDocument pairSecond pairFirst) {} = .ok inventory := by
  have hfirst : parseJson (pairDocument pairFirst pairSecond) {}
      = .ok (JsonValue.listing pairBefore [] pairItems) := rfl
  have hsecond : parseJson (pairDocument pairSecond pairFirst) {}
      = .ok (JsonValue.listing pairBefore [] pairItems.reverse) := rfl
  have hreordered : (JsonValue.listing pairBefore [] pairItems).Reordered
      (JsonValue.listing pairBefore [] pairItems.reverse) :=
    ⟨pairBefore, [], pairItems, pairItems.reverse, by decide, .refl _, (List.reverse_perm _).symm, rfl⟩
  have haccepted : (parseInventory (pairDocument pairFirst pairSecond) {}).isOk = true := by
    decide +kernel
  cases h : parseInventory (pairDocument pairFirst pairSecond) {} with
  | error e =>
    rw [h] at haccepted
    cases haccepted
  | ok inventory =>
    exact ⟨inventory, rfl, (parseInventory_reordered hfirst hsecond hreordered inventory).1 h⟩

end RolloutFabric
