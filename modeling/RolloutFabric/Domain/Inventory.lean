/-
The inventory as it is stored: the sorted vector, the hash index of positions and the epoch,
over every sequence of `add` and `remove`. The store refines `TargetInventory`, and what is
computed from an inventory depends on the set of its descriptors only.
-/
import RolloutFabric.Domain.RoundTrip

namespace RolloutFabric

/-! ## The store -/

/-- `TargetInventory` with its index. -/
structure InventoryStore where
  targets : List TargetDescriptor := []
  index : AList fun _ : TargetId => Nat := ∅
  epoch : UInt64 := 0

namespace InventoryStore

/-- `std::unordered_map::emplace`: a key that is there keeps its value. -/
def emplace (index : AList fun _ : TargetId => Nat) (id : TargetId) (position : Nat) :
    AList fun _ : TargetId => Nat :=
  if (index.lookup id).isSome then index else index.insert id position

/-- `reindex`: the index is rebuilt from the vector. -/
def reindex (targets : List TargetDescriptor) : AList fun _ : TargetId => Nat :=
  targets.zipIdx.foldl (fun index entry => emplace index entry.1.id entry.2) ∅

/-- `add`. -/
def add (s : InventoryStore) (descriptor : TargetDescriptor) (limits : RuntimeLimits) :
    Status × InventoryStore :=
  let status := descriptor.validate limits
  let found := TargetInventory.lowerBound s.targets descriptor.id
  if !status.isOk then (status, s)
  else if found.head?.any fun entry => entry.id == descriptor.id then
    (makeStatus .alreadyExists
      (text "target " ++ descriptor.id.toHex ++ text " is already registered"), s)
  else if limits.maxTotalTargets.toNat ≤ s.targets.length then
    (makeStatus .limitExceeded (text "inventory holds " ++ toStringNat s.targets.length
      ++ text " targets, at max_total_targets"), s)
  else
    let targets := TargetInventory.before s.targets descriptor.id ++ descriptor :: found
    (.success, { targets, index := reindex targets, epoch := s.epoch + 1 })

/-- `remove`. -/
def remove (s : InventoryStore) (id : TargetId) : Status × InventoryStore :=
  let found := TargetInventory.lowerBound s.targets id
  if found.head?.any fun entry => entry.id == id then
    let targets := TargetInventory.before s.targets id ++ found.tail
    (.success, { targets, index := reindex targets, epoch := s.epoch + 1 })
  else (makeStatus .notFound (text "target " ++ id.toHex ++ text " is not registered"), s)

/-- `find`: through the index. -/
def find (s : InventoryStore) (id : TargetId) : Option TargetDescriptor :=
  match s.index.lookup id with
  | none => none
  | some position => s.targets[position]?

end InventoryStore

/-- A call on the inventory. -/
inductive InventoryCall
  | add (descriptor : TargetDescriptor)
  | remove (id : TargetId)

namespace InventoryStore

variable {s : InventoryStore} {limits : RuntimeLimits}

def call (limits : RuntimeLimits) (s : InventoryStore) : InventoryCall → Status × InventoryStore
  | .add descriptor => s.add descriptor limits
  | .remove id => s.remove id

/-- The store after a sequence of calls, successful or not. -/
def run (limits : RuntimeLimits) (calls : List InventoryCall) : InventoryStore :=
  calls.foldl (fun s c => (s.call limits c).2) {}

theorem run_concat (calls : List InventoryCall) (c : InventoryCall) :
    run limits (calls ++ [c]) = ((run limits calls).call limits c).2 := by
  simp [run]

/-! ## The index -/

theorem reindex_concat (targets : List TargetDescriptor) (d : TargetDescriptor) :
    reindex (targets ++ [d]) = emplace (reindex targets) d.id targets.length := by
  simp [reindex, List.zipIdx_append]

/-- The index holds the position of every target. -/
theorem lookup_reindex {targets : List TargetDescriptor}
    (h : (targets.map TargetDescriptor.id).Nodup) (id : TargetId) :
    (reindex targets).lookup id = targets.findIdx? fun entry => entry.id == id := by
  induction targets using List.reverseRecOn generalizing id with
  | nil => rfl
  | append_singleton targets d ih =>
    rw [List.map_append, List.nodup_append] at h
    obtain ⟨hnodup, -, hnew⟩ := h
    have hfresh : targets.findIdx? (fun entry => entry.id == d.id) = none := by
      rw [List.findIdx?_eq_none_iff]
      intro entry hentry
      rw [beq_eq_false_iff_ne]
      exact hnew _ (List.mem_map_of_mem hentry) _ (List.mem_singleton_self _)
    have hemplace : emplace (reindex targets) d.id targets.length
        = (reindex targets).insert d.id targets.length := by
      unfold emplace
      rw [ih hnodup, hfresh]
      rfl
    rw [reindex_concat, hemplace, List.findIdx?_append]
    by_cases hid : id = d.id
    · subst hid
      rw [AList.lookup_insert, hfresh]
      simp
    · rw [AList.lookup_insert_ne hid, ih hnodup]
      have hne : (d.id == id) = false := beq_eq_false_iff_ne.2 (Ne.symm hid)
      simp [hne]

/-! ## What is stored -/

/-- The store holds the inventory: the same targets, and an index that is in step with them. -/
structure Stores (s : InventoryStore) (inventory : TargetInventory) : Prop where
  targets : s.targets = inventory.targets
  index : s.index = reindex inventory.targets
  epoch : s.epoch = inventory.epoch

theorem stores_empty : Stores {} {} := ⟨rfl, rfl, rfl⟩

theorem Stores.find {inventory : TargetInventory} (h : s.Stores inventory) (id : TargetId) :
    s.find id = inventory.find id := by
  have hnodup : (inventory.targets.map TargetDescriptor.id).Nodup :=
    inventory.sorted.imp fun h => h.ne
  unfold InventoryStore.find TargetInventory.find
  rw [h.index, lookup_reindex hnodup, h.targets, List.find?_eq_bind_findIdx?_getElem?]
  cases inventory.targets.findIdx? fun entry => entry.id == id <;> rfl

end InventoryStore

namespace TargetInventory

/-- The call on the inventory without its index. -/
def call (limits : RuntimeLimits) (self : TargetInventory) : InventoryCall → Result TargetInventory
  | .add descriptor => self.add descriptor limits
  | .remove id => self.remove id

/-- The inventory after a sequence of calls: a refused one leaves it as it was. -/
def run (limits : RuntimeLimits) (calls : List InventoryCall) : TargetInventory :=
  calls.foldl (fun self c => (self.call limits c).toOption.getD self) {}

end TargetInventory

namespace InventoryStore

variable {s : InventoryStore} {limits : RuntimeLimits} {inventory : TargetInventory}

/-- How a call ends: the inventory takes it and the store follows, or neither is changed. -/
inductive Ends (limits : RuntimeLimits) (s : InventoryStore) (inventory : TargetInventory)
    (c : InventoryCall) : Status × InventoryStore → Prop
  | done {s' : InventoryStore} {inventory' : TargetInventory}
      (taken : inventory.call limits c = .ok inventory') (stores : s'.Stores inventory') :
      Ends limits s inventory c (.success, s')
  | refused {status : Status} (refused : inventory.call limits c = .error status)
      (failed : status.isOk = false) : Ends limits s inventory c (status, s)

theorem any_head_iff (targets : List TargetDescriptor) (id : TargetId) :
    (targets.head?.any fun entry => entry.id == id) = true
      ↔ ¬ ∀ entry ∈ targets.head?, entry.id ≠ id := by
  cases targets with
  | nil => simp
  | cons entry rest => simp

theorem Stores.call (h : s.Stores inventory) (c : InventoryCall) :
    Ends limits s inventory c (s.call limits c) := by
  cases c with
  | add d =>
    show Ends limits s inventory (.add d) (s.add d limits)
    unfold add
    dsimp only
    split
    · next hinvalid =>
      rw [Bool.not_eq_true'] at hinvalid
      -- the descriptor is checked before the inventory is searched
      refine .refused ?_ hinvalid
      show inventory.add d limits = _
      unfold TargetInventory.add
      simp [hinvalid]
    next hvalid =>
    rw [h.targets]
    split
    · next hpresent =>
      refine .refused ?_ rfl
      show inventory.add d limits = _
      unfold TargetInventory.add
      dsimp only
      rw [if_neg hvalid, dif_neg ((any_head_iff _ _).1 hpresent)]
    next habsent =>
    have hnew := not_not.1 (mt (any_head_iff _ _).2 habsent)
    split
    · next hfull =>
      refine .refused ?_ rfl
      show inventory.add d limits = _
      unfold TargetInventory.add
      dsimp only
      rw [if_neg hvalid, dif_pos hnew, if_pos hfull]
    · next hroom =>
      have htaken : inventory.call limits (.add d) = .ok {
          targets := TargetInventory.before inventory.targets d.id
            ++ d :: TargetInventory.lowerBound inventory.targets d.id
          epoch := inventory.epoch + 1
          sorted := TargetInventory.sorted_insert inventory.sorted hnew } := by
        show inventory.add d limits = _
        unfold TargetInventory.add
        dsimp only
        rw [if_neg hvalid, dif_pos hnew, if_neg hroom]
      exact .done htaken ⟨rfl, rfl, by rw [h.epoch]⟩
  | remove id =>
    show Ends limits s inventory (.remove id) (s.remove id)
    unfold remove
    dsimp only
    rw [h.targets]
    split
    · next hpresent =>
      have htaken : inventory.call limits (.remove id) = .ok {
          targets := TargetInventory.before inventory.targets id
            ++ (TargetInventory.lowerBound inventory.targets id).tail
          epoch := inventory.epoch + 1
          sorted := TargetInventory.sorted_remove id inventory.sorted } := by
        show inventory.remove id = _
        unfold TargetInventory.remove
        rw [if_pos hpresent]
      exact .done htaken ⟨rfl, rfl, by rw [h.epoch]⟩
    · next habsent =>
      refine .refused ?_ rfl
      show inventory.remove id = _
      unfold TargetInventory.remove
      rw [if_neg habsent]

/-- Every run of calls ends in a store that holds the inventory of the same run. -/
theorem run_stores (limits : RuntimeLimits) (calls : List InventoryCall) :
    (run limits calls).Stores (TargetInventory.run limits calls) := by
  induction calls using List.reverseRecOn with
  | nil => exact stores_empty
  | append_singleton calls c ih =>
    rw [run_concat, TargetInventory.run, List.foldl_append, ← TargetInventory.run]
    show Stores _ (((TargetInventory.run limits calls).call limits c).toOption.getD _)
    rcases hcall : (run limits calls).call limits c with ⟨status, s'⟩
    have hends := @Stores.call _ limits _ ih c
    rw [hcall] at hends
    cases hends with
    | done htaken hstores =>
      rw [htaken]
      exact hstores
    | refused hrefused hfailed =>
      rw [hrefused]
      exact ih

end InventoryStore

/-! ## The inventory as a map -/

namespace TargetInventory

variable {limits : RuntimeLimits} {inventory inventory' : TargetInventory}

theorem find_eq_some_iff {id : TargetId} {d : TargetDescriptor} :
    inventory.find id = some d ↔ d ∈ inventory.targets ∧ d.id = id := by
  unfold find
  constructor
  · intro h
    exact ⟨List.mem_of_find?_eq_some h, by simpa using List.find?_some h⟩
  · rintro ⟨hmem, rfl⟩
    cases hfind : inventory.targets.find? fun entry => entry.id == d.id with
    | none =>
      have := List.find?_eq_none.1 hfind d hmem
      simp at this
    | some entry =>
      have hnodup : (inventory.targets.map TargetDescriptor.id).Nodup :=
        inventory.sorted.imp fun h => h.ne
      have hid : entry.id = d.id := by simpa using List.find?_some hfind
      rw [List.inj_on_of_nodup_map hnodup (List.mem_of_find?_eq_some hfind) hmem hid]

/-- What an accepted `add` leaves. -/
theorem find_add {d : TargetDescriptor} (h : inventory.add d limits = .ok inventory') :
    inventory'.find = Function.update inventory.find d.id (some d) := by
  have htargets : inventory'.targets = before inventory.targets d.id
      ++ d :: lowerBound inventory.targets d.id := by
    unfold add at h
    dsimp only at h
    split at h
    · cases h
    split at h
    · split at h
      · cases h
      · cases h
        rfl
    · cases h
  have hmem (x : TargetDescriptor) : x ∈ inventory'.targets ↔ x = d ∨ x ∈ inventory.targets := by
    conv_rhs => rw [← before_append_lowerBound inventory.targets d.id]
    rw [htargets, List.mem_append, List.mem_cons, List.mem_append]
    tauto
  have hnodup : (inventory'.targets.map TargetDescriptor.id).Nodup :=
    inventory'.sorted.imp fun h => h.ne
  funext id
  refine Option.ext fun x => ?_
  rw [Function.update_apply, find_eq_some_iff, hmem]
  split
  · next hid =>
    subst hid
    constructor
    · rintro ⟨rfl | hx, hid⟩
      · rfl
      · rw [List.inj_on_of_nodup_map hnodup ((hmem x).2 (.inr hx)) ((hmem d).2 (.inl rfl)) hid]
    · intro hx
      cases hx
      exact ⟨.inl rfl, rfl⟩
  · next hid =>
    rw [find_eq_some_iff]
    constructor
    · rintro ⟨rfl | hx, rfl⟩
      · exact absurd rfl hid
      · exact ⟨hx, rfl⟩
    · rintro ⟨hx, rfl⟩
      exact ⟨.inr hx, rfl⟩

/-- What an accepted `remove` leaves. -/
theorem find_remove {id : TargetId} (h : inventory.remove id = .ok inventory') :
    inventory'.find = Function.update inventory.find id none := by
  unfold remove at h
  split at h
  · next hpresent =>
    cases hlower : lowerBound inventory.targets id with
    | nil =>
      rw [hlower] at hpresent
      cases hpresent
    | cons entry rest =>
      rw [hlower] at hpresent
      -- the entry that goes is the one of the identifier, and it is the only one
      have hid : entry.id = id := by simpa using hpresent
      have hsplit : inventory.targets = before inventory.targets id ++ entry :: rest := by
        rw [← hlower, before_append_lowerBound]
      have htargets : inventory'.targets = before inventory.targets id ++ rest := by
        cases h
        show before inventory.targets id ++ (lowerBound inventory.targets id).tail = _
        rw [hlower]
        rfl
      have hnodup : (inventory.targets.map TargetDescriptor.id).Nodup :=
        inventory.sorted.imp fun h => h.ne
      have hother : ∀ x ∈ inventory'.targets, x.id ≠ id := by
        rw [hsplit, List.map_append, List.map_cons, List.nodup_middle, List.nodup_cons] at hnodup
        intro x hx heq
        rw [htargets] at hx
        refine hnodup.1 ?_
        rw [← List.map_append, hid]
        exact List.mem_map.2 ⟨x, hx, heq⟩
      have hmem (x : TargetDescriptor) :
          x ∈ inventory'.targets ↔ x ∈ inventory.targets ∧ x.id ≠ id := by
        constructor
        · intro hx
          refine ⟨?_, hother x hx⟩
          rw [hsplit]
          rw [htargets] at hx
          rcases List.mem_append.1 hx with hx | hx
          · exact List.mem_append_left _ hx
          · exact List.mem_append_right _ (List.mem_cons_of_mem _ hx)
        · rintro ⟨hx, hne⟩
          rw [hsplit] at hx
          rw [htargets]
          rcases List.mem_append.1 hx with hx | hx
          · exact List.mem_append_left _ hx
          · rcases List.mem_cons.1 hx with rfl | hx
            · exact absurd hid hne
            · exact List.mem_append_right _ hx
      funext id'
      refine Option.ext fun x => ?_
      rw [Function.update_apply, find_eq_some_iff, hmem]
      split
      · next heq =>
        subst heq
        simp
      · next hne =>
        rw [find_eq_some_iff]
        constructor
        · rintro ⟨⟨hx, -⟩, hid'⟩
          exact ⟨hx, hid'⟩
        · rintro ⟨hx, rfl⟩
          exact ⟨⟨hx, hne⟩, rfl⟩
  · cases h

end TargetInventory

namespace InventoryStore

variable {limits : RuntimeLimits}

/-- The calls with their outcomes. -/
def outcomes (limits : RuntimeLimits) (s : InventoryStore) :
    List InventoryCall → List (InventoryCall × Bool)
  | [] => []
  | c :: calls => (c, (s.call limits c).1.isOk) :: outcomes limits (s.call limits c).2 calls

/-- What is registered under each identifier after the calls: the last descriptor whose `add`
succeeded, unless a `remove` succeeded after it. -/
def registered (calls : List (InventoryCall × Bool)) : TargetId → Option TargetDescriptor :=
  calls.foldl (fun found c => match c with
    | (.add d, true) => Function.update found d.id (some d)
    | (.remove id, true) => Function.update found id none
    | (_, false) => found) fun _ => none

theorem outcomes_append (s : InventoryStore) (calls calls' : List InventoryCall) :
    outcomes limits s (calls ++ calls') = outcomes limits s calls
      ++ outcomes limits (calls.foldl (fun s c => (s.call limits c).2) s) calls' := by
  induction calls generalizing s with
  | nil => rfl
  | cons c calls ih =>
    rw [List.cons_append, outcomes, ih]
    rfl

/-- `find` returns what the calls have registered. -/
theorem find_run (limits : RuntimeLimits) (calls : List InventoryCall) :
    (run limits calls).find = registered (outcomes limits {} calls) := by
  induction calls using List.reverseRecOn with
  | nil => rfl
  | append_singleton calls c ih =>
    have h := run_stores limits calls
    have hfind : (run limits calls).find = (TargetInventory.run limits calls).find := funext h.find
    rw [run_concat, outcomes_append, registered, List.foldl_append, ← registered, ← ih]
    show _ = (match (c, ((run limits calls).call limits c).1.isOk) with
      | (.add d, true) => Function.update (run limits calls).find d.id (some d)
      | (.remove id, true) => Function.update (run limits calls).find id none
      | (_, false) => (run limits calls).find)
    have hends := @Stores.call _ limits _ h c
    revert hends
    generalize (run limits calls).call limits c = result
    intro hends
    cases hends with
    | done htaken hstores =>
      rw [hfind, show InventoryStore.find _ = _ from funext hstores.find]
      cases c with
      | add d => exact TargetInventory.find_add htaken
      | remove id => exact TargetInventory.find_remove htaken
    | refused hrefused hfailed =>
      dsimp only
      rw [hfailed]
      cases c <;> rfl

end InventoryStore

end RolloutFabric
