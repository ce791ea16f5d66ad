/-
The execution order is canonical. The worklist takes, of the stages that wait for nothing, the
least by ordinal and identifier; it takes all of them exactly when the predecessors have no cycle,
and neither the order of declaration nor a predecessor named twice plays a part.
-/
import RolloutFabric.Domain.Order
import RolloutFabric.Lib.LeastFirst

namespace RolloutFabric

open Topological

namespace ChangePlan

/-! ## Sorting the ready stages -/

/-- The key of the stage at a position. -/
def rankAt (stages : List StageSpec) (s : Nat) : ℕ ×ₗ StageId :=
  toLex ((stages.getD s default).ordinal.toNat, (stages.getD s default).id)

theorem orderLess_iff {stages : List StageSpec} {a b : Nat} :
    orderLess stages a b = true ↔ rankAt stages a < rankAt stages b := by
  unfold orderLess rankAt
  generalize stages.getD a default = l
  generalize stages.getD b default = r
  rw [Prod.Lex.toLex_lt_toLex]
  dsimp only
  split
  · next hne =>
    have hne' : l.ordinal.toNat ≠ r.ordinal.toNat := fun h => hne (UInt32.toNat_inj.1 h)
    simp [UInt32.lt_iff_toNat_lt, hne']
  · next heq =>
    rw [not_not.1 heq]
    simp

theorem rankAt_injOn {stages : List StageSpec} (h : (stages.map StageSpec.id).Nodup) {a b : Nat}
    (ha : a < stages.length) (hb : b < stages.length) (hrank : rankAt stages a = rankAt stages b) :
    a = b := by
  have hid : (stages.getD a default).id = (stages.getD b default).id :=
    congrArg (fun x => (ofLex x).2) hrank
  refine (@List.Nodup.getElem_inj_iff _ _ h a (by simpa using ha) b (by simpa using hb)).1 ?_
  simpa [ha, hb] using hid

theorem sortReady_pairwise {stages : List StageSpec} {ready : List Nat}
    (hids : (stages.map StageSpec.id).Nodup) (hnodup : ready.Nodup)
    (hready : ∀ s ∈ ready, s < stages.length) :
    (sortReady stages ready).Pairwise fun a b => rankAt stages a < rankAt stages b := by
  have hsorted : (sortReady stages ready).Pairwise fun a b => orderLess stages a b = true := by
    refine pairwise_insertionSort (fun a b c => ?_) hnodup fun a ha b hb hne => ?_
    · rw [orderLess_iff, orderLess_iff, orderLess_iff]
      exact lt_trans
    · rw [orderLess_iff, orderLess_iff]
      exact lt_or_gt_of_ne fun heq => hne (rankAt_injOn hids (hready a ha) (hready b hb) heq)
  exact hsorted.imp orderLess_iff.1

/-! ## The worklist is exact -/

/-- Every stage left waits for exactly its entries, and a stage that waits for none is ready. -/
structure Tight (occurs : Nat → Nat → Nat) (left : Finset Nat)
    (pending indegree ready : List Nat) : Prop where
  waits : ∀ s ∈ left, indegree.getD s 0 = ∑ f ∈ left, occurs f s + pending.count s
  full : ∀ s ∈ left, indegree.getD s 0 = 0 → s ∈ ready

variable {occurs : Nat → Nat → Nat} {left : Finset Nat} {pending indegree ready : List Nat}

theorem Tight.next {s : Nat} (h : Tight occurs left (s :: pending) indegree ready) :
    Tight occurs left pending (indegree.modify s (· - 1))
      (if (indegree.modify s (· - 1)).getD s 0 = 0 then ready ++ [s] else ready) := by
  have hself : (indegree.modify s (· - 1)).getD s 0 = indegree.getD s 0 - 1 := by
    simp only [List.getD_eq_getElem?_getD, List.getElem?_modify, if_true]
    cases indegree[s]? <;> simp
  have hother (x : Nat) (hx : x ≠ s) : (indegree.modify s (· - 1)).getD x 0 = indegree.getD x 0 := by
    simp [List.getD_eq_getElem?_getD, Ne.symm hx]
  constructor
  · intro x hx
    have hwaits := h.waits x hx
    by_cases hxs : x = s
    · subst hxs
      rw [List.count_cons_self] at hwaits
      omega
    · rw [List.count_cons_of_ne (Ne.symm hxs)] at hwaits
      rw [hother x hxs]
      exact hwaits
  · intro x hx hzero
    by_cases hxs : x = s
    · subst hxs
      rw [if_pos hzero]
      exact List.mem_append_right _ (List.mem_singleton_self x)
    · rw [hother x hxs] at hzero
      have hready := h.full x hx hzero
      split
      · exact List.mem_append_left _ hready
      · exact hready

theorem Tight.release (h : Tight occurs left pending indegree ready) :
    Tight occurs left [] (release pending indegree ready).1 (release pending indegree ready).2 := by
  induction pending generalizing indegree ready with
  | nil => exact h
  | cons s pending ih => exact ih h.next

theorem Tight.sorted (h : Tight occurs left pending indegree ready) (stages : List StageSpec) :
    Tight occurs left pending indegree (sortReady stages ready) := by
  have hperm : (sortReady stages ready).Perm ready := List.perm_insertionSort ..
  exact ⟨h.waits, fun s hs hzero => hperm.mem_iff.2 (h.full s hs hzero)⟩

theorem Tight.take {stages : List StageSpec} {current : Nat} (hcurrent : current ∈ left)
    (h : Tight (fun f s => (successors stages f).count s) left [] indegree (current :: ready)) :
    Tight (fun f s => (successors stages f).count s) (left.erase current)
      (successors stages current) indegree ready := by
  constructor
  · intro s hs
    have hwaits := h.waits s (Finset.mem_of_mem_erase hs)
    rw [← Finset.add_sum_erase left _ hcurrent, List.count_nil] at hwaits
    omega
  · intro s hs hzero
    exact (List.mem_cons.1 (h.full s (Finset.mem_of_mem_erase hs) hzero)).resolve_left
      (Finset.ne_of_mem_erase hs)

/-! ## The loop takes the least ready stage -/

/-- The stage at `a` names the one at `b`. -/
def NeedsAt (stages : List StageSpec) (a b : Nat) : Prop := 0 < (successors stages b).count a

theorem ready_iff {stages : List StageSpec} {s : Nat}
    (h : Worklist (fun f s => (successors stages f).count s) left [] indegree ready)
    (ht : Tight (fun f s => (successors stages f).count s) left [] indegree ready) :
    s ∈ ready ↔ Ready (NeedsAt stages) left s := by
  constructor
  · intro hs
    have hleft := h.mem s hs
    have hwaits := ht.waits s hleft
    rw [h.done s (.inl hs), List.count_nil, Nat.add_zero] at hwaits
    refine ⟨hleft, fun f hf hneeds => ?_⟩
    exact Nat.ne_of_gt hneeds ((Finset.sum_eq_zero_iff.1 hwaits.symm) f hf)
  · rintro ⟨hleft, hnone⟩
    refine ht.full s hleft ?_
    rw [ht.waits s hleft, List.count_nil, Nat.add_zero]
    exact Finset.sum_eq_zero fun f hf => Nat.eq_zero_of_not_pos (hnone f hf)

theorem emitOrder_leastFirst {stages : List StageSpec} (hids : (stages.map StageSpec.id).Nodup)
    (fuel : Nat) (hfuel : left.card ≤ fuel) (hleft : ∀ s ∈ left, s < stages.length)
    (h : Worklist (fun f s => (successors stages f).count s) left [] indegree ready)
    (ht : Tight (fun f s => (successors stages f).count s) left [] indegree ready)
    (hsorted : ready.Pairwise fun a b => rankAt stages a < rankAt stages b) :
    ∃ l, emitOrder stages fuel indegree ready = l.map (fun s => (stages.getD s default).id)
      ∧ LeastFirst (NeedsAt stages) (rankAt stages) left l := by
  induction fuel generalizing left indegree ready with
  | zero =>
    have hempty := Finset.card_eq_zero.1 (Nat.le_zero.1 hfuel)
    refine ⟨[], rfl, .stuck fun a ha => ?_⟩
    rw [hempty] at ha
    exact absurd ha.1 (Finset.notMem_empty a)
  | succ fuel ih =>
    cases ready with
    | nil => exact ⟨[], rfl, .stuck fun a ha => by simpa using (ready_iff h ht).2 ha⟩
    | cons current ready =>
      have hcurrent := h.mem current (List.mem_cons_self ..)
      have hcard := Finset.card_erase_of_mem hcurrent
      have hpos := Finset.card_pos.2 ⟨current, hcurrent⟩
      have hless : ∀ s ∈ left.erase current, s < stages.length := fun s hs =>
        hleft s (Finset.mem_of_mem_erase hs)
      have hnext := h.take.release
      have hready := sortReady_pairwise hids hnext.nodup fun s hs => hless s (hnext.mem s hs)
      obtain ⟨l, heq, hl⟩ := ih (by omega) hless (hnext.sorted stages)
        ((ht.take hcurrent).release.sorted stages) hready
      refine ⟨current :: l, ?_, .take ((ready_iff h ht).1 (List.mem_cons_self ..)) ?_ hl⟩
      · rw [List.map_cons, ← heq]
        rfl
      · intro b hb
        rcases List.mem_cons.1 ((ready_iff h ht).2 hb) with rfl | hin
        · exact le_rfl
        · exact le_of_lt ((List.pairwise_cons.1 hsorted).1 b hin)

/-! ## The order of a list of stages -/

/-- The stage `a` names `b` as a predecessor. -/
def Needs (stages : List StageSpec) (a b : StageId) : Prop :=
  ∃ s ∈ stages, s.id = a ∧ b ∈ s.predecessors

/-- Lowest ordinal first, then the identifier. -/
def rank (stages : List StageSpec) (id : StageId) : ℕ ×ₗ StageId :=
  toLex (((stages.find? fun s => s.id == id).getD default).ordinal.toNat, id)

theorem rank_injective (stages : List StageSpec) : Function.Injective (rank stages) :=
  fun _ _ h => congrArg (fun x => (ofLex x).2) h

theorem find_getD {stages : List StageSpec} (hids : (stages.map StageSpec.id).Nodup) {a : Nat}
    (ha : a < stages.length) :
    stages.find? (fun s => s.id == (stages.getD a default).id) = some (stages.getD a default) := by
  have hget : stages.getD a default = stages[a] := by simp [ha]
  rw [hget]
  cases hfind : stages.find? fun s => s.id == stages[a].id with
  | none =>
    have := List.find?_eq_none.1 hfind _ (List.getElem_mem ha)
    simp at this
  | some s =>
    have hid : s.id = stages[a].id := by simpa using List.find?_some hfind
    rw [List.inj_on_of_nodup_map hids (List.mem_of_find?_eq_some hfind) (List.getElem_mem ha) hid]

/-- The position of an identifier and the identifier at a position. -/
theorem position_eq_iff {stages : List StageSpec} (hids : (stages.map StageSpec.id).Nodup) {b : Nat}
    (hb : b < stages.length) {id : StageId} :
    position (stages.map StageSpec.id) id = b ↔ id = (stages.getD b default).id := by
  have hlen : b < (stages.map StageSpec.id).length := by simpa using hb
  have hget : (stages.getD b default).id = (stages.map StageSpec.id)[b] := by simp [hb]
  unfold position
  rw [hget]
  constructor
  · intro h
    have hlt : List.idxOf id (stages.map StageSpec.id) < (stages.map StageSpec.id).length := by
      rw [h]
      simpa using hb
    have := List.getElem_idxOf hlt
    simp only [h] at this
    exact this.symm
  · rintro rfl
    exact hids.idxOf_getElem _ _

theorem needs_getD_iff {stages : List StageSpec} (hids : (stages.map StageSpec.id).Nodup) {a b : Nat}
    (ha : a < stages.length) (hb : b < stages.length) :
    Needs stages (stages.getD a default).id (stages.getD b default).id ↔ NeedsAt stages a b := by
  unfold NeedsAt
  rw [count_successors, List.length_pos_iff_exists_mem]
  simp only [List.mem_filter, decide_eq_true_eq, position_eq_iff hids hb]
  have hmem : stages.getD a default ∈ stages := by simp [ha]
  constructor
  · rintro ⟨s, hs, hid, hp⟩
    rw [List.inj_on_of_nodup_map hids hs hmem hid] at hp
    exact ⟨_, hp, rfl⟩
  · rintro ⟨p, hp, rfl⟩
    exact ⟨_, hmem, rfl, hp⟩

theorem Tight.start {stages : List StageSpec}
    (hdeclared : ∀ s ∈ stages, ∀ p ∈ s.predecessors, p ∈ stages.map StageSpec.id) :
    Tight (fun f s => (successors stages f).count s) (Finset.range stages.length) []
      (stages.map fun stage => stage.predecessors.length)
      ((List.range stages.length).filter fun index =>
        (stages.map fun stage => stage.predecessors.length).getD index 0 = 0) := by
  constructor
  · intro s hs
    have hs := Finset.mem_range.1 hs
    have hmem : stages.getD s default ∈ stages := by simp [hs]
    rw [List.count_nil, Nat.add_zero, sum_count_successors, List.filter_eq_self.2 fun p hp => ?_]
    · simp [hs]
    · have hlt := List.idxOf_lt_length_iff.2 (hdeclared _ hmem p hp)
      rw [List.length_map] at hlt
      exact decide_eq_true hlt
  · intro s hs hzero
    exact List.mem_filter.2 ⟨List.mem_range.2 (Finset.mem_range.1 hs), decide_eq_true hzero⟩

/-- Of stages with distinct identifiers that name declared predecessors only, the order takes the
least of those ready, again and again. -/
theorem computeOrder_leastFirst {stages : List StageSpec} (hids : (stages.map StageSpec.id).Nodup)
    (hdeclared : ∀ s ∈ stages, ∀ p ∈ s.predecessors, p ∈ stages.map StageSpec.id) :
    LeastFirst (Needs stages) (rank stages) (stages.map StageSpec.id).toFinset
      (computeOrder stages) := by
  have hstart := Worklist.start stages
  have hrange : ∀ s ∈ Finset.range stages.length, s < stages.length :=
    fun s => Finset.mem_range.1
  have hready := sortReady_pairwise hids hstart.nodup fun s hs => hrange s (hstart.mem s hs)
  obtain ⟨l, heq, hl⟩ := emitOrder_leastFirst hids stages.length (by simp) hrange
    (hstart.sorted stages) ((Tight.start hdeclared).sorted stages) hready
  have himage : (stages.map StageSpec.id).toFinset
      = (Finset.range stages.length).image fun s => (stages.getD s default).id := by
    ext id
    simp only [List.mem_toFinset, Finset.mem_image, Finset.mem_range, List.mem_map]
    constructor
    · rintro ⟨s, hs, rfl⟩
      obtain ⟨i, hi, rfl⟩ := List.getElem_of_mem hs
      exact ⟨i, hi, by simp [hi]⟩
    · rintro ⟨i, hi, rfl⟩
      exact ⟨_, by simp [hi], rfl⟩
  rw [himage]
  show LeastFirst _ _ _ (emitOrder stages stages.length _ _)
  rw [heq]
  refine hl.image (fun a ha b hb h => ?_) (fun a ha b hb => ?_) fun a ha => ?_
  · have ha := Finset.mem_range.1 (Finset.mem_coe.1 ha)
    have hb := Finset.mem_range.1 (Finset.mem_coe.1 hb)
    refine (@List.Nodup.getElem_inj_iff _ _ hids a (by simpa using ha) b (by simpa using hb)).1 ?_
    simpa [ha, hb] using h
  · exact needs_getD_iff hids (hrange a ha) (hrange b hb)
  · unfold rank rankAt
    rw [find_getD hids (hrange a ha)]
    rfl

/-! ## Validation -/

/-- The stages can be ordered. -/
structure Orderable (stages : List StageSpec) : Prop where
  distinct : (stages.map StageSpec.id).Nodup
  declared : ∀ s ∈ stages, ∀ p ∈ s.predecessors, p ∈ stages.map StageSpec.id
  acyclic : ∀ id, ¬ Relation.TransGen (Needs stages) id id

/-- All that validation asks of a plan apart from the order: its own fields and each stage. -/
structure Headed (limits : RuntimeLimits) (p : ChangePlan) : Prop where
  id : p.id.isNil = false
  some : p.stages ≠ []
  bounded : p.stages.length ≤ limits.maxStagesPerPlan.toNat
  changeId : p.changeId ≠ []
  sourceDigest : p.sourceDigest ≠ default
  stages : ∀ s ∈ p.stages, (s.validate limits).isOk = true

theorem Needs.mem {stages : List StageSpec}
    (hdeclared : ∀ s ∈ stages, ∀ p ∈ s.predecessors, p ∈ stages.map StageSpec.id) {a b : StageId}
    (h : Needs stages a b) :
    a ∈ (stages.map StageSpec.id).toFinset ∧ b ∈ (stages.map StageSpec.id).toFinset := by
  obtain ⟨s, hs, rfl, hp⟩ := h
  exact ⟨List.mem_toFinset.2 (List.mem_map_of_mem hs), List.mem_toFinset.2 (hdeclared s hs b hp)⟩

/-- The order lists all stages exactly when there is no cycle. -/
theorem length_computeOrder_iff {stages : List StageSpec}
    (hids : (stages.map StageSpec.id).Nodup)
    (hdeclared : ∀ s ∈ stages, ∀ p ∈ s.predecessors, p ∈ stages.map StageSpec.id) :
    (computeOrder stages).length = stages.length
      ↔ ∀ id, ¬ Relation.TransGen (Needs stages) id id := by
  have h := computeOrder_leastFirst hids hdeclared
  rw [← h.complete_iff fun a b hneeds => hneeds.mem hdeclared]
  have hsub : (computeOrder stages).Subperm (stages.map StageSpec.id) :=
    List.subperm_of_subset h.nodup fun id hid => List.mem_toFinset.1 (h.subset id hid)
  constructor
  · intro hlength id hid
    have hperm := hsub.perm_of_length_le (by rw [hlength, List.length_map])
    exact hperm.mem_iff.2 (List.mem_toFinset.1 hid)
  · intro hall
    refine le_antisymm ?_ ?_
    · simpa using hsub.length_le
    · have hsub' : (stages.map StageSpec.id).Subperm (computeOrder stages) :=
        List.subperm_of_subset hids fun id hid => hall id (List.mem_toFinset.2 hid)
      simpa using hsub'.length_le

theorem firstDuplicate_eq_none_iff {ids : List StageId} :
    firstDuplicate ids = none ↔ ids.Nodup := by
  refine ⟨nodup_of_firstDuplicate, fun h => ?_⟩
  induction ids with
  | nil => rfl
  | cons id rest ih =>
    obtain ⟨hnew, hrest⟩ := List.nodup_cons.1 h
    rw [firstDuplicate, if_neg (by simpa using hnew)]
    exact ih hrest

theorem checkPredecessor_isOk {ids : List StageId} {stage : StageSpec} {predecessor : StageId} :
    (checkPredecessor ids stage predecessor).isOk = true
      ↔ predecessor ≠ stage.id ∧ predecessor ∈ ids := by
  unfold checkPredecessor position
  split
  · next h => simp [h]
  · next h =>
    split
    · next habsent => simpa [h] using List.idxOf_eq_length_iff.1 habsent
    · next hpresent => simpa [h] using mt List.idxOf_eq_length_iff.2 hpresent

/-- The stages of a plan that passes validation can be ordered. -/
theorem orderable_of_validate {limits : RuntimeLimits} {p q : ChangePlan}
    (hq : p.validate limits = .ok q) : Orderable p.stages := by
  unfold validate at hq
  obtain ⟨hchecks, hq⟩ := Status.toResult_bind_ok hq
  obtain ⟨horder, -⟩ := Status.toResult_bind_ok hq
  simp only [firstFailure_isOk, List.forall_mem_cons, List.forall_mem_map,
    checkPredecessor_isOk] at hchecks
  obtain ⟨-, -, -, -, -, -, hunique, hpredecessors, -⟩ := hchecks
  have hids : (p.stages.map StageSpec.id).Nodup := by
    refine firstDuplicate_eq_none_iff.1 ?_
    cases hduplicate : firstDuplicate (p.stages.map StageSpec.id) with
    | none => rfl
    | some id => simp [hduplicate, makeStatus, Status.isOk] at hunique
  have hdeclared := fun s hs id hid => (hpredecessors s hs id hid).2
  exact ⟨hids, hdeclared, (length_computeOrder_iff hids hdeclared).1 (by simpa using horder)⟩

/-- Validation computes the order and leaves the rest of the plan. -/
theorem eq_of_validate {limits : RuntimeLimits} {p q : ChangePlan}
    (hq : p.validate limits = .ok q) : q = { p with order := computeOrder p.stages } := by
  unfold validate at hq
  obtain ⟨-, hq⟩ := Status.toResult_bind_ok hq
  obtain ⟨-, hq⟩ := Status.toResult_bind_ok hq
  cases hq
  rfl

/-- A plan with valid fields and stages passes exactly when its stages can be ordered. -/
theorem validate_iff {limits : RuntimeLimits} {p : ChangePlan} (h : p.Headed limits) :
    (∃ q, p.validate limits = .ok q) ↔ Orderable p.stages := by
  constructor
  · rintro ⟨q, hq⟩
    exact orderable_of_validate hq
  · rintro ⟨hids, hdeclared, hacyclic⟩
    have hlength := (length_computeOrder_iff hids hdeclared).2 hacyclic
    refine ⟨{ p with order := computeOrder p.stages }, ?_⟩
    unfold validate
    dsimp only
    rw [Status.toResult_of_isOk]
    · change (Status.toResult _ >>= _) = _
      rw [Status.toResult_of_isOk (by simp [hlength])]
      rfl
    · rw [firstDuplicate_eq_none_iff.2 hids]
      simp only [firstFailure_isOk, List.forall_mem_cons, List.forall_mem_map,
        checkPredecessor_isOk, refuseIf_isOk]
      refine ⟨by simp [h.id], ?_, ?_, ?_, ?_, h.stages, rfl, fun s hs id hid => ⟨?_, hdeclared s hs id hid⟩,
        by simp⟩
      · simpa using h.some
      · rw [if_neg (Nat.not_lt.2 h.bounded)]
        rfl
      · simpa using h.changeId
      · simpa using h.sourceDigest
      · rintro rfl
        exact hacyclic s.id (.single ⟨s, hs, rfl, hid⟩)

/-! ## The order is canonical -/

/-- The order is the permutation that takes the least ready stage again and again, and every
stage comes after its predecessors. -/
structure Canonical (stages : List StageSpec) (order : List StageId) : Prop where
  perm : order.Perm (stages.map StageSpec.id)
  least : LeastFirst (Needs stages) (rank stages) (stages.map StageSpec.id).toFinset order
  follows : ∀ s ∈ stages, ∀ p ∈ s.predecessors, order.idxOf p < order.idxOf s.id

theorem Orderable.canonical {stages : List StageSpec} (h : Orderable stages) :
    Canonical stages (computeOrder stages) := by
  have hleast := computeOrder_leastFirst h.distinct h.declared
  have hlength := (length_computeOrder_iff h.distinct h.declared).2 h.acyclic
  have hall := (hleast.complete_iff fun a b hneeds => hneeds.mem h.declared).2 h.acyclic
  refine ⟨?_, hleast, fun s hs p hp => ?_⟩
  · refine (List.subperm_of_subset hleast.nodup fun id hid => ?_).perm_of_length_le ?_
    · exact List.mem_toFinset.1 (hleast.subset id hid)
    · rw [hlength, List.length_map]
  · have hneeds : Needs stages s.id p := ⟨s, hs, rfl, hp⟩
    obtain ⟨hs, hp⟩ := hneeds.mem h.declared
    exact hleast.follows hneeds (hall _ hs) hp

/-- The stage with its predecessors declared in another way: in another order, or repeated. -/
def Redeclares (s t : StageSpec) : Prop :=
  t.id = s.id ∧ t.ordinal = s.ordinal ∧ ∀ p, p ∈ t.predecessors ↔ p ∈ s.predecessors

/-- The same stages in another order, each with its predecessors declared in any way. -/
def Redeclared (stages stages' : List StageSpec) : Prop :=
  ∃ l, List.Forall₂ Redeclares stages l ∧ l.Perm stages'

section

variable {stages stages' : List StageSpec}

theorem ids_of_forall₂ (h : List.Forall₂ Redeclares stages stages') :
    stages'.map StageSpec.id = stages.map StageSpec.id := by
  induction h with
  | nil => rfl
  | cons hst _ ih => rw [List.map_cons, List.map_cons, hst.1, ih]

theorem mem_of_forall₂ (h : List.Forall₂ Redeclares stages stages') :
    (∀ s ∈ stages, ∃ t ∈ stages', Redeclares s t) ∧ ∀ t ∈ stages', ∃ s ∈ stages, Redeclares s t := by
  induction h with
  | nil => simp
  | @cons s t _ _ hst _ ih =>
    constructor
    · rintro x (_ | ⟨_, hx⟩)
      · exact ⟨t, List.mem_cons_self .., hst⟩
      · obtain ⟨y, hy, hxy⟩ := ih.1 x hx
        exact ⟨y, List.mem_cons_of_mem _ hy, hxy⟩
    · rintro y (_ | ⟨_, hy⟩)
      · exact ⟨s, List.mem_cons_self .., hst⟩
      · obtain ⟨x, hx, hxy⟩ := ih.2 y hy
        exact ⟨x, List.mem_cons_of_mem _ hx, hxy⟩

theorem Redeclared.ids (h : Redeclared stages stages') :
    (stages'.map StageSpec.id).Perm (stages.map StageSpec.id) := by
  obtain ⟨l, hall, hperm⟩ := h
  rw [← ids_of_forall₂ hall]
  exact (hperm.map _).symm

theorem Redeclared.mem (h : Redeclared stages stages') :
    (∀ s ∈ stages, ∃ t ∈ stages', Redeclares s t)
      ∧ ∀ t ∈ stages', ∃ s ∈ stages, Redeclares s t := by
  obtain ⟨l, hall, hperm⟩ := h
  obtain ⟨hleft, hright⟩ := mem_of_forall₂ hall
  constructor
  · intro s hs
    obtain ⟨t, ht, hst⟩ := hleft s hs
    exact ⟨t, hperm.mem_iff.1 ht, hst⟩
  · intro t ht
    exact hright t (hperm.mem_iff.2 ht)

theorem Redeclared.needs (h : Redeclared stages stages') : Needs stages' = Needs stages := by
  obtain ⟨hleft, hright⟩ := h.mem
  funext a b
  refine propext ⟨?_, ?_⟩
  · rintro ⟨t, ht, rfl, hp⟩
    obtain ⟨s, hs, hid, -, hpred⟩ := hright t ht
    exact ⟨s, hs, hid.symm, (hpred b).1 hp⟩
  · rintro ⟨s, hs, rfl, hp⟩
    obtain ⟨t, ht, hid, -, hpred⟩ := hleft s hs
    exact ⟨t, ht, hid, (hpred b).2 hp⟩

theorem rank_eq (hids : (stages.map StageSpec.id).Nodup) {s : StageSpec} (hs : s ∈ stages) :
    rank stages s.id = toLex (s.ordinal.toNat, s.id) := by
  unfold rank
  cases hfind : stages.find? fun x => x.id == s.id with
  | none =>
    have := List.find?_eq_none.1 hfind s hs
    simp at this
  | some x =>
    have hid : x.id = s.id := by simpa using List.find?_some hfind
    rw [List.inj_on_of_nodup_map hids (List.mem_of_find?_eq_some hfind) hs hid]
    rfl

theorem Redeclared.orderable (h : Redeclared stages stages') :
    Orderable stages' ↔ Orderable stages := by
  have hids := h.ids
  have hneeds := h.needs
  have hdeclared : (∀ s ∈ stages', ∀ p ∈ s.predecessors, p ∈ stages'.map StageSpec.id)
      ↔ ∀ s ∈ stages, ∀ p ∈ s.predecessors, p ∈ stages.map StageSpec.id := by
    obtain ⟨hleft, hright⟩ := h.mem
    constructor
    · intro hall s hs p hp
      obtain ⟨t, ht, -, -, hpred⟩ := hleft s hs
      exact hids.mem_iff.1 (hall t ht p ((hpred p).2 hp))
    · intro hall t ht p hp
      obtain ⟨s, hs, -, -, hpred⟩ := hright t ht
      exact hids.mem_iff.2 (hall s hs p ((hpred p).1 hp))
  constructor
  · rintro ⟨hnodup, hdecl, hacyclic⟩
    exact ⟨hids.nodup_iff.1 hnodup, hdeclared.1 hdecl, hneeds ▸ hacyclic⟩
  · rintro ⟨hnodup, hdecl, hacyclic⟩
    exact ⟨hids.nodup_iff.2 hnodup, hdeclared.2 hdecl, hneeds ▸ hacyclic⟩

/-- The order is the same however the stages are declared. -/
theorem Redeclared.computeOrder (h : Redeclared stages stages') (ho : Orderable stages) :
    computeOrder stages' = computeOrder stages := by
  have ho' := h.orderable.2 ho
  have hleast := computeOrder_leastFirst ho.distinct ho.declared
  have hleast' := computeOrder_leastFirst ho'.distinct ho'.declared
  have hnodes : (stages'.map StageSpec.id).toFinset = (stages.map StageSpec.id).toFinset :=
    List.toFinset_eq_of_perm _ _ h.ids
  rw [h.needs, hnodes] at hleast'
  have hsame : LeastFirst (Needs stages) (rank stages)
      ((stages.map StageSpec.id).toFinset.image fun x => x)
      ((ChangePlan.computeOrder stages').map fun x => x) := by
    refine hleast'.image (fun _ _ _ _ heq => heq) (fun _ _ _ _ => Iff.rfl) fun x hx => ?_
    obtain ⟨s, hs, rfl⟩ := List.mem_map.1 (List.mem_toFinset.1 hx)
    obtain ⟨t, ht, hid, hordinal, -⟩ := h.mem.1 s hs
    have hrank' := rank_eq ho'.distinct ht
    rw [hid, hordinal] at hrank'
    show rank stages s.id = rank stages' s.id
    rw [hrank', rank_eq ho.distinct hs]
  rw [Finset.image_id', List.map_id'] at hsame
  exact hsame.unique (rank_injective stages).injOn hleast

end

/-- A stage of one action. -/
def plainStage (id : UInt8) (predecessors : List StageId) : StageSpec where
  id := ⟨.ofBytes 16 [id]⟩
  name := text "s"
  predecessors := predecessors
  actions := [{
    id := ⟨.ofBytes 16 [3]⟩
    name := text "a"
    artifactDigest := .ofBytes 32 [1] }]

/-- The first stage names the second, twice. -/
def chainPlan : ChangePlan where
  id := ⟨.ofBytes 16 [1]⟩
  sourceDigest := .ofBytes 32 [1]
  changeId := text "c"
  stages := [plainStage 1 [⟨.ofBytes 16 [2]⟩, ⟨.ofBytes 16 [2]⟩], plainStage 2 []]

example : computeOrder chainPlan.stages = [⟨.ofBytes 16 [2]⟩, ⟨.ofBytes 16 [1]⟩] := by
  decide +kernel

end ChangePlan

end RolloutFabric
