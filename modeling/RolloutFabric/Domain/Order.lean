/-
The execution order of a validated plan: the worklist emits every stage once, so no two stages of
the order share an identifier.
-/
import RolloutFabric.Domain.ChangePlan

namespace RolloutFabric

namespace ChangePlan

/-! ## Edges -/

/-- The entries of the stages from the `k`-th on that name the stage at `found`. -/
def successorsFrom (ids : List StageId) (stages : List StageSpec) (k found : Nat) : List Nat :=
  ((stages.zipIdx k).map fun (stage, index) =>
    (stage.predecessors.filter fun p => position ids p = found).map fun _ => index).flatten

theorem sum_filter_length (ids l : List StageId) (n : Nat) :
    ∑ f ∈ Finset.range n, (l.filter fun p => position ids p = f).length
      = (l.filter fun p => position ids p < n).length := by
  induction l with
  | nil => simp
  | cons p l ih =>
    have hhead : ∑ f ∈ Finset.range n, (if position ids p = f then 1 else 0)
        = if position ids p < n then 1 else 0 := by
      rw [Finset.sum_ite_eq]
      simp only [Finset.mem_range]
    have hsplit (f : Nat) : ((p :: l).filter fun p => position ids p = f).length
        = (l.filter fun p => position ids p = f).length + if position ids p = f then 1 else 0 := by
      by_cases h : position ids p = f <;> simp [h]
    rw [Finset.sum_congr rfl fun f _ => hsplit f, Finset.sum_add_distrib, hhead, ih]
    by_cases h : position ids p < n <;> simp [h]

/-- The entries of a stage are its predecessors at that position. -/
theorem count_successorsFrom (ids : List StageId) (f s : Nat) (stages : List StageSpec) (k : Nat) :
    (successorsFrom ids stages k f).count s = if k ≤ s then
      ((stages.getD (s - k) default).predecessors.filter fun p => position ids p = f).length
    else 0 := by
  induction stages generalizing k with
  | nil => split <;> rfl
  | cons stage stages ih =>
    have hsplit : (successorsFrom ids (stage :: stages) k f).count s
        = (if s = k then (stage.predecessors.filter fun p => position ids p = f).length else 0)
          + (successorsFrom ids stages (k + 1) f).count s := by
      simp only [successorsFrom, List.zipIdx_cons, List.map_cons, List.flatten_cons,
        List.count_append, List.map_const', List.count_replicate]
      by_cases hs : s = k
      · simp [hs]
      · simp [hs, Ne.symm hs]
    rw [hsplit, ih (k + 1)]
    by_cases hs : s = k
    · subst hs
      rw [if_pos rfl, if_neg (by omega), if_pos (Nat.le_refl s), Nat.sub_self, List.getD_cons_zero,
        Nat.add_zero]
    · rw [if_neg hs, Nat.zero_add]
      by_cases hlt : k + 1 ≤ s
      · have hsub : s - k = (s - (k + 1)) + 1 := by omega
        rw [if_pos hlt, if_pos (by omega), hsub, List.getD_cons_succ]
      · rw [if_neg hlt, if_neg (by omega)]

theorem count_successors (stages : List StageSpec) (f s : Nat) :
    (successors stages f).count s = ((stages.getD s default).predecessors.filter fun p =>
      position (stages.map StageSpec.id) p = f).length := by
  have h := count_successorsFrom (stages.map StageSpec.id) f s stages 0
  rw [if_pos (Nat.zero_le s), Nat.sub_zero] at h
  exact h

/-- A stage is entered once for each of its predecessors that is declared. -/
theorem sum_count_successors (stages : List StageSpec) (n s : Nat) :
    ∑ f ∈ Finset.range n, (successors stages f).count s
      = ((stages.getD s default).predecessors.filter fun p =>
        position (stages.map StageSpec.id) p < n).length := by
  rw [Finset.sum_congr rfl fun f _ => count_successors stages f s, sum_filter_length]

/-! ## The worklist -/

/-- Of the stages that are left these are ready. Every stage waits for its entries: those of the
stages left, and those `pending` of the stage that is being released. -/
structure Worklist (occurs : Nat → Nat → Nat) (left : Finset Nat) (pending indegree ready : List Nat) :
    Prop where
  nodup : ready.Nodup
  mem : ∀ s ∈ ready, s ∈ left
  waits : ∀ s, ∑ f ∈ left, occurs f s + pending.count s ≤ indegree.getD s 0
  done : ∀ s, s ∈ ready ∨ s ∉ left → indegree.getD s 0 = 0

variable {occurs : Nat → Nat → Nat} {left : Finset Nat} {pending indegree ready : List Nat}

/-- A stage becomes ready only when it waits for nothing more, so it was not ready before. -/
theorem Worklist.next {s : Nat} (h : Worklist occurs left (s :: pending) indegree ready) :
    Worklist occurs left pending (indegree.modify s (· - 1))
      (if (indegree.modify s (· - 1)).getD s 0 = 0 then ready ++ [s] else ready) := by
  have hwaits := h.waits s
  rw [List.count_cons_self] at hwaits
  have hready : s ∉ ready := fun hs => by have := h.done s (.inl hs); omega
  have hleft : s ∈ left := by
    by_contra hs
    have := h.done s (.inr hs)
    omega
  have hself : (indegree.modify s (· - 1)).getD s 0 = indegree.getD s 0 - 1 := by
    simp only [List.getD_eq_getElem?_getD, List.getElem?_modify, if_true]
    cases indegree[s]? <;> simp
  have hother (x : Nat) (hx : x ≠ s) : (indegree.modify s (· - 1)).getD x 0 = indegree.getD x 0 := by
    simp [List.getD_eq_getElem?_getD, Ne.symm hx]
  refine ⟨?_, ?_, fun x => ?_, fun x hx => ?_⟩
  · split
    · exact List.nodup_append.2 ⟨h.nodup, List.nodup_singleton s, fun x hx y hy hxy =>
        hready (List.mem_singleton.1 hy ▸ hxy ▸ hx)⟩
    · exact h.nodup
  · intro x hx
    split at hx
    · rcases List.mem_append.1 hx with hx | hx
      · exact h.mem x hx
      · exact List.mem_singleton.1 hx ▸ hleft
    · exact h.mem x hx
  · by_cases hxs : x = s
    · subst hxs
      omega
    · have := h.waits x
      rw [List.count_cons_of_ne (Ne.symm hxs)] at this
      rw [hother x hxs]
      exact this
  · by_cases hxs : x = s
    · subst hxs
      by_contra hne
      rw [if_neg hne] at hx
      exact hx.elim hready fun hx => hx hleft
    · rw [hother x hxs]
      refine h.done x (hx.imp_left fun hx => ?_)
      split at hx
      · rcases List.mem_append.1 hx with hx | hx
        · exact hx
        · exact absurd (List.mem_singleton.1 hx) hxs
      · exact hx

theorem Worklist.release (h : Worklist occurs left pending indegree ready) :
    Worklist occurs left [] (release pending indegree ready).1 (release pending indegree ready).2 := by
  induction pending generalizing indegree ready with
  | nil => exact h
  | cons s pending ih => exact ih h.next

theorem Worklist.sorted (h : Worklist occurs left pending indegree ready) (stages : List StageSpec) :
    Worklist occurs left pending indegree (sortReady stages ready) := by
  have hperm : (sortReady stages ready).Perm ready := List.perm_insertionSort ..
  exact ⟨hperm.nodup_iff.2 h.nodup, fun s hs => h.mem s (hperm.mem_iff.1 hs), h.waits,
    fun s hs => h.done s (hs.imp_left hperm.mem_iff.1)⟩

/-- The first of the stages that are ready is taken off the list. -/
theorem Worklist.take {stages : List StageSpec} {current : Nat}
    (h : Worklist (fun f s => (successors stages f).count s) left [] indegree (current :: ready)) :
    Worklist (fun f s => (successors stages f).count s) (left.erase current)
      (successors stages current) indegree ready := by
  obtain ⟨hnew, hnodup⟩ := List.nodup_cons.1 h.nodup
  have hcurrent := h.mem current (List.mem_cons_self ..)
  refine ⟨hnodup, fun s hs => ?_, fun s => ?_, fun s hs => ?_⟩
  · refine Finset.mem_erase.2 ⟨?_, h.mem s (List.mem_cons_of_mem _ hs)⟩
    rintro rfl
    exact hnew hs
  · have hwaits := h.waits s
    rw [← Finset.add_sum_erase left _ hcurrent, List.count_nil] at hwaits
    omega
  · rcases hs with hs | hs
    · exact h.done s (.inl (List.mem_cons_of_mem _ hs))
    · by_cases hsame : s = current
      · exact h.done s (.inl (hsame ▸ List.mem_cons_self ..))
      · exact h.done s (.inr fun hleft => hs (Finset.mem_erase.2 ⟨hsame, hleft⟩))

/-- What is emitted was left before, and is emitted once. -/
theorem emitOrder_eq {stages : List StageSpec} (fuel : Nat)
    (h : Worklist (fun f s => (successors stages f).count s) left [] indegree ready) :
    ∃ l : List Nat, l.Nodup ∧ (∀ s ∈ l, s ∈ left)
      ∧ emitOrder stages fuel indegree ready = l.map fun s => (stages.getD s default).id := by
  induction fuel generalizing left indegree ready with
  | zero => exact ⟨[], List.nodup_nil, by simp, rfl⟩
  | succ fuel ih =>
    cases ready with
    | nil => exact ⟨[], List.nodup_nil, by simp, rfl⟩
    | cons current ready =>
      obtain ⟨l, hnodup, hmem, heq⟩ := ih (h.take.release.sorted stages)
      refine ⟨current :: l, List.nodup_cons.2 ⟨fun hin => ?_, hnodup⟩, fun s hs => ?_, ?_⟩
      · exact (Finset.mem_erase.1 (hmem current hin)).1 rfl
      · rcases List.mem_cons.1 hs with rfl | hs
        · exact h.mem s (List.mem_cons_self ..)
        · exact Finset.mem_of_mem_erase (hmem s hs)
      · rw [List.map_cons, ← heq]
        rfl

/-- The loop starts with every stage left and those ready that name no predecessor. -/
theorem Worklist.start (stages : List StageSpec) :
    Worklist (fun f s => (successors stages f).count s) (Finset.range stages.length) []
      (stages.map fun stage => stage.predecessors.length)
      ((List.range stages.length).filter fun index =>
        (stages.map fun stage => stage.predecessors.length).getD index 0 = 0) := by
  refine ⟨(List.nodup_range ..).filter _, fun s hs => ?_, fun s => ?_, fun s hs => ?_⟩
  · simpa using (List.mem_filter.1 hs).1
  · rw [List.count_nil, Nat.add_zero, sum_count_successors]
    refine (List.length_filter_le ..).trans ?_
    simp only [List.getD_eq_getElem?_getD, List.getElem?_map]
    cases stages[s]? <;> simp
    rfl
  · rcases hs with hs | hs
    · simpa using (List.mem_filter.1 hs).2
    · have hlen : stages.length ≤ s := by simpa using hs
      simp [hlen]

theorem computeOrder_nodup {stages : List StageSpec} (h : (stages.map StageSpec.id).Nodup) :
    (computeOrder stages).Nodup := by
  obtain ⟨l, hnodup, hmem, heq⟩ :=
    emitOrder_eq stages.length ((Worklist.start stages).sorted stages)
  show (emitOrder stages stages.length _ _).Nodup
  rw [heq, List.nodup_map_iff_inj_on hnodup]
  intro x hx y hy hxy
  have hx := Finset.mem_range.1 (hmem x hx)
  have hy := Finset.mem_range.1 (hmem y hy)
  have hinj := @List.Nodup.getElem_inj_iff _ _ h x (by simpa using hx) y (by simpa using hy)
  refine hinj.1 ?_
  simpa [hx, hy] using hxy

/-! ## A validated plan -/

theorem nodup_of_firstDuplicate {ids : List StageId} (h : firstDuplicate ids = none) :
    ids.Nodup := by
  induction ids with
  | nil => exact List.nodup_nil
  | cons id rest ih =>
    unfold firstDuplicate at h
    split at h
    · cases h
    · next hnot => exact List.nodup_cons.2 ⟨by simpa using hnot, ih h⟩

theorem ids_nodup {p q : ChangePlan} {limits : RuntimeLimits}
    (h : p.validate limits = .ok q) : (q.stages.map StageSpec.id).Nodup := by
  unfold validate at h
  obtain ⟨hchecks, h⟩ := Status.toResult_bind_ok h
  obtain ⟨-, h⟩ := Status.toResult_bind_ok h
  cases h
  simp only [firstFailure_isOk, List.forall_mem_cons] at hchecks
  obtain ⟨-, -, -, -, -, -, hunique, -⟩ := hchecks
  apply nodup_of_firstDuplicate
  cases hduplicate : firstDuplicate (p.stages.map StageSpec.id) with
  | none => rfl
  | some id => simp [hduplicate, makeStatus, Status.isOk] at hunique

/-- The stages of the order of a validated plan are distinct. -/
theorem order_nodup {p q : ChangePlan} {limits : RuntimeLimits}
    (h : p.validate limits = .ok q) : q.order.Nodup := by
  have hids := ids_nodup h
  unfold validate at h
  obtain ⟨-, h⟩ := Status.toResult_bind_ok h
  obtain ⟨-, h⟩ := Status.toResult_bind_ok h
  cases h
  exact computeOrder_nodup hids

end ChangePlan

end RolloutFabric
