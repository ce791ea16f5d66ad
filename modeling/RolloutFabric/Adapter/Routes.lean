/-
Routes survive the loss of connections: every route leads to a connection that stands where it
says, and dropping one moves or forgets its own routes and leads no other attempt astray.
-/
import RolloutFabric.Adapter.System

namespace RolloutFabric

/-! ## Maps -/

section

variable {α β γ : Type} [DecidableEq α] {m : Map α β} {x : α}

theorem Map.lookup_mapValues (f : β → γ) : (m.mapValues f).lookup x = (m.lookup x).map f :=
  List.dlookup_map₂ (f := fun _ => f) x

theorem Map.lookup_foldl_erase (l : List α) (m : Map α β) :
    (l.foldl (fun m x => m.erase x) m).lookup x = if x ∈ l then none else m.lookup x := by
  induction l generalizing m with
  | nil => rfl
  | cons y l ih =>
    rw [List.foldl_cons, ih]
    by_cases hy : x = y
    · subst hy
      simp
    · simp [hy, AList.lookup_erase_ne hy]

theorem Map.lookup_foldl_insert (l : List α) (v : β) (m : Map α β) :
    (l.foldl (fun m x => m.insert x v) m).lookup x = if x ∈ l then some v else m.lookup x := by
  induction l generalizing m with
  | nil => rfl
  | cons y l ih =>
    rw [List.foldl_cons, ih]
    by_cases hy : x = y
    · subst hy
      simp
    · simp [hy, AList.lookup_insert_ne hy]

end

namespace ProcessAdapter

variable {a : ProcessAdapter} {index i j : Nat} {attempt : AttemptId}

/-! ## What a drop does -/

/-- Where the connection at `i` stands once the one at the index is gone. -/
def shift (index i : Nat) : Nat := if index < i then i - 1 else i

theorem mem_owned : attempt ∈ a.owned index ↔ a.attemptRoutes.lookup attempt = some index := by
  unfold owned
  rw [List.mem_map, ← Option.mem_def, AList.mem_lookup_iff]
  constructor
  · rintro ⟨⟨x, i⟩, hmem, rfl⟩
    obtain ⟨hmem, hi⟩ := List.mem_filter.1 hmem
    rw [← beq_iff_eq.1 hi]
    exact hmem
  · intro hmem
    exact ⟨_, List.mem_filter.2 ⟨hmem, beq_self_eq_true _⟩, rfl⟩

/-- A route is kept and renumbered, or it is a route of the dropped connection and leads to its
replacement, if there is one. -/
theorem lookup_rerouted : (a.rerouted index).lookup attempt
    = (a.attemptRoutes.lookup attempt).bind fun i =>
      if i = index then (a.replacement index).map (shift index) else some (shift index i) := by
  have howned : attempt ∈ a.owned index ↔ a.attemptRoutes.lookup attempt = some index := mem_owned
  unfold rerouted
  cases hreplacement : a.replacement index with
  | none =>
    rw [Map.lookup_mapValues, Map.lookup_foldl_erase]
    cases hlookup : a.attemptRoutes.lookup attempt with
    | none => simp
    | some i =>
      rw [hlookup, Option.some.injEq] at howned
      by_cases hi : i = index
      · simp [howned, hi]
      · simp [howned, hi, shift]
  | some replacement =>
    dsimp only
    rw [Map.lookup_foldl_insert, Map.lookup_mapValues, Map.lookup_foldl_erase]
    cases hlookup : a.attemptRoutes.lookup attempt with
    | none => simp [howned, hlookup]
    | some i =>
      rw [hlookup, Option.some.injEq] at howned
      by_cases hi : i = index
      · simp [howned, hi, shift]
      · simp [howned, hi, shift]

/-- The connections that are left keep their order and are numbered by it. -/
theorem connectionAt_renumber (connections : List Connection) (index i : Nat)
    (hi : i + 1 < connections.length) :
    (renumber (connections.eraseIdx index) index).getD i default
      = if index ≤ i then { connections.getD (i + 1) default with index := i }
        else connections.getD i default := by
  rw [List.getD_eq_getElem?_getD, renumber, List.getElem?_mapIdx, List.getElem?_eraseIdx]
  by_cases h : index ≤ i
  · rw [if_neg (Nat.not_lt.2 h), if_pos h, List.getElem?_eq_getElem hi]
    simp [h, List.getD_eq_getElem?_getD, hi]
  · have hi' : i < connections.length := by omega
    rw [if_pos (Nat.not_le.1 h), if_neg h, List.getElem?_eq_getElem hi']
    simp [h, List.getD_eq_getElem?_getD, hi']

theorem length_renumber (connections : List Connection) (index : Nat)
    (h : index < connections.length) :
    (renumber (connections.eraseIdx index) index).length = connections.length - 1 := by
  rw [renumber, List.length_mapIdx, List.length_eraseIdx, if_pos h]

/-! ## Routes that lead where they say -/

/-- Every connection knows where it stands, and every route leads to one. -/
structure Wired (a : ProcessAdapter) : Prop where
  index : ∀ i, i < a.connections.length → (a.connectionAt i).index = i
  routed : ∀ attempt i, a.attemptRoutes.lookup attempt = some i → i < a.connections.length

variable {detail : Bytes} {told : Bool} {now : Timestamp}

theorem dropConnection_out (h : a.connections.length ≤ index) :
    (a.dropConnection index detail told now).2 = a := by
  rw [dropConnection, if_pos h]

theorem lookup_dropConnection (h : index < a.connections.length) :
    (a.dropConnection index detail told now).2.attemptRoutes.lookup attempt
      = (a.attemptRoutes.lookup attempt).bind fun i =>
        if i = index then (a.replacement index).map (shift index) else some (shift index i) := by
  rw [dropConnection, if_neg (Nat.not_le.2 h)]
  exact lookup_rerouted

theorem length_dropConnection (h : index < a.connections.length) :
    (a.dropConnection index detail told now).2.connections.length = a.connections.length - 1 := by
  rw [dropConnection, if_neg (Nat.not_le.2 h)]
  exact length_renumber _ _ h

/-- The connection that stood at `i` stands where its routes say. -/
theorem Wired.connectionAt_drop (h : a.Wired) (hindex : index < a.connections.length)
    (hi : i < a.connections.length) (hne : i ≠ index) :
    (a.dropConnection index detail told now).2.connectionAt (shift index i)
      = { a.connectionAt i with index := shift index i } := by
  rw [dropConnection, if_neg (Nat.not_le.2 hindex)]
  unfold connectionAt shift
  by_cases hlt : index < i
  · obtain ⟨k, rfl⟩ : ∃ k, i = k + 1 := ⟨i - 1, by omega⟩
    rw [if_pos hlt, Nat.add_sub_cancel, connectionAt_renumber _ _ _ hi,
      if_pos (Nat.le_of_lt_succ hlt)]
  · rw [if_neg hlt, connectionAt_renumber _ _ _ (by omega), if_neg (by omega)]
    have hself : (a.connections.getD i default).index = i := h.index i hi
    generalize a.connections.getD i default = c at hself ⊢
    subst hself
    rfl

theorem replacement_some (h : a.replacement index = some j) :
    j < a.connections.length ∧ j ≠ index ∧ (a.connectionAt j).usable = true
      ∧ (a.connectionAt j).worker = (a.connectionAt index).worker
      ∧ (a.connectionAt j).incarnation = (a.connectionAt index).incarnation := by
  have hj := List.mem_range.1 (List.mem_of_find?_eq_some h)
  have hp := List.find?_some h
  simp only [Bool.and_eq_true, bne_iff_ne, ne_eq, beq_iff_eq] at hp
  exact ⟨hj, hp.1.1.1, hp.1.1.2, hp.1.2, hp.2⟩

theorem shift_lt (h : index < a.connections.length) (hi : i < a.connections.length)
    (hne : i ≠ index) : shift index i < a.connections.length - 1 := by
  unfold shift
  split <;> omega

theorem shift_surjective (h : j < a.connections.length - 1) (hindex : index < a.connections.length) :
    ∃ i, i < a.connections.length ∧ i ≠ index ∧ shift index i = j := by
  by_cases hj : j < index
  · exact ⟨j, by omega, by omega, by unfold shift; split <;> omega⟩
  · exact ⟨j + 1, by omega, by omega, by unfold shift; split <;> omega⟩

/-- Dropping a connection leaves the adapter wired. -/
theorem Wired.drop (h : a.Wired) (index : Nat) (detail : Bytes) (told : Bool) (now : Timestamp) :
    (a.dropConnection index detail told now).2.Wired := by
  by_cases hindex : index < a.connections.length
  · constructor
    · intro j hj
      rw [length_dropConnection hindex] at hj
      obtain ⟨i, hi, hne, rfl⟩ := shift_surjective hj hindex
      rw [h.connectionAt_drop hindex hi hne]
    · intro attempt j hj
      rw [lookup_dropConnection hindex] at hj
      rw [length_dropConnection hindex]
      obtain ⟨i, hroute, hi⟩ := Option.bind_eq_some_iff.1 hj
      split at hi
      · obtain ⟨k, hk, rfl⟩ := Option.map_eq_some_iff.1 hi
        obtain ⟨hlt, hne, -⟩ := replacement_some hk
        exact shift_lt hindex hlt hne
      · next hne =>
        cases hi
        exact shift_lt hindex (h.routed attempt i hroute) hne
  · rw [dropConnection_out (Nat.not_lt.1 hindex)]
    exact h

/-! ## What a drop leaves alone -/

/-- The connection behind the route of an attempt. -/
def carrier (a : ProcessAdapter) (attempt : AttemptId) : Option Connection :=
  (a.attemptRoutes.lookup attempt).map a.connectionAt

/-- What dropping the connection at the index does to the routes: those of other connections lead
to the same object as before, whatever its new index; its own are forgotten, or lead to a usable
connection of the same worker and incarnation; and no attempt gains a route. -/
structure DropKeeps (a b : ProcessAdapter) (index : Nat) : Prop where
  elsewhere : ∀ attempt i, a.attemptRoutes.lookup attempt = some i → i ≠ index →
    ∃ j, b.attemptRoutes.lookup attempt = some j
      ∧ b.connectionAt j = { a.connectionAt i with index := j }
  own : ∀ attempt, a.attemptRoutes.lookup attempt = some index →
    b.attemptRoutes.lookup attempt = none
      ∨ ∃ i j, i ≠ index ∧ b.attemptRoutes.lookup attempt = some j
        ∧ b.connectionAt j = { a.connectionAt i with index := j }
        ∧ (a.connectionAt i).usable = true
        ∧ (a.connectionAt i).worker = (a.connectionAt index).worker
        ∧ (a.connectionAt i).incarnation = (a.connectionAt index).incarnation
  unrouted : ∀ attempt, a.attemptRoutes.lookup attempt = none →
    b.attemptRoutes.lookup attempt = none

/-- The worker and the incarnation behind a route do not change. -/
theorem DropKeeps.same_worker {b : ProcessAdapter} (h : DropKeeps a b index) {c d : Connection}
    (hc : a.carrier attempt = some c) (hd : b.carrier attempt = some d) :
    d.worker = c.worker ∧ d.incarnation = c.incarnation := by
  obtain ⟨i, hi, rfl⟩ := Option.map_eq_some_iff.1 hc
  obtain ⟨j, hj, rfl⟩ := Option.map_eq_some_iff.1 hd
  by_cases hne : i = index
  · subst hne
    rcases h.own attempt hi with hnone | ⟨k, j', -, hroute, hat, -, hworker, hincarnation⟩
    · rw [hj] at hnone
      cases hnone
    · obtain rfl : j = j' := Option.some.inj (hj.symm.trans hroute)
      rw [hat]
      exact ⟨hworker, hincarnation⟩
  · obtain ⟨j', hroute, hat⟩ := h.elsewhere attempt i hi hne
    obtain rfl : j = j' := Option.some.inj (hj.symm.trans hroute)
    rw [hat]
    exact ⟨rfl, rfl⟩

theorem Wired.drop_keeps (h : a.Wired) (hindex : index < a.connections.length) (detail : Bytes)
    (told : Bool) (now : Timestamp) :
    DropKeeps a (a.dropConnection index detail told now).2 index where
  elsewhere attempt i hi hne := by
    refine ⟨shift index i, ?_, h.connectionAt_drop hindex (h.routed attempt i hi) hne⟩
    rw [lookup_dropConnection hindex, hi, Option.bind_some, if_neg hne]
  own attempt hi := by
    rw [lookup_dropConnection hindex, hi, Option.bind_some, if_pos rfl]
    cases hreplacement : a.replacement index with
    | none => exact .inl rfl
    | some i =>
      obtain ⟨hlt, hne, husable, hworker, hincarnation⟩ := replacement_some hreplacement
      exact .inr ⟨i, shift index i, hne, rfl, h.connectionAt_drop hindex hlt hne, husable, hworker,
        hincarnation⟩
  unrouted attempt hi := by
    rw [lookup_dropConnection hindex, hi, Option.bind_none]

end ProcessAdapter

end RolloutFabric
