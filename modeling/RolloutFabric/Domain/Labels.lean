/-
The labels of a target. Validation orders whole labels, a selector looks a key up: the two agree
on the descriptors that carry no key twice.
-/
import RolloutFabric.Domain.Selector

namespace RolloutFabric

/-! ## The order of byte strings -/

/-- The bytes as numbers, which lists of are linearly ordered. -/
def byteRank (t : Bytes) : List Nat := t.map UInt8.toNat

theorem byteRank_inj {a b : Bytes} : byteRank a = byteRank b ↔ a = b :=
  (List.map_injective_iff.2 fun _ _ => UInt8.toNat_inj.1).eq_iff

theorem bytesLess_iff {a b : Bytes} : bytesLess a b = true ↔ byteRank a < byteRank b := by
  unfold byteRank
  induction a generalizing b with
  | nil => cases b <;> simp [bytesLess]
  | cons x a ih =>
    cases b with
    | nil => simp [bytesLess]
    | cons y b =>
      rw [List.map_cons, List.map_cons, List.cons_lt_cons_iff, bytesLess]
      split
      · next h =>
        rw [ih]
        subst h
        simp
      · next h =>
        rw [decide_eq_true_iff, UInt8.lt_iff_toNat_lt]
        simp [UInt8.toNat_inj, h]

theorem Label.less_iff {a b : Label} : a.less b = true
    ↔ byteRank a.key < byteRank b.key ∨ a.key = b.key ∧ byteRank a.value < byteRank b.value := by
  unfold less
  split
  · next h =>
    rw [bytesLess_iff, h]
    simp
  · next h =>
    rw [bytesLess_iff]
    simp [h]

/-! ## What validation leaves -/

namespace TargetDescriptor

variable {limits : RuntimeLimits} {d : TargetDescriptor}

/-- Of a label that passes after another, the other is less. -/
theorem less_of_validateLabel {p l : Label} (h : (validateLabel limits (some p) l).isOk = true) :
    p.less l = true := by
  have := (firstFailure_isOk _).1 h _ (List.mem_cons_of_mem _ (List.mem_cons_of_mem _
    (List.mem_cons_of_mem _ (List.mem_cons_self ..))))
  simpa using this

theorem isChain_of_validateLabels {previous : Option Label} {labels : List Label}
    (h : (validateLabels limits previous labels).isOk = true) :
    (previous.toList ++ labels).IsChain fun a b => a.less b = true := by
  induction labels generalizing previous with
  | nil => cases previous <;> simp
  | cons label rest ih =>
    rw [validateLabels] at h
    split at h
    · next hlabel =>
      have hrest := ih h
      cases previous with
      | none => exact hrest
      | some p => exact List.isChain_cons_cons.2 ⟨less_of_validateLabel hlabel, hrest⟩
    · next hlabel => exact absurd h hlabel

/-- Validation leaves the labels in the order of their keys and values. -/
theorem labels_of_validate (h : (d.validate limits).isOk = true) :
    d.labels.IsChain fun a b => a.less b = true := by
  have hlabels := (firstFailure_isOk _).1 h (validateLabels limits none d.labels) (by simp)
  exact isChain_of_validateLabels hlabels

/-! ## Looking a key up -/

/-- The lookup finds the first label of the key. -/
theorem labelValue_eq (h : d.labels.Pairwise fun a b => byteRank a.key ≤ byteRank b.key)
    (key : Bytes) :
    d.labelValue key = (d.labels.find? fun label => label.key == key).map Label.value := by
  unfold labelValue
  generalize d.labels = labels at h ⊢
  induction labels with
  | nil => rfl
  | cons label rest ih =>
    obtain ⟨hfirst, hrest⟩ := List.pairwise_cons.1 h
    rw [List.dropWhile_cons, List.find?_cons]
    by_cases hless : byteRank label.key < byteRank key
    · rw [if_pos (bytesLess_iff.2 hless), ih hrest,
        beq_eq_false_iff_ne.2 (mt byteRank_inj.2 hless.ne)]
    · rw [if_neg (mt bytesLess_iff.1 hless)]
      by_cases hkey : label.key = key
      · dsimp only
        rw [if_pos hkey, beq_iff_eq.2 hkey]
        rfl
      · -- the first label lies behind the key, so every label does
        have hgt : byteRank key < byteRank label.key :=
          lt_of_le_of_ne (not_lt.1 hless) (mt byteRank_inj.1 (Ne.symm hkey))
        have hnone : rest.find? (fun label => label.key == key) = none := by
          rw [List.find?_eq_none]
          intro l hl heq
          have hle := hgt.trans_le (hfirst l hl)
          rw [beq_iff_eq.1 heq] at hle
          exact lt_irrefl _ hle
        dsimp only
        rw [if_neg hkey, beq_eq_false_iff_ne.2 hkey, hnone]
        rfl

theorem labelValue_eq_some_iff
    (hsorted : d.labels.Pairwise fun a b => byteRank a.key < byteRank b.key) {key value : Bytes} :
    d.labelValue key = some value ↔ ⟨key, value⟩ ∈ d.labels := by
  rw [labelValue_eq (hsorted.imp fun h => h.le), Option.map_eq_some_iff]
  constructor
  · rintro ⟨label, hfind, rfl⟩
    have hkey := List.find?_some hfind
    rw [beq_iff_eq] at hkey
    rw [← hkey]
    exact List.mem_of_find?_eq_some hfind
  · intro hmem
    cases hfind : d.labels.find? fun label => label.key == key with
    | none =>
      have := List.find?_eq_none.1 hfind _ hmem
      simp at this
    | some label =>
      have hkey := List.find?_some hfind
      rw [beq_iff_eq] at hkey
      have hnodup : (d.labels.map Label.key).Nodup :=
        List.pairwise_map.2 (hsorted.imp fun h => mt byteRank_inj.2 h.ne)
      have hsame := List.inj_on_of_nodup_map hnodup (List.mem_of_find?_eq_some hfind) hmem hkey
      exact ⟨label, rfl, by rw [hsame]⟩

/-! ## One value for each key -/

/-- At most one label has a key, and a selector term by label finds exactly the labels. -/
structure OneValuePerKey (d : TargetDescriptor) : Prop where
  unique : ∀ key, (d.labels.map Label.key).count key ≤ 1
  selects : ∀ ids kinds sites pods racks domains key value valueIsSet children,
    selectorMatches d (.mk .byLabel ids kinds sites pods racks domains key value valueIsSet children)
        = true
      ↔ ∃ label ∈ d.labels, label.key = key ∧ (valueIsSet = true → label.value = value)

/-- Where no key stands twice in a row, keys ascend. -/
theorem keys_ascend (hsorted : d.labels.IsChain fun a b => a.less b = true)
    (hkeys : d.labels.IsChain fun a b => a.key ≠ b.key) :
    d.labels.Pairwise fun a b => byteRank a.key < byteRank b.key := by
  have : IsTrans Label fun a b => byteRank a.key < byteRank b.key := ⟨fun _ _ _ => lt_trans⟩
  rw [← List.isChain_iff_pairwise, List.isChain_iff_getElem]
  rw [List.isChain_iff_getElem] at hsorted hkeys
  intro i hi
  rcases Label.less_iff.1 (hsorted i hi) with hlt | ⟨heq, -⟩
  · exact hlt
  · exact absurd heq (hkeys i hi)

theorem selects_of_ascend
    (hsorted : d.labels.Pairwise fun a b => byteRank a.key < byteRank b.key) (key value : Bytes)
    (valueIsSet : Bool) :
    (match d.labelValue key with
      | none => false
      | some v => !valueIsSet || v == value) = true
      ↔ ∃ label ∈ d.labels, label.key = key ∧ (valueIsSet = true → label.value = value) := by
  constructor
  · intro h
    cases hvalue : d.labelValue key with
    | none =>
      rw [hvalue] at h
      cases h
    | some v =>
      rw [hvalue] at h
      refine ⟨⟨key, v⟩, (labelValue_eq_some_iff hsorted).1 hvalue, rfl, fun hset => ?_⟩
      simpa [hset] using h
  · rintro ⟨label, hmem, rfl, hvalue⟩
    rw [(labelValue_eq_some_iff hsorted).2 hmem]
    cases valueIsSet with
    | false => rfl
    | true => simpa using hvalue rfl

/-- A target that validation accepts has one value for each key exactly when no two neighbouring
labels share their key. -/
theorem oneValuePerKey_iff (h : (d.validate limits).isOk = true) :
    d.OneValuePerKey ↔ d.labels.IsChain fun a b => a.key ≠ b.key := by
  constructor
  · rintro ⟨hunique, -⟩
    exact (List.pairwise_map.1 (List.nodup_iff_count_le_one.2 hunique)).isChain
  · intro hkeys
    have hascend := keys_ascend (labels_of_validate h) hkeys
    refine ⟨List.nodup_iff_count_le_one.1 ?_, fun _ _ _ _ _ _ key value valueIsSet _ => ?_⟩
    · exact List.pairwise_map.2 (hascend.imp fun h => mt byteRank_inj.2 h.ne)
    · exact selects_of_ascend hascend key value valueIsSet

/-! ## A repeated key -/

/-- A descriptor with the labels. -/
def labelled (labels : List Label) : TargetDescriptor where
  id := ⟨.ofBytes 16 [1]⟩
  name := text "leaf"
  placement := { failureDomain := ⟨.ofBytes 16 [2]⟩ }
  labels := labels

/-- Two labels of different keys. -/
theorem oneValuePerKey_iff_two :
    (labelled [⟨text "rack", text "r1"⟩, ⟨text "role", text "edge"⟩]).OneValuePerKey
      ↔ [(⟨text "rack", text "r1"⟩ : Label), ⟨text "role", text "edge"⟩].IsChain
        fun a b => a.key ≠ b.key :=
  @oneValuePerKey_iff {} (labelled [⟨text "rack", text "r1"⟩, ⟨text "role", text "edge"⟩])
    (by decide +kernel)

/-- Two labels of one key pass the validation, and a selector for the second finds nothing. -/
theorem repeated_key_is_accepted :
    ((labelled [⟨text "role", text "edge"⟩, ⟨text "role", text "spine"⟩]).validate {}).isOk = true
      ∧ selectorMatches (labelled [⟨text "role", text "edge"⟩, ⟨text "role", text "spine"⟩])
          (.mk .byLabel [] [] [] [] [] [] (text "role") (text "spine") true []) = false
      ∧ ¬ (labelled [⟨text "role", text "edge"⟩, ⟨text "role", text "spine"⟩]).OneValuePerKey := by
  refine ⟨by decide +kernel, by decide +kernel, fun h => ?_⟩
  have hcount := h.unique (text "role")
  revert hcount
  decide +kernel

end TargetDescriptor

end RolloutFabric
