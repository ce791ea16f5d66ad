/-
What the bounded reads accept: each of them returns exactly the values that a document declares
under its key.
-/
import RolloutFabric.Codec.Exact
import RolloutFabric.Document.Inventory

namespace RolloutFabric

open Decoding

variable {v : JsonValue} {key path : Bytes} {limits : RuntimeLimits}

theorem except_pure_eq_ok {α : Type} {a b : α} : (pure a : Result α) = .ok b ↔ a = b :=
  ⟨fun h => Except.ok.inj h, fun h => congrArg Except.ok h⟩

theorem checkCount_isOk {count maxCount : Nat} {what : Bytes} :
    (checkCount count maxCount path what).isOk = true ↔ count ≤ maxCount := by
  unfold checkCount
  split
  · next h => exact ⟨fun hok => (by cases hok), fun hle => absurd hle (Nat.not_le.2 h)⟩
  · next h => exact ⟨fun _ => Nat.not_lt.1 h, fun _ => rfl⟩

namespace JsonValue

theorem requireString_ok {s : Bytes} : v.requireString path = .ok s ↔ v = .string s := by
  cases v with
  | string value => simp [requireString]
  | _ => simp [requireString]

theorem requireInteger_ok {n : Int64} : v.requireInteger path = .ok n ↔ v = .number n := by
  cases v with
  | number value => simp [requireInteger]
  | _ => simp [requireInteger]

theorem requireArray_ok {items : List JsonValue} :
    v.requireArray path = .ok items ↔ v = .array items := by
  cases v with
  | array items' => simp [requireArray]
  | _ => simp [requireArray]

theorem requireObject_ok {object : JsonValue} :
    v.requireObject path = .ok object ↔ object = v ∧ ∃ members, v = .object members := by
  cases v with
  | object members => simp [requireObject, eq_comm]
  | _ => simp [requireObject]

/-- Only objects have members. -/
theorem object_of_find {member : JsonValue} (h : v.find key = some member) :
    ∃ members, v = .object members := by
  cases v with
  | object members => exact ⟨members, rfl⟩
  | _ => cases h

end JsonValue

/-! ## Members -/

section
variable {α : Type} {read : JsonValue → Bytes → Result α} {a out : α}

theorem readRequired_ok : readRequired read v key path = .ok a
    ↔ ∃ member, v.find key = some member ∧ read member (joinPath path key) = .ok a := by
  unfold readRequired requireMember
  cases v.find key with
  | none =>
    refine ⟨fun h => (by cases h), ?_⟩
    rintro ⟨member, hmember, -⟩
    cases hmember
  | some member =>
    constructor
    · exact fun h => ⟨member, rfl, h⟩
    · rintro ⟨_, ⟨⟩, h⟩
      exact h

theorem readOptional_ok : readOptional read v key path out = .ok a
    ↔ v.find key = none ∧ a = out
      ∨ ∃ member, v.find key = some member ∧ read member (joinPath path key) = .ok a := by
  unfold readOptional
  cases v.find key with
  | none => simp [eq_comm]
  | some member => simp

theorem readItems_ok {index : Nat} {items : List JsonValue} {as : List α}
    (h : readItems read path index items = .ok as) :
    List.Forall₂ (fun item a => ∃ path, read item path = .ok a) items as := by
  induction items generalizing index as with
  | nil =>
    cases h
    exact .nil
  | cons item rest ih =>
    unfold readItems at h
    obtain ⟨a, ha, h⟩ := except_bind_eq_ok.1 h
    obtain ⟨as, has, h⟩ := except_bind_eq_ok.1 h
    cases h
    exact .cons ⟨_, ha⟩ (ih has)

theorem readList_ok {maxCount : Nat} {what : Bytes} {as : List α}
    (h : readList read maxCount what v path = .ok as) :
    ∃ items, v = .array items ∧ items.length ≤ maxCount
      ∧ List.Forall₂ (fun item a => ∃ path, read item path = .ok a) items as := by
  unfold readList at h
  obtain ⟨items, hitems, h⟩ := except_bind_eq_ok.1 h
  obtain ⟨_, hcount, h⟩ := except_bind_eq_ok.1 h
  exact ⟨items, JsonValue.requireArray_ok.1 hitems, checkCount_isOk.1 (toResult_eq_ok.1 hcount),
    readItems_ok h⟩

theorem length_readList {maxCount : Nat} {what : Bytes} {as : List α}
    (h : readList read maxCount what v path = .ok as) : as.length ≤ maxCount := by
  obtain ⟨items, -, hcount, hall⟩ := readList_ok h
  rwa [← hall.length_eq]

end

theorem readRequiredString_ok {s : Bytes} :
    readRequiredString v key path = .ok s ↔ v.find key = some (.string s) := by
  simp only [readRequiredString, readRequired_ok, JsonValue.requireString_ok]
  constructor
  · rintro ⟨_, h, rfl⟩
    exact h
  · exact fun h => ⟨_, h, rfl⟩

theorem readRequiredInteger_ok {n : Int64} :
    readRequiredInteger v key path = .ok n ↔ v.find key = some (.number n) := by
  simp only [readRequiredInteger, readRequired_ok, JsonValue.requireInteger_ok]
  constructor
  · rintro ⟨_, h, rfl⟩
    exact h
  · exact fun h => ⟨_, h, rfl⟩

/-- The text a document gives for a member that may be left out, or be null. -/
def JsonValue.Says (v : JsonValue) (key s : Bytes) : Prop :=
  v.find key = some (.string s) ∨ (v.find key = none ∨ v.find key = some .null) ∧ s = []

theorem readOptionalString_ok {s : Bytes} :
    readOptionalString v key path [] = .ok s ↔ v.Says key s := by
  unfold readOptionalString JsonValue.Says
  rw [readOptional_ok]
  constructor
  · rintro (⟨hnone, rfl⟩ | ⟨member, hmember, hread⟩)
    · exact .inr ⟨.inl hnone, rfl⟩
    · cases member with
      | null =>
        cases hread
        exact .inr ⟨.inr hmember, rfl⟩
      | string value =>
        cases hread
        exact .inl hmember
      | _ => cases hread
  · rintro (h | ⟨hnone | hnull, rfl⟩)
    · exact .inr ⟨_, h, rfl⟩
    · exact .inl ⟨hnone, rfl⟩
    · exact .inr ⟨_, hnull, rfl⟩

theorem assignEnum_ok {α : Type} {expected : Bytes} {parse : Bytes → Option α} {a : α} :
    assignEnum expected parse v path = .ok a ↔ ∃ t, v = .string t ∧ parse t = some a := by
  unfold assignEnum
  rw [except_bind_eq_ok]
  refine exists_congr fun t => ?_
  rw [JsonValue.requireString_ok]
  refine and_congr_right fun _ => ?_
  split
  · next hnone => exact ⟨fun h => (by cases h), fun h => (by rw [hnone] at h; cases h)⟩
  · next b hsome => rw [hsome, except_pure_eq_ok, Option.some.injEq]

theorem readRequiredEnum_ok {α : Type} {expected : Bytes} {parse : Bytes → Option α} {a : α} :
    readRequiredEnum v key path expected parse = .ok a
      ↔ ∃ t, v.find key = some (.string t) ∧ parse t = some a := by
  unfold readRequiredEnum
  rw [readRequired_ok]
  constructor
  · rintro ⟨member, hmember, hread⟩
    obtain ⟨t, rfl, ht⟩ := assignEnum_ok.1 hread
    exact ⟨t, hmember, ht⟩
  · rintro ⟨t, hmember, ht⟩
    exact ⟨_, hmember, assignEnum_ok.2 ⟨t, rfl, ht⟩⟩

theorem readName_ok {name : Bytes} : readName limits v key path = .ok name
    ↔ v.find key = some (.string name) ∧ name ≠ [] ∧ name.length ≤ limits.maxNameBytes.toNat := by
  unfold readName
  rw [except_bind_eq_ok]
  constructor
  · rintro ⟨s, hs, h⟩
    by_cases hempty : s.isEmpty = true
    · rw [if_pos hempty] at h
      cases h
    rw [if_neg hempty] at h
    by_cases hlong : limits.maxNameBytes.toNat < s.length
    · rw [if_pos hlong] at h
      cases h
    rw [if_neg hlong] at h
    cases h
    exact ⟨readRequiredString_ok.1 hs, by simpa using hempty, Nat.not_lt.1 hlong⟩
  · rintro ⟨hfind, hempty, hlong⟩
    refine ⟨name, readRequiredString_ok.2 hfind, ?_⟩
    rw [if_neg (by simpa using hempty), if_neg (Nat.not_lt.2 hlong)]
    rfl

theorem readEntry_ok {maxBytes : Nat} {s : Bytes} :
    readEntry maxBytes v path = .ok s ↔ v = .string s ∧ s.length ≤ maxBytes := by
  unfold readEntry
  rw [except_bind_eq_ok]
  constructor
  · rintro ⟨t, ht, h⟩
    split at h
    · cases h
    next hlong =>
    cases h
    exact ⟨JsonValue.requireString_ok.1 ht, Nat.not_lt.1 hlong⟩
  · rintro ⟨rfl, hlong⟩
    refine ⟨s, rfl, ?_⟩
    rw [if_neg (Nat.not_lt.2 hlong)]
    rfl

theorem requireDocumentKind_ok {expected : Bytes} :
    requireDocumentKind v expected = .ok () ↔ v.find (text "kind") = some (.string expected) := by
  unfold requireDocumentKind
  rw [except_bind_eq_ok]
  constructor
  · rintro ⟨s, hs, h⟩
    split at h
    · cases h
    next heq =>
    rw [not_not.1 heq] at hs
    exact readRequiredString_ok.1 hs
  · intro hfind
    refine ⟨expected, readRequiredString_ok.2 hfind, ?_⟩
    rw [if_neg (not_not.2 rfl)]
    rfl

theorem requireSchemaVersion_ok :
    requireSchemaVersion v = .ok () ↔ v.find (text "schema_version") = some (.number kSchemaVersion) := by
  unfold requireSchemaVersion
  rw [except_bind_eq_ok]
  constructor
  · rintro ⟨n, hn, h⟩
    split at h
    · cases h
    next heq =>
    rw [not_not.1 heq] at hn
    exact readRequiredInteger_ok.1 hn
  · intro hfind
    refine ⟨_, readRequiredInteger_ok.2 hfind, ?_⟩
    rw [if_neg (not_not.2 rfl)]
    rfl

end RolloutFabric
