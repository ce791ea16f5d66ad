/-
The parts of a document: every value inside a document is written by the grammar of documents, so its
keys are unique and, in a text of UTF-8, its strings are UTF-8.
-/
import RolloutFabric.Document.Accepts
import RolloutFabric.Json.Acceptance

namespace RolloutFabric

open JsonGrammar

namespace JsonValue

/-- A value that stands somewhere inside a value. -/
inductive Part (w : JsonValue) : JsonValue → Prop
  | refl : Part w w
  | item {items : List JsonValue} {v : JsonValue} : v ∈ items → Part w v → Part w (.array items)
  | member {members : List (Bytes × JsonValue)} {key : Bytes} {v : JsonValue} :
    (key, v) ∈ members → Part w v → Part w (.object members)

theorem Part.trans {u v w : JsonValue} (huv : u.Part v) (hvw : v.Part w) : u.Part w := by
  induction hvw with
  | refl => exact huv
  | item hmem _ ih => exact .item hmem ih
  | member hmem _ ih => exact .member hmem ih

theorem Part.of_find {v member : JsonValue} {key : Bytes} (h : v.find key = some member) :
    member.Part v := by
  obtain ⟨members, rfl⟩ := object_of_find h
  obtain ⟨⟨k, m⟩, hfound, rfl⟩ := Option.map_eq_some_iff.1 h
  exact .member (List.mem_of_find?_eq_some hfound) .refl

end JsonValue

/-! ## The grammar of a part -/

section
variable {Raw : Bytes → Prop} {Value : Bytes → JsonValue → Prop} {t : Bytes} {v w : JsonValue}

theorem JsonGrammar.Separated.exists_mem {α : Type} {Element : Bytes → α → Prop} {as : List α}
    {a : α} (h : Separated Element t as) (ha : a ∈ as) : ∃ t, Element t a := by
  induction h with
  | one helement =>
    rw [List.mem_singleton.1 ha]
    exact ⟨_, helement⟩
  | more helement _ ih =>
    rcases List.mem_cons.1 ha with rfl | ha
    · exact ⟨_, helement⟩
    · exact ih ha

theorem JsonGrammar.Padded.exists_value (h : Padded Value t v) : ∃ t, Value t v := by
  obtain ⟨-, body, -, -, -, hbody, -⟩ := h
  exact ⟨body, hbody⟩

/-- Every part of a value of the grammar is one itself. -/
theorem JsonGrammar.Nested.part {levels : Nat} (h : Nested Raw levels t v) (hw : w.Part v) :
    ∃ levels t, Nested Raw levels t w := by
  induction hw generalizing levels t with
  | refl => exact ⟨levels, t, h⟩
  | item hmem _ ih =>
    cases levels with
    | zero => exact h.elim
    | succ levels =>
      cases (show ValueText Raw (Nested Raw levels) t _ from h) with
      | emptyArray => cases hmem
      | array hitems _ =>
        obtain ⟨_, hpadded⟩ := hitems.exists_mem hmem
        obtain ⟨_, hvalue⟩ := hpadded.exists_value
        exact ih hvalue
  | member hmem _ ih =>
    cases levels with
    | zero => exact h.elim
    | succ levels =>
      cases (show ValueText Raw (Nested Raw levels) t _ from h) with
      | emptyObject => cases hmem
      | object hmembers _ _ =>
        obtain ⟨_, _, _, _, _, -, -, -, -, hpadded⟩ := hmembers.exists_mem hmem
        obtain ⟨_, hvalue⟩ := hpadded.exists_value
        exact ih hvalue

theorem JsonGrammar.Nested.keys {levels : Nat} {members : List (Bytes × JsonValue)}
    (h : Nested Raw levels t (.object members)) : (members.map Prod.fst).Nodup := by
  cases levels with
  | zero => exact h.elim
  | succ levels =>
    cases (show ValueText Raw (Nested Raw levels) t _ from h) with
    | emptyObject => exact List.nodup_nil
    | object _ _ hkeys => exact hkeys

theorem JsonGrammar.Nested.string {levels : Nat} {s : Bytes} (h : Nested Raw levels t (.string s)) :
    ∃ t, StringText Raw t s := by
  cases levels with
  | zero => exact h.elim
  | succ levels =>
    cases (show ValueText Raw (Nested Raw levels) t _ from h) with
    | string hs => exact ⟨t, hs⟩

end

/-! ## What a string denotes -/

theorem JsonGrammar.shortEscapes_denote : ∀ e ∈ shortEscapes, e.2.toNat < 0x80 := by
  simp [shortEscapes]

theorem JsonGrammar.Escape.utf8 {x piece : Bytes} (h : Escape x piece) : IsUtf8 piece := by
  cases h with
  | short hshort =>
    refine isUtf8_ascii fun b hb => ?_
    rw [List.mem_singleton.1 hb]
    exact shortEscapes_denote _ hshort
  | unit _ => exact isUtf8_encodeChar _
  | pair _ _ _ _ _ => exact isUtf8_encodeChar _

theorem JsonGrammar.Chars.utf8 {t out : Bytes} (h : Chars Scalar t out) : IsUtf8 out := by
  induction h with
  | nil => exact ⟨[], rfl⟩
  | raw hraw _ ih =>
    obtain ⟨c, rfl, -⟩ := hraw
    exact (isUtf8_encodeChar c).append ih
  | escape hescape _ ih => exact hescape.utf8.append ih

/-! ## Documents -/

variable {t : Bytes} {limits : RuntimeLimits} {v w : JsonValue}

/-- No object of a document has a key twice. -/
theorem keys_of_parseJson {members : List (Bytes × JsonValue)} (h : parseJson t limits = .ok v)
    (hpart : (JsonValue.object members).Part v) : (members.map Prod.fst).Nodup := by
  obtain ⟨-, hpadded⟩ := (parseJson_iff t limits v).1 h
  obtain ⟨_, hvalue⟩ := hpadded.exists_value
  obtain ⟨_, _, hmembers⟩ := hvalue.part hpart
  exact hmembers.keys

/-- The strings of a document in UTF-8 are UTF-8. -/
theorem utf8_of_parseJson {s : Bytes} (h : parseJson t limits = .ok v) (hutf8 : isValidUtf8 t = true)
    (hpart : (JsonValue.string s).Part v) : isValidUtf8 s = true := by
  have hdocument := (jsonDocument_iff limits t v).2 ⟨(parseJson_iff t limits v).1 h, hutf8⟩
  obtain ⟨_, hvalue⟩ := hdocument.2.exists_value
  obtain ⟨_, _, hstring⟩ := hvalue.part hpart
  obtain ⟨_, body, -, hchars, -⟩ := hstring.string
  exact (isValidUtf8_iff s).2 hchars.utf8

end RolloutFabric
