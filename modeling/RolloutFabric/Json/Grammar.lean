/-
The grammar of JSON documents: RFC 8259 on bytes, restricted to integers of 64 bits, to objects with
unique keys and to surrogate escapes in pairs, within the bounds of the reader. `Raw` says what may
stand in a string without an escape.
-/
import RolloutFabric.Json.RoundTrip
import RolloutFabric.Codec.Utf8

namespace RolloutFabric

namespace JsonGrammar

/-- `ws`. -/
def Blank (t : Bytes) : Prop := ∀ c ∈ t, c = 32 ∨ c = 9 ∨ c = 10 ∨ c = 13

/-! ## Numbers -/

/-- `int`: a zero, or digits that do not start with a zero. -/
inductive Digits : Bytes → Prop
  | zero : Digits [48]
  | more {c : UInt8} {ds : Bytes} : 49 ≤ c → c ≤ 57 → (∀ d ∈ ds, 48 ≤ d ∧ d ≤ 57) → Digits (c :: ds)

/-- A number without fraction and exponent, and the integer it denotes. -/
inductive NumberText : Bytes → Int → Prop
  | plain {ds : Bytes} : Digits ds → NumberText ds (digitsValue ds)
  | minus {ds : Bytes} : Digits ds → NumberText (45 :: ds) (-digitsValue ds)

/-! ## Strings -/

def HexDigit (c : UInt8) (n : Nat) : Prop :=
  (48 ≤ c.toNat ∧ c.toNat ≤ 57 ∧ n = c.toNat - 48)
    ∨ (65 ≤ c.toNat ∧ c.toNat ≤ 70 ∧ n = 10 + (c.toNat - 65))
    ∨ (97 ≤ c.toNat ∧ c.toNat ≤ 102 ∧ n = 10 + (c.toNat - 97))

/-- `4HEXDIG`, and the unit it writes. -/
def Hex4 (t : Bytes) (unit : Nat) : Prop :=
  ∃ a b c d k l m n, t = [a, b, c, d] ∧ HexDigit a k ∧ HexDigit b l ∧ HexDigit c m ∧ HexDigit d n
    ∧ unit = ((k * 16 + l) * 16 + m) * 16 + n

/-- The two-character escapes, and the characters they denote. -/
def shortEscapes : List (UInt8 × UInt8) :=
  [(34, 34), (92, 92), (47, 47), (98, 8), (102, 12), (110, 10), (114, 13), (116, 9)]

/-- An escape, and the encoding of the character it denotes: a unit that is a scalar value, or a
pair of surrogates. -/
inductive Escape : Bytes → Bytes → Prop
  | short {c out : UInt8} : (c, out) ∈ shortEscapes → Escape [92, c] [out]
  | unit {hex : Bytes} {c : Char} : Hex4 hex c.toNat →
    Escape (92 :: 117 :: hex) (String.utf8EncodeChar c)
  | pair {high low : Bytes} {h l : Nat} {c : Char} : Hex4 high h → Hex4 low l →
    0xD800 ≤ h ∧ h ≤ 0xDBFF → 0xDC00 ≤ l ∧ l ≤ 0xDFFF →
    c.toNat = 0x10000 + (h - 0xD800) * 0x400 + (l - 0xDC00) →
    Escape (92 :: 117 :: (high ++ 92 :: 117 :: low)) (String.utf8EncodeChar c)

/-- What stands between the quotes, and the bytes it denotes. -/
inductive Chars (Raw : Bytes → Prop) : Bytes → Bytes → Prop
  | nil : Chars Raw [] []
  | raw {piece t out : Bytes} : Raw piece → Chars Raw t out → Chars Raw (piece ++ t) (piece ++ out)
  | escape {x piece t out : Bytes} : Escape x piece → Chars Raw t out →
    Chars Raw (x ++ t) (piece ++ out)

/-- `unescaped`: the encoding of a scalar value that is not a control character, a quote or a
backslash. -/
def Scalar (piece : Bytes) : Prop :=
  ∃ c : Char, piece = String.utf8EncodeChar c ∧ 0x20 ≤ c.toNat ∧ c.toNat ≠ 34 ∧ c.toNat ≠ 92

/-- The same of single bytes, encoded or not. -/
def AnyByte (piece : Bytes) : Prop :=
  ∃ b : UInt8, piece = [b] ∧ 0x20 ≤ b.toNat ∧ b.toNat ≠ 34 ∧ b.toNat ≠ 92

def StringText (Raw : Bytes → Prop) (t out : Bytes) : Prop :=
  ∃ body, t = 34 :: (body ++ [34]) ∧ Chars Raw body out ∧ out.length ≤ kMaxJsonStringBytes

/-! ## Values -/

/-- One or more texts with commas between them. -/
inductive Separated {α : Type} (Element : Bytes → α → Prop) : Bytes → List α → Prop
  | one {t : Bytes} {a : α} : Element t a → Separated Element t [a]
  | more {t rest : Bytes} {a : α} {more : List α} : Element t a → Separated Element rest more →
    Separated Element (t ++ 44 :: rest) (a :: more)

/-- A value with white space around it. -/
def Padded (Value : Bytes → JsonValue → Prop) (t : Bytes) (v : JsonValue) : Prop :=
  ∃ before body after, t = before ++ (body ++ after) ∧ Blank before ∧ Value body v ∧ Blank after

/-- `member`. -/
def MemberText (Raw : Bytes → Prop) (Value : Bytes → JsonValue → Prop) (t : Bytes)
    (member : Bytes × JsonValue) : Prop :=
  ∃ before key after rest, t = before ++ (key ++ (after ++ 58 :: rest)) ∧ Blank before
    ∧ StringText Raw key member.1 ∧ Blank after ∧ Padded Value rest member.2

/-- `value`, over the values one level further in. -/
inductive ValueText (Raw : Bytes → Prop) (Value : Bytes → JsonValue → Prop) :
    Bytes → JsonValue → Prop
  | null : ValueText Raw Value (text "null") .null
  | true : ValueText Raw Value (text "true") (.bool true)
  | false : ValueText Raw Value (text "false") (.bool false)
  | number {t : Bytes} {n : Int64} : NumberText t n.toInt → ValueText Raw Value t (.number n)
  | string {t out : Bytes} : StringText Raw t out → ValueText Raw Value t (.string out)
  | emptyArray {t : Bytes} : Blank t → ValueText Raw Value (91 :: (t ++ [93])) (.array [])
  | array {t : Bytes} {items : List JsonValue} : Separated (Padded Value) t items →
    items.length ≤ kMaxJsonElements → ValueText Raw Value (91 :: (t ++ [93])) (.array items)
  | emptyObject {t : Bytes} : Blank t → ValueText Raw Value (123 :: (t ++ [125])) (.object [])
  | object {t : Bytes} {members : List (Bytes × JsonValue)} :
    Separated (MemberText Raw Value) t members → members.length ≤ kMaxJsonMembers →
    (members.map Prod.fst).Nodup → ValueText Raw Value (123 :: (t ++ [125])) (.object members)

/-- A value with that many levels of nesting at most. -/
def Nested (Raw : Bytes → Prop) : Nat → Bytes → JsonValue → Prop
  | 0 => fun _ _ => False
  | levels + 1 => ValueText Raw (Nested Raw levels)

/-- `JSON-text` within the bounds, and the value it denotes. -/
def Document (Raw : Bytes → Prop) (limits : RuntimeLimits) (t : Bytes) (v : JsonValue) : Prop :=
  t.length ≤ limits.maxDocumentBytes.toNat ∧ Padded (Nested Raw (kMaxJsonDepth + 1)) t v

end JsonGrammar

/-- A JSON document of RFC 8259 with these restrictions: its strings are UTF-8. -/
def JsonDocument : RuntimeLimits → Bytes → JsonValue → Prop :=
  JsonGrammar.Document JsonGrammar.Scalar

/-- The same, where any byte that is not a control character, a quote or a backslash may stand in a
string. -/
def JsonDocumentOfBytes : RuntimeLimits → Bytes → JsonValue → Prop :=
  JsonGrammar.Document JsonGrammar.AnyByte

/-! ## Documents in UTF-8

What the two kinds of documents differ in is the encoding of the text alone. -/

namespace JsonGrammar

theorem Blank.ascii {t : Bytes} (h : Blank t) : ∀ b ∈ t, b.toNat < 0x80 := by
  intro b hb
  rcases h b hb with rfl | rfl | rfl | rfl <;> decide

theorem Digits.ascii {t : Bytes} (h : Digits t) : ∀ b ∈ t, b.toNat < 0x80 := by
  intro b hb
  cases h with
  | zero =>
    rw [List.mem_singleton.mp hb]
    decide
  | more _ hc hds =>
    rcases List.mem_cons.mp hb with rfl | hb
    · exact Nat.lt_of_le_of_lt (UInt8.le_iff_toNat_le.mp hc) (by decide)
    · exact Nat.lt_of_le_of_lt (UInt8.le_iff_toNat_le.mp (hds b hb).2) (by decide)

theorem NumberText.ascii {t : Bytes} {n : Int} (h : NumberText t n) : ∀ b ∈ t, b.toNat < 0x80 := by
  cases h with
  | plain hds => exact hds.ascii
  | minus hds =>
    intro b hb
    rcases List.mem_cons.mp hb with rfl | hb
    · decide
    · exact hds.ascii b hb

theorem Hex4.ascii {t : Bytes} {u : Nat} (h : Hex4 t u) : ∀ b ∈ t, b.toNat < 0x80 := by
  have hdigit {c : UInt8} {n : Nat} (hc : HexDigit c n) : c.toNat < 0x80 := by
    unfold HexDigit at hc
    omega
  obtain ⟨a, b, c, d, k, l, m, n, rfl, ha, hb, hc, hd, -⟩ := h
  intro x hx
  simp only [List.mem_cons, List.not_mem_nil, or_false] at hx
  rcases hx with rfl | rfl | rfl | rfl
  · exact hdigit ha
  · exact hdigit hb
  · exact hdigit hc
  · exact hdigit hd

theorem shortEscapes_ascii : ∀ e ∈ shortEscapes, e.1.toNat < 0x80 := by
  simp [shortEscapes]

/-- An escape starts with a backslash, and has only ASCII characters. -/
theorem Escape.ascii {x piece : Bytes} (h : Escape x piece) :
    (∃ t, x = 92 :: t) ∧ ∀ b ∈ x, b.toNat < 0x80 := by
  have hbackslash : (92 : UInt8).toNat < 0x80 := by decide
  have hu : (117 : UInt8).toNat < 0x80 := by decide
  cases h with
  | short hc =>
    refine ⟨⟨_, rfl⟩, fun b hb => ?_⟩
    simp only [List.mem_cons, List.not_mem_nil, or_false] at hb
    rcases hb with rfl | rfl
    · exact hbackslash
    · exact shortEscapes_ascii _ hc
  | unit hhex =>
    refine ⟨⟨_, rfl⟩, fun b hb => ?_⟩
    simp only [List.mem_cons] at hb
    rcases hb with rfl | rfl | hb
    · exact hbackslash
    · exact hu
    · exact hhex.ascii b hb
  | pair hhigh hlow =>
    refine ⟨⟨_, rfl⟩, fun b hb => ?_⟩
    simp only [List.mem_cons, List.mem_append] at hb
    rcases hb with rfl | rfl | hb | rfl | rfl | hb
    · exact hbackslash
    · exact hu
    · exact hhigh.ascii b hb
    · exact hbackslash
    · exact hu
    · exact hlow.ascii b hb

/-! ### Strings -/

theorem Scalar.bytes {piece : Bytes} (h : Scalar piece) : ∀ b ∈ piece, AnyByte [b] := by
  obtain ⟨c, rfl, hcontrol, hquote, hbackslash⟩ := h
  obtain ⟨lead, tails, hencode, hc⟩ := encodes_of_utf8Encode c
  rw [hencode]
  intro b hb
  rcases List.mem_cons.mp hb with rfl | hb
  · by_cases hlead : b.toNat < 0x80
    · obtain ⟨-, hvalue⟩ := hc.of_ascii hlead
      exact ⟨b, rfl, by omega, by omega, by omega⟩
    · exact ⟨b, rfl, by omega, by omega, by omega⟩
  · have hhigh := hc.tails_high b hb
    exact ⟨b, rfl, by omega, by omega, by omega⟩

theorem Chars.rawBytes {piece t out : Bytes} (hpiece : ∀ b ∈ piece, AnyByte [b])
    (h : Chars AnyByte t out) : Chars AnyByte (piece ++ t) (piece ++ out) := by
  induction piece with
  | nil => exact h
  | cons b piece ih =>
    exact @Chars.raw _ [b] _ _ (hpiece b List.mem_cons_self)
      (ih fun x hx => hpiece x (List.mem_cons_of_mem b hx))

/-- Bytes that are not ASCII stand for themselves. -/
theorem Chars.of_high {high t out : Bytes} (hhigh : ∀ b ∈ high, 0x80 ≤ b.toNat)
    (h : Chars AnyByte (high ++ t) out) : ∃ rest, out = high ++ rest ∧ Chars AnyByte t rest := by
  induction high generalizing out with
  | nil => exact ⟨out, rfl, h⟩
  | cons b high ih =>
    have hb := hhigh b List.mem_cons_self
    generalize htext : b :: high ++ t = x at h
    cases h with
    | nil => cases htext
    | raw hraw hrest =>
      obtain ⟨c, rfl, -⟩ := hraw
      obtain ⟨rfl, rfl⟩ := List.cons.inj htext
      obtain ⟨rest, rfl, ht⟩ := ih (fun x hx => hhigh x (List.mem_cons_of_mem b hx)) hrest
      exact ⟨rest, rfl, ht⟩
    | escape hescape hrest =>
      obtain ⟨⟨y, rfl⟩, -⟩ := hescape.ascii
      obtain ⟨rfl, -⟩ := List.cons.inj htext
      exact absurd hb (by decide)

/-- Bytes that make up characters are characters: each step takes one of them from the text. -/
theorem Chars.scalars (n : Nat) {t out : Bytes} (hn : t.length < n) (h : Chars AnyByte t out)
    (hutf8 : IsUtf8 t) : Chars Scalar t out := by
  induction n generalizing t out with
  | zero => omega
  | succ n ih =>
    cases h with
    | nil => exact .nil
    | @escape x piece t out hescape hrest =>
      obtain ⟨⟨y, hy⟩, hascii⟩ := hescape.ascii
      rw [hy, List.length_append, List.length_cons] at hn
      exact .escape hescape (ih (by omega) hrest (hutf8.of_append_ascii hascii))
    | @raw piece t out hraw hrest =>
      obtain ⟨b, rfl, hcontrol, hquote, hbackslash⟩ := hraw
      rw [List.length_append, List.length_singleton] at hn
      by_cases hb : b.toNat < 0x80
      · obtain ⟨c, hvalue, hc⟩ := encodeChar_ascii hb
        exact .raw ⟨c, hc.symm, by omega, by omega, by omega⟩
          (ih (by omega) hrest (hutf8.of_cons_ascii hb))
      · obtain ⟨c, tails, rest, hencode, hc, rfl, hrestUtf8⟩ := hutf8.cons
        obtain ⟨out, rfl, hbehind⟩ := hrest.of_high hc.tails_high
        rw [List.length_append] at hn
        have hvalue : 0x80 ≤ c.toNat := by
          cases hc with
          | one hlead => omega
          | many hclass _ _ _ hleast => cases hclass <;> omega
        have hchars := @Chars.raw Scalar _ _ _ ⟨c, hencode.symm, by omega, by omega, by omega⟩
          (ih (by omega) hbehind hrestUtf8)
        simpa using hchars

theorem chars_iff {t out : Bytes} :
    Chars Scalar t out ↔ Chars AnyByte t out ∧ IsUtf8 t := by
  constructor
  · intro h
    induction h with
    | nil => exact ⟨.nil, [], rfl⟩
    | raw hraw _ ih =>
      obtain ⟨c, rfl, -⟩ := id hraw
      exact ⟨ih.1.rawBytes hraw.bytes, (isUtf8_encodeChar c).append ih.2⟩
    | escape hescape _ ih =>
      exact ⟨.escape hescape ih.1, (isUtf8_ascii hescape.ascii.2).append ih.2⟩
  · rintro ⟨h, hutf8⟩
    exact h.scalars (t.length + 1) (Nat.lt_succ_self _) hutf8

theorem stringText_iff {t out : Bytes} :
    StringText Scalar t out ↔ StringText AnyByte t out ∧ IsUtf8 t := by
  have hquote : (34 : UInt8).toNat < 0x80 := by decide
  constructor
  · rintro ⟨body, rfl, hbody, hlength⟩
    obtain ⟨hbytes, hutf8⟩ := chars_iff.mp hbody
    refine ⟨⟨body, rfl, hbytes, hlength⟩, ?_⟩
    exact IsUtf8.append (a := [34]) (isUtf8_singleton hquote)
      (hutf8.append (isUtf8_singleton hquote))
  · rintro ⟨⟨body, rfl, hbody, hlength⟩, hutf8⟩
    have hbodyUtf8 := (IsUtf8.split _ (Nat.le_refl _) (hutf8.of_cons_ascii hquote)
      (by rintro c ⟨⟩; exact hquote)).1
    exact ⟨body, rfl, chars_iff.mpr ⟨hbody, hbodyUtf8⟩, hlength⟩

/-! ### Values -/

variable {α : Type} {Element Element' : Bytes → α → Prop} {Value Value' : Bytes → JsonValue → Prop}

theorem separated_iff (h : ∀ t a, Element t a ↔ Element' t a ∧ IsUtf8 t) {t : Bytes} {as : List α} :
    Separated Element t as ↔ Separated Element' t as ∧ IsUtf8 t := by
  have hcomma : (44 : UInt8).toNat < 0x80 := by decide
  constructor
  · intro hs
    induction hs with
    | one ha =>
      obtain ⟨ha, hutf8⟩ := (h _ _).mp ha
      exact ⟨.one ha, hutf8⟩
    | more ha _ ih =>
      obtain ⟨ha, hutf8⟩ := (h _ _).mp ha
      refine ⟨.more ha ih.1, hutf8.append ?_⟩
      exact IsUtf8.append (a := [44]) (isUtf8_singleton hcomma) ih.2
  · rintro ⟨hs, hutf8⟩
    induction hs with
    | one ha => exact .one ((h _ _).mpr ⟨ha, hutf8⟩)
    | more ha _ ih =>
      obtain ⟨hfirst, hrest⟩ := IsUtf8.split _ (Nat.le_refl _) hutf8
        (by rintro c ⟨⟩; exact hcomma)
      exact .more ((h _ _).mpr ⟨ha, hfirst⟩) (ih (hrest.of_cons_ascii hcomma))

/-- White space in front of what is white space or nothing. -/
theorem Blank.head_ascii {t : Bytes} (h : Blank t) : ∀ c ∈ t.head?, c.toNat < 0x80 :=
  fun c hc => h.ascii c (List.mem_of_mem_head? hc)

theorem padded_iff (h : ∀ t v, Value t v ↔ Value' t v ∧ IsUtf8 t) (t : Bytes) (v : JsonValue) :
    Padded Value t v ↔ Padded Value' t v ∧ IsUtf8 t := by
  constructor
  · rintro ⟨before, body, after, rfl, hbefore, hvalue, hafter⟩
    obtain ⟨hvalue, hutf8⟩ := (h _ _).mp hvalue
    exact ⟨⟨before, body, after, rfl, hbefore, hvalue, hafter⟩,
      (isUtf8_ascii hbefore.ascii).append (hutf8.append (isUtf8_ascii hafter.ascii))⟩
  · rintro ⟨⟨before, body, after, rfl, hbefore, hvalue, hafter⟩, hutf8⟩
    have hbody := (IsUtf8.split _ (Nat.le_refl _) (hutf8.of_append_ascii hbefore.ascii)
      hafter.head_ascii).1
    exact ⟨before, body, after, rfl, hbefore, (h _ _).mpr ⟨hvalue, hbody⟩, hafter⟩

theorem memberText_iff (h : ∀ t v, Value t v ↔ Value' t v ∧ IsUtf8 t) (t : Bytes)
    (member : Bytes × JsonValue) :
    MemberText Scalar Value t member ↔ MemberText AnyByte Value' t member ∧ IsUtf8 t := by
  have hcolon : (58 : UInt8).toNat < 0x80 := by decide
  constructor
  · rintro ⟨before, key, after, rest, rfl, hbefore, hkey, hafter, hrest⟩
    obtain ⟨hkey, hkeyUtf8⟩ := stringText_iff.mp hkey
    obtain ⟨hrest, hrestUtf8⟩ := (padded_iff h _ _).mp hrest
    refine ⟨⟨before, key, after, rest, rfl, hbefore, hkey, hafter, hrest⟩,
      (isUtf8_ascii hbefore.ascii).append (hkeyUtf8.append
        ((isUtf8_ascii hafter.ascii).append ?_))⟩
    exact IsUtf8.append (a := [58]) (isUtf8_singleton hcolon) hrestUtf8
  · rintro ⟨⟨before, key, after, rest, rfl, hbefore, hkey, hafter, hrest⟩, hutf8⟩
    have hhead : ∀ c ∈ (after ++ 58 :: rest).head?, c.toNat < 0x80 := by
      cases after with
      | nil =>
        rintro c ⟨⟩
        exact hcolon
      | cons x after => exact hafter.head_ascii
    obtain ⟨hkeyUtf8, hbehind⟩ := IsUtf8.split _ (Nat.le_refl _)
      (hutf8.of_append_ascii hbefore.ascii) hhead
    have hrestUtf8 := (hbehind.of_append_ascii hafter.ascii).of_cons_ascii hcolon
    exact ⟨before, key, after, rest, rfl, hbefore, stringText_iff.mpr ⟨hkey, hkeyUtf8⟩, hafter,
      (padded_iff h _ _).mpr ⟨hrest, hrestUtf8⟩⟩

theorem literal_ascii (t : Bytes) (h : t = text "null" ∨ t = text "true" ∨ t = text "false") :
    IsUtf8 t := by
  rcases h with rfl | rfl | rfl <;> exact isUtf8_ascii (by decide +kernel)

/-- What is between two brackets. -/
theorem isUtf8_enclosed {first last : UInt8} (hfirst : first.toNat < 0x80)
    (hlast : last.toNat < 0x80) {t : Bytes} : IsUtf8 (first :: (t ++ [last])) ↔ IsUtf8 t := by
  constructor
  · intro h
    exact (IsUtf8.split _ (Nat.le_refl _) (h.of_cons_ascii hfirst) (by rintro c ⟨⟩; exact hlast)).1
  · intro h
    exact IsUtf8.append (a := [first]) (isUtf8_singleton hfirst)
      (h.append (isUtf8_singleton hlast))

theorem valueText_iff (h : ∀ t v, Value t v ↔ Value' t v ∧ IsUtf8 t) (t : Bytes) (v : JsonValue) :
    ValueText Scalar Value t v ↔ ValueText AnyByte Value' t v ∧ IsUtf8 t := by
  have hbracket : (91 : UInt8).toNat < 0x80 ∧ (93 : UInt8).toNat < 0x80 := by decide
  have hbrace : (123 : UInt8).toNat < 0x80 ∧ (125 : UInt8).toNat < 0x80 := by decide
  constructor
  · intro ht
    cases ht with
    | null => exact ⟨.null, literal_ascii _ (.inl rfl)⟩
    | true => exact ⟨.true, literal_ascii _ (.inr (.inl rfl))⟩
    | false => exact ⟨.false, literal_ascii _ (.inr (.inr rfl))⟩
    | number hn => exact ⟨.number hn, isUtf8_ascii hn.ascii⟩
    | string hs =>
      obtain ⟨hs, hutf8⟩ := stringText_iff.mp hs
      exact ⟨.string hs, hutf8⟩
    | emptyArray hb =>
      exact ⟨.emptyArray hb, (isUtf8_enclosed hbracket.1 hbracket.2).mpr (isUtf8_ascii hb.ascii)⟩
    | array hitems hcount =>
      obtain ⟨hitems, hutf8⟩ := (separated_iff (padded_iff h)).mp hitems
      exact ⟨.array hitems hcount, (isUtf8_enclosed hbracket.1 hbracket.2).mpr hutf8⟩
    | emptyObject hb =>
      exact ⟨.emptyObject hb, (isUtf8_enclosed hbrace.1 hbrace.2).mpr (isUtf8_ascii hb.ascii)⟩
    | object hmembers hcount hkeys =>
      obtain ⟨hmembers, hutf8⟩ := (separated_iff (memberText_iff h)).mp hmembers
      exact ⟨.object hmembers hcount hkeys, (isUtf8_enclosed hbrace.1 hbrace.2).mpr hutf8⟩
  · rintro ⟨ht, hutf8⟩
    cases ht with
    | null => exact .null
    | true => exact .true
    | false => exact .false
    | number hn => exact .number hn
    | string hs => exact .string (stringText_iff.mpr ⟨hs, hutf8⟩)
    | emptyArray hb => exact .emptyArray hb
    | array hitems hcount =>
      have hinner := (isUtf8_enclosed hbracket.1 hbracket.2).mp hutf8
      exact .array ((separated_iff (padded_iff h)).mpr ⟨hitems, hinner⟩) hcount
    | emptyObject hb => exact .emptyObject hb
    | object hmembers hcount hkeys =>
      have hinner := (isUtf8_enclosed hbrace.1 hbrace.2).mp hutf8
      exact .object ((separated_iff (memberText_iff h)).mpr ⟨hmembers, hinner⟩) hcount hkeys

theorem nested_iff (levels : Nat) (t : Bytes) (v : JsonValue) :
    Nested Scalar levels t v ↔ Nested AnyByte levels t v ∧ IsUtf8 t := by
  induction levels generalizing t v with
  | zero => exact ⟨False.elim, fun h => h.1.elim⟩
  | succ levels ih => exact valueText_iff ih t v

end JsonGrammar

/-- A document is one of bytes that is UTF-8. -/
theorem jsonDocument_iff (limits : RuntimeLimits) (t : Bytes) (v : JsonValue) :
    JsonDocument limits t v ↔ JsonDocumentOfBytes limits t v ∧ isValidUtf8 t = true := by
  have hpadded := JsonGrammar.padded_iff (JsonGrammar.nested_iff (kMaxJsonDepth + 1)) t v
  unfold JsonDocument JsonDocumentOfBytes JsonGrammar.Document
  rw [hpadded, isValidUtf8_iff, ← IsUtf8, and_assoc]

end RolloutFabric
