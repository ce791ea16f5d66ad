/-
UTF-8: the scan of a text accepts the concatenations of encoded Unicode scalar values, and nothing
else.
-/
import RolloutFabric.Codec.Wire

namespace RolloutFabric

/-- The encoding of a text of Unicode scalar values. -/
def utf8Encode (cs : List Char) : Bytes := cs.flatMap String.utf8EncodeChar

/-! ## Bytes as numbers -/

/-- The masks that tell the bytes of a sequence apart. -/
theorem leadMasks (b : UInt8) : (b &&& 0xE0 = 0xC0 ↔ b.toNat / 32 = 6)
    ∧ (b &&& 0xF0 = 0xE0 ↔ b.toNat / 16 = 14) ∧ (b &&& 0xF8 = 0xF0 ↔ b.toNat / 8 = 30)
    ∧ (b &&& 0xC0 = 0x80 ↔ b.toNat / 64 = 2) :=
  byte_all (P := fun b => (b &&& 0xE0 = 0xC0 ↔ b.toNat / 32 = 6)
    ∧ (b &&& 0xF0 = 0xE0 ↔ b.toNat / 16 = 14) ∧ (b &&& 0xF8 = 0xF0 ↔ b.toNat / 8 = 30)
    ∧ (b &&& 0xC0 = 0x80 ↔ b.toNat / 64 = 2)) (by decide +kernel) b

theorem lead_two_iff (b : UInt8) : b &&& 0xE0 = 0xC0 ↔ b.toNat / 32 = 6 := (leadMasks b).1

theorem lead_three_iff (b : UInt8) : b &&& 0xF0 = 0xE0 ↔ b.toNat / 16 = 14 := (leadMasks b).2.1

theorem lead_four_iff (b : UInt8) : b &&& 0xF8 = 0xF0 ↔ b.toNat / 8 = 30 := (leadMasks b).2.2.1

theorem tail_iff (b : UInt8) : b &&& 0xC0 = 0x80 ↔ b.toNat / 64 = 2 := (leadMasks b).2.2.2

theorem lowFive (b : UInt8) : (b &&& 0x1F).toUInt32.toNat = b.toNat % 32 := by
  rw [UInt8.toNat_toUInt32, UInt8.toNat_and]
  exact Nat.and_two_pow_sub_one_eq_mod b.toNat 5

theorem lowFour (b : UInt8) : (b &&& 0x0F).toUInt32.toNat = b.toNat % 16 := by
  rw [UInt8.toNat_toUInt32, UInt8.toNat_and]
  exact Nat.and_two_pow_sub_one_eq_mod b.toNat 4

theorem lowThree (b : UInt8) : (b &&& 0x07).toUInt32.toNat = b.toNat % 8 := by
  rw [UInt8.toNat_toUInt32, UInt8.toNat_and]
  exact Nat.and_two_pow_sub_one_eq_mod b.toNat 3

theorem lowSix (b : UInt8) : (b &&& 0x3F).toUInt32.toNat = b.toNat % 64 := by
  rw [UInt8.toNat_toUInt32, UInt8.toNat_and]
  exact Nat.and_two_pow_sub_one_eq_mod b.toNat 6

/-- Six more bits behind the code point. -/
theorem shiftIn {codepoint bits : UInt32} (hc : codepoint.toNat < 2 ^ 26) (hb : bits.toNat < 64) :
    ((codepoint <<< 6) ||| bits).toNat = codepoint.toNat * 64 + bits.toNat := by
  have hshift : (codepoint <<< 6).toNat = 2 ^ 6 * codepoint.toNat := by
    rw [UInt32.toNat_shiftLeft]
    show codepoint.toNat <<< 6 % 2 ^ 32 = _
    rw [Nat.shiftLeft_eq]
    omega
  rw [UInt32.toNat_or, hshift, ← Nat.two_pow_add_eq_or_of_lt (i := 6) hb]
  omega

/-! ## One character -/

/-- The lead classes, in numbers. -/
inductive LeadClass (n : Nat) : Nat → Nat → Nat → Prop
  | two : n / 32 = 6 → LeadClass n 1 (n % 32) 0x80
  | three : n / 16 = 14 → LeadClass n 2 (n % 16) 0x800
  | four : n / 8 = 30 → LeadClass n 3 (n % 8) 0x10000

theorem utf8Lead_some {lead : UInt8} {k : Nat} {bits least : UInt32}
    (h : utf8Lead lead = some (k, bits, least)) :
    LeadClass lead.toNat k bits.toNat least.toNat := by
  unfold utf8Lead at h
  split at h
  · next htwo =>
    cases h
    rw [lowFive]
    exact .two ((lead_two_iff lead).mp htwo)
  · split at h
    · next hthree =>
      cases h
      rw [lowFour]
      exact .three ((lead_three_iff lead).mp hthree)
    · split at h
      · next hfour =>
        cases h
        rw [lowThree]
        exact .four ((lead_four_iff lead).mp hfour)
      · cases h

theorem utf8Lead_of_class {lead : UInt8} {k bits least : Nat}
    (h : LeadClass lead.toNat k bits least) :
    ∃ b l : UInt32, utf8Lead lead = some (k, b, l) ∧ b.toNat = bits ∧ l.toNat = least := by
  unfold utf8Lead
  cases h with
  | two h =>
    rw [if_pos ((lead_two_iff lead).mpr h)]
    exact ⟨_, _, rfl, lowFive lead, rfl⟩
  | three h =>
    rw [if_neg (fun h2 => by have := (lead_two_iff lead).mp h2; omega),
      if_pos ((lead_three_iff lead).mpr h)]
    exact ⟨_, _, rfl, lowFour lead, rfl⟩
  | four h =>
    rw [if_neg (fun h2 => by have := (lead_two_iff lead).mp h2; omega),
      if_neg (fun h3 => by have := (lead_three_iff lead).mp h3; omega),
      if_pos ((lead_four_iff lead).mpr h)]
    exact ⟨_, _, rfl, lowThree lead, rfl⟩

/-- The code point behind the continuation bytes. -/
def continued (codepoint : Nat) (tails : Bytes) : Nat :=
  tails.foldl (fun n b => n * 64 + b.toNat % 64) codepoint

theorem utf8Continue_some (tails : Bytes) {codepoint : UInt32}
    (hroom : (codepoint.toNat + 1) * 64 ^ tails.length ≤ 2 ^ 26) (r : UInt32) :
    utf8Continue codepoint tails = some r
      ↔ (∀ b ∈ tails, b.toNat / 64 = 2) ∧ r.toNat = continued codepoint.toNat tails := by
  induction tails generalizing codepoint with
  | nil => simp [utf8Continue, continued, ← UInt32.toNat_inj, eq_comm]
  | cons next rest ih =>
    have hone : 1 ≤ 64 ^ rest.length := Nat.one_le_pow _ _ (by omega)
    have hsix : next.toNat % 64 < 64 := Nat.mod_lt _ (by omega)
    rw [List.length_cons, Nat.pow_succ] at hroom
    have hsmall : (codepoint.toNat + 1) * (1 * 64) ≤ 2 ^ 26 :=
      Nat.le_trans (Nat.mul_le_mul_left _ (Nat.mul_le_mul_right _ hone)) hroom
    have hshift : ((codepoint <<< 6) ||| (next &&& 0x3F).toUInt32).toNat
        = codepoint.toNat * 64 + next.toNat % 64 := by
      rw [shiftIn (by omega) (by rw [lowSix]; exact hsix), lowSix]
    have hnext : (codepoint.toNat * 64 + next.toNat % 64 + 1) * 64 ^ rest.length ≤ 2 ^ 26 := calc
      _ ≤ (codepoint.toNat + 1) * 64 * 64 ^ rest.length := Nat.mul_le_mul_right _ (by omega)
      _ = (codepoint.toNat + 1) * (64 ^ rest.length * 64) := by
        rw [Nat.mul_assoc, Nat.mul_comm 64]
      _ ≤ 2 ^ 26 := hroom
    unfold utf8Continue
    by_cases htail : next &&& 0xC0 = 0x80
    · rw [if_neg (by simpa using htail), ih (by rw [hshift]; exact hnext), hshift]
      simp [continued, (tail_iff next).mp htail]
    · rw [if_pos htail]
      constructor
      · intro h
        cases h
      · rintro ⟨htails, -⟩
        exact absurd ((tail_iff next).mpr (htails next List.mem_cons_self)) htail

/-- The first character of a scan: how many continuation bytes it has, if it is well formed. -/
def utf8Step (lead : UInt8) (rest : Bytes) : Option Nat :=
  if lead < 0x80 then some 0
  else (utf8Lead lead).bind fun (continuation, bits, minimum) =>
    if rest.length < continuation then none
    else (utf8Continue bits (rest.take continuation)).bind fun codepoint =>
      if codepoint < minimum then none
      else if 0x10FFFF < codepoint then none
      else if 0xD800 ≤ codepoint ∧ codepoint ≤ 0xDFFF then none
      else some continuation

theorem utf8Scan_cons (fuel : Nat) (lead : UInt8) (rest : Bytes) :
    utf8Scan (fuel + 1) (lead :: rest)
      = match utf8Step lead rest with
        | none => false
        | some continuation => utf8Scan fuel (rest.drop continuation) := by
  rw [utf8Scan]
  unfold utf8Step
  by_cases hascii : lead < 0x80
  · rw [if_pos hascii, if_pos hascii]
    rfl
  · rw [if_neg hascii, if_neg hascii]
    rcases utf8Lead lead with - | ⟨continuation, bits, minimum⟩
    · rfl
    · show (if _ then _ else _) = match (if _ then _ else _ : Option Nat) with | none => _ | some _ => _
      split
      · rfl
      · rcases utf8Continue bits (rest.take continuation) with - | codepoint
        · rfl
        · show (if _ then _ else _) = match (if _ then _ else _ : Option Nat) with | none => _ | some _ => _
          split
          · rfl
          · split
            · rfl
            · split <;> rfl

/-- The bytes of a scalar value, by the class of its lead byte. -/
inductive Encodes (value : Nat) (lead : UInt8) (tails : Bytes) : Prop
  | one : lead.toNat < 0x80 → value = lead.toNat → tails = [] → Encodes value lead tails
  | many {k bits least : Nat} : LeadClass lead.toNat k bits least → tails.length = k →
    (∀ b ∈ tails, b.toNat / 64 = 2) → value = continued bits tails → least ≤ value →
    Encodes value lead tails

theorem utf8Encode_of_encodes {c : Char} {lead : UInt8} {tails : Bytes}
    (h : Encodes c.toNat lead tails) : String.utf8EncodeChar c = lead :: tails := by
  unfold String.utf8EncodeChar
  rw [show c.val.toNat = c.toNat from rfl]
  generalize c.toNat = v at h ⊢
  have hlead := lead.toNat_lt
  cases h with
  | one h hvalue htails =>
    rw [if_pos (by omega), htails, hvalue, UInt8.ofNat_toNat]
  | many hclass hlength htails hvalue hleast =>
    cases hclass with
    | two hclass =>
      obtain ⟨a, rfl⟩ := List.length_eq_one_iff.mp hlength
      have ha := htails a (by simp)
      simp only [continued, List.foldl_cons, List.foldl_nil] at hvalue
      rw [if_neg (by omega), if_pos (by omega)]
      simp only [List.cons.injEq, and_true, ← UInt8.toNat_inj, UInt8.toNat_ofNat']
      constructor <;> omega
    | three hclass =>
      obtain ⟨a, b, rfl⟩ := List.length_eq_two.mp hlength
      have ha := htails a (by simp)
      have hb := htails b (by simp)
      simp only [continued, List.foldl_cons, List.foldl_nil] at hvalue
      rw [if_neg (by omega), if_neg (by omega), if_pos (by omega)]
      simp only [List.cons.injEq, and_true, ← UInt8.toNat_inj, UInt8.toNat_ofNat']
      refine ⟨?_, ?_, ?_⟩ <;> omega
    | four hclass =>
      obtain ⟨a, b, d, rfl⟩ := List.length_eq_three.mp hlength
      have ha := htails a (by simp)
      have hb := htails b (by simp)
      have hd := htails d (by simp)
      simp only [continued, List.foldl_cons, List.foldl_nil] at hvalue
      rw [if_neg (by omega), if_neg (by omega), if_neg (by omega)]
      simp only [List.cons.injEq, and_true, ← UInt8.toNat_inj, UInt8.toNat_ofNat']
      refine ⟨?_, ?_, ?_, ?_⟩ <;> omega

theorem scalar_cases (c : Char) : c.toNat < 0xD800 ∨ 0xDFFF < c.toNat ∧ c.toNat < 0x110000 :=
  c.valid

theorem encodes_of_utf8Encode (c : Char) :
    ∃ lead tails, String.utf8EncodeChar c = lead :: tails ∧ Encodes c.toNat lead tails := by
  have hscalar := scalar_cases c
  unfold String.utf8EncodeChar
  rw [show c.val.toNat = c.toNat from rfl]
  generalize c.toNat = v at hscalar ⊢
  dsimp only
  split
  · refine ⟨_, _, rfl, .one ?_ ?_ rfl⟩ <;> rw [UInt8.toNat_ofNat'] <;> omega
  · split
    · refine ⟨_, _, rfl, .many (.two ?_) rfl ?_ ?_ ?_⟩
      · rw [UInt8.toNat_ofNat']
        omega
      · intro b hb
        rw [List.mem_singleton.mp hb, UInt8.toNat_ofNat']
        omega
      · simp only [continued, List.foldl_cons, List.foldl_nil, UInt8.toNat_ofNat']
        omega
      · omega
    · split
      · refine ⟨_, _, rfl, .many (.three ?_) rfl ?_ ?_ ?_⟩
        · rw [UInt8.toNat_ofNat']
          omega
        · intro b hb
          simp only [List.mem_cons, List.not_mem_nil, or_false] at hb
          rcases hb with rfl | rfl <;> rw [UInt8.toNat_ofNat'] <;> omega
        · simp only [continued, List.foldl_cons, List.foldl_nil, UInt8.toNat_ofNat']
          omega
        · omega
      · refine ⟨_, _, rfl, .many (.four ?_) rfl ?_ ?_ ?_⟩
        · rw [UInt8.toNat_ofNat']
          omega
        · intro b hb
          simp only [List.mem_cons, List.not_mem_nil, or_false] at hb
          rcases hb with rfl | rfl | rfl <;> rw [UInt8.toNat_ofNat'] <;> omega
        · simp only [continued, List.foldl_cons, List.foldl_nil, UInt8.toNat_ofNat']
          omega
        · omega

/-! ## The scan -/

theorem LeadClass.room {n k bits least : Nat} (h : LeadClass n k bits least) :
    (bits + 1) * 64 ^ k ≤ 2 ^ 26 := by
  cases h with
  | two => show (n % 32 + 1) * 64 ≤ _; omega
  | three => show (n % 16 + 1) * 4096 ≤ _; omega
  | four => show (n % 8 + 1) * 262144 ≤ _; omega

theorem utf8Step_some {lead : UInt8} {rest : Bytes} {k : Nat} (h : utf8Step lead rest = some k) :
    k ≤ rest.length ∧ ∃ c : Char, Encodes c.toNat lead (rest.take k) := by
  unfold utf8Step at h
  split at h
  · next hascii =>
    cases h
    have hlt : lead.toNat < 0x80 := hascii
    have hvalue : lead.toUInt32.toNat = lead.toNat := UInt8.toNat_toUInt32 lead
    refine ⟨Nat.zero_le _, ⟨lead.toUInt32, Or.inl (by omega)⟩, .one hlt hvalue rfl⟩
  · obtain ⟨⟨n, bits, least⟩, hlead, h⟩ := Option.bind_eq_some_iff.mp h
    have hclass := utf8Lead_some hlead
    dsimp only at h
    split at h
    · cases h
    · next hlength =>
      obtain ⟨codepoint, hcontinue, h⟩ := Option.bind_eq_some_iff.mp h
      have htake : (rest.take n).length = n := List.length_take_of_le (by omega)
      obtain ⟨htails, hvalue⟩ := (utf8Continue_some _ (by rw [htake]; exact hclass.room) _).mp
        hcontinue
      split at h
      · cases h
      · next hleast =>
        split at h
        · cases h
        · next hmost =>
          split at h
          · cases h
          · next hsurrogate =>
            cases h
            have hleast : least.toNat ≤ codepoint.toNat := UInt32.not_lt.mp hleast
            have hmost : codepoint.toNat ≤ 0x10FFFF := UInt32.not_lt.mp hmost
            have hsurrogate : ¬(0xD800 ≤ codepoint.toNat ∧ codepoint.toNat ≤ 0xDFFF) := hsurrogate
            have hvalid : codepoint.isValidChar := by
              show codepoint.toNat < 0xD800 ∨ 0xDFFF < codepoint.toNat ∧ codepoint.toNat < 0x110000
              omega
            exact ⟨by omega, ⟨codepoint, hvalid⟩, .many hclass htake htails hvalue hleast⟩

theorem utf8Step_of_encodes {c : Char} {lead : UInt8} {tails : Bytes}
    (h : Encodes c.toNat lead tails) (rest : Bytes) :
    utf8Step lead (tails ++ rest) = some tails.length := by
  unfold utf8Step
  cases h with
  | one hascii _ htails =>
    rw [if_pos (show lead < 0x80 from hascii), htails]
    rfl
  | many hclass hlength htails hvalue hleast =>
    obtain ⟨bits, least, hlead, hbits, hl⟩ := utf8Lead_of_class hclass
    have hbig : ¬ lead < 0x80 := by
      show ¬ lead.toNat < 0x80
      cases hclass <;> omega
    have hcontinue : utf8Continue bits tails = some c.val :=
      (utf8Continue_some _ (by rw [hbits, hlength]; exact hclass.room) _).mpr
        ⟨htails, by rw [hbits]; exact hvalue⟩
    have hscalar := scalar_cases c
    have hmin : ¬ c.val < least := by
      show ¬ c.toNat < least.toNat
      omega
    have hmax : ¬ 0x10FFFF < c.val := by
      show ¬ 0x10FFFF < c.toNat
      omega
    have hsurrogate : ¬ (0xD800 ≤ c.val ∧ c.val ≤ 0xDFFF) := by
      show ¬ (0xD800 ≤ c.toNat ∧ c.toNat ≤ 0xDFFF)
      omega
    rw [if_neg hbig, hlead, Option.bind_some]
    dsimp only
    rw [if_neg (by rw [List.length_append]; omega), List.take_left' hlength, hcontinue,
      Option.bind_some, if_neg hmin, if_neg hmax, if_neg hsurrogate, hlength]

/-- The scan takes one character after another. -/
theorem utf8Scan_iff (fuel : Nat) (t : Bytes) (hfuel : t.length ≤ fuel) :
    utf8Scan fuel t = true ↔ ∃ cs, t = utf8Encode cs := by
  induction fuel generalizing t with
  | zero =>
    rw [List.length_eq_zero_iff.mp (Nat.le_zero.mp hfuel)]
    exact iff_of_true rfl ⟨[], rfl⟩
  | succ fuel ih =>
    cases t with
    | nil => exact iff_of_true rfl ⟨[], rfl⟩
    | cons lead rest =>
      rw [List.length_cons] at hfuel
      rw [utf8Scan_cons]
      constructor
      · intro h
        cases hstep : utf8Step lead rest with
        | none =>
          rw [hstep] at h
          cases h
        | some k =>
          rw [hstep] at h
          obtain ⟨-, c, hc⟩ := utf8Step_some hstep
          obtain ⟨cs, hcs⟩ := (ih _ (by rw [List.length_drop]; omega)).mp h
          refine ⟨c :: cs, ?_⟩
          rw [utf8Encode, List.flatMap_cons, utf8Encode_of_encodes hc, List.cons_append,
            ← utf8Encode, ← hcs, List.take_append_drop]
      · rintro ⟨cs, hcs⟩
        cases cs with
        | nil => cases hcs
        | cons c cs =>
          obtain ⟨first, tails, hencode, hc⟩ := encodes_of_utf8Encode c
          rw [utf8Encode, List.flatMap_cons, hencode, List.cons_append, List.cons.injEq] at hcs
          obtain ⟨rfl, rfl⟩ := hcs
          rw [utf8Step_of_encodes hc]
          dsimp only
          rw [List.drop_left]
          refine (ih _ ?_).mpr ⟨cs, rfl⟩
          rw [List.length_append] at hfuel
          omega

/-- `is_valid_utf8` is RFC 3629: a text passes exactly when it is the concatenation of the
encodings of Unicode scalar values. -/
theorem isValidUtf8_iff (t : Bytes) : isValidUtf8 t = true ↔ ∃ cs, t = utf8Encode cs :=
  utf8Scan_iff t.length t (Nat.le_refl _)

/-! ## Parts of a text -/

def IsUtf8 (t : Bytes) : Prop := ∃ cs, t = utf8Encode cs

theorem utf8Encode_cons (c : Char) (cs : List Char) :
    utf8Encode (c :: cs) = String.utf8EncodeChar c ++ utf8Encode cs :=
  List.flatMap_cons

theorem IsUtf8.append {a b : Bytes} (ha : IsUtf8 a) (hb : IsUtf8 b) : IsUtf8 (a ++ b) := by
  obtain ⟨as, rfl⟩ := ha
  obtain ⟨bs, rfl⟩ := hb
  exact ⟨as ++ bs, List.flatMap_append.symm⟩

theorem isUtf8_encodeChar (c : Char) : IsUtf8 (String.utf8EncodeChar c) :=
  ⟨[c], by rw [utf8Encode_cons, utf8Encode, List.flatMap_nil, List.append_nil]⟩

theorem encodeChar_ascii {b : UInt8} (h : b.toNat < 0x80) :
    ∃ c : Char, c.toNat = b.toNat ∧ String.utf8EncodeChar c = [b] := by
  have hvalue : b.toUInt32.toNat = b.toNat := UInt8.toNat_toUInt32 b
  exact ⟨⟨b.toUInt32, Or.inl (by omega)⟩, hvalue, utf8Encode_of_encodes (.one h hvalue rfl)⟩

theorem isUtf8_ascii {t : Bytes} (h : ∀ b ∈ t, b.toNat < 0x80) : IsUtf8 t := by
  induction t with
  | nil => exact ⟨[], rfl⟩
  | cons b t ih =>
    obtain ⟨c, -, hc⟩ := encodeChar_ascii (h b List.mem_cons_self)
    rw [← List.singleton_append, ← hc]
    exact (isUtf8_encodeChar c).append (ih fun x hx => h x (List.mem_cons_of_mem b hx))

theorem isUtf8_singleton {b : UInt8} (h : b.toNat < 0x80) : IsUtf8 [b] :=
  isUtf8_ascii fun _ hx => by rwa [List.mem_singleton.mp hx]

/-- The first character of a text. -/
theorem IsUtf8.cons {lead : UInt8} {t : Bytes} (h : IsUtf8 (lead :: t)) :
    ∃ c tails rest, String.utf8EncodeChar c = lead :: tails ∧ Encodes c.toNat lead tails
      ∧ t = tails ++ rest ∧ IsUtf8 rest := by
  obtain ⟨cs, hcs⟩ := h
  cases cs with
  | nil => cases hcs
  | cons c cs =>
    obtain ⟨first, tails, hencode, hc⟩ := encodes_of_utf8Encode c
    rw [utf8Encode_cons, hencode, List.cons_append, List.cons.injEq] at hcs
    obtain ⟨rfl, rfl⟩ := hcs
    exact ⟨c, tails, _, hencode, hc, rfl, cs, rfl⟩

theorem Encodes.tails_high {v : Nat} {lead : UInt8} {tails : Bytes} (h : Encodes v lead tails) :
    ∀ b ∈ tails, 0x80 ≤ b.toNat := by
  intro b hb
  cases h with
  | one _ _ htails =>
    rw [htails] at hb
    cases hb
  | many _ _ htails =>
    have := htails b hb
    omega

theorem Encodes.of_ascii {v : Nat} {lead : UInt8} {tails : Bytes} (h : Encodes v lead tails)
    (hlead : lead.toNat < 0x80) : tails = [] ∧ v = lead.toNat := by
  cases h with
  | one _ hvalue htails => exact ⟨htails, hvalue⟩
  | many hclass => cases hclass <;> omega

theorem IsUtf8.of_cons_ascii {b : UInt8} {t : Bytes} (h : IsUtf8 (b :: t)) (hb : b.toNat < 0x80) :
    IsUtf8 t := by
  obtain ⟨c, tails, rest, -, hc, rfl, hrest⟩ := h.cons
  rwa [(hc.of_ascii hb).1]

theorem IsUtf8.of_append_ascii {a t : Bytes} (h : IsUtf8 (a ++ t))
    (ha : ∀ b ∈ a, b.toNat < 0x80) : IsUtf8 t := by
  induction a with
  | nil => exact h
  | cons b a ih =>
    exact ih (h.of_cons_ascii (ha b List.mem_cons_self)) fun x hx => ha x (List.mem_cons_of_mem b hx)

/-- A text is cut between two characters in front of an ASCII character. -/
theorem IsUtf8.split (n : Nat) {a b : Bytes} (hn : a.length ≤ n) (h : IsUtf8 (a ++ b))
    (hb : ∀ c ∈ b.head?, c.toNat < 0x80) : IsUtf8 a ∧ IsUtf8 b := by
  induction n generalizing a with
  | zero =>
    rw [List.length_eq_zero_iff.mp (Nat.le_zero.mp hn)] at h ⊢
    exact ⟨⟨[], rfl⟩, h⟩
  | succ n ih =>
    cases a with
    | nil => exact ⟨⟨[], rfl⟩, h⟩
    | cons lead a =>
      rw [List.length_cons] at hn
      obtain ⟨c, tails, rest, hencode, hc, hsplit, hrest⟩ := h.cons
      rcases List.append_eq_append_iff.mp hsplit with ⟨more, htails, hb'⟩ | ⟨more, ha, hrest'⟩
      · -- the cut lies within the character, or just behind it
        cases more with
        | nil =>
          rw [List.nil_append] at hb'
          rw [List.append_nil] at htails
          rw [← htails, ← hencode, hb']
          exact ⟨isUtf8_encodeChar c, hrest⟩
        | cons x more =>
          have hhigh := hc.tails_high x (by rw [htails]; simp)
          have hlow := hb x (by rw [hb']; rfl)
          omega
      · rw [hrest'] at hrest
        obtain ⟨hmore, hb⟩ := ih (a := more) (by
          rw [ha, List.length_append] at hn
          omega) hrest
        refine ⟨?_, hb⟩
        rw [ha, ← List.cons_append, ← hencode]
        exact (isUtf8_encodeChar c).append hmore

end RolloutFabric
