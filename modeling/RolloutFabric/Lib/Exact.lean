/-
Decoders that accept one encoding. `Exact d enc P` says that `d` succeeds on exactly the
encodings of the values that satisfy `P`, whatever follows them, and leaves what follows: both
the round trip and the canonical form. The law of a record decoder is assembled field by field;
`C` collects what the fields already read have fixed of the record.
-/
import RolloutFabric.Lib.Decoding

namespace Decoding

variable {τ ε α β : Type}

/-- `d` returns `a` and leaves `rest` exactly when `a` satisfies `P` and the input is its encoding
followed by `rest`. -/
def Exact (d : StateT (List τ) (Except ε) α) (enc : α → List τ) (P : α → Prop) : Prop :=
  ∀ bs a rest, d bs = .ok (a, rest) ↔ P a ∧ bs = enc a ++ rest

variable {d : StateT (List τ) (Except ε) α} {k : α → StateT (List τ) (Except ε) β}
  {enc encA : α → List τ} {encB : β → List τ} {es : β → List (List τ)} {P Q PA : α → Prop}
  {C D R : β → Prop} {c : StateT (List τ) (Except ε) Unit} {d' : StateT (List τ) (Except ε) β}

/-- A result is passed on when both computations succeed. -/
theorem except_bind_eq_ok {x : Except ε α} {f : α → Except ε β} {b : β} :
    (x >>= f) = .ok b ↔ ∃ a, x = .ok a ∧ f a = .ok b := by
  cases x <;> simp [bind, Except.bind]

/-- A sequence returns a result when its first part returns a value and the rest, run on it,
returns the result. -/
theorem bind_eq_ok {bs rest : List τ} {b : β} :
    (d >>= k) bs = .ok (b, rest) ↔ ∃ a mid, d bs = .ok (a, mid) ∧ k a mid = .ok (b, rest) := by
  simp only [bind, StateT.bind, Except.bind]
  cases hd : d bs with
  | error e => simp
  | ok r =>
    obtain ⟨a, mid⟩ := r
    constructor
    · exact fun hk => ⟨a, mid, rfl, hk⟩
    · rintro ⟨_, _, ⟨⟩, hk⟩
      exact hk

namespace Exact

theorem decode (h : Exact d enc P) {a : α} (ha : P a) (rest : List τ) :
    d (enc a ++ rest) = .ok (a, rest) :=
  (h _ a rest).2 ⟨ha, rfl⟩

theorem canonical (h : Exact d enc P) {bs rest : List τ} {a : α} (hd : d bs = .ok (a, rest)) :
    P a ∧ bs = enc a ++ rest :=
  (h bs a rest).1 hd

/-- The condition may be replaced by an equivalent one. -/
theorem congr (h : Exact d enc P) (hpq : ∀ a, P a ↔ Q a) : Exact d enc Q := by
  intro bs a rest
  rw [h bs a rest, hpq a]

/-- Values that satisfy the condition are encoded differently only if they differ. -/
theorem injective (h : Exact d enc P) {a b : α} (ha : P a) (hb : P b) (heq : enc a = enc b) :
    a = b := by
  have hda := h.decode ha []
  rw [heq, h.decode hb []] at hda
  exact (Prod.mk.inj (Except.ok.inj hda)).1.symm

/-! ## Records -/

/-- A whole record: nothing has been read of it yet. -/
theorem record {P : β → Prop} (h : Exact d' encB (fun b => True ∧ R b)) (hr : ∀ b, R b ↔ P b) :
    Exact d' encB P :=
  h.congr fun b => (Iff.of_eq (true_and _)).trans (hr b)

/-- A field, followed by the others: they fix the rest of the record. -/
theorem field (proj : β → α) (hd : Exact d encA PA)
    (hk : ∀ a, Exact (k a) (fun b => (es b).flatten) (fun b => (C b ∧ proj b = a) ∧ R b)) :
    Exact (d >>= k) (fun b => (encA (proj b) :: es b).flatten)
      (fun b => C b ∧ PA (proj b) ∧ R b) := by
  intro bs b rest
  rw [bind_eq_ok]
  constructor
  · rintro ⟨a, mid, hda, hka⟩
    obtain ⟨hpa, rfl⟩ := hd.canonical hda
    obtain ⟨⟨⟨hc, rfl⟩, hr⟩, rfl⟩ := (hk a).canonical hka
    exact ⟨⟨hc, hpa, hr⟩, by simp⟩
  · rintro ⟨⟨hc, hpa, hr⟩, rfl⟩
    have hrest := (hk (proj b)).decode ⟨⟨hc, rfl⟩, hr⟩ rest
    exact ⟨proj b, (es b).flatten ++ rest, by simpa using hd.decode hpa _, hrest⟩

/-- A check that consumes nothing and passes on exactly the records with `D`. -/
theorem guard (hc : ∀ bs b, C b → (c bs = .ok ((), bs) ↔ D b))
    (hclean : ∀ bs rest, c bs = .ok ((), rest) → rest = bs)
    (hk : Exact d' encB (fun b => C b ∧ R b)) :
    Exact (c >>= fun _ => d') encB (fun b => C b ∧ D b ∧ R b) := by
  intro bs b rest
  rw [bind_eq_ok]
  constructor
  · rintro ⟨u, mid, hcu, hdu⟩
    obtain rfl := hclean bs mid hcu
    obtain ⟨⟨hcb, hr⟩, hbs⟩ := hk.canonical hdu
    exact ⟨⟨hcb, (hc mid b hcb).1 hcu, hr⟩, hbs⟩
  · rintro ⟨⟨hcb, hdb, hr⟩, hbs⟩
    exact ⟨(), bs, (hc bs b hcb).2 hdb, (hk bs b rest).2 ⟨⟨hcb, hr⟩, hbs⟩⟩

/-- The end of a record: its fields have fixed it. -/
theorem done {x : β} (h : ∀ b, C b ∧ R b ↔ b = x) :
    Exact (pure x : StateT (List τ) (Except ε) β) (fun _ => ([] : List (List τ)).flatten)
      (fun b => C b ∧ R b) := by
  intro bs b rest
  show Except.ok (x, bs) = Except.ok (b, rest) ↔ (C b ∧ R b) ∧ bs = rest
  rw [h b]
  constructor
  · rintro ⟨⟩
    exact ⟨rfl, rfl⟩
  · rintro ⟨rfl, rfl⟩
    rfl

/-- A value is read back through a view of it. -/
theorem map {f : α → β} (g : β → α) (hfg : ∀ b, f (g b) = b) (hgf : ∀ a, P a → g (f a) = a)
    (h : Exact d enc P) :
    Exact (d >>= fun a => pure (f a)) (fun b => enc (g b)) (fun b => P (g b)) := by
  intro bs b rest
  show _ ↔ P (g b) ∧ bs = enc (g b) ++ rest
  rw [bind_eq_ok]
  constructor
  · rintro ⟨a, mid, hda, hpure⟩
    obtain ⟨hpa, rfl⟩ := h.canonical hda
    obtain ⟨rfl, rfl⟩ := Prod.mk.inj (Except.ok.inj hpure)
    rw [hgf a hpa]
    exact ⟨hpa, rfl⟩
  · rintro ⟨hp, rfl⟩
    exact ⟨g b, rest, h.decode hp rest, by rw [hfg]; rfl⟩

/-! ## Repetition -/

/-- As many values as are asked for, one after the other. -/
theorem repeatN (h : Exact d enc P) : ∀ n,
    Exact (Decoding.repeatN n d) (fun xs => (xs.map enc).flatten)
      (fun xs => xs.length = n ∧ ∀ x ∈ xs, P x)
  | 0 => by
    intro bs xs rest
    show Except.ok ([], bs) = Except.ok (xs, rest) ↔ _
    constructor
    · rintro ⟨⟩
      simp
    · rintro ⟨⟨hlen, -⟩, rfl⟩
      obtain rfl := List.eq_nil_of_length_eq_zero hlen
      rfl
  | n + 1 => by
    intro bs xs rest
    have ih := repeatN h n
    rw [Decoding.repeatN, bind_eq_ok]
    constructor
    · rintro ⟨x, mid, hx, hxs⟩
      obtain ⟨ys, mid', hys, hpure⟩ := bind_eq_ok.1 hxs
      obtain ⟨rfl, rfl⟩ := Prod.mk.inj (Except.ok.inj hpure)
      obtain ⟨hpx, rfl⟩ := h.canonical hx
      obtain ⟨⟨hlen, hall⟩, rfl⟩ := ih.canonical hys
      refine ⟨⟨by simp [hlen], ?_⟩, by simp⟩
      rintro y (_ | ⟨_, hy⟩)
      · exact hpx
      · exact hall y hy
    · rintro ⟨⟨hlen, hall⟩, rfl⟩
      cases xs with
      | nil => simp at hlen
      | cons x ys =>
        have hys : ys.length = n := by simpa using hlen
        refine ⟨x, (ys.map enc).flatten ++ rest, ?_, bind_eq_ok.2 ⟨ys, rest, ?_, rfl⟩⟩
        · simpa using h.decode (hall x (List.mem_cons_self ..)) _
        · exact ih.decode ⟨hys, fun y hy => hall y (List.mem_cons_of_mem _ hy)⟩ rest

end Exact

end Decoding
