/-
Decoders and what they do on an encoding. `Decodes N d bs P a` says that on any input that
starts with `bs` the decoder `d` consumes exactly `bs` and returns `a` when `P` holds, and
fails when it does not. The relation composes along `bind`, so the law of a record decoder is
assembled from the laws of its fields; the bound `N` is the size below which a length prefix
is exact.
-/
import Mathlib

namespace Decoding

variable {τ ε α β : Type}

/-- On `bs`, `d` returns `a` when `P` holds and fails otherwise, whatever follows. -/
def Decodes (N : Nat) (d : StateT (List τ) (Except ε) α) (bs : List τ) (P : Prop) (a : α) : Prop :=
  bs.length < N → ∀ rest, (P → d (bs ++ rest) = .ok (a, rest)) ∧
    (¬ P → ∃ e, d (bs ++ rest) = .error e)

variable {N : Nat} {d : StateT (List τ) (Except ε) α} {k : α → StateT (List τ) (Except ε) β}
  {bs cs : List τ} {es : List (List τ)} {P Q : Prop} {a : α} {b : β}

namespace Decodes

/-- The condition may be replaced by an equivalent one. -/
theorem congr (h : Decodes N d bs P a) (hpq : P ↔ Q) : Decodes N d bs Q a := by
  intro hN rest
  obtain ⟨hok, herr⟩ := h hN rest
  exact ⟨fun hq => hok (hpq.2 hq), fun hq => herr fun hp => hq (hpq.1 hp)⟩

theorem pure (a : α) : Decodes N (pure a : StateT (List τ) (Except ε) α) [] True a :=
  fun _ _ => ⟨fun _ => rfl, fun h => absurd trivial h⟩

/-- Sequencing: the two encodings are concatenated and both conditions are needed. -/
theorem bind (h : Decodes N d bs P a) (hk : Decodes N (k a) cs Q b) :
    Decodes N (d >>= k) (bs ++ cs) (P ∧ Q) b := by
  intro hN rest
  rw [List.length_append] at hN
  obtain ⟨hok, herr⟩ := h (by omega) (cs ++ rest)
  obtain ⟨hkok, hkerr⟩ := hk (by omega) rest
  have hrun : ∀ r, d (bs ++ (cs ++ rest)) = r →
      (d >>= k) (bs ++ cs ++ rest) = (match r with
        | .ok (x, s) => k x s
        | .error e => .error e) := by
    intro r hr
    simp only [Bind.bind, StateT.bind, List.append_assoc]
    rw [hr]
    cases r <;> rfl
  constructor
  · rintro ⟨hp, hq⟩
    rw [hrun _ (hok hp)]
    exact hkok hq
  · intro hpq
    by_cases hp : P
    · rw [hrun _ (hok hp)]
      exact hkerr fun hq => hpq ⟨hp, hq⟩
    · obtain ⟨e, he⟩ := herr hp
      exact ⟨e, hrun _ he⟩

/-! ## Records -/

/-- A field that can fail, followed by the others. -/
theorem nextIf (h : Decodes N d bs P a) (hk : Decodes N (k a) es.flatten Q b) :
    Decodes N (d >>= k) (bs :: es).flatten (P ∧ Q) b := by
  simpa using h.bind hk

/-- A field that always decodes, followed by the others. -/
theorem next (h : Decodes N d bs True a) (hk : Decodes N (k a) es.flatten Q b) :
    Decodes N (d >>= k) (bs :: es).flatten Q b :=
  (h.nextIf hk).congr (by simp)

/-- A check that consumes nothing, followed by the rest. -/
theorem guard (h : Decodes N d [] P a) (hk : Decodes N (k a) bs Q b) :
    Decodes N (d >>= k) bs (P ∧ Q) b := by
  simpa using h.bind hk

/-- The rest of the computation consumes nothing. -/
theorem tail (h : Decodes N d bs P a) (hk : Decodes N (k a) [] Q b) :
    Decodes N (d >>= k) bs (P ∧ Q) b := by
  simpa using h.bind hk

/-- The end of a record: nothing is left to decode. -/
theorem done (a : α) :
    Decodes N (Pure.pure a : StateT (List τ) (Except ε) α) ([] : List (List τ)).flatten True a :=
  pure a

/-- The last field of a record. -/
theorem last (h : Decodes N d bs P a) : Decodes N d [bs].flatten P a := by
  simpa using h

/-- A decoder applied to the result of another: the encoding is the same. -/
theorem map (f : α → β) (h : Decodes N d bs P a) :
    Decodes N (d >>= fun x => Pure.pure (f x)) bs P (f a) := by
  have hmap : Decodes N (d >>= fun x => Pure.pure (f x)) (bs ++ []) (P ∧ True) (f a) :=
    h.bind (pure (f a))
  simpa using hmap

/-- What a decoder does on the whole of an encoding, with nothing after it. -/
theorem run (h : Decodes N d bs P a) (hN : bs.length < N) :
    (P → d bs = .ok (a, [])) ∧ (¬ P → ∃ e, d bs = .error e) := by
  simpa using h hN []

/-- The rest of the computation runs on what follows the encoding. -/
theorem before (h : Decodes N d bs P a) (k : α → StateT (List τ) (Except ε) β) (hN : bs.length < N)
    (hp : P) (rest : List τ) : (d >>= k) (bs ++ rest) = k a rest := by
  simp only [Bind.bind, StateT.bind, (h hN rest).1 hp, Except.bind]

/-- The rest of the computation runs on an empty input, after the whole of the encoding. -/
theorem runThen (h : Decodes N d bs P a) (k : α → StateT (List τ) (Except ε) β)
    (hN : bs.length < N) :
    (P → (d >>= k) bs = k a []) ∧ (¬ P → ∃ e, (d >>= k) bs = .error e) := by
  obtain ⟨hok, herr⟩ := h.run hN
  constructor
  · intro hp
    simp only [Bind.bind, StateT.bind, hok hp, Except.bind]
  · intro hp
    obtain ⟨e, he⟩ := herr hp
    exact ⟨e, by simp only [Bind.bind, StateT.bind, he, Except.bind]⟩

end Decodes

/-! ## Decoders of a fixed size -/

/-- `d` reads exactly `n` tokens, whatever they are, and never fails on as many. -/
def FixedSize (n : Nat) (d : StateT (List τ) (Except ε) α) : Prop :=
  ∃ f : List τ → α, ∀ bs, n ≤ bs.length → d bs = .ok (f (bs.take n), bs.drop n)

namespace FixedSize

variable {n m : Nat}

theorem pure (a : α) : FixedSize 0 (Pure.pure a : StateT (List τ) (Except ε) α) :=
  ⟨fun _ => a, fun _ _ => rfl⟩

theorem bind (h : FixedSize n d) (hk : ∀ a, FixedSize m (k a)) : FixedSize (n + m) (d >>= k) := by
  obtain ⟨f, hf⟩ := h
  choose g hg using hk
  refine ⟨fun bs => g (f (bs.take n)) (bs.drop n), fun bs hbs => ?_⟩
  have hrest : m ≤ (bs.drop n).length := by rw [List.length_drop]; omega
  have hrun : (d >>= k) bs = k (f (bs.take n)) (bs.drop n) := by
    simp only [Bind.bind, StateT.bind, hf bs (by omega), Except.bind]
  rw [hrun, hg _ _ hrest, List.drop_drop]
  simp [List.take_take, List.drop_take]

/-- What is read does not depend on what follows. -/
theorem append (h : FixedSize n d) (hn : n ≤ bs.length) :
    ∃ a, ∀ cs, d (bs ++ cs) = .ok (a, bs.drop n ++ cs) := by
  obtain ⟨f, hf⟩ := h
  refine ⟨f (bs.take n), fun cs => ?_⟩
  rw [hf _ (by rw [List.length_append]; omega), List.take_append_of_le_length hn,
    List.drop_append_of_le_length hn]

end FixedSize

/-! ## Repetition -/

/-- Runs a decoder a fixed number of times. -/
def repeatN : Nat → StateT (List τ) (Except ε) α → StateT (List τ) (Except ε) (List α)
  | 0, _ => pure []
  | n + 1, d => do
    let value ← d
    let rest ← repeatN n d
    pure (value :: rest)

/-- The elements of a list decode one after the other. -/
theorem Decodes.repeatN {γ : Type} {enc : γ → List τ} {P : γ → Prop} {f : γ → α} :
    ∀ xs : List γ, (∀ x ∈ xs, Decodes N d (enc x) (P x) (f x)) →
      Decodes N (repeatN xs.length d) (xs.map enc).flatten (∀ x ∈ xs, P x) (xs.map f)
  | [], _ => (Decodes.pure []).congr (by simp)
  | x :: xs, h => by
    have ih := Decodes.repeatN xs fun y hy => h y (List.mem_cons_of_mem _ hy)
    have htail := ih.map (f x :: ·)
    exact (Decodes.nextIf (h x (List.mem_cons_self ..)) htail).congr (by simp)

end Decoding
