/-
Triples with two postconditions: what holds when a program returns, and what holds when it
fails. They are simulations of the machine that has nothing to see.
-/
import RolloutFabric.Lib.Effects

namespace RolloutFabric

namespace Program

variable {ε σ α β V : Type}

/-- From every state in `P` the program leaves a state in `Q` when it returns and one in `E` when
it fails. -/
def Triple (P : σ → Prop) (m : Program ε σ α) (Q : α → σ → Prop) (E : ε → σ → Prop) : Prop :=
  Simulates (fun _ => ()) (fun _ _ => True) P m Q E

namespace Triple

variable {P P' : σ → Prop} {Q Q' : α → σ → Prop} {E E' : ε → σ → Prop} {R : β → σ → Prop}
  {m m' : Program ε σ α} {f : α → Program ε σ β}

theorem weaken (h : Triple P m Q E) (hP : ∀ s, P' s → P s) (hQ : ∀ a s, Q a s → Q' a s)
    (hE : ∀ e s, E e s → E' e s) : Triple P' m Q' E' :=
  Simulates.weaken h hP hQ hE

theorem pure {a : α} (h : ∀ s, P s → Q a s) : Triple P (pure a : Program ε σ α) Q E :=
  Simulates.pure h

theorem throw {e : ε} (h : ∀ s, P s → E e s) : Triple P (throw e : Program ε σ α) Q E :=
  Simulates.throw h

/-- What follows a failure is not run. -/
theorem throw_bind {e : ε} (h : ∀ s, P s → E e s) :
    Triple P ((MonadExcept.throw e : Program ε σ α) >>= f) R E := fun s hs =>
  ⟨.refl, fun _ ha => (by cases ha), fun _ he => (by cases he; exact h s hs)⟩

theorem bind (hm : Triple P m Q E) (hf : ∀ a, Triple (Q a) (f a) R E) :
    Triple P (m >>= f) R E :=
  Simulates.bind hm hf

/-- A program is followed from one state at a time. -/
theorem of_each (h : ∀ s, P s → Triple (fun t => t = s) m Q E) : Triple P m Q E :=
  fun s hs => h s hs s rfl

theorem or (h : Triple P m Q E) (h' : Triple P' m Q E) :
    Triple (fun s => P s ∨ P' s) m Q E :=
  fun s hs => hs.elim (h s) (h' s)

theorem and (h : Triple P m Q E) (h' : Triple P m Q' E') :
    Triple P m (fun a s => Q a s ∧ Q' a s) fun e s => E e s ∧ E' e s := fun s hs =>
  ⟨.refl, fun a ha => ⟨(h s hs).2.1 a ha, (h' s hs).2.1 a ha⟩,
    fun e he => ⟨(h s hs).2.2 e he, (h' s hs).2.2 e he⟩⟩

/-- What holds at the end of a run, however it ends, is known of both ends. -/
theorem of_after {I : σ → Prop} (h : ∀ s, P s → I (exec m s).2) :
    Triple P m (fun _ => I) fun _ => I :=
  fun s hs => ⟨.refl, fun _ _ => h s hs, fun _ _ => h s hs⟩

/-- What does not depend on the state is known once and for all. -/
theorem extract {p : Prop} (h : p → Triple P m Q E) : Triple (fun s => p ∧ P s) m Q E :=
  fun s hs => h hs.1 s hs.2

/-- A part that keeps what holds. -/
theorem skip (hm : Triple P m (fun _ => P) E) (hf : ∀ a, Triple P (f a) R E) :
    Triple P (m >>= f) R E :=
  hm.bind hf

theorem tryCatch {h : ε → Program ε σ α} (hm : Triple P m Q E)
    (hh : ∀ e, Triple (E e) (h e) Q E') : Triple P (tryCatch m h) Q E' :=
  Simulates.tryCatch hm hh

theorem get : Triple P (get : Program ε σ σ) (fun a s => s = a ∧ P s) E :=
  Simulates.get

theorem modify {g : σ → σ} {Q : PUnit → σ → Prop} (h : ∀ s, P s → Q ⟨⟩ (g s)) :
    Triple P (modify g : Program ε σ PUnit) Q E := fun s hs =>
  ⟨.refl, fun a ha => (by cases ha; exact h s hs), fun e he => by cases he⟩

theorem ite {c : Prop} [Decidable c] (hm : c → Triple P m Q E) (hm' : ¬ c → Triple P m' Q E) :
    Triple P (if c then m else m') Q E := by
  split
  · next hc => exact hm hc
  · next hc => exact hm' hc

theorem forM {g : β → Program ε σ PUnit} {l : List β}
    (h : ∀ b ∈ l, Triple P (g b) (fun _ => P) E) : Triple P (l.forM g) (fun _ => P) E :=
  Simulates.forM h

theorem foldlM {g : α → β → Program ε σ α} {l : List β} {a : α}
    (h : ∀ a, ∀ b ∈ l, Triple P (g a b) (fun _ => P) E) : Triple P (l.foldlM g a) (fun _ => P) E :=
  Simulates.foldlM h

/-- A loop that is known by the elements it is through with. -/
theorem forM_upTo {g : β → Program ε σ PUnit} {I : List β → σ → Prop} {l : List β}
    (h : ∀ done b, done ++ [b] <+: l → Triple (I done) (g b) (fun _ => I (done ++ [b])) E) :
    Triple (I []) (l.forM g) (fun _ => I l) E := by
  suffices hall : ∀ rest done, done ++ rest = l → Triple (I done) (rest.forM g) (fun _ => I l) E from
    hall l [] rfl
  intro rest
  induction rest with
  | nil =>
    rintro done rfl
    exact .pure fun _ hs => (List.append_nil done).symm ▸ hs
  | cons b rest ih =>
    intro done hl
    have hdone : (done ++ [b]) ++ rest = l := by rw [← hl]; simp
    exact .bind (h done b ⟨rest, hdone⟩) fun _ => ih (done ++ [b]) hdone

/-- A loop over the first numbers. -/
theorem forM_range {g : Nat → Program ε σ PUnit} {I : Nat → σ → Prop} {n : Nat}
    (h : ∀ j < n, Triple (I j) (g j) (fun _ => I (j + 1)) E) :
    Triple (I 0) ((List.range n).forM g) (fun _ => I n) E := by
  have hloop := forM_upTo (E := E) (g := g) (I := fun done => I done.length) (l := List.range n)
    fun done b hb => ?_
  · simpa using hloop
  · have hat : (List.range n)[done.length]? = some b := by
      obtain ⟨rest, hrest⟩ := hb
      rw [← hrest]
      simp
    obtain ⟨hlt, hb⟩ : done.length < n ∧ done.length = b := by
      simpa [List.getElem?_eq_some_iff] using hat
    subst hb
    simpa using h done.length hlt

/-- A program that leaves a part of the state alone, and may fail in one way. -/
theorem of_frames (view : σ → V) {p : V → Prop} (hm : Frames view m)
    (hE : ∀ s, p (view s) → ∀ e t, exec m s = (.error e, t) → p (view t) → E e t) :
    Triple (fun s => p (view s)) m (fun _ s => p (view s)) E := by
  intro s hs
  have ht : p (view (exec m s).2) := by rw [hm s]; exact hs
  exact ⟨.refl, fun _ _ => ht, fun e he => hE s hs e _ (Prod.ext he rfl) ht⟩

/-- What holds at the end of a run, however it ends. -/
theorem after {I : σ → Prop} (h : Triple P m (fun _ => I) fun _ => I) {s : σ} (hs : P s) :
    I (exec m s).2 := by
  obtain ⟨-, hok, herr⟩ := h s hs
  cases hres : (exec m s).1 with
  | ok a => exact hok a hres
  | error e => exact herr e hres

/-- What a triple says of one run that failed. -/
theorem of_error (h : Triple P m Q E) {s t : σ} {e : ε} (hs : P s) (hrun : exec m s = (.error e, t)) :
    E e t := by
  have herr := (h s hs).2.2 e
  rw [hrun] at herr
  exact herr rfl

/-- What a triple says of one run that returned. -/
theorem of_ok (h : Triple P m Q E) {s t : σ} {a : α} (hs : P s) (hrun : exec m s = (.ok a, t)) :
    Q a t := by
  have hok := (h s hs).2.1 a
  rw [hrun] at hok
  exact hok rfl

end Triple

end Program

end RolloutFabric
