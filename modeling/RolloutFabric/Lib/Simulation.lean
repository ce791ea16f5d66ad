/-
Programs that keep what they changed when they fail, and the runs of an abstract machine they
perform: a program simulates the machine when, whatever it returns, what is seen of its state
moved by steps of the machine. The rules follow the program's own structure.
-/
import Mathlib

namespace RolloutFabric

/-- A program over a state `σ` that may stop early with an `ε`. -/
abbrev Program (ε σ α : Type) := ExceptT ε (StateM σ) α

namespace Program

variable {ε σ α β V : Type}

/-- What the program returns, and the state it leaves behind. -/
def exec (m : Program ε σ α) (s : σ) : Except ε α × σ := m.run.run s

@[simp] theorem exec_pure (a : α) (s : σ) : exec (pure a : Program ε σ α) s = (.ok a, s) := rfl

@[simp] theorem exec_throw (e : ε) (s : σ) :
    exec (throw e : Program ε σ α) s = (.error e, s) := rfl

@[simp] theorem exec_get (s : σ) : exec (get : Program ε σ σ) s = (.ok s, s) := rfl

@[simp] theorem exec_modify (f : σ → σ) (s : σ) :
    exec (modify f : Program ε σ PUnit) s = (.ok ⟨⟩, f s) := rfl

theorem exec_bind (m : Program ε σ α) (f : α → Program ε σ β) (s : σ) :
    exec (m >>= f) s = match exec m s with
      | (.ok a, t) => exec (f a) t
      | (.error e, t) => (.error e, t) := by
  change (ExceptT.bindCont f (m.run.run s).1).run (m.run.run s).2 = _
  unfold exec
  rcases m.run.run s with ⟨r, t⟩
  cases r <;> rfl

theorem exec_tryCatch (m : Program ε σ α) (h : ε → Program ε σ α) (s : σ) :
    exec (tryCatch m h) s = match exec m s with
      | (.ok a, t) => (.ok a, t)
      | (.error e, t) => exec (h e) t := by
  unfold exec
  change (match (m.run.run s).1 with
    | .ok a => pure (.ok a)
    | .error e => (h e).run : StateM σ (Except ε α)).run (m.run.run s).2 = _
  rcases m.run.run s with ⟨r, t⟩
  cases r <;> rfl

theorem exec_bind_ok {m : Program ε σ α} {f : α → Program ε σ β} {s t : σ} {a : α}
    (h : exec m s = (.ok a, t)) : exec (m >>= f) s = exec (f a) t := by
  rw [exec_bind, h]

/-- The answer of a program may be replaced. -/
theorem exec_bind_pure (m : Program ε σ α) (b : β) (s : σ) :
    (exec (m >>= fun _ => pure b) s).2 = (exec m s).2 := by
  rw [exec_bind]
  split
  · next h => rw [h]; rfl
  · next h => rw [h]

/-- A program returns when each of its parts does. -/
theorem of_exec_bind_ok {m : Program ε σ α} {f : α → Program ε σ β} {s t : σ} {b : β}
    (h : exec (m >>= f) s = (.ok b, t)) :
    ∃ a s', exec m s = (.ok a, s') ∧ exec (f a) s' = (.ok b, t) := by
  rw [exec_bind] at h
  split at h
  · next a s' hm => exact ⟨a, s', hm, h⟩
  · cases h

/-! ## Simulation -/

/-- From every state in `P` the program moves by steps of the machine, and leaves a state in
`Q` when it returns and one in `E` when it fails. -/
def Simulates (view : σ → V) (Step : V → V → Prop) (P : σ → Prop) (m : Program ε σ α)
    (Q : α → σ → Prop) (E : ε → σ → Prop) : Prop :=
  ∀ s, P s → Relation.ReflTransGen Step (view s) (view (exec m s).2)
    ∧ (∀ a, (exec m s).1 = .ok a → Q a (exec m s).2)
    ∧ ∀ e, (exec m s).1 = .error e → E e (exec m s).2

namespace Simulates

variable {view : σ → V} {Step Step' : V → V → Prop} {P P' : σ → Prop} {Q Q' : α → σ → Prop}
  {E E' : ε → σ → Prop} {R : β → σ → Prop} {m : Program ε σ α} {f : α → Program ε σ β}

theorem weaken (h : Simulates view Step P m Q E) (hP : ∀ s, P' s → P s)
    (hQ : ∀ a s, Q a s → Q' a s) (hE : ∀ e s, E e s → E' e s) :
    Simulates view Step P' m Q' E' := fun s hs =>
  ⟨(h s (hP s hs)).1, fun a ha => hQ a _ ((h s (hP s hs)).2.1 a ha),
    fun e he => hE e _ ((h s (hP s hs)).2.2 e he)⟩

/-- A machine with more steps is simulated as well. -/
theorem mono (h : Simulates view Step P m Q E) (hs : ∀ v v', Step v v' → Step' v v') :
    Simulates view Step' P m Q E := fun s hP =>
  ⟨Relation.ReflTransGen.mono hs _ _ (h s hP).1, (h s hP).2⟩

theorem pure {a : α} (h : ∀ s, P s → Q a s) :
    Simulates view Step P (pure a : Program ε σ α) Q E := fun s hs =>
  ⟨.refl, fun b hb => by cases hb; exact h s hs, fun e he => by cases he⟩

theorem throw {e : ε} (h : ∀ s, P s → E e s) :
    Simulates view Step P (throw e : Program ε σ α) Q E := fun s hs =>
  ⟨.refl, fun b hb => (by cases hb), fun e' he => by cases he; exact h s hs⟩

theorem bind (hm : Simulates view Step P m Q E)
    (hf : ∀ a, Simulates view Step (Q a) (f a) R E) : Simulates view Step P (m >>= f) R E := by
  intro s hs
  obtain ⟨hreach, hok, herr⟩ := hm s hs
  rw [exec_bind]
  cases hr : exec m s with
  | mk r t =>
    rw [hr] at hreach hok herr
    cases r with
    | error e => exact ⟨hreach, fun a ha => (by cases ha), fun e' he => by cases he; exact herr e rfl⟩
    | ok a =>
      obtain ⟨hreach', hok'⟩ := hf a t (hok a rfl)
      exact ⟨hreach.trans hreach', hok'⟩

theorem get : Simulates view Step P (get : Program ε σ σ) (fun a s => s = a ∧ P s) E :=
  fun s hs => ⟨.refl, fun a ha => (by cases ha; exact ⟨rfl, hs⟩), fun e he => by cases he⟩

/-- What cannot fail is caught for nothing; what fails goes on with the handler. -/
theorem tryCatch {h : ε → Program ε σ α} (hm : Simulates view Step P m Q E)
    (hh : ∀ e, Simulates view Step (E e) (h e) Q E') :
    Simulates view Step P (tryCatch m h) Q E' := by
  intro s hs
  obtain ⟨hreach, hok, herr⟩ := hm s hs
  rw [exec_tryCatch]
  cases hr : exec m s with
  | mk r t =>
    rw [hr] at hreach hok herr
    cases r with
    | ok a => exact ⟨hreach, hok, fun e he => by cases he⟩
    | error e =>
      obtain ⟨hreach', hok'⟩ := hh e t (herr e rfl)
      exact ⟨hreach.trans hreach', hok'⟩

theorem forM {g : β → Program ε σ PUnit} {I : σ → Prop} {l : List β}
    (h : ∀ b ∈ l, Simulates view Step I (g b) (fun _ => I) E) :
    Simulates view Step I (l.forM g) (fun _ => I) E := by
  induction l with
  | nil => exact pure fun _ hs => hs
  | cons b l ih =>
    exact bind (h b (List.mem_cons_self ..)) fun _ =>
      ih fun c hc => h c (List.mem_cons_of_mem _ hc)

theorem foldlM {g : α → β → Program ε σ α} {I : σ → Prop} {l : List β} {a : α}
    (h : ∀ a, ∀ b ∈ l, Simulates view Step I (g a b) (fun _ => I) E) :
    Simulates view Step I (l.foldlM g a) (fun _ => I) E := by
  induction l generalizing a with
  | nil => exact pure fun _ hs => hs
  | cons b l ih =>
    exact bind (h a b (List.mem_cons_self ..)) fun _ =>
      ih fun a c hc => h a c (List.mem_cons_of_mem _ hc)

/-- A program that runs as another one does from a state the machine gets to. -/
theorem jump {m k : Program ε σ α} {J : σ → Prop}
    (h : ∀ s, P s → ∃ t, exec m s = exec k t ∧ Relation.ReflTransGen Step (view s) (view t) ∧ J t)
    (hk : Simulates view Step J k Q E) : Simulates view Step P m Q E := by
  intro s hs
  obtain ⟨t, he, hreach, ht⟩ := h s hs
  rw [he]
  exact ⟨hreach.trans (hk t ht).1, (hk t ht).2⟩

end Simulates

end Program

end RolloutFabric
