/-
What a program leaves alone and what it brings about: `Frames view m` says that whatever `m`
returns, what `view` sees of its state is as it was; `Effects view v m q` that from every state
seen as `v` the program returns, and `q` holds of its answer and of what is seen afterwards.
-/
import RolloutFabric.Lib.Simulation

namespace RolloutFabric

namespace Program

variable {ε σ α β V : Type}

/-- Whatever the program returns, what is seen of the state does not change. -/
def Frames (view : σ → V) (m : Program ε σ α) : Prop := ∀ s, view (exec m s).2 = view s

namespace Frames

variable {view : σ → V} {m : Program ε σ α} {f : α → Program ε σ β}

theorem pure (a : α) : Frames view (pure a : Program ε σ α) := fun _ => rfl

theorem throw (e : ε) : Frames view (throw e : Program ε σ α) := fun _ => rfl

theorem get : Frames view (get : Program ε σ σ) := fun _ => rfl

theorem modify {g : σ → σ} (h : ∀ s, view (g s) = view s) :
    Frames view (modify g : Program ε σ PUnit) := fun s => h s

theorem map {U : Type} {g : V → U} (h : Frames view m) : Frames (fun s => g (view s)) m :=
  fun s => congrArg g (h s)

theorem bind (hm : Frames view m) (hf : ∀ a, Frames view (f a)) : Frames view (m >>= f) := by
  intro s
  have hs := hm s
  rw [exec_bind]
  split
  · next a t h => rw [hf a t, ← hs, h]
  · next e t h => rw [← hs, h]

theorem tryCatch {h : ε → Program ε σ α} (hm : Frames view m) (hh : ∀ e, Frames view (h e)) :
    Frames view (tryCatch m h) := by
  intro s
  have hs := hm s
  rw [exec_tryCatch]
  split
  · next a t h => rw [← hs, h]
  · next e t h => rw [hh e t, ← hs, h]

theorem forM {l : List β} {g : β → Program ε σ PUnit} (h : ∀ b ∈ l, Frames view (g b)) :
    Frames view (l.forM g) := by
  induction l with
  | nil => exact pure _
  | cons b l ih =>
    exact bind (h b (List.mem_cons_self ..)) fun _ => ih fun c hc => h c (List.mem_cons_of_mem _ hc)

theorem ite {p : Prop} [Decidable p] {m' : Program ε σ α} (hm : Frames view m)
    (hm' : Frames view m') : Frames view (if p then m else m') := by
  split
  · exact hm
  · exact hm'

end Frames

/-- From every state seen as `v` the program returns, with `q` of its answer and what is seen. -/
def Effects (view : σ → V) (v : V) (m : Program ε σ α) (q : α → V → Prop) : Prop :=
  ∀ s, view s = v → ∃ a, (exec m s).1 = .ok a ∧ q a (view (exec m s).2)

namespace Effects

variable {view : σ → V} {v : V} {m : Program ε σ α} {f : α → Program ε σ β} {q q' : α → V → Prop}
  {r : β → V → Prop}

theorem pure {a : α} (h : q a v) : Effects view v (pure a : Program ε σ α) q :=
  fun s hs => ⟨a, rfl, by rw [exec_pure, hs]; exact h⟩

theorem weaken (hm : Effects view v m q) (h : ∀ a v', q a v' → q' a v') : Effects view v m q' := by
  intro s hs
  obtain ⟨a, ha, hq⟩ := hm s hs
  exact ⟨a, ha, h a _ hq⟩

theorem bind (hm : Effects view v m q) (hf : ∀ a v', q a v' → Effects view v' (f a) r) :
    Effects view v (m >>= f) r := by
  intro s hs
  obtain ⟨a, ha, hq⟩ := hm s hs
  have hrun : exec m s = (.ok a, (exec m s).2) := by rw [← ha]
  rw [exec_bind_ok hrun]
  exact hf a _ hq _ rfl

theorem modify {g : σ → σ} {u : V → V} (h : ∀ s, view (g s) = u (view s)) :
    Effects view v (modify g : Program ε σ PUnit) fun _ v' => v' = u v :=
  fun s hs => ⟨⟨⟩, rfl, by rw [exec_modify, h, hs]⟩

theorem get : Effects view v (get : Program ε σ σ) fun s v' => view s = v ∧ v' = v :=
  fun s hs => ⟨s, rfl, hs, hs⟩

/-- A program that never fails and leaves what is seen alone. -/
theorem of_frames (hm : Frames view m) (hok : ∀ s, ∃ a, (exec m s).1 = .ok a) :
    Effects view v m fun _ v' => v' = v := by
  intro s hs
  obtain ⟨a, ha⟩ := hok s
  exact ⟨a, ha, by rw [hm s, hs]⟩

/-- From one state, with all that is seen of it and of the state it leaves. -/
theorem here {s : σ} (hm : Effects view v m q) (hs : view s = v) :
    Effects (fun s => s) s m fun a s' => q a (view s') := by
  rintro t rfl
  exact hm t hs

theorem of_exec {s : σ} {q : α → σ → Prop} (h : ∃ a, (exec m s).1 = .ok a ∧ q a (exec m s).2) :
    Effects (fun s => s) s m q := by
  rintro t rfl
  exact h

/-- What is left alone from every view is framed. -/
theorem frames (hm : ∀ v, Effects view v m fun _ v' => v' = v) : Frames view m := by
  intro s
  obtain ⟨a, -, h⟩ := hm _ s rfl
  exact h

/-- A loop whose turns each change what is seen in one way. -/
theorem forM {β : Type} {l : List β} {g : β → Program ε σ PUnit} {step : V → β → V}
    (h : ∀ v, ∀ b ∈ l, Effects view v (g b) fun _ v' => v' = step v b) (v : V) :
    Effects view v (l.forM g) fun _ v' => v' = l.foldl step v := by
  induction l generalizing v with
  | nil => exact pure rfl
  | cons b l ih =>
    refine bind (h v b (List.mem_cons_self ..)) fun _ v' hv' => ?_
    rw [List.foldl_cons, hv']
    exact ih (fun v b hb => h v b (List.mem_cons_of_mem _ hb)) _

/-- A program that never fails, followed by another. -/
theorem skip {m : Program ε σ PUnit} {f : PUnit → Program ε σ β}
    (hm : Effects view v m fun _ v' => v' = v) (hf : Effects view v (f ⟨⟩) r) :
    Effects view v (m >>= f) r :=
  bind hm fun _ _ h => h ▸ hf

end Effects

end Program

end RolloutFabric
