/-
Encodings that can be told apart whatever follows them. `Splits x y P` says that if `x` and `y`,
each followed by anything, give one list, then `P` holds and what follows is the same. The law of
a record is assembled from the laws of its fields, as a conjunction of what each field tells.
-/
import Mathlib

namespace Coding

variable {τ α β : Type} {x y z w : List τ} {xs ys : List (List τ)} {P Q : Prop}

/-- Where `x` and `y` start one list, `P` holds and the rest is the same. -/
def Splits (x y : List τ) (P : Prop) : Prop := ∀ r r', x ++ r = y ++ r' → P ∧ r = r'

namespace Splits

/-- Two encodings of one value, or of values that differ. -/
theorem eq (h : Splits x y P) (heq : x = y) : P :=
  (h [] [] (by rw [heq])).1

theorem imp (h : Splits x y P) (hpq : P → Q) : Splits x y Q := by
  intro r r' heq
  obtain ⟨hp, hr⟩ := h r r' heq
  exact ⟨hpq hp, hr⟩

/-- Encodings of one length. -/
theorem of_length (h : x.length = y.length) : Splits x y (x = y) :=
  fun _ _ heq => List.append_inj heq h

/-- What the first part tells may be used to tell the second apart. -/
theorem append (h : Splits x y P) (hnext : P → Splits z w Q) : Splits (x ++ z) (y ++ w) (P ∧ Q) := by
  intro r r' heq
  rw [List.append_assoc, List.append_assoc] at heq
  obtain ⟨hp, hrest⟩ := h _ _ heq
  obtain ⟨hq, hr⟩ := hnext hp _ _ hrest
  exact ⟨⟨hp, hq⟩, hr⟩

/-! ## Records -/

/-- A field, followed by the others. -/
theorem next (h : Splits x y P) (hrest : Splits xs.flatten ys.flatten Q) :
    Splits (x :: xs).flatten (y :: ys).flatten (P ∧ Q) := by
  rw [List.flatten_cons, List.flatten_cons]
  exact h.append fun _ => hrest

/-- The last field of a record. -/
theorem last (h : Splits x y P) : Splits [x].flatten [y].flatten P := by
  simpa using h

/-! ## Lists -/

/-- The elements of two lists of one length, one after the other. -/
theorem list {f : α → β} {enc : α → List τ} {as bs : List α} (hlength : as.length = bs.length)
    (h : ∀ a ∈ as, ∀ b ∈ bs, Splits (enc a) (enc b) (f a = f b)) :
    Splits (as.map enc).flatten (bs.map enc).flatten (as.map f = bs.map f) := by
  induction as generalizing bs with
  | nil =>
    obtain rfl := List.eq_nil_of_length_eq_zero hlength.symm
    intro r r' heq
    exact ⟨rfl, by simpa using heq⟩
  | cons a as ih =>
    cases bs with
    | nil => cases hlength
    | cons b bs =>
      have hrest := ih (Nat.succ.inj hlength) fun a ha b hb =>
        h a (List.mem_cons_of_mem _ ha) b (List.mem_cons_of_mem _ hb)
      have hfirst := h a (List.mem_cons_self ..) b (List.mem_cons_self ..)
      refine (hfirst.next hrest).imp ?_
      rintro ⟨hab, hall⟩
      rw [List.map_cons, List.map_cons, hab, hall]

end Splits

/-- Lists with the same images are the same where the map tells their elements apart. -/
theorem eq_of_map_eq {f : α → β} {as bs : List α} (h : as.map f = bs.map f)
    (hf : ∀ a ∈ as, ∀ b ∈ bs, f a = f b → a = b) : as = bs := by
  induction as generalizing bs with
  | nil =>
    cases bs with
    | nil => rfl
    | cons => cases h
  | cons a as ih =>
    cases bs with
    | nil => cases h
    | cons b bs =>
      obtain ⟨hab, hrest⟩ := List.cons.inj h
      rw [hf a (List.mem_cons_self ..) b (List.mem_cons_self ..) hab,
        ih hrest fun x hx y hy => hf x (List.mem_cons_of_mem _ hx) y (List.mem_cons_of_mem _ hy)]

end Coding
