/-
Orders that repeatedly take the least node that waits for nothing. `needs a b` says that `b` comes
before `a`; of the nodes that are left, one is ready when it needs none of them. The order is
unique, keeps every node behind what it needs, and takes all nodes exactly when no node needs
itself through others.
-/
import Mathlib

namespace Topological

variable {α β γ : Type}

section

variable [DecidableEq α] [LinearOrder β]

/-- It is left, and none of what is left is needed before it. -/
def Ready (needs : α → α → Prop) (left : Finset α) (a : α) : Prop :=
  a ∈ left ∧ ∀ b ∈ left, ¬ needs a b

/-- The list takes the least ready node of those left, again and again, until none is ready. -/
inductive LeastFirst (needs : α → α → Prop) (rank : α → β) : Finset α → List α → Prop
  | stuck {left : Finset α} (none : ∀ a, ¬ Ready needs left a) : LeastFirst needs rank left []
  | take {left : Finset α} {a : α} {rest : List α} (ready : Ready needs left a)
      (least : ∀ b, Ready needs left b → rank a ≤ rank b)
      (next : LeastFirst needs rank (left.erase a) rest) : LeastFirst needs rank left (a :: rest)

namespace LeastFirst

variable {needs : α → α → Prop} {rank : α → β} {left : Finset α} {order order' : List α} {a b : α}

theorem subset (h : LeastFirst needs rank left order) : ∀ a ∈ order, a ∈ left := by
  induction h with
  | stuck => simp
  | take ready least next ih =>
    rintro x (_ | ⟨_, hx⟩)
    · exact ready.1
    · exact Finset.mem_of_mem_erase (ih x hx)

theorem nodup (h : LeastFirst needs rank left order) : order.Nodup := by
  induction h with
  | stuck => exact List.nodup_nil
  | take ready least next ih =>
    refine List.nodup_cons.2 ⟨fun hin => ?_, ih⟩
    exact Finset.notMem_erase _ _ (next.subset _ hin)

/-- Ranks that tell the nodes apart leave one order. -/
theorem unique (hrank : Set.InjOn rank left) (h : LeastFirst needs rank left order)
    (h' : LeastFirst needs rank left order') : order = order' := by
  induction h generalizing order' with
  | stuck none =>
    cases h' with
    | stuck => rfl
    | take ready => exact absurd ready (none _)
  | @take left a rest ready least next ih =>
    cases h' with
    | stuck none => exact absurd ready (none _)
    | @take _ b rest' ready' least' next' =>
      have hsame : a = b := hrank ready.1 ready'.1 (le_antisymm (least b ready') (least' a ready))
      subst hsame
      rw [ih (hrank.mono (Finset.erase_subset ..)) next']

/-- A node comes after every node it needs. -/
theorem follows (h : LeastFirst needs rank left order) (hneeds : needs a b) (ha : a ∈ order)
    (hb : b ∈ left) : order.idxOf b < order.idxOf a := by
  induction h with
  | stuck => cases ha
  | @take left x rest ready least next ih =>
    have hax : a ≠ x := by
      rintro rfl
      exact ready.2 b hb hneeds
    have harest := (List.mem_cons.1 ha).resolve_left hax
    rw [List.idxOf_cons_ne _ (Ne.symm hax)]
    by_cases hbx : b = x
    · rw [hbx, List.idxOf_cons_self]
      exact Nat.succ_pos _
    · rw [List.idxOf_cons_ne _ (Ne.symm hbx)]
      exact Nat.succ_lt_succ (ih harest (Finset.mem_erase.2 ⟨hbx, hb⟩))

/-- A node that is not taken needs another one that is not taken. -/
theorem waits (h : LeastFirst needs rank left order) (ha : a ∈ left) (hout : a ∉ order) :
    ∃ b ∈ left, b ∉ order ∧ needs a b := by
  induction h with
  | stuck none =>
    by_contra hnone
    push Not at hnone
    exact none a ⟨ha, fun b hb => hnone b hb (by simp)⟩
  | @take left x rest ready least next ih =>
    rw [List.mem_cons, not_or] at hout
    obtain ⟨b, hb, hbout, hneeds⟩ := ih (Finset.mem_erase.2 ⟨hout.1, ha⟩) hout.2
    obtain ⟨hbx, hbleft⟩ := Finset.mem_erase.1 hb
    exact ⟨b, hbleft, by simp [hbx, hbout], hneeds⟩

/-- The order takes all nodes exactly when no node needs itself. -/
theorem complete_iff (h : LeastFirst needs rank left order)
    (hclosed : ∀ a b, needs a b → a ∈ left ∧ b ∈ left) :
    (∀ a ∈ left, a ∈ order) ↔ ∀ a, ¬ Relation.TransGen needs a a := by
  constructor
  · intro hall a hcycle
    have hbefore : ∀ c, Relation.TransGen needs a c → order.idxOf c < order.idxOf a := by
      intro c hc
      induction hc with
      | single hstep => exact h.follows hstep (hall _ (hclosed _ _ hstep).1) (hclosed _ _ hstep).2
      | tail _ hstep ih =>
        exact (h.follows hstep (hall _ (hclosed _ _ hstep).1) (hclosed _ _ hstep).2).trans ih
    exact lt_irrefl _ (hbefore a hcycle)
  · intro hacyclic
    by_contra hsome
    push Not at hsome
    obtain ⟨a, ha, hout⟩ := hsome
    -- among the nodes that are left out, one needs no other of them
    let out := {x // x ∈ left.filter fun x => x ∉ order}
    have hfinite : Finite out := Finite.of_fintype _
    let before : out → out → Prop := fun x y => Relation.TransGen needs y.1 x.1
    have htrans : IsTrans out before := ⟨fun _ _ _ hxy hyz => hyz.trans hxy⟩
    have hirrefl : Std.Irrefl before := ⟨fun x => hacyclic x.1⟩
    have hwf : WellFounded before := Finite.wellFounded_of_trans_of_irrefl before
    obtain ⟨m, -, hm⟩ := hwf.has_min Set.univ ⟨⟨a, Finset.mem_filter.2 ⟨ha, hout⟩⟩, trivial⟩
    obtain ⟨hmleft, hmout⟩ := Finset.mem_filter.1 m.2
    obtain ⟨b, hb, hbout, hneeds⟩ := h.waits hmleft hmout
    exact hm ⟨b, Finset.mem_filter.2 ⟨hb, hbout⟩⟩ trivial (.single hneeds)

/-- The order of the images under a map that tells the nodes apart. -/
theorem image [DecidableEq γ] {needs' : γ → γ → Prop} {rank' : γ → β} {f : α → γ}
    (h : LeastFirst needs rank left order) (hf : Set.InjOn f left)
    (hneeds : ∀ a ∈ left, ∀ b ∈ left, needs' (f a) (f b) ↔ needs a b)
    (hrank : ∀ a ∈ left, rank' (f a) = rank a) :
    LeastFirst needs' rank' (left.image f) (order.map f) := by
  induction h with
  | stuck none =>
    refine .stuck fun c hc => ?_
    obtain ⟨a, ha, rfl⟩ := Finset.mem_image.1 hc.1
    exact none a ⟨ha, fun b hb h =>
      hc.2 (f b) (Finset.mem_image_of_mem f hb) ((hneeds a ha b hb).2 h)⟩
  | @take left a rest ready least next ih =>
    have hback {b : α} (hb : b ∈ left) (h : Ready needs' (left.image f) (f b)) :
        Ready needs left b :=
      ⟨hb, fun x hx hneed => h.2 (f x) (Finset.mem_image_of_mem f hx) ((hneeds b hb x hx).2 hneed)⟩
    refine .take ⟨Finset.mem_image_of_mem f ready.1, ?_⟩ ?_ ?_
    · intro c hc hneed
      obtain ⟨b, hb, rfl⟩ := Finset.mem_image.1 hc
      exact ready.2 b hb ((hneeds a ready.1 b hb).1 hneed)
    · intro c hc
      obtain ⟨b, hb, rfl⟩ := Finset.mem_image.1 hc.1
      rw [hrank a ready.1, hrank b hb]
      exact least b (hback hb hc)
    · have herase : (left.image f).erase (f a) = (left.erase a).image f := by
        ext c
        simp only [Finset.mem_erase, Finset.mem_image]
        constructor
        · rintro ⟨hne, b, hb, rfl⟩
          exact ⟨b, ⟨fun heq => hne (heq ▸ rfl), hb⟩, rfl⟩
        · rintro ⟨b, ⟨hne, hb⟩, rfl⟩
          exact ⟨fun heq => hne (hf hb ready.1 heq), b, hb, rfl⟩
      rw [herase]
      have hsub : ∀ x ∈ left.erase a, x ∈ left := fun x hx => Finset.mem_of_mem_erase hx
      exact ih (hf.mono hsub) (fun x hx y hy => hneeds x (hsub x hx) y (hsub y hy))
        fun x hx => hrank x (hsub x hx)

end LeastFirst

end

/-! ## Keeping the ready nodes in order -/

/-- Insertion by a strict order into a list it sorts, of nodes that differ. -/
theorem pairwise_orderedInsert {less : α → α → Prop} [DecidableRel less]
    (htrans : ∀ a b c, less a b → less b c → less a c) {a : α} {l : List α}
    (htotal : ∀ b ∈ l, less a b ∨ less b a) (hl : l.Pairwise less) :
    (l.orderedInsert less a).Pairwise less := by
  induction l with
  | nil => simp
  | cons b l ih =>
    obtain ⟨hb, hl⟩ := List.pairwise_cons.1 hl
    rw [List.orderedInsert]
    split
    · next hab =>
      refine List.pairwise_cons.2 ⟨fun c hc => ?_, List.pairwise_cons.2 ⟨hb, hl⟩⟩
      rcases List.mem_cons.1 hc with rfl | hc
      · exact hab
      · exact htrans _ _ _ hab (hb c hc)
    · next hab =>
      have hba := (htotal b (List.mem_cons_self ..)).resolve_left hab
      refine List.pairwise_cons.2 ⟨fun c hc => ?_,
        ih (fun c hc => htotal c (List.mem_cons_of_mem _ hc)) hl⟩
      rcases (List.mem_orderedInsert less).1 hc with rfl | hc
      · exact hba
      · exact hb c hc

theorem pairwise_insertionSort {less : α → α → Prop} [DecidableRel less]
    (htrans : ∀ a b c, less a b → less b c → less a c) {l : List α} (hnodup : l.Nodup)
    (htotal : ∀ a ∈ l, ∀ b ∈ l, a ≠ b → less a b ∨ less b a) :
    (l.insertionSort less).Pairwise less := by
  induction l with
  | nil => simp
  | cons a l ih =>
    obtain ⟨hnew, hnodup⟩ := List.nodup_cons.1 hnodup
    refine pairwise_orderedInsert htrans (fun b hb => ?_) (ih hnodup fun x hx y hy =>
      htotal x (List.mem_cons_of_mem _ hx) y (List.mem_cons_of_mem _ hy))
    have hb := (List.perm_insertionSort less l).mem_iff.1 hb
    exact htotal a (List.mem_cons_self ..) b (List.mem_cons_of_mem _ hb) fun heq => hnew (heq ▸ hb)

end Topological
