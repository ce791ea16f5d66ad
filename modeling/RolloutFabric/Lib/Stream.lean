/-
Items read off the front of a growing input. `front` says what stands at the front of some input;
`Parses` reads items off it until it fails or more input is needed. When what `front` says does
not depend on what follows, an input may be read in pieces.
-/
import Mathlib

namespace Stream

variable {τ φ ε : Type}

/-- What stands at the front of an input. -/
inductive Front (τ φ ε : Type)
  | incomplete
  | failed (e : ε)
  | item (x : φ) (rest : List τ)

/-- How a stream ends: some input is left that is no item yet, or it has failed. -/
inductive Ending (τ ε : Type)
  | pending (rest : List τ)
  | failed (e : ε)

/-- The items of an input, and how it ends. -/
inductive Parses (front : List τ → Front τ φ ε) : List τ → List φ → Ending τ ε → Prop
  | pending {bs : List τ} (h : front bs = .incomplete) : Parses front bs [] (.pending bs)
  | failed {bs : List τ} {e : ε} (h : front bs = .failed e) : Parses front bs [] (.failed e)
  | item {bs rest : List τ} {x : φ} {xs : List φ} {v : Ending τ ε} (h : front bs = .item x rest)
      (htail : Parses front rest xs v) : Parses front bs (x :: xs) v

/-- What stands at the front of an input stays there when more follows, and an item is not
empty. -/
structure Prefixed (front : List τ → Front τ φ ε) : Prop where
  item_append : ∀ {bs rest x}, front bs = .item x rest →
    ∀ more, front (bs ++ more) = .item x (rest ++ more)
  failed_append : ∀ {bs e}, front bs = .failed e → ∀ more, front (bs ++ more) = .failed e
  shorter : ∀ {bs rest x}, front bs = .item x rest → rest.length < bs.length

namespace Parses

variable {front : List τ → Front τ φ ε} {bs rest more : List τ} {xs ys : List φ}
  {v w : Ending τ ε} {e : ε}

/-- An input is read in one way. -/
theorem unique (h : Parses front bs xs v) (h' : Parses front bs ys w) : xs = ys ∧ v = w := by
  induction h generalizing ys w with
  | pending hfront | failed hfront =>
    cases h' with
    | pending h | failed h | item h =>
      rw [hfront] at h
      cases h
      try exact ⟨rfl, rfl⟩
  | item hfront _ ih =>
    cases h' with
    | pending h | failed h =>
      rw [hfront] at h
      cases h
    | item h htail =>
      rw [hfront] at h
      cases h
      obtain ⟨rfl, rfl⟩ := ih htail
      exact ⟨rfl, rfl⟩

/-- Every input is read. -/
theorem exists_parses (hfront : Prefixed front) (bs : List τ) :
    ∃ xs v, Parses front bs xs v := by
  cases h : front bs with
  | incomplete => exact ⟨[], _, .pending h⟩
  | failed e => exact ⟨[], _, .failed h⟩
  | item x rest =>
    have hshorter := hfront.shorter h
    obtain ⟨xs, v, htail⟩ := exists_parses hfront rest
    exact ⟨x :: xs, v, .item h htail⟩
termination_by bs.length

/-- A failure is final. -/
theorem append_failed (hfront : Prefixed front) (h : Parses front bs xs (.failed e))
    (more : List τ) : Parses front (bs ++ more) xs (.failed e) := by
  generalize hv : (Ending.failed e : Ending τ ε) = v at h
  induction h with
  | pending => cases hv
  | failed hfailed =>
    cases hv
    exact .failed (hfront.failed_append hfailed more)
  | item hitem _ ih => exact .item (hfront.item_append hitem more) (ih hv)

/-- What was pending is read with what follows. -/
theorem append_pending (hfront : Prefixed front) (h : Parses front bs xs (.pending rest))
    (hrest : Parses front (rest ++ more) ys v) : Parses front (bs ++ more) (xs ++ ys) v := by
  generalize hw : (Ending.pending rest : Ending τ ε) = w at h
  induction h with
  | pending =>
    cases hw
    exact hrest
  | failed => cases hw
  | item hitem _ ih => exact .item (hfront.item_append hitem more) (ih hw)

/-- What is pending is no item yet. -/
theorem pending_incomplete (h : Parses front bs xs (.pending rest)) :
    front rest = .incomplete := by
  generalize hw : (Ending.pending rest : Ending τ ε) = w at h
  induction h with
  | pending hfront =>
    cases hw
    exact hfront
  | failed => cases hw
  | item _ _ ih => exact ih hw

/-- Items written one after the other are read back before anything else. -/
theorem encoded {enc : φ → List τ} {P : φ → Prop}
    (henc : ∀ x, P x → ∀ more, front (enc x ++ more) = .item x more)
    (h : Parses front more ys v) : ∀ xs : List φ, (∀ x ∈ xs, P x) →
      Parses front ((xs.map enc).flatten ++ more) (xs ++ ys) v
  | [], _ => h
  | x :: xs, hxs => by
    have htail := encoded henc h xs fun y hy => hxs y (List.mem_cons_of_mem _ hy)
    rw [List.map_cons, List.flatten_cons, List.append_assoc]
    exact .item (henc x (hxs x (List.mem_cons_self ..)) _) htail

/-- An input is made of its items and what is pending. -/
theorem reencoded {enc : φ → List τ} {P : φ → Prop}
    (hdec : ∀ bs x rest, front bs = .item x rest → P x ∧ bs = enc x ++ rest)
    (h : Parses front bs xs (.pending rest)) :
    (∀ x ∈ xs, P x) ∧ bs = (xs.map enc).flatten ++ rest := by
  generalize hw : (Ending.pending rest : Ending τ ε) = w at h
  induction h with
  | pending =>
    cases hw
    simp
  | failed => cases hw
  | item hitem _ ih =>
    obtain ⟨hx, rfl⟩ := hdec _ _ _ hitem
    obtain ⟨hxs, htail⟩ := ih hw
    refine ⟨List.forall_mem_cons.2 ⟨hx, hxs⟩, ?_⟩
    rw [htail]
    simp

/-- The items stand at the front of the input. -/
theorem items_prefix {enc : φ → List τ}
    (hdec : ∀ bs x rest, front bs = .item x rest → bs = enc x ++ rest) (h : Parses front bs xs v) :
    (xs.map enc).flatten <+: bs := by
  induction h with
  | pending => exact List.nil_prefix
  | failed => exact List.nil_prefix
  | item hitem _ ih =>
    rw [hdec _ _ _ hitem, List.map_cons, List.flatten_cons]
    exact (List.prefix_append_right_inj _).2 ih

/-- From a part of what was written for some items, no others are read: an item is read as it was
written, or the reader fails there. -/
theorem prefix_of_written (hfront : Prefixed front) {enc : φ → List τ}
    (h : Parses front bs xs v) {ys : List φ}
    (hone : ∀ y ∈ ys, ∀ more, front (enc y ++ more) = .item y more
      ∨ ∃ e, front (enc y ++ more) = .failed e)
    (hbs : bs <+: (ys.map enc).flatten) : xs <+: ys := by
  induction h generalizing ys with
  | pending => exact List.nil_prefix
  | failed => exact List.nil_prefix
  | @item bs rest x xs v hitem _ ih =>
    obtain ⟨more, hmore⟩ := hbs
    have hwhole := hfront.item_append hitem more
    rw [hmore] at hwhole
    cases ys with
    | nil =>
      have hshorter := hfront.shorter hwhole
      simp at hshorter
    | cons y ys =>
      rw [List.map_cons, List.flatten_cons] at hwhole
      rcases hone y (List.mem_cons_self ..) (ys.map enc).flatten with hy | ⟨e, hy⟩
      · rw [hy] at hwhole
        injection hwhole with hx hrest
        subst hx
        exact (List.prefix_cons_inj _).2
          (ih (fun y hy => hone y (List.mem_cons_of_mem _ hy)) ⟨more, hrest.symm⟩)
      · rw [hy] at hwhole
        cases hwhole

/-- What was written for some items is read as these items. -/
theorem of_written {enc : φ → List τ} (hempty : front [] = .incomplete) {ys : List φ}
    (hone : ∀ y ∈ ys, ∀ more, front (enc y ++ more) = .item y more) :
    Parses front (ys.map enc).flatten ys (.pending []) := by
  simpa using encoded (P := (· ∈ ys)) hone (.pending hempty) ys fun _ hy => hy

/-- The reader does not fail within what was written for items it can read. -/
theorem not_failed_of_written (hfront : Prefixed front) {enc : φ → List τ}
    (hempty : front [] = .incomplete) (h : Parses front bs xs v) {ys : List φ}
    (hone : ∀ y ∈ ys, ∀ more, front (enc y ++ more) = .item y more)
    (hbs : bs <+: (ys.map enc).flatten) : v ≠ .failed e := by
  rintro rfl
  obtain ⟨more, hmore⟩ := hbs
  have hall := h.append_failed hfront more
  rw [hmore] at hall
  cases (hall.unique (of_written hempty hone)).2

end Parses

end Stream
