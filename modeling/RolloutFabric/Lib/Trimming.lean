/-
Maps that forget: beside its entries a table keeps the order in which their keys arrived, and a new
entry makes it drop the oldest ones above a bound, as long as those are done with. An entry that
is not done holds back all that arrived behind it, and nothing else does.
-/
import Mathlib

namespace Trimming

variable {K V : Type} [DecidableEq K]

/-- A map, and the order in which its keys arrived. -/
structure Table (K V : Type) where
  order : List K := []
  entries : AList (fun _ : K => V) := ∅

inductive Move (K V : Type)
  | note (key : K) (value : V)
  | revise (key : K) (f : V → V)

/-- The entries that are noted, in order. -/
def noted (moves : List (Move K V)) : List (K × V) := moves.filterMap fun
  | .note key value => some (key, value)
  | .revise _ _ => none

namespace Table

section

variable (done : V → Bool) (bound : Nat) (t : Table K V)

def isDone (key : K) : Bool := (t.entries.lookup key).any done

/-- The number of entries that are done with. -/
def doneCount : Nat := t.entries.entries.countP fun entry => done entry.2

/-- The number of those that arrived behind one that is not. -/
def heldBack : Nat := ((t.order.map (t.isDone done)).dropWhile id).count true

/-- An entry is written; a key that is new arrives last. -/
def put (key : K) (value : V) : Table K V where
  order := if key ∈ t.entries then t.order else t.order ++ [key]
  entries := t.entries.insert key value

/-- The oldest entries above the bound, up to the first that is not done with, are dropped. -/
def trim : List K → AList (fun _ : K => V) → Table K V
  | [], entries => ⟨[], entries⟩
  | oldest :: order, entries =>
    if bound < (oldest :: order).length ∧ (entries.lookup oldest).any done then
      trim order (entries.erase oldest)
    else ⟨oldest :: order, entries⟩

def note (key : K) (value : V) : Table K V :=
  trim done bound (t.put key value).order (t.put key value).entries

/-- An entry that is there is changed. -/
def revise (key : K) (f : V → V) : Table K V :=
  match t.entries.lookup key with
  | some value => { t with entries := t.entries.insert key (f value) }
  | none => t

def move : Move K V → Table K V
  | .note key value => t.note done bound key value
  | .revise key f => t.revise key f

def run (moves : List (Move K V)) : Table K V := moves.foldl (move done bound) t

end

theorem run_concat (done : V → Bool) (bound : Nat) (t : Table K V) (moves : List (Move K V))
    (m : Move K V) :
    t.run done bound (moves ++ [m]) = (t.run done bound moves).move done bound m := by
  unfold run
  rw [List.foldl_append]
  rfl

/-! ## The order -/

/-- The order lists every key once. -/
def Ordered (t : Table K V) : Prop := t.order.Perm t.entries.keys

variable {done : V → Bool} {bound : Nat} {t : Table K V} {key : K} {value : V}

omit [DecidableEq K] in
theorem ordered_empty : Ordered ({} : Table K V) := .refl _

theorem keys_insert_of_mem {entries : AList (fun _ : K => V)} (h : key ∈ entries) :
    (entries.insert key value).keys.Perm entries.keys := by
  rw [AList.keys_insert]
  exact (List.perm_cons_erase (AList.mem_keys.mp h)).symm

theorem Ordered.put (h : t.Ordered) : (t.put key value).Ordered := by
  unfold Ordered Table.put
  dsimp only
  split
  · next hmem => exact h.trans (keys_insert_of_mem hmem).symm
  · next hnew =>
    rw [AList.keys_insert, List.erase_of_not_mem fun hmem => hnew (AList.mem_keys.mpr hmem)]
    exact (List.perm_append_singleton _ _).trans (h.cons key)

theorem Ordered.revise (h : t.Ordered) {f : V → V} : (t.revise key f).Ordered := by
  unfold Table.revise
  split
  · next value hvalue =>
    have hmem : key ∈ t.entries := AList.lookup_isSome.mp (by rw [hvalue]; rfl)
    exact List.Perm.trans h (keys_insert_of_mem hmem).symm
  · exact h

/-- Without its oldest entry. -/
theorem Ordered.tail {oldest : K} {order : List K} {entries : AList (fun _ : K => V)}
    (h : Ordered ⟨oldest :: order, entries⟩) : Ordered ⟨order, entries.erase oldest⟩ := by
  have herase := List.Perm.erase oldest h
  rw [List.erase_cons_head] at herase
  unfold Ordered
  rwa [AList.keys_erase]

omit [DecidableEq K] in
theorem Ordered.head_new {oldest : K} {order : List K} {entries : AList (fun _ : K => V)}
    (h : Ordered ⟨oldest :: order, entries⟩) : oldest ∉ order :=
  (List.nodup_cons.mp (h.nodup_iff.mpr entries.keys_nodup)).1

theorem Ordered.trim {order : List K} {entries : AList (fun _ : K => V)}
    (h : Ordered ⟨order, entries⟩) : (trim done bound order entries).Ordered := by
  induction order generalizing entries with
  | nil => exact h
  | cons oldest order ih =>
    unfold Table.trim
    split
    · exact ih h.tail
    · exact h

theorem Ordered.note (h : t.Ordered) : (t.note done bound key value).Ordered := h.put.trim

theorem Ordered.run (h : t.Ordered) (moves : List (Move K V)) : (t.run done bound moves).Ordered := by
  induction moves generalizing t with
  | nil => exact h
  | cons m moves ih =>
    cases m with
    | note key value => exact ih h.note
    | revise key f => exact ih h.revise

/-! ## What is dropped -/

/-- What is not done with stays. -/
theorem lookup_trim {order : List K} {entries : AList (fun _ : K => V)}
    (h : entries.lookup key = some value) (hdone : done value = false) :
    (trim done bound order entries).entries.lookup key = some value := by
  induction order generalizing entries with
  | nil => exact h
  | cons oldest order ih =>
    unfold trim
    split
    · next hdrop =>
      have hother : key ≠ oldest := by
        rintro rfl
        rw [h, Option.any_some, hdone] at hdrop
        cases hdrop.2
      exact ih ((AList.lookup_erase_ne hother).trans h)
    · exact h

/-- Dropping what is done with changes nothing for what is held back. -/
theorem heldBack_trim {order : List K} {entries : AList (fun _ : K => V)}
    (h : Ordered ⟨order, entries⟩) :
    (trim done bound order entries).heldBack done = heldBack done ⟨order, entries⟩ := by
  induction order generalizing entries with
  | nil => rfl
  | cons oldest order ih =>
    unfold trim
    split
    · next hdrop =>
      have hflags : order.map (isDone done ⟨order, entries.erase oldest⟩)
          = order.map (isDone done ⟨oldest :: order, entries⟩) := by
        refine List.map_congr_left fun k hk => ?_
        have hother : k ≠ oldest := by
          rintro rfl
          exact h.head_new hk
        unfold isDone
        rw [AList.lookup_erase_ne hother]
      have hhead : isDone done ⟨oldest :: order, entries⟩ oldest = true := hdrop.2
      rw [ih h.tail]
      unfold heldBack
      rw [hflags, List.map_cons, hhead]
      rfl
    · rfl

/-- The loop ends within the bound, or at an entry that is not done with. -/
theorem trim_stops (order : List K) (entries : AList (fun _ : K => V)) :
    (trim done bound order entries).order.length ≤ bound
      ∨ ∃ oldest rest, (trim done bound order entries).order = oldest :: rest
        ∧ (trim done bound order entries).isDone done oldest = false := by
  induction order generalizing entries with
  | nil => exact .inl (Nat.zero_le _)
  | cons oldest order ih =>
    unfold trim
    split
    · exact ih _
    · next hstop =>
      by_cases hlength : bound < (oldest :: order).length
      · exact .inr ⟨oldest, order, rfl, Bool.eq_false_iff.mpr fun hdone => hstop ⟨hlength, hdone⟩⟩
      · exact .inl (Nat.not_lt.mp hlength)

/-- The entries that are done with are those whose keys are. -/
theorem Ordered.doneCount_eq (h : t.Ordered) :
    t.doneCount done = (t.order.map (t.isDone done)).count true := by
  have hentry : ∀ entry ∈ t.entries.entries, (t.isDone done entry.1 = true ↔ done entry.2 = true) := by
    intro entry hentry
    have hlookup : t.entries.lookup entry.1 = some entry.2 :=
      AList.mem_lookup_iff.mpr hentry
    unfold isDone
    rw [hlookup, Option.any_some]
  have hkeys : t.entries.keys.countP (t.isDone done)
      = t.entries.entries.countP fun entry => t.isDone done entry.1 := List.countP_map ..
  rw [List.count_eq_countP, List.countP_map, doneCount, ← List.countP_congr hentry, ← hkeys,
    ← h.countP_eq]
  congr 1
  funext k
  cases hk : t.isDone done k <;> simp [hk]

theorem heldBack_le (t : Table K V) : t.heldBack done ≤ t.order.length := by
  have hsuffix : List.dropWhile id (t.order.map (t.isDone done)) <:+ _ := List.dropWhile_suffix _
  have hle := hsuffix.length_le
  rw [List.length_map] at hle
  exact Nat.le_trans List.count_le_length hle

/-- A trimmed table keeps no more than that many entries that are done with exactly when no more
than that many are held back. -/
theorem doneCount_trim_le_iff (h : t.Ordered) :
    (trim done bound t.order t.entries).doneCount done ≤ bound ↔ t.heldBack done ≤ bound := by
  have hheld : (trim done bound t.order t.entries).heldBack done = t.heldBack done := heldBack_trim h
  have hordered : (trim done bound t.order t.entries).Ordered := Ordered.trim h
  rw [← hheld, hordered.doneCount_eq]
  rcases @trim_stops _ _ _ done bound t.order t.entries with
    hlength | ⟨oldest, rest, horder, holdest⟩
  · refine iff_of_true ?_ (Nat.le_trans (heldBack_le _) hlength)
    exact Nat.le_trans List.count_le_length (by rwa [List.length_map])
  · unfold heldBack
    rw [horder, List.map_cons, holdest]
    rfl

end Table

end Trimming
