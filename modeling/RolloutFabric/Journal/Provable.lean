/-
The provable sequence of records under the operations on a file: it is unique, it survives being
cut at its end, it only grows with the bytes after it, and a record written at its end extends it.
-/
import RolloutFabric.Journal.Replay

namespace RolloutFabric

/-! ## Increasing sequences -/

/-- Each record follows the one before it. -/
def Increasing : Option UInt64 → List JournalRecord → Prop
  | _, [] => True
  | last, record :: records =>
    follows last record.sequence = true ∧ Increasing (some record.sequence) records

theorem increasing_append {xs ys : List JournalRecord} : ∀ {last : Option UInt64},
    Increasing last (xs ++ ys) ↔ Increasing last xs ∧ Increasing (sequenceAfter last xs) ys := by
  induction xs with
  | nil => simp [Increasing]
  | cons x xs ih =>
    intro last
    rw [List.cons_append, Increasing, Increasing, ih, sequenceAfter_cons, and_assoc]

theorem sequenceAfter_append (last : Option UInt64) (xs ys : List JournalRecord) :
    sequenceAfter last (xs ++ ys) = sequenceAfter (sequenceAfter last xs) ys :=
  List.foldl_append ..

/-! ## Decoding a part of the bytes -/

section

variable {limits : RuntimeLimits} {last : Option UInt64} {bytes front more rest final : Bytes}
  {record : JournalRecord} {records : List JournalRecord}

/-- What follows a record does not matter to it. -/
theorem decode_extend (h : decodeRecordEnvelope bytes limits = .ok (record, rest)) (more : Bytes) :
    decodeRecordEnvelope (bytes ++ more) limits = .ok (record, rest ++ more) := by
  obtain ⟨hlong, total, hframing, _, htotal, _⟩ := decode_length h
  rw [decode_append hlong hframing htotal, h]
  rfl

/-- Bytes after a record can be taken away. -/
theorem decode_cut (h : decodeRecordEnvelope (front ++ more) limits = .ok (record, rest))
    (hmore : more.length ≤ rest.length) :
    ∃ rest', rest = rest' ++ more ∧ decodeRecordEnvelope front limits = .ok (record, rest') := by
  obtain ⟨hlong, total, hframing, hpos, htotal, hrest⟩ := decode_length h
  have htotal' : total ≤ front.length := by
    rw [hrest, List.length_drop, List.length_append] at hmore
    rw [List.length_append] at htotal
    omega
  have hfront : 96 ≤ front.length := by omega
  rcases checkFraming_append hfront limits with ⟨e, he⟩ | ⟨header, type, hok⟩
  · rw [decode_of_checkFraming_error (he more)] at h
    cases h
  · have hframing' : recordTotalLength front limits = .ok total := by
      have hnil := hok []
      rw [List.append_nil, List.append_nil] at hnil
      rw [recordTotalLength, hok more] at hframing
      rw [recordTotalLength, hnil]
      exact hframing
    have hwhole := decode_append hfront hframing' htotal' more
    rw [h] at hwhole
    cases hdecode : decodeRecordEnvelope front limits with
    | error e =>
      rw [hdecode] at hwhole
      cases hwhole
    | ok result =>
      rw [hdecode] at hwhole
      cases hwhole
      exact ⟨_, rfl, rfl⟩

theorem decode_shorter (h : decodeRecordEnvelope bytes limits = .ok (record, rest)) :
    rest.length < bytes.length := by
  obtain ⟨_, total, _, hpos, htotal, rfl⟩ := decode_length h
  rw [List.length_drop]
  omega

namespace Provable

/-- Every file has a provable sequence. -/
theorem exists_of (limits : RuntimeLimits) : ∀ (n : Nat) (last : Option UInt64) (bytes : Bytes),
    bytes.length ≤ n → ∃ records final, Provable limits last bytes records final := by
  intro n
  induction n with
  | zero =>
    intro last bytes hlength
    refine ⟨[], bytes, .stop fun record rest hdecode => ?_⟩
    have hshorter := decode_shorter hdecode
    omega
  | succ n ih =>
    intro last bytes hlength
    cases hdecode : decodeRecordEnvelope bytes limits with
    | error e =>
      refine ⟨[], bytes, .stop fun record rest h => ?_⟩
      rw [hdecode] at h
      cases h
    | ok result =>
      obtain ⟨record, rest⟩ := result
      cases hfollows : follows last record.sequence with
      | false =>
        refine ⟨[], bytes, .stop fun record' rest' h => ?_⟩
        rw [hdecode] at h
        cases h
        exact hfollows
      | true =>
        have hshorter := decode_shorter hdecode
        obtain ⟨records, final, htail⟩ := ih (some record.sequence) rest (by omega)
        exact ⟨_, _, .next hdecode hfollows htail⟩

theorem increasing (h : Provable limits last bytes records final) : Increasing last records := by
  induction h with
  | stop _ => trivial
  | next _ hfollows _ ih => exact ⟨hfollows, ih⟩

/-- A file has one provable sequence. -/
theorem unique {records' : List JournalRecord} {final' : Bytes}
    (h : Provable limits last bytes records final)
    (h' : Provable limits last bytes records' final') : records' = records ∧ final' = final := by
  induction h generalizing records' final' with
  | stop hstop => exact h'.eq_nil hstop
  | next hrecord hfollows _ ih =>
    obtain ⟨tail, rfl, htail⟩ := h'.eq_cons hrecord hfollows
    obtain ⟨rfl, rfl⟩ := ih htail
    exact ⟨rfl, rfl⟩

/-- The bytes are those of the records, then what they leave; cut there, the sequence stays. -/
theorem cut (h : Provable limits last bytes records final) :
    ∃ front, bytes = front ++ final ∧ Provable limits last front records [] := by
  induction h with
  | @stop last bytes hstop =>
    refine ⟨[], rfl, .stop fun record rest hdecode => ?_⟩
    have hshorter := decode_shorter hdecode
    exact absurd hshorter (Nat.not_lt_zero _)
  | @next last bytes record rest records final hrecord hfollows _ ih =>
    obtain ⟨front, rfl, htail⟩ := ih
    obtain ⟨_, total, _, _, htotal, hrest⟩ := decode_length hrecord
    have hbytes : bytes = bytes.take total ++ front ++ final := by
      rw [List.append_assoc, hrest, List.take_append_drop]
    rw [hbytes] at hrecord
    obtain ⟨rest', hrest', hdecode⟩ := decode_cut hrecord (by simp)
    rw [List.append_cancel_right hrest'] at htail
    exact ⟨_, hbytes, .next hdecode hfollows htail⟩

/-- More bytes can only prove more records. -/
theorem extend (h : Provable limits last bytes records final) (more : Bytes) :
    ∃ records' final', Provable limits last (bytes ++ more) (records ++ records') final' := by
  induction h with
  | stop _ => exact exists_of limits _ _ _ le_rfl
  | next hrecord hfollows _ ih =>
    obtain ⟨records', final', htail⟩ := ih
    exact ⟨records', final', .next (decode_extend hrecord more) hfollows htail⟩

/-- A sequence that takes all the bytes goes on with what follows it. -/
theorem append {records' : List JournalRecord} (h : Provable limits last bytes records [])
    (hmore : Provable limits (sequenceAfter last records) more records' final) :
    Provable limits last (bytes ++ more) (records ++ records') final := by
  generalize hnil : ([] : Bytes) = left at h
  induction h with
  | stop _ =>
    subst hnil
    exact hmore
  | next hrecord hfollows _ ih => exact .next (decode_extend hrecord more) hfollows (ih hmore hnil)

/-- Nothing is left of the encoding of one storable record. -/
theorem single (hlimits : limits.validate.isOk = true) (hrecord : record.Storable limits)
    (hfollows : follows last record.sequence = true) :
    Provable limits last (encodeRecordEnvelope record limits) [record] [] := by
  have hdecode := decodeRecordEnvelope_encode hlimits hrecord []
  rw [List.append_nil] at hdecode
  refine .next hdecode hfollows (.stop fun record rest h => ?_)
  exact absurd (decode_shorter h) (Nat.not_lt_zero _)

end Provable

end

end RolloutFabric
